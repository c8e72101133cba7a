import Protogate.Tunnel.InTransit

/-!
# From the client to the local service and back

What holds between the two ends of the tunnel, at every moment of every run and in every order
of events: the local service is asked what clients asked, each request once and none that has a
body; a client that gets a response gets the one the local service gave to its own request; and a
request without a body is not lost on the way, unless a timer, the agent or the connection gives it
up.

Requests have ids that were not used before, and nghttp2 gives each a new stream (`OwnStream`).

## Main definitions

* `Served`, `requests_served` — what the local service is asked.
* `Answered`, `requests_answered` — what the clients get.
* `Undisturbed`, `requests_complete` — which requests are answered then.
-/

namespace Protogate.Tunnel

open Protogate.Lib Protogate.Agent Protogate.Proxy Protogate.TunnelAgent Protogate.Wire

/-! ## Three requests at once -/

/-- What the local service says to a request. -/
def sampleReply (body : Bytes) : Reply :=
  ⟨⟨200, [("Content-Type".toList, "text/plain".toList)], body⟩, true, true, ⟨16384, [1]⟩⟩

/-- A GET, a POST with a body and a DELETE.  The DELETE, on stream 5, is handed over and answered
first, the POST never. -/
def sampleTunnel : List HttpTunnelEvent :=
  [.start true,
    .request "a".toList "GET / HTTP/1.1\r\nHost: app\r\n\r\n".toList 1 true,
    .request "b".toList "POST /x HTTP/1.1\r\nHost: app\r\n\r\nhi".toList 3 true,
    .request "c".toList "DELETE /y HTTP/1.1\r\nHost: app\r\n\r\n".toList 5 true] ++
  List.replicate 6 (.toAgent 5 (sampleReply [0x6f, 0x6b])) ++ [.toServer 5] ++
  List.replicate 6 (.toAgent 3 (sampleReply [0x6e, 0x6f])) ++
  List.replicate 6 (.toAgent 1 (sampleReply [0x79])) ++ [.toServer 1] ++
  List.replicate 5 (.toServer 5)

/-! ## What the local service is asked -/

/-- A stream gives one request at most, and it is one that was made, without a body; its fields are
the last of their names among those that nghttp2 keeps. -/
structure Served (keeps : Str × Str → Bool) (t : HttpTunnel) : Prop where
  once : ∀ s, (t.session.callsOn s).length ≤ 1
  own : ∀ s, ∀ r ∈ t.session.callsOn s, r.streamId = s ∧ ∃ q ∈ t.requests, q.streamId = s ∧
    q.body = [] ∧ FieldsLast (q.headers.filter keeps) r ∧ r.body = []

section
variable {keeps : Str × Str → Bool} {t : HttpTunnel}

theorem HttpTunnelInv.served_eq (H : HttpTunnelInv keeps t) (hkeeps : KeepsPseudo keeps) (s : StreamId) :
    t.session.callsOn s = [] ∨ ∃ r, t.session.callsOn s = [r] ∧ r.streamId = s ∧
      ∃ q ∈ t.requests, q.streamId = s ∧ q.body = [] ∧ FieldsLast (q.headers.filter keeps) r ∧
        r.body = [] := by
  by_cases hcalls : t.session.callsOn s = []
  · exact .inl hcalls
  · have hends : Ends t.seen s := H.ends hkeeps hcalls
    obtain ⟨r, hone, hid, hcollected, _⟩ := (H.interleaves hkeeps).ended hends
    obtain ⟨q, hq, hstream, hempty, hwhole⟩ := H.delivered hkeeps hends
    rw [← H.session] at hone
    rw [hwhole] at hcollected
    refine .inr ⟨r, hone, hid, q, hq, hstream, hempty, ?_, ?_⟩
    · rw [← fieldsOf_events]
      exact hcollected.fields
    · rw [hcollected.body, dataOf_events, ite_self]

theorem HttpTunnelInv.served_own (H : HttpTunnelInv keeps t) (hkeeps : KeepsPseudo keeps) :
    Served keeps t where
  once := by
    intro s
    obtain hnil | ⟨r, hone, _⟩ := H.served_eq hkeeps s
    · simp [hnil]
    · simp [hone]
  own := by
    intro s r hr
    obtain hnil | ⟨r', hone, hid, hown⟩ := H.served_eq hkeeps s
    · simp [hnil] at hr
    · obtain rfl : r = r' := by simpa [hone] using hr
      exact ⟨hid, hown⟩

end

/-- **The local service is asked what clients asked, once, unless it has a body**, in every
interleaving of the streams, whatever happens to the connection meanwhile. -/
theorem requests_served (keeps : Str × Str → Bool) (hkeeps : KeepsPseudo keeps)
    (evs : List HttpTunnelEvent) (H : Along (httpTunnelStep keeps) OwnStream .init evs) :
    Always (httpTunnelStep keeps) (Served keeps) .init evs :=
  Always.imp (fun _ ht => ht.served_own hkeeps) (httpTunnelInv_run hkeeps H)

theorem requests_served_sample :
    Always (httpTunnelStep fun _ => true) (Served fun _ => true) .init sampleTunnel :=
  requests_served (fun _ => true) (fun _ _ _ => rfl) sampleTunnel (by decide)

/-! ## What the clients get -/

/-- A callback is invoked once at most; and a response it gets is made of the answer that the
local service gave to the request of this very callback. -/
structure Answered (keeps : Str × Str → Bool) (t : HttpTunnel) : Prop where
  once : t.server.callbacks.Nodup
  own : ∀ e ∈ t.server.invoked, e.2.error = false → ∃ q ∈ t.requests, ∃ a ∈ t.answers,
    ∃ r, q.call = e.2.callback ∧ a.streamId = q.streamId ∧ t.session.callsOn q.streamId = [r] ∧
      e.2.response = a.text keeps

section
variable {keeps : Str × Str → Bool} {t : HttpTunnel}

theorem HttpTunnelInv.answered_own (H : HttpTunnelInv keeps t) (hkeeps : KeepsPseudo keeps) :
    Answered keeps t where
  once := H.exchange.correlated.once
  own := by
    intro e he hfalse
    obtain ⟨q, hq, a, ha, hcall, hstream, htext⟩ := H.came e he hfalse
    have hserved : t.session.callsOn q.streamId ≠ [] := hstream ▸ H.served a ha
    obtain hnil | ⟨r, hone, _⟩ := H.served_eq hkeeps q.streamId
    · exact absurd hnil hserved
    · exact ⟨q, hq, a, ha, r, hcall, hstream, hone, htext⟩

end

/-- **Clients get the answers to their own requests**, whole up to what the data provider gave,
in every interleaving of the streams, and with timers, GOAWAY and the loss of the connection at
any time. -/
theorem requests_answered (keeps : Str × Str → Bool) (hkeeps : KeepsPseudo keeps)
    (evs : List HttpTunnelEvent) (H : Along (httpTunnelStep keeps) OwnStream .init evs) :
    Always (httpTunnelStep keeps) (Answered keeps) .init evs :=
  Always.imp (fun _ ht => ht.answered_own hkeeps) (httpTunnelInv_run hkeeps H)

/-- The connection is lost while the answer to the GET is on its way. -/
theorem requests_answered_sample :
    Always (httpTunnelStep fun _ => true) (Answered fun _ => true) .init (sampleTunnel ++ [.disconnect]) :=
  requests_answered (fun _ => true) (fun _ _ _ => rfl) (sampleTunnel ++ [.disconnect]) (by decide)

/-! ## Which requests are answered -/

/-- The fields about one connection, which HTTP/2 does not have. -/
def connectionFields : List Str :=
  ["connection".toList, "keep-alive".toList, "proxy-connection".toList, transferEncoding, "upgrade".toList,
    "te".toList]

/-- A bound on the size of a header block; nghttp2 sends none above 65536. -/
def blockSize (fields : List (Str × Str)) : ℕ :=
  12 + (fields.map fun f => 12 + f.1.length + f.2.length).sum

/-- Letters, digits and the marks of a URI. -/
def isUriChar (c : Char) : Bool := c.isAlphanum || c ∈ "-._~:/?#[]@!$&'()*+,;=%".toList

/-- A field for which nghttp2 does not reset the stream of a request without a body.  It lets no
CONNECT with a path through, and no data of an answer to HEAD. -/
def FieldFits (f : Str × Str) : Prop :=
  if f.1 = ":method".toList then
    f.2 ≠ [] ∧ f.2.all (fun c => c.isAlphanum || c = '-') ∧ f.2 ≠ "HEAD".toList ∧
      f.2 ≠ "CONNECT".toList
  else if f.1 = ":path".toList then f.2.head? = some '/' ∧ f.2.all isUriChar
  else if f.1 = ":authority".toList then
    f.2 ≠ [] ∧ f.2.all fun c => isUriChar c && c ∉ "/?#".toList
  else if f.1 = contentLength then f.2 = "0".toList
  else f.1 ∉ connectionFields

instance (f : Str × Str) : Decidable (FieldFits f) := inferInstanceAs (Decidable (ite _ _ _))

/-- A request, as fields and body, that nghttp2 does not reset on its way; one that has a body need
not arrive. -/
def RequestFits (request : List (Str × Str) × Str) : Prop :=
  request.2 = [] → (∀ f ∈ request.1, FieldFits f) ∧ ":authority".toList ∈ request.1.map Prod.fst ∧
    blockSize request.1 ≤ 65536

instance (request : List (Str × Str) × Str) : Decidable (RequestFits request) :=
  inferInstanceAs (Decidable (_ → _))

/-- A response that nghttp2 does not reset on its way: the code is a final one of three digits, no
field is about the connection, one at most announces a length, that of the data its provider gives,
and there is none if the code admits no body. -/
def Reply.Fits (reply : Reply) : Prop :=
  let data := (readCallback reply.response.body reply.framing.room).data
  (200 ≤ reply.response.statusCode ∧ reply.response.statusCode ≤ 999) ∧
    (Bodiless reply.response.statusCode.toNat → data = []) ∧
    (∀ h ∈ reply.response.headers, h.1.head? ≠ some ':' ∧ lower h.1 ∉ connectionFields ∧
      (lower h.1 = contentLength → h.2 = decimal data.length)) ∧
    (reply.response.headers.countP fun h => lower h.1 = contentLength) ≤ 1 ∧
    blockSize ((":status".toList, decimal reply.response.statusCode) :: reply.response.headers) ≤ 65536

instance (reply : Reply) : Decidable reply.Fits := inferInstanceAs (Decidable (_ ∧ _ ∧ _))

/-- Sending succeeds, no timer expires, the connection stays, and nghttp2 takes and delivers the
requests without a body and the answers. -/
def Smooth : HttpTunnelEvent → Prop
  | .start sent => sent = true
  | .request requestId text _ sent => sent = true ∧ RequestFits (parseHttpRequest requestId text)
  | .toAgent _ reply => reply.accepted = true ∧ reply.Fits
  | .toServer _ => True
  | .timer _ | .goaway | .disconnect => False

instance : (e : HttpTunnelEvent) → Decidable (Smooth e)
  | .start sent => inferInstanceAs (Decidable (sent = true))
  | .request requestId text _ sent =>
      inferInstanceAs (Decidable (sent = true ∧ RequestFits (parseHttpRequest requestId text)))
  | .toAgent _ reply => inferInstanceAs (Decidable (reply.accepted = true ∧ reply.Fits))
  | .toServer _ => inferInstanceAs (Decidable True)
  | .timer _ | .goaway | .disconnect => inferInstanceAs (Decidable False)

def Undisturbed (t : HttpTunnel) (e : HttpTunnelEvent) : Prop := OwnStream t e ∧ Smooth e

instance (t : HttpTunnel) (e : HttpTunnelEvent) : Decidable (Undisturbed t e) :=
  inferInstanceAs (Decidable (_ ∧ _))

/-- Nothing is in transit on a stream. -/
def Quiet (t : HttpTunnel) (s : StreamId) : Prop :=
  onStream s t.downlink = [] ∧ onChannel ResponseEvent.streamId s t.uplink = []

/-- The request was handed over and answered, and the answer has been given to its callback. -/
def Completed (keeps : Str × Str → Bool) (t : HttpTunnel) (q : Relayed) : Prop :=
  (t.session.callsOn q.streamId).length = 1 ∧
    ∃ a ∈ t.answers, a.streamId = q.streamId ∧ ∃ e ∈ t.server.invoked,
      e.2 = ⟨q.call, a.text keeps, false⟩

/-- The request was not handed over, and its callback has not been invoked. -/
def Waiting (t : HttpTunnel) (q : Relayed) : Prop :=
  t.session.callsOn q.streamId = [] ∧ q.call ∉ t.server.callbacks

/-- A request with nothing in transit on its stream is complete if it has no body; one that has
goes on waiting. -/
def Complete (keeps : Str × Str → Bool) (t : HttpTunnel) : Prop :=
  ∀ q ∈ t.requests, (q.body = [] → Quiet t q.streamId → Completed keeps t q) ∧
    (q.body ≠ [] → Waiting t q)

/-- In a run without disturbance the agent answers what it is asked, and only requests that were
refused fail. -/
structure UndisturbedInv (keeps : Str × Str → Bool) (t : HttpTunnel) : Prop where
  inv : HttpTunnelInv keeps t
  answered : ∀ s, t.session.callsOn s ≠ [] → s ∈ t.answers.map Answer.streamId
  refused : ∀ e ∈ t.server.invoked, e.2.error = true → e.2.callback ∉ t.requests.map Relayed.call

section
variable {keeps : Str × Str → Bool} {t : HttpTunnel}

theorem undisturbedInv_init (keeps : Str × Str → Bool) : UndisturbedInv keeps HttpTunnel.init := by
  refine ⟨httpTunnelInv_init keeps, ?_, ?_⟩ <;>
    simp [HttpTunnel.init, RequestSession.callsOn, RequestSession.init, Exchange.init]

/-- The connection invokes nothing and opens nothing. -/
theorem UndisturbedInv.server (H : UndisturbedInv keeps t) {server : Exchange}
    (hinv : HttpTunnelInv keeps { t with server }) (hinvoked : ∀ e ∈ server.invoked, e.2.error = true →
      e ∈ t.server.invoked) : UndisturbedInv keeps { t with server } :=
  ⟨hinv, H.answered, fun e he herror => H.refused e (hinvoked e he herror) herror⟩

/-- A request that is sent, or refused. -/
theorem UndisturbedInv.request (H : UndisturbedInv keeps t) {requestId text : Str} {s : StreamId}
    (hinv : HttpTunnelInv keeps (t.request keeps requestId text s true)) :
    UndisturbedInv keeps (t.request keeps requestId text s true) := by
  refine ⟨hinv, ?_, ?_⟩
  · simp only [HttpTunnel.request]
    split <;> exact H.answered
  · have hlt : ∀ e ∈ t.server.invoked, e.2.callback < t.server.requests.length := by
      intro e he
      have hreply : (answer e.1 e.2).call < t.server.requests.length :=
        H.inv.exchange.relay.calls.replied_lt _ (List.mem_map_of_mem he)
      rwa [call_answer] at hreply
    simp only [HttpTunnel.request]
    split
    · rename_i haccepts
      intro e he herror hmem
      -- a request that is sent invokes nothing
      replace he : e ∈ t.server.invoked := by
        simpa [exchangeStep, Exchange.request, Exchange.advance, sendHttpRequest_of_accepts haccepts] using he
      simp only [List.map_append, List.map_cons, List.map_nil, List.mem_append, List.mem_singleton] at hmem
      obtain hold | hnew := hmem
      · exact H.refused e he herror hold
      · exact absurd hnew (Nat.ne_of_lt (hlt e he))
    · rename_i haccepts
      intro e he herror
      have hcases : e ∈ t.server.invoked ∨ e.2.callback = t.server.requests.length := by
        simp only [exchangeStep, Exchange.request, Exchange.advance, List.mem_append,
          sendHttpRequest_of_not_accepts haccepts, List.map_cons, List.map_nil, List.mem_singleton] at he
        obtain he | rfl := he
        · exact .inl he
        · exact .inr rfl
      obtain he | hnew := hcases
      · exact H.refused e he herror
      · intro hmem
        obtain ⟨q, hq, hcall⟩ := List.mem_map.mp hmem
        have hopened : (q.call, q.streamId) ∈ t.server.opened := by
          rw [H.inv.opened]
          exact List.mem_map_of_mem hq
        have hcalllt := H.inv.exchange.opened_lt _ hopened
        simp only at hcalllt
        omega

/-- An event that reaches the agent; a request that it completes is answered. -/
theorem UndisturbedInv.toAgent (H : UndisturbedInv keeps t) (hkeeps : KeepsPseudo keeps) (s : StreamId)
    {reply : Reply} (haccepted : reply.accepted = true) :
    UndisturbedInv keeps (t.toAgent keeps s reply) := by
  have hinv := H.inv.toAgent hkeeps s reply
  simp only [HttpTunnel.toAgent] at hinv ⊢
  split
  · exact H
  · rename_i e downlink hreceive
    rw [hreceive] at hinv
    split
    · rename_i hdrop
      simp only [hdrop] at hinv
      refine ⟨hinv, fun k hk => H.answered k ?_, H.refused⟩
      obtain hsame | ⟨r, hmore⟩ := calls_sessionStep t.session e
      · simpa only [RequestSession.callsOn, hsame] using hk
      · simp [hmore] at hdrop
    · rename_i k request rest hdrop
      simp only [hdrop] at hinv
      obtain ⟨hmore, hid, _⟩ := H.inv.handed hkeeps hreceive hdrop
      simp only [HttpTunnel.onRequest, haccepted, if_true] at hinv ⊢
      refine ⟨hinv, fun k hk => ?_, H.refused⟩
      replace hk : (sessionStep t.session e).callsOn k ≠ [] := hk
      rw [callsOn_concat hmore] at hk
      simp only [List.map_append, List.map_cons, List.map_nil, List.mem_append, List.mem_singleton]
      by_cases hstream : e.streamId = k
      · exact .inr (hstream ▸ hid.symm)
      · simp only [if_neg hstream, List.append_nil] at hk
        exact .inl (H.answered k hk)

/-- The end of a stream fails nothing. -/
theorem error_of_mem_complete {a : AgentConnection ℕ} {s : StreamId} {i : Invocation ℕ}
    (hi : i ∈ (completeRequest a s).2) : i.error = false := by
  obtain ⟨_, _, _, _, heq⟩ | ⟨_, heq⟩ := completeRequest_cases a s
  · rw [heq, List.mem_singleton] at hi
    rw [hi]
  · rw [heq] at hi
    cases hi

theorem UndisturbedInv.toServer (H : UndisturbedInv keeps t) (hkeeps : KeepsPseudo keeps)
    (s : StreamId) : UndisturbedInv keeps (t.toServer s) := by
  have hinv := H.inv.toServer hkeeps s
  simp only [HttpTunnel.toServer] at hinv ⊢
  split
  · exact H
  · rename_i e uplink hreceive
    simp only [hreceive] at hinv
    refine ⟨hinv, H.answered, fun i hi herror => ?_⟩
    suffices hold : i ∈ t.server.invoked from H.refused i hold herror
    cases e with
    | data k =>
        obtain hi | hi := List.mem_append.mp hi
        · exact hi
        · obtain ⟨j, hj, rfl⟩ := List.mem_map.mp hi
          rw [error_of_mem_complete hj] at herror
          cases herror
    | _ => simpa [exchangeStep, ResponseEvent.toExchange, Exchange.advance, onFrameRecv] using hi

theorem undisturbedInv_step (hkeeps : KeepsPseudo keeps) (t : HttpTunnel) (e : HttpTunnelEvent)
    (H : UndisturbedInv keeps t) (he : Undisturbed t e) :
    UndisturbedInv keeps (httpTunnelStep keeps t e) := by
  have hinv := httpTunnelInv_step hkeeps t e H.inv he.1
  cases e with
  | start sent =>
      obtain rfl : sent = true := he.2
      apply H.server hinv
      intro i hi _
      have hnone : (Agent.start t.server.agent true).2 = [] := by
        simp only [Agent.start, initializeNghttp2]
        split <;> rfl
      simpa [exchangeStep, Exchange.advance, hnone] using hi
  | request requestId text s sent =>
      obtain rfl : sent = true := he.2.1
      exact H.request hinv
  | toAgent s reply => exact H.toAgent hkeeps s he.2.1
  | toServer s => exact H.toServer hkeeps s
  | timer i => exact he.2.elim
  | goaway => exact he.2.elim
  | disconnect => exact he.2.elim

/-- A callback that was invoked is that of a request which was answered. -/
theorem UndisturbedInv.answer_of_callback (H : UndisturbedInv keeps t) {q : Relayed} (hq : q ∈ t.requests)
    (hcallback : q.call ∈ t.server.callbacks) : ∃ a ∈ t.answers, a.streamId = q.streamId ∧
      ∃ e ∈ t.server.invoked, e.2 = ⟨q.call, a.text keeps, false⟩ := by
  obtain ⟨e, he, hcall⟩ := List.mem_map.mp hcallback
  have hfalse : e.2.error = false := by
    by_contra herror
    apply H.refused e he (by simpa using herror)
    rw [hcall]
    exact List.mem_map_of_mem hq
  obtain ⟨q', hq', a, ha, hcall', hstream, htext⟩ := H.inv.came e he hfalse
  -- the callback is that of one request
  have hmem : ∀ q ∈ t.requests, (q.call, q.streamId) ∈ t.server.opened := by
    intro q hq
    rw [H.inv.opened]
    exact List.mem_map_of_mem hq
  have hsame := List.inj_on_of_nodup_map H.inv.exchange.opened_once (hmem q' hq') (hmem q hq)
    (hcall'.trans hcall)
  refine ⟨a, ha, hstream.trans (Prod.mk.inj hsame).2, e, he, ?_⟩
  obtain ⟨n, callback, response, error⟩ := e
  simp_all

/-- Nothing in transit is nothing to wait for. -/
theorem UndisturbedInv.completed (H : UndisturbedInv keeps t) (hkeeps : KeepsPseudo keeps) {q : Relayed}
    (hq : q ∈ t.requests) (hbody : q.body = []) (hquiet : Quiet t q.streamId) : Completed keeps t q := by
  have hall := H.inv.down q.streamId
  rw [hquiet.1, List.append_nil, H.inv.requested_eq hq] at hall
  have hends : Ends t.seen q.streamId := by
    rw [Ends, hall, phase_events hkeeps, hbody]
    rfl
  obtain ⟨r, hone, _⟩ := (H.inv.interleaves hkeeps).ended hends
  rw [← H.inv.session] at hone
  obtain ⟨a, ha, hstream⟩ := List.mem_map.mp (H.answered q.streamId (by simp [hone]))
  have hback := H.inv.up a.streamId
  rw [hstream, hquiet.2, List.append_nil, ← hstream, H.inv.answered_eq ha, events_eq_before] at hback
  have hlanded : ResponseEvent.data q.streamId ∈ t.landed := by
    have hmem : ResponseEvent.data a.streamId ∈ onChannel ResponseEvent.streamId a.streamId t.landed := by
      simp [hback]
    rw [hstream] at hmem
    exact List.mem_of_mem_filter hmem
  exact ⟨by simp [hone], H.answer_of_callback hq (H.inv.closed q hq hlanded)⟩

/-- Nobody is asked for a request with a body. -/
theorem UndisturbedInv.waiting (H : UndisturbedInv keeps t) (hkeeps : KeepsPseudo keeps) {q : Relayed}
    (hq : q ∈ t.requests) (hbody : q.body ≠ []) : Waiting t q := by
  have hnone : t.session.callsOn q.streamId = [] := by
    obtain hnil | ⟨_, _, _, q', hq', hstream, hempty, _⟩ := H.inv.served_eq hkeeps q.streamId
    · exact hnil
    · obtain rfl : q' = q := List.inj_on_of_nodup_map H.inv.fresh hq' hq hstream
      exact absurd hempty hbody
  refine ⟨hnone, fun hcallback => ?_⟩
  obtain ⟨a, ha, hstream, _⟩ := H.answer_of_callback hq hcallback
  exact H.inv.served a ha (hstream ▸ hnone)

theorem UndisturbedInv.complete (H : UndisturbedInv keeps t) (hkeeps : KeepsPseudo keeps) :
    Complete keeps t := fun _ hq =>
  ⟨fun hbody hquiet => H.completed hkeeps hq hbody hquiet, fun hbody => H.waiting hkeeps hq hbody⟩

end

/-- **No request without a body is lost, and no other one is answered**: in every run without
disturbance, once nothing is in transit on the stream of a request without a body, the local service
has been asked once and its answer has been given to the callback of the request; for a request
with a body neither ever happens. -/
theorem requests_complete (keeps : Str × Str → Bool) (hkeeps : KeepsPseudo keeps)
    (evs : List HttpTunnelEvent) (H : Along (httpTunnelStep keeps) Undisturbed .init evs) :
    Always (httpTunnelStep keeps) (Complete keeps) .init evs := by
  have hall := always_of_invariant (UndisturbedInv keeps) (undisturbedInv_step hkeeps)
    (undisturbedInv_init keeps) H
  exact Always.imp (fun _ ht => ht.complete hkeeps) hall

theorem requests_complete_sample :
    Always (httpTunnelStep fun _ => true) (Complete fun _ => true) .init sampleTunnel :=
  requests_complete (fun _ => true) (fun _ _ _ => rfl) sampleTunnel (by decide)

end Protogate.Tunnel
