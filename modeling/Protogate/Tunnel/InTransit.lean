import Protogate.Tunnel.HttpTunnel

/-!
# Events in transit

On each stream, what has arrived followed by what is in transit is what was sent: the events of
the one request that opened the stream, and on the way back those of its one answer.  So a stream
that ends for the agent is that of a request without a body, and whole, and what the server has
heard when the last frame arrives is the whole answer, whatever came on other streams.

## Main definitions

* `HttpTunnelInv` — where every event of every stream is.
* `HttpTunnelInv.request`, `HttpTunnelInv.toAgent`, `HttpTunnelInv.toServer` — the steps.
* `OwnStream`, `httpTunnelInv_run` — runs whose requests have ids and streams of their own.
-/

namespace Protogate.Tunnel

open Protogate.Lib Protogate.Agent Protogate.Proxy Protogate.TunnelAgent Protogate.Wire

/-! ## The invariant -/

/-- What was submitted on a stream, as events for the agent. -/
def HttpTunnel.requested (keeps : Str × Str → Bool) (t : HttpTunnel) (s : StreamId) :
    List SessionEvent :=
  (onChannel Relayed.streamId s t.requests).flatMap (Relayed.events keeps)

/-- What was answered on a stream, as events for the server. -/
def HttpTunnel.answered (keeps : Str × Str → Bool) (t : HttpTunnel) (s : StreamId) :
    List ResponseEvent :=
  (onChannel Answer.streamId s t.answers).flatMap (Answer.events keeps)

/-- Every event of a stream has arrived or is in transit, in order; a stream is that of one
request, and answered once, after the request has come; and a callback that is invoked without
error gets the answer on the stream of its request. -/
structure HttpTunnelInv (keeps : Str × Str → Bool) (t : HttpTunnel) : Prop where
  exchange : ExchangeInv t.server
  indexed : Indexed t.server
  opened : t.server.opened = t.requests.map fun q => (q.call, q.streamId)
  session : t.session = run TunnelAgent.sessionStep .init t.seen
  down : ∀ s, onStream s t.seen ++ onStream s t.downlink = t.requested keeps s
  heard : t.server.heard = t.landed.filterMap ResponseEvent.toHeard
  up : ∀ s, onChannel ResponseEvent.streamId s t.landed ++
    onChannel ResponseEvent.streamId s t.uplink = t.answered keeps s
  once : (t.answers.map Answer.streamId).Nodup
  served : ∀ a ∈ t.answers, t.session.callsOn a.streamId ≠ []
  came : ∀ e ∈ t.server.invoked, e.2.error = false → ∃ q ∈ t.requests, ∃ a ∈ t.answers,
    q.call = e.2.callback ∧ a.streamId = q.streamId ∧ e.2.response = a.text keeps
  closed : ∀ q ∈ t.requests, ResponseEvent.data q.streamId ∈ t.landed → q.call ∈ t.server.callbacks

theorem httpTunnelInv_init (keeps : Str × Str → Bool) : HttpTunnelInv keeps HttpTunnel.init := by
  refine ⟨exchangeInv_init .connected, indexed_init .connected, rfl, rfl, ?_, rfl, ?_, List.nodup_nil,
    ?_, ?_, ?_⟩ <;>
      simp [HttpTunnel.init, HttpTunnel.requested, HttpTunnel.answered, onStream, Exchange.init]

section
variable {keeps : Str × Str → Bool} {t : HttpTunnel}

theorem HttpTunnelInv.fresh (H : HttpTunnelInv keeps t) : (t.requests.map Relayed.streamId).Nodup := by
  have hstreams := H.indexed.streams
  rwa [H.opened, List.map_map] at hstreams

/-- The events on the stream of a request are those of the request. -/
theorem HttpTunnelInv.requested_eq (H : HttpTunnelInv keeps t) {q : Relayed} (hq : q ∈ t.requests) :
    t.requested keeps q.streamId = q.events keeps := by
  rw [HttpTunnel.requested, onChannel_of_nodup H.fresh hq, List.flatMap_singleton]

theorem HttpTunnelInv.answered_eq (H : HttpTunnelInv keeps t) {a : Answer} (ha : a ∈ t.answers) :
    t.answered keeps a.streamId = a.events keeps := by
  rw [HttpTunnel.answered, onChannel_of_nodup H.once ha, List.flatMap_singleton]

/-- An event on a stream belongs to a request. -/
theorem exists_request {s : StreamId} {e : SessionEvent} (he : e ∈ t.requested keeps s) :
    ∃ q ∈ t.requests, q.streamId = s := by
  obtain ⟨q, hq, _⟩ := List.mem_flatMap.mp he
  simp only [onChannel, List.mem_filter, decide_eq_true_eq] at hq
  exact ⟨q, hq⟩

theorem exists_answer {s : StreamId} {e : ResponseEvent} (he : e ∈ t.answered keeps s) :
    ∃ a ∈ t.answers, a.streamId = s := by
  obtain ⟨a, ha, _⟩ := List.mem_flatMap.mp he
  simp only [onChannel, List.mem_filter, decide_eq_true_eq] at ha
  exact ⟨a, ha⟩

/-- What is seen and in transit on a stream is well-formed. -/
theorem HttpTunnelInv.phase_isSome (H : HttpTunnelInv keeps t) (hkeeps : KeepsPseudo keeps)
    (s : StreamId) : (phase (onStream s t.seen ++ onStream s t.downlink)).isSome := by
  rw [H.down s]
  cases hrequested : t.requested keeps s with
  | nil => rfl
  | cons e evs =>
      have he : e ∈ t.requested keeps s := by simp [hrequested]
      obtain ⟨q, hq, rfl⟩ := exists_request he
      rw [← hrequested, H.requested_eq hq, phase_events hkeeps]
      rfl

theorem HttpTunnelInv.interleaves (H : HttpTunnelInv keeps t) (hkeeps : KeepsPseudo keeps) :
    Interleaves t.seen := fun s _ => phase_isSome_of_append (H.phase_isSome hkeeps s)

/-- A stream that has ended is that of a request without a body, and was delivered whole. -/
theorem HttpTunnelInv.delivered (H : HttpTunnelInv keeps t) (hkeeps : KeepsPseudo keeps) {s : StreamId}
    (hends : Ends t.seen s) : ∃ q ∈ t.requests, q.streamId = s ∧ q.body = [] ∧
      onStream s t.seen = q.events keeps := by
  have hne : ∃ e, e ∈ onStream s t.seen := by
    apply List.exists_mem_of_ne_nil
    intro hnil
    rw [Ends, hnil] at hends
    cases hends
  obtain ⟨e, he⟩ := hne
  have hall : onStream s t.seen ++ onStream s t.downlink = t.requested keeps s := H.down s
  obtain ⟨q, hq, rfl⟩ := exists_request (hall ▸ List.mem_append_left _ he)
  rw [H.requested_eq hq] at hall
  have hrest : onStream q.streamId t.downlink = [] := by
    apply eq_nil_of_phase_closed hends (H.phase_isSome hkeeps _)
    intro k hk
    exact other_not_mem_events k (hall ▸ List.mem_append_right _ hk)
  have hwhole : onStream q.streamId t.seen = q.events keeps := by rw [← hall, hrest, List.append_nil]
  refine ⟨q, hq, rfl, ?_, hwhole⟩
  rw [Ends, hwhole, phase_events hkeeps] at hends
  by_contra hbody
  simp [hbody] at hends

end

section
variable {keeps : Str × Str → Bool} {t : HttpTunnel}

/-- A stream whose request was handed over has ended. -/
theorem HttpTunnelInv.ends (H : HttpTunnelInv keeps t) (hkeeps : KeepsPseudo keeps) {s : StreamId}
    (hcalls : t.session.callsOn s ≠ []) : Ends t.seen s := by
  by_contra hends
  rw [H.session] at hcalls
  exact hcalls ((H.interleaves hkeeps).callsOn_of_not_ends hends)

/-- An answer belongs to a request. -/
theorem HttpTunnelInv.request_of_answer (H : HttpTunnelInv keeps t) (hkeeps : KeepsPseudo keeps)
    {a : Answer} (ha : a ∈ t.answers) : ∃ q ∈ t.requests, q.streamId = a.streamId := by
  obtain ⟨q, hq, hsame, _, _⟩ := H.delivered hkeeps (H.ends hkeeps (H.served a ha))
  exact ⟨q, hq, hsame⟩

end

/-! ## Failures -/

theorem error_of_mem_handleDisconnect {κ : Type} {a : AgentConnection κ} {i : Invocation κ}
    (hi : i ∈ (handleDisconnect a).2) : i.error = true := by
  obtain ⟨e, _, rfl⟩ := List.mem_map.mp hi
  rfl

theorem error_of_mem_close {κ : Type} {a : AgentConnection κ} {i : Invocation κ}
    (hi : i ∈ (close a).2) : i.error = true := by
  simp only [close] at hi
  split at hi
  · cases hi
  · exact error_of_mem_handleDisconnect hi

theorem error_of_mem_start {κ : Type} {a : AgentConnection κ} {sent : Bool} {i : Invocation κ}
    (hi : i ∈ (Agent.start a sent).2) : i.error = true := by
  simp only [Agent.start, initializeNghttp2] at hi
  split at hi
  · split at hi
    · cases hi
    · exact error_of_mem_close hi
  · cases hi

theorem error_of_mem_timerExpired {κ : Type} {a : AgentConnection κ} {n : ℕ} {i : Invocation κ}
    (hi : i ∈ (timerExpired a n).2) : i.error = true := by
  obtain ⟨_, _, _, _, _, heq⟩ | ⟨_, _, _, heq⟩ := timerExpired_cases a n
  · rw [heq, List.mem_singleton] at hi
    rw [hi]
  · rw [heq] at hi
    cases hi

theorem error_of_mem_send {κ : Type} {a : AgentConnection κ} {requestId text : Str} {callback : κ}
    {s : StreamId} {sent : Bool} {i : Invocation κ}
    (hi : i ∈ (sendHttpRequest a requestId text callback s sent).2) : i.error = true := by
  by_cases haccepts : a.Accepts s
  · rw [sendHttpRequest_of_accepts haccepts] at hi
    cases sent with
    | true => cases hi
    | false => exact error_of_mem_close hi
  · rw [sendHttpRequest_of_not_accepts haccepts, List.mem_singleton] at hi
    rw [hi]

section
variable {keeps : Str × Str → Bool} {t : HttpTunnel}

/-- A callback that was invoked stays so. -/
theorem mem_callbacks_advance {x : Exchange} {call : ℕ} (h : call ∈ x.callbacks)
    (result : AgentConnection ℕ × List (Invocation ℕ)) : call ∈ (x.advance result).callbacks := by
  rw [callbacks_advance]
  exact List.mem_append_left _ h

/-- The connection fails requests, and opens no stream. -/
theorem HttpTunnelInv.advance (H : HttpTunnelInv keeps t) {result : AgentConnection ℕ × List (Invocation ℕ)}
    (hexchange : ExchangeInv (t.server.advance result)) (hindexed : Indexed (t.server.advance result))
    (herror : ∀ i ∈ result.2, i.error = true) :
    HttpTunnelInv keeps { t with server := t.server.advance result } where
  exchange := hexchange
  indexed := hindexed
  opened := H.opened
  session := H.session
  down := H.down
  heard := H.heard
  up := H.up
  once := H.once
  served := H.served
  came := by
    intro e he hfalse
    obtain he | he := List.mem_append.mp he
    · exact H.came e he hfalse
    · obtain ⟨i, hi, rfl⟩ := List.mem_map.mp he
      simp [herror i hi] at hfalse
  closed := fun q hq hlanded => mem_callbacks_advance (H.closed q hq hlanded) result

/-! ## A request -/

theorem HttpTunnelInv.request (H : HttpTunnelInv keeps t) (hkeeps : KeepsPseudo keeps)
    {requestId text : Str} {s : StreamId} {sent : Bool}
    (hdistinct : Distinct t.server (.send requestId text s sent)) :
    HttpTunnelInv keeps (t.request keeps requestId text s sent) := by
  have hexchange := exchangeInv_step t.server _ H.exchange ⟨hdistinct, trivial⟩
  have hindexed := indexed_step t.server _ H.indexed hdistinct
  have hcame : ∀ e ∈ (exchangeStep t.server (.send requestId text s sent)).invoked, e.2.error = false →
      e ∈ t.server.invoked := by
    intro e he hfalse
    obtain he | he := List.mem_append.mp he
    · exact he
    · obtain ⟨i, hi, rfl⟩ := List.mem_map.mp he
      simp [error_of_mem_send hi] at hfalse
  have hcallbacks : ∀ call ∈ t.server.callbacks,
      call ∈ (exchangeStep t.server (.send requestId text s sent)).callbacks :=
    fun call hcall => mem_callbacks_advance (x := t.server.request requestId s) hcall _
  simp only [HttpTunnel.request]
  split
  · rename_i haccepts
    -- the stream is a new one, so nothing has come on it
    have hnew : s ∉ t.requests.map Relayed.streamId := by
      have hopened := hdistinct.2 haccepts
      rwa [H.opened, List.map_map] at hopened
    refine ⟨hexchange, hindexed, ?_, H.session, fun k => ?_, H.heard, H.up, H.once, H.served, ?_, ?_⟩
    · show (t.server.request requestId s).opened = _
      simp [Exchange.request, haccepts, H.opened]
    · have hkey : ∀ e ∈ Relayed.events keeps ⟨t.server.requests.length, requestId, text, s⟩,
          SessionEvent.streamId e = s := fun e he => streamId_of_mem_events he
      have hmore : onStream k (t.downlink ++
          Relayed.events keeps ⟨t.server.requests.length, requestId, text, s⟩) =
            onStream k t.downlink ++ if k = s then
              Relayed.events keeps ⟨t.server.requests.length, requestId, text, s⟩ else [] := by
        rw [onStream_eq, onChannel_append, onChannel_of_forall hkey]
        rfl
      rw [hmore, ← List.append_assoc, H.down k]
      simp only [HttpTunnel.requested, onChannel_append, onChannel_cons, onChannel_nil, List.flatMap_append]
      by_cases hk : k = s
      · simp [hk]
      · simp [hk, Ne.symm hk]
    · intro e he hfalse
      obtain ⟨q, hq, a, ha, hcall, hstream, htext⟩ := H.came e (hcame e he hfalse) hfalse
      exact ⟨q, List.mem_append_left _ hq, a, ha, hcall, hstream, htext⟩
    · intro q hq hlanded
      obtain hq | hq := List.mem_append.mp hq
      · exact hcallbacks _ (H.closed q hq hlanded)
      · obtain rfl := List.mem_singleton.mp hq
        have hmem : ResponseEvent.data s ∈ t.answered keeps s := by
          rw [← H.up s]
          refine List.mem_append_left _ ?_
          simpa [onChannel, ResponseEvent.streamId] using hlanded
        obtain ⟨a, ha, hstream⟩ := exists_answer hmem
        obtain ⟨q, hq, hsame⟩ := H.request_of_answer hkeeps ha
        exact absurd (List.mem_map.mpr ⟨q, hq, hsame.trans hstream⟩) hnew
  · rename_i haccepts
    refine ⟨hexchange, hindexed, ?_, H.session, H.down, H.heard, H.up, H.once, H.served, ?_, ?_⟩
    · show (t.server.request requestId s).opened = _
      simp [Exchange.request, haccepts, H.opened]
    · exact fun e he hfalse => H.came e (hcame e he hfalse) hfalse
    · exact fun q hq hlanded => hcallbacks _ (H.closed q hq hlanded)

end

/-! ## An event for the agent -/

/-- An event hands over at most one request, that of its own stream. -/
theorem calls_sessionStep (x : RequestSession) (e : SessionEvent) :
    (TunnelAgent.sessionStep x e).calls = x.calls ∨
      ∃ r, (TunnelAgent.sessionStep x e).calls = x.calls ++ [(e.streamId, r)] := by
  have hcomplete : ∀ s : ℤ, (x.complete s).calls = x.calls ∨ ∃ r, (x.complete s).calls = x.calls ++ [(s, r)] := by
    intro s
    simp only [RequestSession.complete]
    split
    · exact .inl rfl
    · exact .inr ⟨_, rfl⟩
  cases e with
  | header s name value => exact .inl rfl
  | chunk s data =>
      simp only [TunnelAgent.sessionStep, TunnelAgent.onDataChunk]
      split <;> exact .inl rfl
  | headers s endHeaders endStream =>
      simp only [TunnelAgent.sessionStep]
      split
      · exact hcomplete s
      · exact .inl rfl
  | data s endStream =>
      simp only [TunnelAgent.sessionStep]
      split
      · exact hcomplete s
      · exact .inl rfl
  | other s => exact .inl rfl

theorem callsOn_concat {x y : RequestSession} {s : ℤ} {r : Http2Request}
    (h : y.calls = x.calls ++ [(s, r)]) (k : ℤ) :
    y.callsOn k = x.callsOn k ++ if s = k then [r] else [] := by
  simp only [RequestSession.callsOn, h, List.filter_append, List.map_append]
  split <;> simp [*]

/-- What was handed over is not taken back. -/
theorem callsOn_sessionStep_ne_nil {x : RequestSession} {s : ℤ} (h : x.callsOn s ≠ []) (e : SessionEvent) :
    (TunnelAgent.sessionStep x e).callsOn s ≠ [] := by
  obtain hsame | ⟨r, hmore⟩ := calls_sessionStep x e
  · simpa only [RequestSession.callsOn, hsame] using h
  · rw [callsOn_concat hmore]
    exact List.append_ne_nil_of_left_ne_nil h _

section
variable {keeps : Str × Str → Bool} {t : HttpTunnel}

/-- The state after an event has reached the agent, but for what is made of a request. -/
def HttpTunnel.arrive (t : HttpTunnel) (e : SessionEvent) (downlink : List SessionEvent) : HttpTunnel :=
  { t with downlink, session := TunnelAgent.sessionStep t.session e, seen := t.seen ++ [e] }

theorem HttpTunnelInv.arrive (H : HttpTunnelInv keeps t) {s : StreamId} {e : SessionEvent}
    {downlink : List SessionEvent} (h : receive SessionEvent.streamId s t.downlink = some (e, downlink)) :
    HttpTunnelInv keeps (t.arrive e downlink) where
  exchange := H.exchange
  indexed := H.indexed
  opened := H.opened
  session := by
    show TunnelAgent.sessionStep t.session e = run TunnelAgent.sessionStep .init (t.seen ++ [e])
    rw [run_append, ← H.session]
    rfl
  down := by
    intro k
    show onStream k (t.seen ++ [e]) ++ onStream k downlink = t.requested keeps k
    rw [← H.down k]
    obtain ⟨hkey, hnext⟩ := onChannel_receive h
    simp only [onStream_eq, onChannel_append, onChannel_cons, onChannel_nil]
    by_cases hk : k = s
    · subst hk
      simp [hkey, hnext]
    · simp [hkey, Ne.symm hk, onChannel_receive_of_ne h hk]
  heard := H.heard
  up := H.up
  once := H.once
  served := fun a ha => callsOn_sessionStep_ne_nil (H.served a ha) e
  came := H.came
  closed := H.closed

theorem HttpTunnelInv.onRequest (H : HttpTunnelInv keeps t) {request : Http2Request} (reply : Reply)
    (hcalls : t.session.callsOn request.streamId ≠ [])
    (hnew : request.streamId ∉ t.answers.map Answer.streamId) :
    HttpTunnelInv keeps (t.onRequest keeps request reply) := by
  simp only [HttpTunnel.onRequest]
  split
  · refine ⟨H.exchange, H.indexed, H.opened, H.session, H.down, H.heard, fun k => ?_, ?_, ?_, ?_, H.closed⟩
    · have hkey : ∀ e ∈ Answer.events keeps ⟨request.streamId, reply.response, reply.framing⟩,
          ResponseEvent.streamId e = request.streamId := fun e he => streamId_of_mem_answer he
      show onChannel _ k t.landed ++ onChannel _ k (t.uplink ++ _) = _
      rw [onChannel_append, ← List.append_assoc, H.up k, onChannel_of_forall hkey]
      simp only [HttpTunnel.answered, onChannel_append, onChannel_cons, onChannel_nil, List.flatMap_append]
      by_cases hk : k = request.streamId
      · simp [hk]
      · simp [hk, Ne.symm hk]
    · simp only [List.map_append, List.map_cons, List.map_nil]
      exact H.once.append (List.nodup_singleton _) (by simpa using hnew)
    · intro a ha
      obtain ha | ha := List.mem_append.mp ha
      · exact H.served a ha
      · rw [List.mem_singleton.mp ha]
        exact hcalls
    · intro e he hfalse
      obtain ⟨q, hq, a, ha, hcall, hstream, htext⟩ := H.came e he hfalse
      exact ⟨q, hq, a, List.mem_append_left _ ha, hcall, hstream, htext⟩
  · exact ⟨H.exchange, H.indexed, H.opened, H.session, H.down, H.heard, H.up, H.once, H.served, H.came,
      H.closed⟩

/-- A request that is handed over is that of the stream of the event, and the first on it. -/
theorem HttpTunnelInv.handed (H : HttpTunnelInv keeps t) (hkeeps : KeepsPseudo keeps) {s k : StreamId}
    {e : SessionEvent} {downlink : List SessionEvent} {request : Http2Request}
    {rest : List (ℤ × Http2Request)}
    (h : receive SessionEvent.streamId s t.downlink = some (e, downlink))
    (hdrop : (TunnelAgent.sessionStep t.session e).calls.drop t.session.calls.length = (k, request) :: rest) :
    (TunnelAgent.sessionStep t.session e).calls = t.session.calls ++ [(e.streamId, request)] ∧
      request.streamId = e.streamId ∧ t.session.callsOn e.streamId = [] := by
  have harrive := H.arrive h
  obtain hsame | ⟨r, hmore⟩ := calls_sessionStep t.session e
  · simp [hsame] at hdrop
  obtain ⟨⟨rfl, rfl⟩, _⟩ : (k = e.streamId ∧ request = r) ∧ rest = [] := by
    simpa [hmore, eq_comm] using hdrop
  have hcalls : (t.arrive e downlink).session.callsOn e.streamId =
      t.session.callsOn e.streamId ++ [request] := by
    show (TunnelAgent.sessionStep t.session e).callsOn e.streamId = _
    simpa using callsOn_concat hmore e.streamId
  -- the stream has ended, so this is its only request
  have hends : Ends (t.arrive e downlink).seen e.streamId := harrive.ends hkeeps (by simp [hcalls])
  obtain ⟨r, hone, hid, _⟩ := (harrive.interleaves hkeeps).ended hends
  rw [← harrive.session, hcalls] at hone
  cases hbefore : t.session.callsOn e.streamId with
  | nil =>
      obtain rfl : request = r := by simpa [hbefore] using hone
      exact ⟨hmore, hid, rfl⟩
  | cons a calls => simp [hbefore] at hone

theorem HttpTunnelInv.toAgent (H : HttpTunnelInv keeps t) (hkeeps : KeepsPseudo keeps) (s : StreamId)
    (reply : Reply) : HttpTunnelInv keeps (t.toAgent keeps s reply) := by
  simp only [HttpTunnel.toAgent]
  split
  · exact H
  · rename_i e downlink hreceive
    have harrive := H.arrive hreceive
    split
    · exact harrive
    · rename_i k request rest hdrop
      obtain ⟨hmore, hid, hbefore⟩ := H.handed hkeeps hreceive hdrop
      apply harrive.onRequest reply
      · show (TunnelAgent.sessionStep t.session e).callsOn request.streamId ≠ []
        rw [hid, callsOn_concat hmore]
        simp
      · intro hmem
        obtain ⟨a, ha, hstream⟩ := List.mem_map.mp hmem
        apply H.served a ha
        rw [hstream, hid, hbefore]

end

/-! ## An event for the server -/

section
variable {x : Exchange} {s : StreamId}

/-- What the end of a stream invokes: the callback of the request that opened it, with what was
heard on it. -/
theorem completed_response (H : ExchangeInv x) {i : Invocation ℕ}
    (hi : i ∈ (completeRequest x.agent s).2) :
    (i.callback, s) ∈ x.opened ∧ i.response = textHeard s x.heard := by
  obtain ⟨id, callback, hmap, hstored, heq⟩ | ⟨_, heq⟩ := completeRequest_cases x.agent s
  · rw [heq, List.mem_singleton] at hi
    subst hi
    have hcollected := H.relay.streams.collected s (.inl (by
      show (x.agent.streamToRequest.lookup s).isSome
      simp [hmap]))
    refine ⟨H.relay.streams.opener s id callback hmap hstored, ?_⟩
    show responseText (x.agent.streamHeaders.lookup s) (x.agent.streamBodiesRecv.lookup s) = _
    rw [show x.agent.streamHeaders.lookup s = _ from hcollected.headers,
      show x.agent.streamBodiesRecv.lookup s = _ from hcollected.body]
    rfl
  · rw [heq] at hi
    cases hi

/-- After the end of its stream a request is not waiting any more. -/
theorem mem_callbacks_complete (H : Indexed x) (H' : ExchangeInv (x.advance (completeRequest x.agent s)))
    (H'' : Indexed (x.advance (completeRequest x.agent s))) {call : ℕ} (hopened : (call, s) ∈ x.opened) :
    call ∈ (x.advance (completeRequest x.agent s)).callbacks := by
  have hlt : call < x.requests.length := H.lt _ hopened
  obtain hdone | ⟨id, hid⟩ := H'.settled call hlt
  · exact hdone
  · have hrequest : x.requests[call]? = some id := H''.callbacks id call hid
    have hgone := (complete_of_opened H hopened hrequest).1
    exact absurd (AList.lookup_isSome.mp (Option.isSome_of_mem hid)) hgone

end

section
variable {keeps : Str × Str → Bool} {t : HttpTunnel}

/-- The state after an event has reached the server. -/
def HttpTunnel.land (t : HttpTunnel) (e : ResponseEvent) (uplink : List ResponseEvent) : HttpTunnel :=
  { t with server := exchangeStep t.server e.toExchange, uplink, landed := t.landed ++ [e] }

theorem HttpTunnelInv.up_land (H : HttpTunnelInv keeps t) {s : StreamId} {e : ResponseEvent}
    {uplink : List ResponseEvent} (h : receive ResponseEvent.streamId s t.uplink = some (e, uplink))
    (k : StreamId) : onChannel ResponseEvent.streamId k (t.landed ++ [e]) ++
      onChannel ResponseEvent.streamId k uplink = t.answered keeps k := by
  rw [← H.up k]
  obtain ⟨hkey, hnext⟩ := onChannel_receive h
  simp only [onChannel_append, onChannel_cons, onChannel_nil]
  by_cases hk : k = s
  · subst hk
    simp [hkey, hnext]
  · simp [hkey, Ne.symm hk, onChannel_receive_of_ne h hk]

/-- The last event of a response comes after all others. -/
theorem HttpTunnelInv.landed_before (H : HttpTunnelInv keeps t) {s k : StreamId}
    {uplink : List ResponseEvent}
    (h : receive ResponseEvent.streamId k t.uplink = some (.data s, uplink)) :
    ∃ a ∈ t.answers, a.streamId = s ∧
      onChannel ResponseEvent.streamId s t.landed = a.before keeps := by
  obtain ⟨hkey, hnext⟩ := onChannel_receive h
  obtain rfl : s = k := hkey
  have hall := H.up s
  rw [hnext] at hall
  have hmem : ResponseEvent.data s ∈ t.answered keeps s := by
    rw [← hall]
    simp
  obtain ⟨a, ha, rfl⟩ := exists_answer hmem
  rw [H.answered_eq ha, events_eq_before] at hall
  exact ⟨a, ha, rfl, (last_of_append_eq hall (data_not_mem_before _)).1⟩

/-- What has been heard of a response before its last event. -/
theorem HttpTunnelInv.textHeard_eq (H : HttpTunnelInv keeps t) (hkeeps : KeepsPseudo keeps) {a : Answer}
    (hbefore : onChannel ResponseEvent.streamId a.streamId t.landed = a.before keeps) :
    BeginsWithStatus a.streamId t.server.heard ∧ textHeard a.streamId t.server.heard = a.text keeps := by
  have hfields : fieldsHeard a.streamId t.server.heard = a.fields.filter keeps := by
    rw [H.heard, fieldsHeard_filterMap, hbefore, fieldsHeard_before]
  have hchunks : (chunksHeard a.streamId t.server.heard).flatten = a.sentBody := by
    rw [H.heard, chunksHeard_filterMap, hbefore, chunksHeard_before, flatten_pieces]
  have hbegins : BeginsWithStatus a.streamId t.server.heard :=
    beginsWithStatus_of_cons (hfields.trans (fields_filter hkeeps))
  refine ⟨hbegins, ?_⟩
  obtain ⟨status, hstatus, htext⟩ := textHeard_of_status hbegins
  rw [hfields, fields_filter hkeeps, firstStatus_cons] at hstatus
  rw [htext, ← Option.some.inj hstatus, hfields]
  exact statusResponse_flatten _ _ hchunks

/-- The end of a response. -/
theorem HttpTunnelInv.land_data (H : HttpTunnelInv keeps t) (hkeeps : KeepsPseudo keeps) {s k : StreamId}
    {uplink : List ResponseEvent}
    (h : receive ResponseEvent.streamId k t.uplink = some (.data s, uplink)) :
    HttpTunnelInv keeps (t.land (.data s) uplink) := by
  obtain ⟨a, ha, rfl, hbefore⟩ := H.landed_before h
  obtain ⟨hbegins, htext⟩ := H.textHeard_eq hkeeps hbefore
  have hexchange := exchangeInv_step t.server (.frame (.data a.streamId true)) H.exchange ⟨trivial, hbegins⟩
  have hindexed := indexed_step t.server (.frame (.data a.streamId true)) H.indexed trivial
  refine ⟨hexchange, hindexed, H.opened, H.session, H.down, ?_, H.up_land h, H.once, H.served, ?_, ?_⟩
  · show t.server.heard = _
    rw [H.heard]
    simp [HttpTunnel.land, ResponseEvent.toHeard]
  · intro e he hfalse
    obtain he | he := List.mem_append.mp he
    · exact H.came e he hfalse
    · obtain ⟨i, hi, rfl⟩ := List.mem_map.mp he
      obtain ⟨hopened, hresponse⟩ := completed_response H.exchange hi
      rw [H.opened] at hopened
      obtain ⟨q, hq, heq⟩ := List.mem_map.mp hopened
      obtain ⟨hcall, hstream⟩ := Prod.mk.inj heq
      exact ⟨q, hq, a, ha, hcall, hstream.symm, hresponse.trans htext⟩
  · intro q hq hlanded
    obtain hlanded | hlast := List.mem_append.mp hlanded
    · exact mem_callbacks_advance (H.closed q hq hlanded) _
    · have hstream : q.streamId = a.streamId := by simpa using hlast
      apply mem_callbacks_complete H.indexed hexchange hindexed
      rw [H.opened]
      exact List.mem_map.mpr ⟨q, hq, by rw [hstream]⟩

/-- An event of a response before the last. -/
theorem HttpTunnelInv.land (H : HttpTunnelInv keeps t) {k : StreamId} {e : ResponseEvent}
    {uplink : List ResponseEvent} (h : receive ResponseEvent.streamId k t.uplink = some (e, uplink))
    (he : ∀ s, e ≠ .data s) : HttpTunnelInv keeps (t.land e uplink) := by
  have hconditions : Distinct t.server e.toExchange ∧ StatusFirst t.server e.toExchange := by
    cases e with
    | data s => exact absurd rfl (he s)
    | _ => exact ⟨trivial, trivial⟩
  have hopened : (t.land e uplink).server.opened = t.server.opened := by cases e <;> rfl
  have hheard : (t.land e uplink).server.heard = t.server.heard ++ e.toHeard.toList := by
    cases e <;> simp [HttpTunnel.land, exchangeStep, ResponseEvent.toExchange, ResponseEvent.toHeard,
      Exchange.advance]
  have hinvoked : (t.land e uplink).server.invoked = t.server.invoked := by
    cases e with
    | data s => exact absurd rfl (he s)
    | _ => simp [HttpTunnel.land, exchangeStep, ResponseEvent.toExchange, Exchange.advance, onFrameRecv]
  refine ⟨exchangeInv_step _ _ H.exchange hconditions, indexed_step _ _ H.indexed hconditions.1,
    hopened.trans H.opened, H.session, H.down, ?_, H.up_land h, H.once, H.served, ?_, ?_⟩
  · show (t.land e uplink).server.heard = (t.landed ++ [e]).filterMap ResponseEvent.toHeard
    rw [hheard, List.filterMap_append, ← H.heard]
    cases e <;> rfl
  · rw [hinvoked]
    exact H.came
  · intro q hq hlanded
    rw [Exchange.callbacks, hinvoked]
    obtain hlanded | hlast := List.mem_append.mp hlanded
    · exact H.closed q hq hlanded
    · exact absurd (List.mem_singleton.mp hlast).symm (he q.streamId)

theorem HttpTunnelInv.toServer (H : HttpTunnelInv keeps t) (hkeeps : KeepsPseudo keeps) (s : StreamId) :
    HttpTunnelInv keeps (t.toServer s) := by
  simp only [HttpTunnel.toServer]
  split
  · exact H
  · rename_i e uplink hreceive
    cases e with
    | data k => exact H.land_data hkeeps hreceive
    | _ => exact H.land hreceive (by simp)

end

/-! ## Runs -/

/-- Each request has an id and a stream of its own. -/
def OwnStream (t : HttpTunnel) : HttpTunnelEvent → Prop
  | .request requestId text streamId sent => Distinct t.server (.send requestId text streamId sent)
  | _ => True

instance (t : HttpTunnel) : (e : HttpTunnelEvent) → Decidable (OwnStream t e)
  | .request requestId text streamId sent =>
      inferInstanceAs (Decidable (Distinct t.server (.send requestId text streamId sent)))
  | .start _ | .toAgent _ _ | .toServer _ | .timer _ | .goaway | .disconnect =>
      inferInstanceAs (Decidable True)

section
variable {keeps : Str × Str → Bool}

/-- What happens to the connection alone. -/
theorem HttpTunnelInv.server {t : HttpTunnel} (H : HttpTunnelInv keeps t) {e : ExchangeEvent}
    {result : AgentConnection ℕ × List (Invocation ℕ)} (hstep : exchangeStep t.server e = t.server.advance result)
    (hdistinct : Distinct t.server e) (hstatus : StatusFirst t.server e)
    (herror : ∀ i ∈ result.2, i.error = true) :
    HttpTunnelInv keeps { t with server := exchangeStep t.server e } := by
  have hexchange := exchangeInv_step t.server e H.exchange ⟨hdistinct, hstatus⟩
  have hindexed := indexed_step t.server e H.indexed hdistinct
  rw [hstep] at hexchange hindexed ⊢
  exact H.advance hexchange hindexed herror

theorem httpTunnelInv_step (hkeeps : KeepsPseudo keeps) (t : HttpTunnel) (e : HttpTunnelEvent)
    (H : HttpTunnelInv keeps t) (he : OwnStream t e) : HttpTunnelInv keeps (httpTunnelStep keeps t e) := by
  cases e with
  | start sent => exact H.server rfl trivial trivial fun i hi => error_of_mem_start hi
  | request requestId text s sent => exact H.request hkeeps he
  | toAgent s reply => exact H.toAgent hkeeps s reply
  | toServer s => exact H.toServer hkeeps s
  | timer i => exact H.server rfl trivial trivial fun i hi => error_of_mem_timerExpired hi
  | goaway => exact H.server rfl trivial trivial fun i hi => error_of_mem_close hi
  | disconnect => exact H.server rfl trivial trivial fun i hi => error_of_mem_close hi

theorem httpTunnelInv_run (hkeeps : KeepsPseudo keeps) {evs : List HttpTunnelEvent}
    (H : Along (httpTunnelStep keeps) OwnStream .init evs) :
    Always (httpTunnelStep keeps) (HttpTunnelInv keeps) .init evs :=
  always_of_invariant (HttpTunnelInv keeps) (httpTunnelInv_step hkeeps) (httpTunnelInv_init keeps) H

end

end Protogate.Tunnel
