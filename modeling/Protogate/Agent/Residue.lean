import Protogate.Agent.Correlation

/-!
# What is left of a request

`send_http_request` and the callbacks of nghttp2 keep entries for a request in five maps.
`complete_request` takes all of them out; the handler of a timer leaves what was collected
for the stream, `handle_disconnect` empties `pending_requests_` only, and headers and data
that come later make new entries.

## Main definitions

* `Exchange.Opened` — the request with this id opened this stream.
* `Indexed` — the invariant: the maps agree on ids and streams.
* `NoResidue` — no map has an entry for a request that is not pending.
* `LeavesNothing` — the condition on a step.
* `no_residue_iff` — runs leave no residue exactly if every step meets it.
-/

namespace Protogate.Agent

open Protogate.Lib Protogate.Proxy

/-! ## Losing the connection -/

/-- The connection when all callbacks have been failed. -/
def AgentConnection.lost {κ : Type} (a : AgentConnection κ) (session : Bool) (state : State) :
    AgentConnection κ :=
  { a with session, state, pendingRequests := ∅ }

section
variable {κ : Type} {a : AgentConnection κ}

theorem lost_of_empty (h : ∀ id, id ∉ a.pendingRequests) (session : Bool) (state : State) :
    { a with session, state } = a.lost session state := by
  have hentries : a.pendingRequests.entries = [] :=
    List.eq_nil_iff_forall_not_mem.mpr fun e he => h e.1 (List.mem_keys_of_mem he)
  have hempty : a.pendingRequests = ∅ := AList.ext hentries
  rw [AgentConnection.lost, hempty]

/-- A connection with pending requests is up, so closing it fails them. -/
theorem close_eq_lost (h : ∀ id, id ∈ a.pendingRequests → a.state = .connected) :
    ∃ session state, (close a).1 = a.lost session state := by
  simp only [close]
  split
  · rename_i hdown
    have hnone : ∀ id, id ∉ a.pendingRequests := by
      intro id hid
      rw [h id hid] at hdown
      cases hdown with
      | inl hdown => cases hdown
      | inr hdown => cases hdown
    exact ⟨a.session, a.state, lost_of_empty hnone a.session a.state⟩
  · exact ⟨false, .disconnected, rfl⟩

end

/-! ## Ids and streams -/

/-- The request with this id opened this stream. -/
def Exchange.Opened (x : Exchange) (id : Str) (s : StreamId) : Prop :=
  ∃ call, (call, s) ∈ x.opened ∧ x.requests[call]? = some id

/-- No two requests have one id or one stream; timers, mapped streams and callbacks are those
of requests; a pending request is mapped from its stream, and keeps the connection up. -/
structure Indexed (x : Exchange) : Prop where
  ids : x.requests.Nodup
  lt : ∀ e ∈ x.opened, e.1 < x.requests.length
  calls : (x.opened.map Prod.fst).Nodup
  streams : (x.opened.map Prod.snd).Nodup
  timers : ∀ t ∈ x.agent.timers, x.Opened t.1 t.2
  mapped : ∀ s id, x.agent.streamToRequest.lookup s = some id → x.Opened id s
  pending : ∀ id ∈ x.agent.pendingRequests, ∃ s, x.agent.streamToRequest.lookup s = some id
  callbacks : ∀ id call, x.agent.pendingRequests.lookup id = some call → x.requests[call]? = some id
  bodies : ∀ id ∈ x.agent.streamBodies, id ∈ x.requests
  up : ∀ id ∈ x.agent.pendingRequests, x.agent.state = .connected

theorem indexed_init (state : State) : Indexed (Exchange.init state) := by
  constructor <;> simp [Exchange.init, AgentConnection.created]

section
variable {x : Exchange} {id id' : Str} {s s' : StreamId}

theorem Indexed.stream_eq (H : Indexed x) (h : x.Opened id s) (h' : x.Opened id s') : s = s' := by
  obtain ⟨call, hopened, hid⟩ := h
  obtain ⟨call', hopened', hid'⟩ := h'
  have hlt : call < x.requests.length := H.lt _ hopened
  obtain rfl : call = call' := (List.getElem?_inj hlt H.ids).mp (hid.trans hid'.symm)
  exact (Prod.mk.inj (List.inj_on_of_nodup_map H.calls hopened hopened' rfl)).2

theorem Indexed.id_eq (H : Indexed x) (h : x.Opened id s) (h' : x.Opened id' s) : id = id' := by
  obtain ⟨call, hopened, hid⟩ := h
  obtain ⟨call', hopened', hid'⟩ := h'
  obtain ⟨rfl, _⟩ := Prod.mk.inj (List.inj_on_of_nodup_map H.streams hopened hopened' rfl)
  exact Option.some.inj (hid.symm.trans hid')

/-- A pending request is mapped from the stream it opened. -/
theorem Indexed.mapped_of_pending (H : Indexed x) (hid : id ∈ x.agent.pendingRequests)
    (hopened : x.Opened id s) : x.agent.streamToRequest.lookup s = some id := by
  obtain ⟨s', hs'⟩ := H.pending id hid
  rw [H.stream_eq hopened (H.mapped s' id hs')]
  exact hs'

end

/-- What an operation that adds no request does to the maps of ids and streams. -/
structure Shrinks (a b : AgentConnection ℕ) : Prop where
  timers : ∀ t ∈ b.timers, t ∈ a.timers
  mapped : ∀ s id, b.streamToRequest.lookup s = some id → a.streamToRequest.lookup s = some id
  pending : ∀ id ∈ b.pendingRequests, id ∈ a.pendingRequests ∧
    ∀ s, a.streamToRequest.lookup s = some id → b.streamToRequest.lookup s = some id
  callbacks : ∀ id call, b.pendingRequests.lookup id = some call →
    a.pendingRequests.lookup id = some call
  bodies : ∀ id ∈ b.streamBodies, id ∈ a.streamBodies
  up : ∀ id ∈ b.pendingRequests, a.state = .connected → b.state = .connected

section
variable {a : AgentConnection ℕ}

theorem Shrinks.lost (a : AgentConnection ℕ) (session : Bool) (state : State) :
    Shrinks a (a.lost session state) := by
  constructor <;> simp [AgentConnection.lost]

/-- Once the maps are the same only the state matters. -/
theorem Shrinks.of_eq {b : AgentConnection ℕ} (htimers : b.timers.Sublist a.timers)
    (hmapped : b.streamToRequest = a.streamToRequest)
    (hpending : b.pendingRequests = a.pendingRequests) (hbodies : b.streamBodies = a.streamBodies)
    (hup : a.state = .connected → b.state = .connected) : Shrinks a b where
  timers := fun _ ht => htimers.subset ht
  mapped := by simp [hmapped]
  pending := by simp [hpending, hmapped]
  callbacks := by simp [hpending]
  bodies := by simp [hbodies]
  up := fun _ _ => hup

/-- A request is taken out together with the stream that no other request is mapped from. -/
theorem Shrinks.settle {b : AgentConnection ℕ} {id : Str} {s : StreamId}
    (hown : ∀ id', a.streamToRequest.lookup s = some id' → id' = id)
    (htimers : b.timers.Sublist a.timers)
    (hmapped : b.streamToRequest = a.streamToRequest.erase s)
    (hpending : b.pendingRequests = a.pendingRequests.erase id)
    (hbodies : b.streamBodies = a.streamBodies.erase id) (hstate : b.state = a.state) :
    Shrinks a b where
  timers := fun _ ht => htimers.subset ht
  mapped := by
    rw [hmapped]
    exact fun s' id' h => (Assoc.lookup_of_lookup_erase h).2
  pending := by
    rw [hpending, hmapped]
    intro id' hid'
    obtain ⟨hne, hold⟩ := AList.mem_erase.mp hid'
    refine ⟨hold, fun s' hs' => ?_⟩
    have hs : s' ≠ s := by
      rintro rfl
      exact hne (hown id' hs')
    exact (AList.lookup_erase_ne hs).trans hs'
  callbacks := by
    rw [hpending]
    exact fun id' call h => (Assoc.lookup_of_lookup_erase h).2
  bodies := by
    rw [hbodies]
    exact fun id' h => (AList.mem_erase.mp h).2
  up := fun _ _ h => hstate.trans h

end

theorem Indexed.shrinks {x y : Exchange} (H : Indexed x) (hrequests : y.requests = x.requests)
    (hopened : y.opened = x.opened) (h : Shrinks x.agent y.agent) : Indexed y := by
  have hsame : ∀ id s, y.Opened id s ↔ x.Opened id s := by
    intro id s
    simp only [Exchange.Opened, hrequests, hopened]
  exact {
    ids := by
      rw [hrequests]
      exact H.ids
    lt := by
      rw [hrequests, hopened]
      exact H.lt
    calls := by
      rw [hopened]
      exact H.calls
    streams := by
      rw [hopened]
      exact H.streams
    timers := fun t ht => (hsame _ _).mpr (H.timers t (h.timers t ht))
    mapped := fun s id hs => (hsame _ _).mpr (H.mapped s id (h.mapped s id hs))
    pending := by
      intro id hid
      obtain ⟨hold, hkept⟩ := h.pending id hid
      obtain ⟨s, hs⟩ := H.pending id hold
      exact ⟨s, hkept s hs⟩
    callbacks := by
      rw [hrequests]
      exact fun id call hid => H.callbacks id call (h.callbacks id call hid)
    bodies := by
      rw [hrequests]
      exact fun id hid => H.bodies id (h.bodies id hid)
    up := fun id hid => h.up id hid (H.up id (h.pending id hid).1) }

theorem shrinks_complete (a : AgentConnection ℕ) (s : StreamId) :
    Shrinks a (completeRequest a s).1 := by
  obtain ⟨id, _, hmap, _, heq⟩ | ⟨_, heq⟩ := completeRequest_cases a s
  · rw [heq]
    refine .settle (fun id' hid' => ?_) (.refl _) rfl rfl rfl rfl
    exact Option.some.inj (hid'.symm.trans hmap)
  · rw [heq]
    exact .of_eq (.refl _) rfl rfl rfl id

section
variable {x : Exchange}

theorem Indexed.shrinks_timer (H : Indexed x) (i : ℕ) :
    Shrinks x.agent (timerExpired x.agent i).1 := by
  obtain ⟨id, s, _, htimer, _, heq⟩ | ⟨_, timers, hsub, heq⟩ := timerExpired_cases x.agent i
  · have hopened := H.timers _ (List.mem_of_getElem? htimer)
    rw [heq]
    -- the stream of the timer is that of the request that timed out
    refine .settle (fun id' hid' => ?_) (List.eraseIdx_sublist _ _) rfl rfl rfl rfl
    exact H.id_eq (H.mapped s id' hid') hopened
  · rw [heq]
    exact .of_eq hsub rfl rfl rfl id

/-! ## Coming up and going down -/

theorem start_true (a : AgentConnection ℕ) : ∃ session, (start a true).1 = { a with session } := by
  simp only [start]
  split
  · exact ⟨true, rfl⟩
  · exact ⟨a.session, rfl⟩

theorem Indexed.start_false (H : Indexed x) :
    ∃ session state, (start x.agent false).1 = x.agent.lost session state := by
  simp only [start]
  split
  · exact close_eq_lost (a := { x.agent with session := true }) H.up
  · rename_i hdown
    exact ⟨_, _, lost_of_empty (fun id hid => hdown (H.up id hid)) x.agent.session x.agent.state⟩

theorem handshake_lost (a : AgentConnection ℕ) {ok sent : Bool} (h : (ok && sent) = false) :
    ∃ session state, (handshakeDone a ok sent).1 = a.lost session state := by
  cases ok with
  | false => exact ⟨a.session, .disconnected, rfl⟩
  | true =>
      obtain rfl : sent = false := by simpa using h
      exact ⟨false, .disconnected, rfl⟩

/-! ## Requests -/

/-- The connection after a request was submitted. -/
def Exchange.submitted (x : Exchange) (id httpRequest : Str) (s : StreamId) : AgentConnection ℕ :=
  (x.agent.register id httpRequest x.requests.length s).startTimer id s

theorem send_accepted {s : StreamId} (haccepts : x.agent.Accepts s) (id httpRequest : Str)
    (sent : Bool) :
    (exchangeStep x (.send id httpRequest s sent)).requests = x.requests ++ [id] ∧
      (exchangeStep x (.send id httpRequest s sent)).opened = x.opened ++ [(x.requests.length, s)] ∧
      (exchangeStep x (.send id httpRequest s sent)).agent =
        if sent then x.submitted id httpRequest s
        else (x.submitted id httpRequest s).lost false .disconnected := by
  simp only [exchangeStep, Exchange.advance, Exchange.request, sendHttpRequest_of_accepts haccepts,
    if_pos haccepts, true_and]
  cases sent with
  | true => rfl
  | false =>
      have hstate : (x.agent.register id httpRequest x.requests.length s).state = .connected := haccepts.1
      simp only [close, hstate, Bool.false_eq_true, if_false, reduceCtorEq, or_self]
      rfl

theorem send_refused {s : StreamId} (h : ¬ x.agent.Accepts s) (id httpRequest : Str) (sent : Bool) :
    (exchangeStep x (.send id httpRequest s sent)).requests = x.requests ++ [id] ∧
      (exchangeStep x (.send id httpRequest s sent)).opened = x.opened ∧
      (exchangeStep x (.send id httpRequest s sent)).agent = x.agent := by
  simp [exchangeStep, Exchange.advance, Exchange.request, sendHttpRequest_of_not_accepts h, h]

/-- The requests before the last have the streams they had. -/
theorem Indexed.opened_refused (H : Indexed x) {y : Exchange} {id : Str}
    (hrequests : y.requests = x.requests ++ [id]) (hopened : y.opened = x.opened) (id' : Str)
    (s' : StreamId) : y.Opened id' s' ↔ x.Opened id' s' := by
  simp only [Exchange.Opened, hrequests, hopened]
  refine exists_congr fun call => and_congr_right fun hmem => ?_
  rw [List.getElem?_append_left (H.lt _ hmem)]

theorem Indexed.opened_accepted (H : Indexed x) {y : Exchange} {id : Str} {s : StreamId}
    (hrequests : y.requests = x.requests ++ [id])
    (hopened : y.opened = x.opened ++ [(x.requests.length, s)]) (id' : Str) (s' : StreamId) :
    y.Opened id' s' ↔ x.Opened id' s' ∨ id' = id ∧ s' = s := by
  simp only [Exchange.Opened, hrequests, hopened, List.mem_append, List.mem_singleton, Prod.mk.injEq]
  constructor
  · rintro ⟨call, hmem | ⟨rfl, rfl⟩, hid⟩
    · exact .inl ⟨call, hmem, by rwa [List.getElem?_append_left (H.lt _ hmem)] at hid⟩
    · rw [List.getElem?_concat_length] at hid
      exact .inr ⟨(Option.some.inj hid).symm, rfl⟩
  · rintro (⟨call, hmem, hid⟩ | ⟨rfl, rfl⟩)
    · exact ⟨call, .inl hmem, by rwa [List.getElem?_append_left (H.lt _ hmem)]⟩
    · exact ⟨_, .inr ⟨rfl, rfl⟩, List.getElem?_concat_length⟩

theorem mem_streamBodies_submitted {id httpRequest : Str} {s : StreamId} {id' : Str}
    (h : id' ∈ (x.submitted id httpRequest s).streamBodies) :
    id' = id ∨ id' ∈ x.agent.streamBodies := by
  simp only [Exchange.submitted, AgentConnection.startTimer, AgentConnection.register] at h
  split at h
  · exact .inr h
  · exact (AList.mem_insert _).mp h

/-! What stays as it was when a new request is added. -/

theorem Indexed.nodup_append (H : Indexed x) {id : Str} (hid : id ∉ x.requests) :
    (x.requests ++ [id]).Nodup :=
  H.ids.append (List.nodup_singleton id) (by simpa using hid)

theorem Indexed.lt_append (H : Indexed x) (id : Str) {e : ℕ × StreamId} (he : e ∈ x.opened) :
    e.1 < (x.requests ++ [id]).length := by
  have hlt := H.lt e he
  rw [List.length_append]
  omega

theorem Indexed.callback_append (H : Indexed x) (id : Str) {id' : Str} {call : ℕ}
    (h : x.agent.pendingRequests.lookup id' = some call) : (x.requests ++ [id])[call]? = some id' := by
  have hold := H.callbacks id' call h
  rw [List.getElem?_append_left (List.getElem?_eq_some_iff.mp hold).1]
  exact hold

/-- A stream that is mapped has been opened, so it is not a new one. -/
theorem Indexed.ne_of_mapped (H : Indexed x) {s s' : StreamId} {id : Str}
    (hfresh : s ∉ x.opened.map Prod.snd) (h : x.agent.streamToRequest.lookup s' = some id) : s' ≠ s := by
  obtain ⟨call, hmem, _⟩ := H.mapped s' id h
  rintro rfl
  exact hfresh (List.mem_map_of_mem hmem)

/-- A new request with a new stream. -/
theorem Indexed.submit (H : Indexed x) {y : Exchange} {id httpRequest : Str} {s : StreamId}
    (haccepts : x.agent.Accepts s) (hid : id ∉ x.requests) (hfresh : s ∉ x.opened.map Prod.snd)
    (hrequests : y.requests = x.requests ++ [id])
    (hopened : y.opened = x.opened ++ [(x.requests.length, s)])
    (hagent : y.agent = x.submitted id httpRequest s) : Indexed y := by
  have hnew := H.opened_accepted hrequests hopened
  have hmapped : y.agent.streamToRequest = x.agent.streamToRequest.insert s id := by
    rw [hagent]
    rfl
  have hpending : y.agent.pendingRequests = x.agent.pendingRequests.insert id x.requests.length := by
    rw [hagent]
    rfl
  exact {
    ids := by
      rw [hrequests]
      exact H.nodup_append hid
    lt := by
      rw [hopened, hrequests, List.length_append, List.length_singleton]
      exact lt_of_mem_concat H.lt s
    calls := by
      rw [hopened]
      exact nodup_fst_concat H.lt H.calls s
    streams := by
      rw [hopened, List.map_append]
      exact H.streams.append (List.nodup_singleton _) (by simpa using hfresh)
    timers := by
      intro t ht
      have htimers : t ∈ x.agent.timers ++ [(id, s)] := by
        rw [hagent] at ht
        exact ht
      obtain ht | ht := List.mem_append.mp htimers
      · exact (hnew _ _).mpr (.inl (H.timers t ht))
      · rw [List.mem_singleton.mp ht]
        exact (hnew _ _).mpr (.inr ⟨rfl, rfl⟩)
    mapped := by
      intro s' id' h
      rw [hmapped, Assoc.lookup_insert_ite] at h
      split at h
      · exact (hnew _ _).mpr (.inr ⟨(Option.some.inj h).symm, ‹_›⟩)
      · exact (hnew _ _).mpr (.inl (H.mapped s' id' h))
    pending := by
      intro id' h
      rw [hpending, AList.mem_insert] at h
      rw [hmapped]
      obtain rfl | h := h
      · exact ⟨s, AList.lookup_insert _⟩
      · obtain ⟨s', hs'⟩ := H.pending id' h
        exact ⟨s', (AList.lookup_insert_ne (H.ne_of_mapped hfresh hs')).trans hs'⟩
    callbacks := by
      intro id' call h
      rw [hpending, Assoc.lookup_insert_ite] at h
      rw [hrequests]
      split at h
      · rename_i heq
        rw [← Option.some.inj h, heq]
        exact List.getElem?_concat_length
      · exact H.callback_append id h
    bodies := by
      intro id' h
      rw [hagent] at h
      rw [hrequests]
      obtain rfl | h := mem_streamBodies_submitted h
      · exact List.mem_append_right _ (List.mem_singleton_self _)
      · exact List.mem_append_left _ (H.bodies id' h)
    up := by
      rw [hagent]
      exact fun _ _ => haccepts.1 }

theorem Indexed.refuse (H : Indexed x) {y : Exchange} {id : Str} (hid : id ∉ x.requests)
    (hrequests : y.requests = x.requests ++ [id]) (hopened : y.opened = x.opened)
    (hagent : y.agent = x.agent) : Indexed y := by
  have hold := H.opened_refused hrequests hopened
  exact {
    ids := by
      rw [hrequests]
      exact H.nodup_append hid
    lt := by
      intro e he
      rw [hopened] at he
      rw [hrequests]
      exact H.lt_append id he
    calls := by
      rw [hopened]
      exact H.calls
    streams := by
      rw [hopened]
      exact H.streams
    timers := by
      rw [hagent]
      exact fun t ht => (hold _ _).mpr (H.timers t ht)
    mapped := by
      rw [hagent]
      exact fun s' id' h => (hold _ _).mpr (H.mapped s' id' h)
    pending := by
      rw [hagent]
      exact H.pending
    callbacks := by
      intro id' call h
      rw [hagent] at h
      rw [hrequests]
      exact H.callback_append id h
    bodies := by
      rw [hagent, hrequests]
      exact fun id' h => List.mem_append_left _ (H.bodies id' h)
    up := by
      rw [hagent]
      exact H.up }

theorem Indexed.send (H : Indexed x) {id httpRequest : Str} {s : StreamId} {sent : Bool}
    (hdistinct : Distinct x (.send id httpRequest s sent)) :
    Indexed (exchangeStep x (.send id httpRequest s sent)) := by
  by_cases haccepts : x.agent.Accepts s
  · obtain ⟨hrequests, hopened, hagent⟩ := send_accepted haccepts id httpRequest sent
    have hsubmit := H.submit (y := { exchangeStep x (.send id httpRequest s sent) with
      agent := x.submitted id httpRequest s }) haccepts hdistinct.1 (hdistinct.2 haccepts) hrequests
      hopened rfl
    refine hsubmit.shrinks rfl rfl ?_
    rw [hagent]
    cases sent with
    | true => exact .of_eq (.refl _) rfl rfl rfl fun h => h
    | false => exact .lost _ false .disconnected
  · obtain ⟨hrequests, hopened, hagent⟩ := send_refused haccepts id httpRequest sent
    exact H.refuse hdistinct.1 hrequests hopened hagent

theorem indexed_step (x : Exchange) (e : ExchangeEvent) (H : Indexed x) (hdistinct : Distinct x e) :
    Indexed (exchangeStep x e) := by
  cases e with
  | start sent =>
      refine H.shrinks rfl rfl ?_
      cases sent with
      | true =>
          obtain ⟨session, hstart⟩ := start_true x.agent
          rw [exchangeStep, Exchange.advance, hstart]
          exact .of_eq (.refl _) rfl rfl rfl id
      | false =>
          obtain ⟨session, state, hstart⟩ := H.start_false
          rw [exchangeStep, Exchange.advance, hstart]
          exact .lost _ session state
  | handshake ok sent =>
      refine H.shrinks rfl rfl ?_
      cases hup : ok && sent with
      | true =>
          obtain ⟨rfl, rfl⟩ := Bool.and_eq_true_iff.mp hup
          exact .of_eq (.refl _) rfl rfl rfl fun _ => rfl
      | false =>
          obtain ⟨session, state, hlost⟩ := handshake_lost x.agent hup
          rw [exchangeStep, Exchange.advance, hlost]
          exact .lost _ session state
  | send id httpRequest s sent => exact H.send hdistinct
  | header s name value =>
      refine H.shrinks rfl rfl ?_
      simp only [exchangeStep, onHeader]
      split
      · exact .of_eq (.refl _) rfl rfl rfl id
      · exact .of_eq (.refl _) rfl rfl rfl id
  | data s data => exact H.shrinks rfl rfl (.of_eq (.refl _) rfl rfl rfl id)
  | frame f =>
      refine H.shrinks rfl rfl ?_
      rw [exchangeStep, Exchange.advance]
      obtain ⟨s, _, heq⟩ | ⟨_, heq⟩ | ⟨_, heq⟩ := onFrameRecv_cases x.agent f
      · rw [heq]
        exact shrinks_complete x.agent s
      · obtain ⟨session, state, hclose⟩ := close_eq_lost H.up
        rw [heq, hclose]
        exact .lost _ session state
      · rw [heq]
        exact .of_eq (.refl _) rfl rfl rfl id
  | timer i => exact H.shrinks rfl rfl (H.shrinks_timer i)
  | disconnect =>
      refine H.shrinks rfl rfl ?_
      obtain ⟨session, state, hclose⟩ := close_eq_lost H.up
      rw [exchangeStep, Exchange.advance, hclose]
      exact .lost _ session state

end

/-! ## Residue -/

/-- No entry for the id or the stream is left. -/
structure Gone (a : AgentConnection ℕ) (id : Str) (s : StreamId) : Prop where
  mapped : s ∉ a.streamToRequest
  body : id ∉ a.streamBodies
  headers : s ∉ a.streamHeaders
  received : s ∉ a.streamBodiesRecv

/-- Nothing is left of a request that is not pending any more. -/
def NoResidue (x : Exchange) : Prop :=
  ∀ id s, x.Opened id s → id ∉ x.agent.pendingRequests → Gone x.agent id s

def NonePending (x : Exchange) : Prop := ∀ id, id ∉ x.agent.pendingRequests

/-- The connection is lost only while no request is pending, also not by the send of a
request; a request times out only before anything has come on its stream; and on the stream
of a request that is not pending nothing comes, except for pseudo-headers that are skipped. -/
def LeavesNothing (x : Exchange) : ExchangeEvent → Prop
  | .start sent => sent = false → NonePending x
  | .handshake ok sent => (ok && sent) = false → NonePending x
  | .send _ _ s sent => x.agent.Accepts s → sent = true
  | .header s name value =>
      addHeader none name value ≠ none → ∀ id, x.Opened id s → id ∈ x.agent.pendingRequests
  | .data s _ => ∀ id, x.Opened id s → id ∈ x.agent.pendingRequests
  | .frame .goaway => NonePending x
  | .frame _ => True
  | .timer i => ∀ id s, x.agent.timers[i]? = some (id, s) → id ∈ x.agent.pendingRequests →
      s ∉ x.agent.streamHeaders ∧ s ∉ x.agent.streamBodiesRecv
  | .disconnect => NonePending x

section
variable {x : Exchange}

/-- Losing the connection leaves something of every pending request. -/
theorem noResidue_lost_iff (H : Indexed x) (h : NoResidue x) {y : Exchange}
    (hopened : ∀ id s, y.Opened id s ↔ x.Opened id s) {session : Bool} {state : State}
    (hagent : y.agent = x.agent.lost session state) : NoResidue y ↔ NonePending x := by
  constructor
  · intro hy id hid
    obtain ⟨s, hs⟩ := H.pending id hid
    have hgone := hy id s ((hopened id s).mpr (H.mapped s id hs)) (by simp [hagent, AgentConnection.lost])
    rw [hagent] at hgone
    have hnone : x.agent.streamToRequest.lookup s = none := AList.lookup_eq_none.mpr hgone.mapped
    rw [hnone] at hs
    cases hs
  · intro hnone id s ho _
    obtain ⟨hmapped, hbody, hheaders, hreceived⟩ := h id s ((hopened id s).mp ho) (hnone id)
    rw [hagent]
    exact ⟨hmapped, hbody, hheaders, hreceived⟩

/-- What is stored for a stream is left behind if its request is not pending. -/
theorem noResidue_stored_iff (h : NoResidue x) {y : Exchange} {s : StreamId} {P Q : Prop}
    (hopened : ∀ id s, y.Opened id s ↔ x.Opened id s)
    (hpending : y.agent.pendingRequests = x.agent.pendingRequests)
    (hmapped : y.agent.streamToRequest = x.agent.streamToRequest)
    (hbodies : y.agent.streamBodies = x.agent.streamBodies)
    (hheaders : ∀ s', s' ∈ y.agent.streamHeaders ↔ s' ∈ x.agent.streamHeaders ∨ s' = s ∧ P)
    (hreceived : ∀ s', s' ∈ y.agent.streamBodiesRecv ↔ s' ∈ x.agent.streamBodiesRecv ∨ s' = s ∧ Q) :
    NoResidue y ↔ (P ∨ Q → ∀ id, x.Opened id s → id ∈ x.agent.pendingRequests) := by
  constructor
  · intro hy hstored id ho
    by_contra hid
    have hgone := hy id s ((hopened id s).mpr ho) (by rwa [hpending])
    cases hstored with
    | inl hP => exact hgone.headers ((hheaders s).mpr (.inr ⟨rfl, hP⟩))
    | inr hQ => exact hgone.received ((hreceived s).mpr (.inr ⟨rfl, hQ⟩))
  · intro hstored id s' ho hid
    rw [hopened] at ho
    rw [hpending] at hid
    have hgone := h id s' ho hid
    refine ⟨by rw [hmapped]; exact hgone.mapped, by rw [hbodies]; exact hgone.body, ?_, ?_⟩
    · rw [hheaders]
      rintro (hold | ⟨rfl, hP⟩)
      · exact hgone.headers hold
      · exact hid (hstored (.inl hP) id ho)
    · rw [hreceived]
      rintro (hold | ⟨rfl, hQ⟩)
      · exact hgone.received hold
      · exact hid (hstored (.inr hQ) id ho)

theorem mem_streamHeaders_onHeader (a : AgentConnection ℕ) (s : StreamId) (name value : Str)
    (s' : StreamId) : s' ∈ (onHeader a s name value).streamHeaders ↔
      s' ∈ a.streamHeaders ∨ s' = s ∧ addHeader none name value ≠ none := by
  simp only [onHeader]
  cases hlookup : a.streamHeaders.lookup s with
  | none =>
      cases haddHeader : addHeader none name value with
      | none => simp
      | some text => simp [or_comm]
  | some text =>
      have hmem : s ∈ a.streamHeaders := Assoc.mem_of_lookup hlookup
      have hadded : addHeader (some text) name value = some (text ++ headerLines (regular [(name, value)])) :=
        addHeader_some text (name, value)
      rw [hadded]
      simp only [AList.mem_insert]
      constructor
      · rintro (rfl | hold)
        · exact .inl hmem
        · exact .inl hold
      · rintro (hold | ⟨rfl, _⟩)
        · exact .inr hold
        · exact .inl rfl

theorem noResidue_header_iff (h : NoResidue x) (s : StreamId) (name value : Str) :
    NoResidue (exchangeStep x (.header s name value)) ↔ LeavesNothing x (.header s name value) := by
  have hsame : (onHeader x.agent s name value).pendingRequests = x.agent.pendingRequests ∧
      (onHeader x.agent s name value).streamToRequest = x.agent.streamToRequest ∧
      (onHeader x.agent s name value).streamBodies = x.agent.streamBodies ∧
      (onHeader x.agent s name value).streamBodiesRecv = x.agent.streamBodiesRecv := by
    simp only [onHeader]
    split
    · exact ⟨rfl, rfl, rfl, rfl⟩
    · exact ⟨rfl, rfl, rfl, rfl⟩
  obtain ⟨hpending, hmapped, hbodies, hreceived⟩ := hsame
  have hiff := noResidue_stored_iff (Q := False) (y := exchangeStep x (.header s name value)) h
    (fun _ _ => Iff.rfl) hpending hmapped hbodies (mem_streamHeaders_onHeader x.agent s name value)
    (by simp [exchangeStep, hreceived])
  rwa [or_false] at hiff

theorem noResidue_data_iff (h : NoResidue x) (s : StreamId) (data : Str) :
    NoResidue (exchangeStep x (.data s data)) ↔ LeavesNothing x (.data s data) := by
  have hiff := noResidue_stored_iff (P := False) (Q := True) (s := s)
    (y := exchangeStep x (.data s data)) h (fun _ _ => Iff.rfl) rfl rfl rfl
    (by simp [exchangeStep, onDataChunk]) (by simp [exchangeStep, onDataChunk, or_comm])
  rwa [false_or, forall_true_left] at hiff

theorem NoResidue.complete (H : Indexed x) (h : NoResidue x) (s : StreamId) :
    NoResidue (x.advance (completeRequest x.agent s)) := by
  obtain ⟨id, _, hmap, _, heq⟩ | ⟨_, heq⟩ := completeRequest_cases x.agent s
  · rw [heq]
    intro id' s' ho hid'
    replace ho : x.Opened id' s' := ho
    replace hid' : id' ∉ x.agent.pendingRequests.erase id := hid'
    show Gone (x.agent.completed id s) id' s'
    by_cases hid : id' = id
    · subst hid
      obtain rfl := H.stream_eq (H.mapped s id' hmap) ho
      constructor <;> simp [AgentConnection.completed]
    · have hgone := h id' s' ho (by simpa [hid] using hid')
      constructor <;> simp [AgentConnection.completed, hgone.mapped, hgone.body, hgone.headers, hgone.received]
  · rw [heq]
    exact h

theorem noResidue_timer_iff (H : Indexed x) (h : NoResidue x) (i : ℕ) :
    NoResidue (exchangeStep x (.timer i)) ↔ LeavesNothing x (.timer i) := by
  simp only [exchangeStep, LeavesNothing]
  obtain ⟨id, s, callback, htimer, hstored, heq⟩ | ⟨hsettled, timers, _, heq⟩ := timerExpired_cases x.agent i
  · have ho := H.timers _ (List.mem_of_getElem? htimer)
    rw [heq]
    constructor
    · intro hy id' s' htimer' _
      obtain ⟨rfl, rfl⟩ := Prod.mk.inj (Option.some.inj (htimer.symm.trans htimer'))
      have hgone := hy id s ho (by simp [Exchange.advance, AgentConnection.timedOut])
      exact ⟨hgone.headers, hgone.received⟩
    · intro hcond id' s' ho' hid'
      replace ho' : x.Opened id' s' := ho'
      replace hid' : id' ∉ x.agent.pendingRequests.erase id := hid'
      by_cases hid : id' = id
      · subst hid
        obtain rfl := H.stream_eq ho ho'
        have hpending : id' ∈ x.agent.pendingRequests := Assoc.mem_of_lookup hstored
        obtain ⟨hheaders, hreceived⟩ := hcond id' s htimer hpending
        exact ⟨by simp [Exchange.advance, AgentConnection.timedOut],
          by simp [Exchange.advance, AgentConnection.timedOut], hheaders, hreceived⟩
      · have hgone := h id' s' ho' (by simpa [hid] using hid')
        exact ⟨by simp [Exchange.advance, AgentConnection.timedOut, hgone.mapped],
          by simp [Exchange.advance, AgentConnection.timedOut, hgone.body], hgone.headers,
          hgone.received⟩
  · rw [heq]
    refine iff_of_true (fun id s ho hid => ?_) fun id s htimer hid => absurd hid (hsettled id s htimer)
    obtain ⟨hmapped, hbody, hheaders, hreceived⟩ := h id s ho hid
    exact ⟨hmapped, hbody, hheaders, hreceived⟩

theorem noResidue_send_iff (H : Indexed x) (h : NoResidue x) {id httpRequest : Str} {s : StreamId}
    {sent : Bool} (hdistinct : Distinct x (.send id httpRequest s sent)) :
    NoResidue (exchangeStep x (.send id httpRequest s sent)) ↔
      LeavesNothing x (.send id httpRequest s sent) := by
  by_cases haccepts : x.agent.Accepts s
  · obtain ⟨hrequests, hopened, hagent⟩ := send_accepted haccepts id httpRequest sent
    have hnew := H.opened_accepted hrequests hopened
    simp only [LeavesNothing, haccepts, forall_true_left]
    cases sent with
    | false =>
        refine iff_of_false (fun hy => ?_) (by simp)
        rw [if_neg (by simp)] at hagent
        have hgone := hy id s ((hnew id s).mpr (.inr ⟨rfl, rfl⟩)) (by simp [hagent, AgentConnection.lost])
        rw [hagent] at hgone
        exact hgone.mapped ((AList.mem_insert _).mpr (.inl rfl))
    | true =>
        refine iff_of_true (fun id' s' ho hid' => ?_) rfl
        rw [if_pos rfl] at hagent
        rw [hagent] at hid' ⊢
        replace hid' : id' ∉ x.agent.pendingRequests.insert id x.requests.length := hid'
        rw [AList.mem_insert, not_or] at hid'
        obtain hold | ⟨rfl, _⟩ := (hnew id' s').mp ho
        · have hgone := h id' s' hold hid'.2
          refine ⟨?_, ?_, hgone.headers, hgone.received⟩
          · have hne : s' ≠ s := by
              rintro rfl
              obtain ⟨call, hmem, _⟩ := hold
              exact hdistinct.2 haccepts (List.mem_map_of_mem hmem)
            exact fun hmem => hgone.mapped (((AList.mem_insert _).mp hmem).resolve_left hne)
          · exact fun hmem => hgone.body ((mem_streamBodies_submitted hmem).resolve_left hid'.1)
        · exact absurd rfl hid'.1
  · obtain ⟨hrequests, hopened, hagent⟩ := send_refused haccepts id httpRequest sent
    have hold := H.opened_refused hrequests hopened
    refine iff_of_true (fun id' s' ho hid' => ?_) fun h => absurd h haccepts
    rw [hagent] at hid' ⊢
    exact h id' s' ((hold id' s').mp ho) hid'

theorem noResidue_frame_iff (H : Indexed x) (h : NoResidue x) (f : RecvFrame) :
    NoResidue (exchangeStep x (.frame f)) ↔ LeavesNothing x (.frame f) := by
  have hcondition : f ≠ .goaway → LeavesNothing x (.frame f) := by
    intro hf
    cases f with
    | goaway => exact absurd rfl hf
    | _ => trivial
  obtain ⟨s, hends, heq⟩ | ⟨rfl, heq⟩ | ⟨hf, heq⟩ := onFrameRecv_cases x.agent f
  · refine iff_of_true ?_ (hcondition ?_)
    · rw [exchangeStep, heq]
      exact h.complete H s
    · obtain rfl | rfl := hends
      · simp
      · simp
  · obtain ⟨_, _, hclose⟩ := close_eq_lost H.up
    exact noResidue_lost_iff H h (fun _ _ => Iff.rfl) hclose
  · refine iff_of_true ?_ (hcondition hf)
    rw [exchangeStep, heq]
    exact h

/-- From a state without residue a step leads to one exactly if it meets the condition. -/
theorem noResidue_step_iff (x : Exchange) (e : ExchangeEvent) (H : Indexed x)
    (hdistinct : Distinct x e) (h : NoResidue x) :
    NoResidue (exchangeStep x e) ↔ LeavesNothing x e := by
  cases e with
  | start sent =>
      cases sent with
      | true =>
          obtain ⟨session, hstart⟩ := start_true x.agent
          refine iff_of_true ?_ (by simp [LeavesNothing])
          rw [exchangeStep, Exchange.advance, hstart]
          exact fun id s ho hid =>
            have hgone := h id s ho hid
            ⟨hgone.mapped, hgone.body, hgone.headers, hgone.received⟩
      | false =>
          obtain ⟨_, _, hstart⟩ := H.start_false
          simp only [LeavesNothing, forall_true_left]
          exact noResidue_lost_iff H h (fun _ _ => Iff.rfl) hstart
  | handshake ok sent =>
      cases hup : ok && sent with
      | true =>
          obtain ⟨rfl, rfl⟩ := Bool.and_eq_true_iff.mp hup
          refine iff_of_true (fun id s ho hid => ?_) (by simp [LeavesNothing])
          obtain ⟨hmapped, hbody, hheaders, hreceived⟩ := h id s ho hid
          exact ⟨hmapped, hbody, hheaders, hreceived⟩
      | false =>
          obtain ⟨_, _, hlost⟩ := handshake_lost x.agent hup
          simp only [LeavesNothing, hup, forall_true_left]
          exact noResidue_lost_iff H h (fun _ _ => Iff.rfl) hlost
  | send id httpRequest s sent => exact noResidue_send_iff H h hdistinct
  | header s name value => exact noResidue_header_iff h s name value
  | data s data => exact noResidue_data_iff h s data
  | frame f => exact noResidue_frame_iff H h f
  | timer i => exact noResidue_timer_iff H h i
  | disconnect =>
      obtain ⟨_, _, hclose⟩ := close_eq_lost H.up
      exact noResidue_lost_iff H h (fun _ _ => Iff.rfl) hclose

end

/-- **No residue** is left throughout a run with distinct request ids exactly if the
connection is lost only while no request is pending, requests time out only before anything
has come on their streams, and nothing comes afterwards. -/
theorem no_residue_iff (state : State) (evs : List ExchangeEvent)
    (H : Along exchangeStep Distinct (Exchange.init state) evs) :
    Always exchangeStep NoResidue (Exchange.init state) evs ↔
      Along exchangeStep LeavesNothing (Exchange.init state) evs := by
  refine always_iff_along_under Indexed indexed_step noResidue_step_iff (indexed_init state) ?_ H
  rintro id s ⟨call, hmem, _⟩
  cases hmem

/-- A connection that comes up, with a request on stream 1. -/
def sampleRequested : List ExchangeEvent :=
  [.start true, .send "a".toList "GET / HTTP/1.1\r\n\r\n".toList 1 true]

/-- The response comes to its end. -/
theorem no_residue_answered :
    Always exchangeStep NoResidue (Exchange.init .connected) (sampleRequested ++
        [.header 1 ":status".toList "200".toList, .data 1 "x".toList, .frame (.data 1 true)]) ↔
      Along exchangeStep LeavesNothing (Exchange.init .connected) (sampleRequested ++
        [.header 1 ":status".toList "200".toList, .data 1 "x".toList, .frame (.data 1 true)]) :=
  no_residue_iff .connected _ (by decide)

/-- The timer expires after a header field has come; it expires, and data come later; and the
connection is lost while the request is pending.  In all three the request ids are distinct. -/
theorem not_no_residue :
    (Along exchangeStep Distinct (Exchange.init .connected) (sampleRequested ++
        [.header 1 ":status".toList "200".toList, .timer 0]) ∧
      ¬ Always exchangeStep NoResidue (Exchange.init .connected) (sampleRequested ++
        [.header 1 ":status".toList "200".toList, .timer 0])) ∧
    (Along exchangeStep Distinct (Exchange.init .connected) (sampleRequested ++
        [.timer 0, .data 1 "x".toList]) ∧
      ¬ Always exchangeStep NoResidue (Exchange.init .connected) (sampleRequested ++
        [.timer 0, .data 1 "x".toList])) ∧
    Along exchangeStep Distinct (Exchange.init .connected) (sampleRequested ++ [.disconnect]) ∧
      ¬ Always exchangeStep NoResidue (Exchange.init .connected) (sampleRequested ++
        [.disconnect]) := by
  refine ⟨⟨by decide, fun H => ?_⟩, ⟨by decide, fun H => ?_⟩, by decide, fun H => ?_⟩
  · have hgone := H.2.2.2.2 "a".toList 1 ⟨0, by decide, by decide⟩ (by decide)
    exact absurd hgone.headers (by decide)
  · have hgone := H.2.2.2.2 "a".toList 1 ⟨0, by decide, by decide⟩ (by decide)
    exact absurd hgone.received (by decide)
  · have hgone := H.2.2.2 "a".toList 1 ⟨0, by decide, by decide⟩ (by decide)
    exact absurd hgone.mapped (by decide)

end Protogate.Agent
