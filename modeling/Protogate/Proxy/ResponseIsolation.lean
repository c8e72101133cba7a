import Protogate.Proxy.HttpProxy
import Mathlib.Data.List.Nodup

/-!
# Whose response a client gets

Two calls in the same second share a request id.  The second takes over the
callback of the first, and the end of either stream invokes it.  While a request id
is never given to a call as long as a stream is mapped to it, every stream leads to
the callback of the call that opened it.

## Main definitions

* `Unshared` — the condition on the calls.
* `Resolves` — what an operation of the agent connection may do to the callbacks.
* `responses_isolated` — the answers are isolated in runs that meet the condition.
-/

namespace Protogate.Proxy

open Protogate.Lib Protogate.Agent

/-- When a request is submitted, nghttp2 gives it a new stream. -/
def FreshStream (r : Relay) : RelayEvent → Prop
  | .route _ env => Submits r env → env.streamId ∉ r.opened.map Prod.snd
  | _ => True

instance (r : Relay) : (e : RelayEvent) → Decidable (FreshStream r e)
  | .route _ env =>
      inferInstanceAs (Decidable (Submits r env → env.streamId ∉ r.opened.map Prod.snd))
  | .header _ _ _ | .data _ _ | .frame _ | .timer _ | .disconnect =>
      inferInstanceAs (Decidable True)

/-- Besides, no stream is mapped to its request id. -/
def Unshared (r : Relay) : RelayEvent → Prop
  | .route request env => FreshStream r (.route request env) ∧
      (Submits r env → ∀ e ∈ r.agent.streamToRequest.entries, e.2 ≠ env.requestId)
  | _ => True

instance (r : Relay) : (e : RelayEvent) → Decidable (Unshared r e)
  | .route request env => inferInstanceAs (Decidable (FreshStream r (.route request env) ∧
      (Submits r env → ∀ e ∈ r.agent.streamToRequest.entries, e.2 ≠ env.requestId)))
  | .header _ _ _ | .data _ _ | .frame _ | .timer _ | .disconnect =>
      inferInstanceAs (Decidable True)

/-! ## The invariant -/

/-- What the agent connection has collected for a stream is what was heard on it. -/
structure Collected (r : Relay) (streamId : StreamId) : Prop where
  headers : r.agent.streamHeaders.lookup streamId = headersHeard streamId r.heard
  body : r.agent.streamBodiesRecv.lookup streamId = bodyHeard streamId r.heard

/-- Callbacks are calls made, and each is stored once.  Answered calls are calls made,
each is answered once, and none is stored any more. -/
structure CallsInv (r : Relay) : Prop where
  pending_lt : ∀ id call, r.agent.pendingRequests.lookup id = some call → call < r.calls
  pending_inj : ∀ id id' call, r.agent.pendingRequests.lookup id = some call →
    r.agent.pendingRequests.lookup id' = some call → id = id'
  replied_lt : ∀ reply ∈ r.replies, reply.call < r.calls
  once : (r.replies.map Reply.call).Nodup
  unanswered : ∀ id call, r.agent.pendingRequests.lookup id = some call →
    call ∉ r.replies.map Reply.call

/-- A mapped stream was opened, and leads to the callback of the call that opened it.
All that was heard is kept for mapped streams and for those not yet opened. -/
structure StreamsInv (r : Relay) : Prop where
  known : ∀ streamId id, r.agent.streamToRequest.lookup streamId = some id →
    streamId ∈ r.opened.map Prod.snd
  opener : ∀ streamId id call, r.agent.streamToRequest.lookup streamId = some id →
    r.agent.pendingRequests.lookup id = some call → (call, streamId) ∈ r.opened
  collected : ∀ streamId, (r.agent.streamToRequest.lookup streamId).isSome ∨
    streamId ∉ r.opened.map Prod.snd → Collected r streamId

/-- The answers given so far are right. -/
structure RepliesInv (r : Relay) : Prop where
  heard_le : ∀ reply ∈ r.replies, reply.heardBefore ≤ r.heard.length
  own : ∀ reply ∈ r.replies, reply.error = none →
    ∃ streamId, (reply.call, streamId) ∈ r.opened ∧
      reply.text = textHeard streamId (r.heard.take reply.heardBefore)

structure RelayInv (r : Relay) : Prop where
  calls : CallsInv r
  streams : StreamsInv r
  replies : RepliesInv r

theorem RelayInv.isolated {r : Relay} (H : RelayInv r) : Isolated r := ⟨H.calls.once, H.replies.own⟩

theorem relayInv_init : RelayInv Relay.init where
  calls := by
    refine ⟨?_, ?_, ?_, List.nodup_nil, ?_⟩ <;> simp [Relay.init, AgentConnection.started]
  streams := by
    refine ⟨?_, ?_, fun _ _ => ⟨rfl, rfl⟩⟩ <;> simp [Relay.init, AgentConnection.started]
  replies := by
    refine ⟨?_, ?_⟩ <;> simp [Relay.init]

/-! ## Resolving requests -/

/-- An operation that adds no request: callbacks that are invoked were stored and are
not any more, streams stay mapped as they are or not at all, and what is collected
for the mapped streams and those not opened stays.  A response is what was heard on
the stream the call opened. -/
structure Resolves (r : Relay) (agent : AgentConnection ℕ) (invoked : List (Invocation ℕ)) : Prop where
  pending : ∀ id call, agent.pendingRequests.lookup id = some call →
    r.agent.pendingRequests.lookup id = some call ∧ call ∉ invoked.map Invocation.callback
  stored : ∀ i ∈ invoked, ∃ id, r.agent.pendingRequests.lookup id = some i.callback
  once : (invoked.map Invocation.callback).Nodup
  streams : ∀ streamId id, agent.streamToRequest.lookup streamId = some id →
    r.agent.streamToRequest.lookup streamId = some id
  collected : ∀ streamId, (agent.streamToRequest.lookup streamId).isSome ∨
    streamId ∉ r.opened.map Prod.snd →
      agent.streamHeaders.lookup streamId = r.agent.streamHeaders.lookup streamId ∧
        agent.streamBodiesRecv.lookup streamId = r.agent.streamBodiesRecv.lookup streamId
  own : ∀ i ∈ invoked, i.error = false →
    ∃ streamId, (i.callback, streamId) ∈ r.opened ∧ i.response = textHeard streamId r.heard

@[simp] theorem call_answer (n : ℕ) (i : Invocation ℕ) : (answer n i).call = i.callback := by
  simp only [answer]
  split <;> rfl

@[simp] theorem heardBefore_answer (n : ℕ) (i : Invocation ℕ) : (answer n i).heardBefore = n := by
  simp only [answer]
  split <;> rfl

/-- Only a response is passed on as such. -/
theorem answer_of_error_none {n : ℕ} {i : Invocation ℕ} (h : (answer n i).error = none) :
    i.error = false ∧ (answer n i).text = i.response := by
  by_cases herror : i.error = true
  · rw [answer, if_pos herror] at h
    cases h
  · rw [answer, if_neg herror]
    exact ⟨by simpa using herror, rfl⟩

theorem map_call_answer (n : ℕ) (invoked : List (Invocation ℕ)) :
    (invoked.map (answer n)).map Reply.call = invoked.map Invocation.callback := by
  rw [List.map_map]
  exact List.map_congr_left fun i _ => call_answer n i

section
variable {r : Relay}

theorem CallsInv.advance (H : CallsInv r) {agent : AgentConnection ℕ}
    {invoked : List (Invocation ℕ)} (hop : Resolves r agent invoked) :
    CallsInv (r.advance (agent, invoked)) where
  pending_lt := fun id call hcall => H.pending_lt id call (hop.pending id call hcall).1
  pending_inj := fun id id' call hid hid' =>
    H.pending_inj id id' call (hop.pending id call hid).1 (hop.pending id' call hid').1
  replied_lt := by
    intro reply hreply
    rcases List.mem_append.mp hreply with hreply | hreply
    · exact H.replied_lt reply hreply
    · obtain ⟨i, hi, rfl⟩ := List.mem_map.mp hreply
      obtain ⟨id, hid⟩ := hop.stored i hi
      rw [call_answer]
      exact H.pending_lt id i.callback hid
  once := by
    show ((r.replies ++ invoked.map (answer r.heard.length)).map Reply.call).Nodup
    rw [List.map_append, map_call_answer, List.nodup_append']
    refine ⟨H.once, hop.once, ?_⟩
    intro call hold hnew
    obtain ⟨i, hi, rfl⟩ := List.mem_map.mp hnew
    obtain ⟨id, hid⟩ := hop.stored i hi
    exact H.unanswered id i.callback hid hold
  unanswered := by
    intro id call hcall
    obtain ⟨hold, hnew⟩ := hop.pending id call hcall
    show call ∉ (r.replies ++ invoked.map (answer r.heard.length)).map Reply.call
    rw [List.map_append, map_call_answer, List.mem_append, not_or]
    exact ⟨H.unanswered id call hold, hnew⟩

theorem StreamsInv.advance (H : StreamsInv r) {agent : AgentConnection ℕ}
    {invoked : List (Invocation ℕ)} (hop : Resolves r agent invoked) :
    StreamsInv (r.advance (agent, invoked)) where
  known := fun streamId id hmap => H.known streamId id (hop.streams streamId id hmap)
  opener := fun streamId id call hmap hcall =>
    H.opener streamId id call (hop.streams streamId id hmap) (hop.pending id call hcall).1
  collected := by
    intro streamId hlive
    have hold : (r.agent.streamToRequest.lookup streamId).isSome ∨
        streamId ∉ r.opened.map Prod.snd := by
      rcases hlive with hlive | hlive
      · obtain ⟨id, hid⟩ := Option.isSome_iff_exists.mp hlive
        exact .inl (by rw [hop.streams streamId id hid]; rfl)
      · exact .inr hlive
    obtain ⟨hheaders, hbody⟩ := hop.collected streamId hlive
    have hcollected := H.collected streamId hold
    exact ⟨hheaders.trans hcollected.headers, hbody.trans hcollected.body⟩

theorem RepliesInv.advance (H : RepliesInv r) {agent : AgentConnection ℕ}
    {invoked : List (Invocation ℕ)} (hop : Resolves r agent invoked) :
    RepliesInv (r.advance (agent, invoked)) where
  heard_le := by
    intro reply hreply
    rcases List.mem_append.mp hreply with hreply | hreply
    · exact H.heard_le reply hreply
    · obtain ⟨i, hi, rfl⟩ := List.mem_map.mp hreply
      rw [heardBefore_answer]
      exact le_refl _
  own := by
    intro reply hreply herror
    rcases List.mem_append.mp hreply with hreply | hreply
    · exact H.own reply hreply herror
    · obtain ⟨i, hi, rfl⟩ := List.mem_map.mp hreply
      obtain ⟨hresponse, htext⟩ := answer_of_error_none herror
      obtain ⟨streamId, hopened, hheard⟩ := hop.own i hi hresponse
      refine ⟨streamId, by rw [call_answer]; exact hopened, ?_⟩
      rw [heardBefore_answer, htext, hheard]
      show textHeard streamId r.heard = textHeard streamId (r.heard.take r.heard.length)
      rw [List.take_length]

/-- Such an operation keeps the invariant. -/
theorem RelayInv.advance (H : RelayInv r) {agent : AgentConnection ℕ}
    {invoked : List (Invocation ℕ)} (hop : Resolves r agent invoked) :
    RelayInv (r.advance (agent, invoked)) :=
  ⟨H.calls.advance hop, H.streams.advance hop, H.replies.advance hop⟩

/-- An operation that does nothing to requests. -/
theorem Resolves.none {agent : AgentConnection ℕ}
    (hpending : agent.pendingRequests = r.agent.pendingRequests)
    (hstreams : agent.streamToRequest = r.agent.streamToRequest)
    (hheaders : agent.streamHeaders = r.agent.streamHeaders)
    (hbodies : agent.streamBodiesRecv = r.agent.streamBodiesRecv) : Resolves r agent [] where
  pending := by simp [hpending]
  stored := by simp
  once := List.nodup_nil
  streams := by simp [hstreams]
  collected := by simp [hheaders, hbodies]
  own := by simp

/-- `handle_disconnect` fails every stored callback, each once. -/
theorem RelayInv.resolves_handleDisconnect (H : RelayInv r) (session : Bool) (state : State) :
    Resolves r (handleDisconnect { r.agent with session, state }).1
      (handleDisconnect { r.agent with session, state }).2 := by
  refine ⟨by simp [handleDisconnect], ?_, ?_, fun _ _ h => h, fun _ _ => ⟨rfl, rfl⟩, ?_⟩
  · intro i hi
    obtain ⟨e, he, rfl⟩ := List.mem_map.mp hi
    exact ⟨e.1, Assoc.mem_entries_iff.mp he⟩
  · show ((r.agent.pendingRequests.entries.map fun e => (⟨e.2, [], true⟩ : Invocation ℕ)).map
      Invocation.callback).Nodup
    rw [List.map_map]
    apply (List.NodupKeys.nodup r.agent.pendingRequests.nodupKeys).map_on
    intro e he e' he' heq
    have heq : e.2 = e'.2 := heq
    have hfst := H.calls.pending_inj e.1 e'.1 e.2 (Assoc.mem_entries_iff.mp he)
      (heq ▸ Assoc.mem_entries_iff.mp he')
    exact Sigma.ext hfst (heq_of_eq heq)
  · intro i hi herror
    obtain ⟨e, _, rfl⟩ := List.mem_map.mp hi
    cases herror

theorem RelayInv.resolves_close (H : RelayInv r) :
    Resolves r (close r.agent).1 (close r.agent).2 := by
  simp only [close]
  split
  · exact .none rfl rfl rfl rfl
  · exact H.resolves_handleDisconnect false .disconnected

/-- A stored callback is not stored any more under another id. -/
theorem CallsInv.pending_erase (H : CallsInv r) {requestId : Str} {callback : ℕ}
    (hstored : r.agent.pendingRequests.lookup requestId = some callback) {id : Str} {call : ℕ}
    (h : (r.agent.pendingRequests.erase requestId).lookup id = some call) :
    r.agent.pendingRequests.lookup id = some call ∧ call ≠ callback := by
  obtain ⟨hne, hold⟩ := Assoc.lookup_of_lookup_erase h
  refine ⟨hold, fun heq => hne ?_⟩
  exact H.pending_inj id requestId call hold (heq ▸ hstored)

/-- One callback is invoked; it and a stream are taken out of the maps. -/
theorem RelayInv.resolves_one (H : RelayInv r) {requestId : Str} {streamId : StreamId}
    {agent : AgentConnection ℕ} {i : Invocation ℕ}
    (hstored : r.agent.pendingRequests.lookup requestId = some i.callback)
    (hpending : agent.pendingRequests = r.agent.pendingRequests.erase requestId)
    (hstreams : agent.streamToRequest = r.agent.streamToRequest.erase streamId)
    (hcollected : ∀ s, (agent.streamToRequest.lookup s).isSome ∨ s ∉ r.opened.map Prod.snd →
      agent.streamHeaders.lookup s = r.agent.streamHeaders.lookup s ∧
        agent.streamBodiesRecv.lookup s = r.agent.streamBodiesRecv.lookup s)
    (hown : i.error = false →
      ∃ s, (i.callback, s) ∈ r.opened ∧ i.response = textHeard s r.heard) :
    Resolves r agent [i] where
  pending := by
    intro id call hcall
    rw [hpending] at hcall
    obtain ⟨hold, hne⟩ := H.calls.pending_erase hstored hcall
    exact ⟨hold, by simpa using hne⟩
  stored := by
    intro j hj
    rw [List.mem_singleton.mp hj]
    exact ⟨requestId, hstored⟩
  once := List.nodup_singleton i.callback
  streams := by
    intro s id hid
    rw [hstreams] at hid
    exact (Assoc.lookup_of_lookup_erase hid).2
  collected := hcollected
  own := by
    intro j hj
    rw [List.mem_singleton.mp hj]
    exact hown

/-- The end of a stream invokes the callback of the call that opened it. -/
theorem RelayInv.resolves_complete (H : RelayInv r) (streamId : StreamId) :
    Resolves r (completeRequest r.agent streamId).1 (completeRequest r.agent streamId).2 := by
  obtain ⟨requestId, callback, hmap, hstored, heq⟩ | ⟨_, heq⟩ := completeRequest_cases r.agent streamId
  · rw [heq]
    refine H.resolves_one hstored rfl rfl ?_ ?_
    · intro s hlive
      have hne : s ≠ streamId := by
        rintro rfl
        rcases hlive with hlive | hlive
        · simp [AgentConnection.completed] at hlive
        · exact hlive (H.streams.known s requestId hmap)
      exact ⟨AList.lookup_erase_ne hne, AList.lookup_erase_ne hne⟩
    · intro _
      have hcollected := H.streams.collected streamId (.inl (by rw [hmap]; rfl))
      refine ⟨streamId, H.streams.opener streamId requestId callback hmap hstored, ?_⟩
      rw [textHeard, ← hcollected.headers, ← hcollected.body]
  · rw [heq]
    exact .none rfl rfl rfl rfl

/-- The expiry of a timer fails the callback stored under its request id. -/
theorem RelayInv.resolves_timer (H : RelayInv r) (i : ℕ) :
    Resolves r (timerExpired r.agent i).1 (timerExpired r.agent i).2 := by
  obtain ⟨_, _, _, _, hstored, heq⟩ | ⟨_, _, _, heq⟩ := timerExpired_cases r.agent i
  · rw [heq]
    exact H.resolves_one hstored rfl rfl (fun _ _ => ⟨rfl, rfl⟩) (by simp)
  · rw [heq]
    exact .none rfl rfl rfl rfl

theorem RelayInv.resolves_frame (H : RelayInv r) (f : RecvFrame) :
    Resolves r (onFrameRecv r.agent f).1 (onFrameRecv r.agent f).2 := by
  obtain ⟨streamId, _, heq⟩ | ⟨_, heq⟩ | ⟨_, heq⟩ := onFrameRecv_cases r.agent f
  · rw [heq]
    exact H.resolves_complete streamId
  · rw [heq]
    exact H.resolves_close
  · rw [heq]
    exact .none rfl rfl rfl rfl

/-! ## What is heard -/

theorem headersHeard_concat (streamId : StreamId) (heard : List StreamEvent) (e : StreamEvent) :
    headersHeard streamId (heard ++ [e]) =
      match e with
      | .header s name value =>
          if s = streamId then addHeader (headersHeard streamId heard) name value
          else headersHeard streamId heard
      | .data _ _ => headersHeard streamId heard := by
  rw [headersHeard, List.foldl_append]
  rfl

theorem bodyHeard_concat (streamId : StreamId) (heard : List StreamEvent) (e : StreamEvent) :
    bodyHeard streamId (heard ++ [e]) =
      match e with
      | .header _ _ _ => bodyHeard streamId heard
      | .data s data =>
          if s = streamId then some ((bodyHeard streamId heard).getD [] ++ data)
          else bodyHeard streamId heard := by
  rw [bodyHeard, List.foldl_append]
  rfl

theorem lookup_onHeader (s : AgentConnection ℕ) (streamId k : StreamId) (name value : Str) :
    (onHeader s streamId name value).streamHeaders.lookup k =
      if streamId = k then addHeader (s.streamHeaders.lookup k) name value
      else s.streamHeaders.lookup k := by
  simp only [onHeader]
  split
  · rename_i text htext
    rw [Assoc.lookup_insert_ite]
    by_cases hk : k = streamId
    · subst hk
      rw [if_pos rfl, if_pos rfl, htext]
    · rw [if_neg hk, if_neg (Ne.symm hk)]
  · rename_i htext
    by_cases hk : streamId = k
    · subst hk
      -- a text that is there stays
      have hnone : s.streamHeaders.lookup streamId = none := by
        by_contra hsome
        obtain ⟨text, hlookup⟩ := Option.ne_none_iff_exists'.mp hsome
        rw [hlookup, addHeader] at htext
        split_ifs at htext
      rw [if_pos rfl, htext, hnone]
    · rw [if_neg hk]

/-- More is heard and collected; nothing else changes. -/
theorem RelayInv.hear (H : RelayInv r) {agent : AgentConnection ℕ} (e : StreamEvent)
    (hpending : agent.pendingRequests = r.agent.pendingRequests)
    (hstreams : agent.streamToRequest = r.agent.streamToRequest)
    (hheaders : ∀ s, Collected r s → agent.streamHeaders.lookup s = headersHeard s (r.heard ++ [e]))
    (hbodies : ∀ s, Collected r s → agent.streamBodiesRecv.lookup s = bodyHeard s (r.heard ++ [e])) :
    RelayInv { r with agent, heard := r.heard ++ [e] } where
  calls := by
    refine ⟨?_, ?_, H.calls.replied_lt, H.calls.once, ?_⟩
    all_goals rw [hpending]
    · exact H.calls.pending_lt
    · exact H.calls.pending_inj
    · exact H.calls.unanswered
  streams := by
    refine ⟨?_, ?_, ?_⟩
    all_goals rw [hstreams]
    · exact H.streams.known
    · rw [hpending]
      exact H.streams.opener
    · intro s hlive
      have hcollected := H.streams.collected s hlive
      exact ⟨hheaders s hcollected, hbodies s hcollected⟩
  replies := by
    refine ⟨fun reply hreply => ?_, fun reply hreply herror => ?_⟩
    · have hle := H.replies.heard_le reply hreply
      rw [List.length_append]
      omega
    · obtain ⟨s, hopened, htext⟩ := H.replies.own reply hreply herror
      refine ⟨s, hopened, ?_⟩
      rw [htext, List.take_append_of_le_length (H.replies.heard_le reply hreply)]

theorem RelayInv.header (H : RelayInv r) (streamId : StreamId) (name value : Str) :
    RelayInv (relayStep r (.header streamId name value)) := by
  apply H.hear (.header streamId name value)
  · simp only [onHeader]
    split <;> rfl
  · simp only [onHeader]
    split <;> rfl
  · intro s hs
    rw [lookup_onHeader, headersHeard_concat, hs.headers]
  · intro s hs
    have hsame : (onHeader r.agent streamId name value).streamBodiesRecv =
        r.agent.streamBodiesRecv := by
      simp only [onHeader]
      split <;> rfl
    rw [hsame, bodyHeard_concat, hs.body]

theorem RelayInv.data (H : RelayInv r) (streamId : StreamId) (data : Str) :
    RelayInv (relayStep r (.data streamId data)) := by
  refine H.hear (.data streamId data) rfl rfl ?_ ?_
  · intro s hs
    rw [headersHeard_concat]
    exact hs.headers
  · intro s hs
    show (r.agent.streamBodiesRecv.insert streamId _).lookup s = _
    rw [Assoc.lookup_insert_ite, bodyHeard_concat]
    by_cases heq : s = streamId
    · subst heq
      simp only [if_true, hs.body]
    · simp only [if_neg heq, if_neg (Ne.symm heq), hs.body]

/-! ## Calls -/

theorem CallsInv.fail (H : CallsInv r) {reply : Reply} (hcall : reply.call = r.calls) :
    CallsInv { r with calls := r.calls + 1, replies := r.replies ++ [reply] } where
  pending_lt := by
    intro id call hid
    have hlt := H.pending_lt id call hid
    show call < r.calls + 1
    omega
  pending_inj := H.pending_inj
  replied_lt := by
    intro reply' hreply'
    show reply'.call < r.calls + 1
    rcases List.mem_append.mp hreply' with hreply' | hreply'
    · have hlt := H.replied_lt reply' hreply'
      omega
    · rw [List.mem_singleton.mp hreply', hcall]
      omega
  once := by
    rw [List.map_append, List.nodup_append']
    refine ⟨H.once, List.nodup_singleton _, ?_⟩
    intro call hold hnew
    obtain ⟨reply', hreply', rfl⟩ := List.mem_map.mp hold
    have hlt := H.replied_lt reply' hreply'
    rw [List.mem_singleton.mp hnew, hcall] at hlt
    omega
  unanswered := by
    intro id call hid
    have hlt := H.pending_lt id call hid
    rw [List.map_append, List.mem_append, not_or]
    refine ⟨H.unanswered id call hid, fun hnew => ?_⟩
    rw [List.mem_singleton.mp hnew, hcall] at hlt
    omega

/-- A call that is answered at once with an error. -/
theorem RelayInv.fail (H : RelayInv r) {reply : Reply} (hcall : reply.call = r.calls)
    (herror : reply.error ≠ none) (hle : reply.heardBefore ≤ r.heard.length) :
    RelayInv { r with calls := r.calls + 1, replies := r.replies ++ [reply] } where
  calls := H.calls.fail hcall
  streams := ⟨H.streams.known, H.streams.opener, fun s hlive =>
    have hcollected := H.streams.collected s hlive
    ⟨hcollected.headers, hcollected.body⟩⟩
  replies := by
    refine ⟨fun reply' hreply' => ?_, fun reply' hreply' hnone => ?_⟩
    · rcases List.mem_append.mp hreply' with hreply' | hreply'
      · exact H.replies.heard_le reply' hreply'
      · rw [List.mem_singleton.mp hreply']
        exact hle
    · rcases List.mem_append.mp hreply' with hreply' | hreply'
      · exact H.replies.own reply' hreply' hnone
      · rw [List.mem_singleton.mp hreply'] at hnone
        exact absurd hnone herror

/-- A call whose request is stored, under any request id. -/
def Relay.store (r : Relay) (requestId httpRequest : Str) (streamId : StreamId) : Relay :=
  { r with
    agent := r.agent.register requestId httpRequest r.calls streamId
    calls := r.calls + 1
    opened := r.opened ++ [(r.calls, streamId)] }

/-- A call of the proxy whose request is stored. -/
def Relay.register (r : Relay) (request : HTTPRequest) (env : RouteEnv) : Relay :=
  { r with
    agent := r.agent.register env.requestId request.toText r.calls env.streamId
    calls := r.calls + 1
    opened := r.opened ++ [(r.calls, env.streamId)] }

section
variable (httpRequest : Str) {requestId : Str} {streamId : StreamId}

theorem pending_store {id : Str} {call : ℕ}
    (h : (r.store requestId httpRequest streamId).agent.pendingRequests.lookup id = some call) :
    id = requestId ∧ call = r.calls ∨
      id ≠ requestId ∧ r.agent.pendingRequests.lookup id = some call := by
  replace h : (r.agent.pendingRequests.insert requestId r.calls).lookup id = some call := h
  rw [Assoc.lookup_insert_ite] at h
  split at h
  · exact .inl ⟨‹_›, (Option.some.inj h).symm⟩
  · exact .inr ⟨‹_›, h⟩

theorem stream_store {s : StreamId} {id : Str}
    (h : (r.store requestId httpRequest streamId).agent.streamToRequest.lookup s = some id) :
    s = streamId ∧ id = requestId ∨
      s ≠ streamId ∧ r.agent.streamToRequest.lookup s = some id := by
  replace h : (r.agent.streamToRequest.insert streamId requestId).lookup s = some id := h
  rw [Assoc.lookup_insert_ite] at h
  split at h
  · exact .inl ⟨‹_›, (Option.some.inj h).symm⟩
  · exact .inr ⟨‹_›, h⟩

theorem CallsInv.store (H : CallsInv r) : CallsInv (r.store requestId httpRequest streamId) where
  pending_lt := by
    intro id call hid
    show call < r.calls + 1
    rcases pending_store httpRequest hid with ⟨_, rfl⟩ | ⟨_, hold⟩
    · omega
    · have hlt := H.pending_lt id call hold
      omega
  pending_inj := by
    intro id id' call hid hid'
    rcases pending_store httpRequest hid with ⟨rfl, hcall⟩ | ⟨_, hold⟩
    · rcases pending_store httpRequest hid' with ⟨rfl, _⟩ | ⟨_, hold'⟩
      · rfl
      · have hlt := H.pending_lt id' call hold'
        omega
    · rcases pending_store httpRequest hid' with ⟨rfl, hcall'⟩ | ⟨_, hold'⟩
      · have hlt := H.pending_lt id call hold
        omega
      · exact H.pending_inj id id' call hold hold'
  replied_lt := by
    intro reply hreply
    have hlt := H.replied_lt reply hreply
    show reply.call < r.calls + 1
    omega
  once := H.once
  unanswered := by
    intro id call hid hreplied
    rcases pending_store httpRequest hid with ⟨_, rfl⟩ | ⟨_, hold⟩
    · obtain ⟨reply, hreply, hcall⟩ := List.mem_map.mp hreplied
      have hlt := H.replied_lt reply hreply
      omega
    · exact H.unanswered id call hold hreplied

/-- With a new stream and a request id that no stream is mapped to, the new stream is
the only one that leads to the new callback. -/
theorem StreamsInv.store (H : StreamsInv r) (hfresh : streamId ∉ r.opened.map Prod.snd)
    (hunmapped : ∀ e ∈ r.agent.streamToRequest.entries, e.2 ≠ requestId) :
    StreamsInv (r.store requestId httpRequest streamId) where
  known := by
    intro s id hid
    show s ∈ (r.opened ++ [(r.calls, streamId)]).map Prod.snd
    rw [List.map_append, List.mem_append]
    rcases stream_store httpRequest hid with ⟨rfl, _⟩ | ⟨_, hold⟩
    · exact .inr (List.mem_singleton.mpr rfl)
    · exact .inl (H.known s id hold)
  opener := by
    intro s id call hid hcall
    rcases stream_store httpRequest hid with ⟨rfl, rfl⟩ | ⟨_, hold⟩
    · rcases pending_store httpRequest hcall with ⟨_, rfl⟩ | ⟨hne, _⟩
      · exact List.mem_append_right _ (List.mem_singleton.mpr rfl)
      · exact absurd rfl hne
    · rcases pending_store httpRequest hcall with ⟨heq, _⟩ | ⟨_, hcall'⟩
      · exact absurd heq (hunmapped ⟨s, id⟩ (Assoc.mem_entries_iff.mpr hold))
      · exact List.mem_append_left _ (H.opener s id call hold hcall')
  collected := by
    intro s hlive
    have hcollected : Collected r s := by
      by_cases hs : s = streamId
      · exact H.collected s (.inr (hs ▸ hfresh))
      · apply H.collected s
        rcases hlive with hlive | hlive
        · obtain ⟨id, hid⟩ := Option.isSome_iff_exists.mp hlive
          rcases stream_store httpRequest hid with ⟨heq, _⟩ | ⟨_, hold⟩
          · exact absurd heq hs
          · exact .inl (by rw [hold]; rfl)
        · refine .inr fun hold => hlive ?_
          obtain ⟨e, he, rfl⟩ := List.mem_map.mp hold
          exact List.mem_map.mpr ⟨e, List.mem_append_left _ he, rfl⟩
    exact ⟨hcollected.headers, hcollected.body⟩

theorem RelayInv.store (H : RelayInv r) (hfresh : streamId ∉ r.opened.map Prod.snd)
    (hunmapped : ∀ e ∈ r.agent.streamToRequest.entries, e.2 ≠ requestId) :
    RelayInv (r.store requestId httpRequest streamId) where
  calls := H.calls.store httpRequest
  streams := H.streams.store httpRequest hfresh hunmapped
  replies := by
    refine ⟨H.replies.heard_le, fun reply hreply hnone => ?_⟩
    obtain ⟨s, hopened, htext⟩ := H.replies.own reply hreply hnone
    exact ⟨s, List.mem_append_left _ hopened, htext⟩

end

/-- Timers do not matter to requests. -/
theorem Resolves.startTimer {agent : AgentConnection ℕ} {invoked : List (Invocation ℕ)}
    (h : Resolves r agent invoked) (requestId : Str) (streamId : StreamId) :
    Resolves r (agent.startTimer requestId streamId) invoked :=
  ⟨h.pending, h.stored, h.once, h.streams, h.collected, h.own⟩

/-- A request submitted on a new stream, under a request id that no stream is mapped to. -/
theorem RelayInv.send (H : RelayInv r) {requestId : Str} (httpRequest : Str) {streamId : StreamId}
    (haccepts : r.agent.Accepts streamId) (hfresh : streamId ∉ r.opened.map Prod.snd)
    (hunmapped : ∀ e ∈ r.agent.streamToRequest.entries, e.2 ≠ requestId) (sent : Bool) :
    RelayInv ((r.store requestId httpRequest streamId).advance
      (sendHttpRequest r.agent requestId httpRequest r.calls streamId sent)) := by
  have hstored : RelayInv (r.store requestId httpRequest streamId) :=
    H.store httpRequest hfresh hunmapped
  rw [sendHttpRequest_of_accepts haccepts]
  by_cases hsent : sent = true
  · simp only [hsent, if_true]
    exact hstored.advance (Resolves.startTimer (.none rfl rfl rfl rfl) _ _)
  · simp only [hsent]
    exact hstored.advance (hstored.resolves_close.startTimer _ _)

theorem RelayInv.submit (H : RelayInv r) (request : HTTPRequest) {env : RouteEnv}
    (hsubmits : Submits r env) (hunshared : Unshared r (.route request env)) :
    RelayInv ((r.register request env).advance
      (sendHttpRequest r.agent env.requestId request.toText r.calls env.streamId env.sent)) :=
  H.send request.toText hsubmits.2.2 (hunshared.1 hsubmits) (hunshared.2 hsubmits) env.sent

theorem RelayInv.route (H : RelayInv r) (request : HTTPRequest) {env : RouteEnv}
    (hunshared : Unshared r (.route request env)) : RelayInv (routeToAgent r request env) := by
  simp only [routeToAgent]
  by_cases hconnected : env.isConnected = true
  · by_cases hfound : env.found = true
    · simp only [hconnected, hfound, Bool.not_true, Bool.false_eq_true, if_false]
      by_cases hsubmits : Submits r env
      · rw [if_pos hsubmits]
        exact H.submit request hsubmits hunshared
      · have hrefused : ¬ r.agent.Accepts env.streamId :=
          fun haccepts => hsubmits ⟨hconnected, hfound, haccepts⟩
        rw [if_neg hsubmits, sendHttpRequest_of_not_accepts hrefused]
        exact H.fail rfl (by simp [answer]) (le_refl _)
    · simp only [hconnected, hfound]
      exact H.fail rfl (by simp) (le_refl _)
  · simp only [hconnected]
    exact H.fail rfl (by simp) (le_refl _)

theorem relayInv_step (r : Relay) (e : RelayEvent) (H : RelayInv r) (he : Unshared r e) :
    RelayInv (relayStep r e) := by
  cases e with
  | route request env => exact H.route request he
  | header streamId name value => exact H.header streamId name value
  | data streamId data => exact H.data streamId data
  | frame f => exact H.advance (H.resolves_frame f)
  | timer i => exact H.advance (H.resolves_timer i)
  | disconnect => exact H.advance H.resolves_close

end

/-- **Responses are isolated**, whatever the times of the calls, the ends of streams,
the timers and the loss of the connection, in every run in which no request is
submitted under a request id that a stream is mapped to. -/
theorem responses_isolated (evs : List RelayEvent)
    (H : Along relayStep Unshared Relay.init evs) : Always relayStep Isolated Relay.init evs := by
  have hall := always_of_invariant RelayInv relayInv_step relayInv_init H
  exact Always.imp (fun _ hr => hr.isolated) hall

/-- A request for `/`. -/
def sampleRequest : HTTPRequest :=
  ⟨"GET".toList, "/".toList, "HTTP/1.1".toList, "db.example".toList, "10.0.0.1".toList, [], []⟩

/-- A call in the first second whose request goes out on a stream. -/
def sampleRoute (streamId : StreamId) : RelayEvent :=
  .route sampleRequest ⟨true, true, 1, streamId, true⟩

/-- The response `200` without a body. -/
def sampleResponse (streamId : StreamId) : List RelayEvent :=
  [.header streamId ":status".toList "200".toList, .frame (.headers streamId true true)]

/-- Two calls in the same second, the second after the first was answered. -/
theorem responses_isolated_inTurn :
    Always relayStep Isolated Relay.init
      (sampleRoute 1 :: sampleResponse 1 ++ sampleRoute 3 :: sampleResponse 3) :=
  responses_isolated _ (by decide)

/-- Two calls in the same second at once: the second is answered with the response to
the first. -/
theorem not_isolated_sameSecond :
    ¬ ∀ evs, Along relayStep FreshStream Relay.init evs → Always relayStep Isolated Relay.init evs := by
  intro H
  have hrun := always_iff_run.mp (H (sampleRoute 1 :: sampleRoute 3 :: sampleResponse 1)
    (by decide)) _ (List.prefix_refl _)
  have hreplies : (run relayStep Relay.init
      (sampleRoute 1 :: sampleRoute 3 :: sampleResponse 1)).replies =
        [⟨1, "HTTP/1.1 200 OK\r\n\r\n".toList, none, 1⟩] := by decide
  obtain ⟨streamId, hopened, htext⟩ := hrun.own _ (by rw [hreplies]; exact List.mem_singleton.mpr rfl) rfl
  have hstream : streamId = 3 := by
    have hall : (run relayStep Relay.init
        (sampleRoute 1 :: sampleRoute 3 :: sampleResponse 1)).opened = [(0, 1), (1, 3)] := by decide
    rw [hall] at hopened
    simpa using hopened
  subst hstream
  exact absurd htext (by decide)

end Protogate.Proxy
