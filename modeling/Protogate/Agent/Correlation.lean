import Protogate.Proxy.ResponseIsolation

/-!
# Requests and their responses

Two identifiers lead from the end of a stream to a callback: the stream id to the
request id, and the request id to the callback.  When no request id is used twice
and nghttp2 gives every request a new stream, both are one to one, in whatever order
requests, headers, data, ends of streams, timers and disconnects come.

An `Exchange` is an agent connection with its requests numbered in order; the number
is the callback.  Seen as a relay it keeps the relay's invariant; what is added here
is that no callback is lost, and the text of a response field by field.

## Main definitions

* `Exchange`, `exchangeStep` — the connection from its creation on.
* `Distinct`, `StatusFirst` — the conditions on the request ids and on nghttp2.
* `Correlated` — each callback is invoked once, with the response on its own stream.
* `requests_correlated` — runs that meet the conditions are correlated throughout.
-/

namespace Protogate.Agent

open Protogate.Lib Protogate.Proxy

/-! ## The connection and its requests -/

/-- The agent connection, the request ids so far, the streams opened by the requests,
what was heard on all streams, and the invocations of callbacks with how much had
been heard by then. -/
structure Exchange where
  agent : AgentConnection ℕ
  requests : List Str
  opened : List (ℕ × StreamId)
  heard : List StreamEvent
  invoked : List (ℕ × Invocation ℕ)

def Exchange.init (state : State) : Exchange := ⟨.created ℕ state, [], [], [], []⟩

/-- The callbacks invoked so far, in order. -/
def Exchange.callbacks (x : Exchange) : List ℕ := x.invoked.map fun e => e.2.callback

def Exchange.advance (x : Exchange) (result : AgentConnection ℕ × List (Invocation ℕ)) : Exchange :=
  { x with
    agent := result.1
    invoked := x.invoked ++ result.2.map fun i => (x.heard.length, i) }

/-- One more request; it opens a stream if it is accepted. -/
def Exchange.request (x : Exchange) (requestId : Str) (streamId : StreamId) : Exchange :=
  { x with
    requests := x.requests ++ [requestId]
    opened := if x.agent.Accepts streamId then x.opened ++ [(x.requests.length, streamId)]
      else x.opened }

inductive ExchangeEvent
  | start (sent : Bool)
  | handshake (ok sent : Bool)
  | send (requestId httpRequest : Str) (streamId : StreamId) (sent : Bool)
  | header (streamId : StreamId) (name value : Str)
  | data (streamId : StreamId) (data : Str)
  | frame (f : RecvFrame)
  | timer (i : ℕ)
  | disconnect
  deriving DecidableEq, Repr

def exchangeStep (x : Exchange) : ExchangeEvent → Exchange
  | .start sent => x.advance (start x.agent sent)
  | .handshake ok sent => x.advance (handshakeDone x.agent ok sent)
  | .send requestId httpRequest streamId sent =>
      (x.request requestId streamId).advance
        (sendHttpRequest x.agent requestId httpRequest x.requests.length streamId sent)
  | .header streamId name value =>
      { x with
        agent := onHeader x.agent streamId name value
        heard := x.heard ++ [.header streamId name value] }
  | .data streamId data =>
      { x with
        agent := onDataChunk x.agent streamId data
        heard := x.heard ++ [.data streamId data] }
  | .frame f => x.advance (onFrameRecv x.agent f)
  | .timer i => x.advance (timerExpired x.agent i)
  | .disconnect => x.advance (close x.agent)

/-! ## What is heard on a stream -/

/-- The header fields heard on a stream, in order. -/
def fieldsHeard (streamId : StreamId) (heard : List StreamEvent) : List (Str × Str) :=
  heard.filterMap fun
    | .header s name value => if s = streamId then some (name, value) else none
    | .data _ _ => none

/-- The data chunks heard on a stream, in order. -/
def chunksHeard (streamId : StreamId) (heard : List StreamEvent) : List Str :=
  heard.filterMap fun
    | .header _ _ _ => none
    | .data s data => if s = streamId then some data else none

/-- The fields of a response that are not pseudo-header fields. -/
def regular (fields : List (Str × Str)) : List (Str × Str) :=
  fields.filter fun f => f.1.headD '\x00' ≠ ':'

/-- The value of the first `:status` field. -/
def firstStatus (fields : List (Str × Str)) : Option Str :=
  (fields.find? fun f => f.1 = ":status".toList).map Prod.snd

/-- The text of a response: the status line, the regular fields, an empty line and the
body. -/
def statusResponse (status : Str) (fields : List (Str × Str)) (chunks : List Str) : Str :=
  "HTTP/1.1 ".toList ++ status ++ " OK\r\n".toList ++ headerLines (regular fields) ++
    "\r\n".toList ++ chunks.flatten

/-! ## Conditions -/

/-- The request id is new, and so is the stream nghttp2 gives. -/
def Distinct (x : Exchange) : ExchangeEvent → Prop
  | .send requestId _ streamId _ => requestId ∉ x.requests ∧
      (x.agent.Accepts streamId → streamId ∉ x.opened.map Prod.snd)
  | _ => True

instance (x : Exchange) : (e : ExchangeEvent) → Decidable (Distinct x e)
  | .send requestId _ streamId _ => inferInstanceAs (Decidable (requestId ∉ x.requests ∧
      (x.agent.Accepts streamId → streamId ∉ x.opened.map Prod.snd)))
  | .start _ | .handshake _ _ | .header _ _ _ | .data _ _ | .frame _ | .timer _ | .disconnect =>
      inferInstanceAs (Decidable True)

/-- The first field heard on a stream is `:status`. -/
def BeginsWithStatus (streamId : StreamId) (heard : List StreamEvent) : Prop :=
  (fieldsHeard streamId heard).head?.map Prod.fst = some ":status".toList

instance (streamId : StreamId) (heard : List StreamEvent) :
    Decidable (BeginsWithStatus streamId heard) :=
  inferInstanceAs (Decidable (_ = _))

/-- nghttp2 checks HTTP messages: it reports a frame that ends a stream only if the
fields of the response begin with `:status`. -/
def StatusFirst (x : Exchange) : ExchangeEvent → Prop
  | .frame (.headers streamId true true) | .frame (.data streamId true) =>
      BeginsWithStatus streamId x.heard
  | _ => True

instance (x : Exchange) : (e : ExchangeEvent) → Decidable (StatusFirst x e)
  | .frame (.headers streamId true true) | .frame (.data streamId true) =>
      inferInstanceAs (Decidable (BeginsWithStatus streamId x.heard))
  | .frame (.headers _ false _) | .frame (.headers _ true false) | .frame (.data _ false)
  | .frame .goaway | .frame .other
  | .start _ | .handshake _ _ | .send _ _ _ _ | .header _ _ _ | .data _ _ | .timer _
  | .disconnect => inferInstanceAs (Decidable True)

/-- No callback is invoked twice; when the connection has disconnected all have been
invoked; and a response that is not an error is made of what was heard until then on
the stream the request opened. -/
structure Correlated (x : Exchange) : Prop where
  once : x.callbacks.Nodup
  all : x.agent.state = .disconnected → ∀ call < x.requests.length, call ∈ x.callbacks
  own : ∀ e ∈ x.invoked, e.2.error = false →
    ∃ streamId status, (e.2.callback, streamId) ∈ x.opened ∧
      firstStatus (fieldsHeard streamId (x.heard.take e.1)) = some status ∧
      e.2.response = statusResponse status (fieldsHeard streamId (x.heard.take e.1))
        (chunksHeard streamId (x.heard.take e.1))

/-! ## The text of a response -/

theorem headersHeard_eq (streamId : StreamId) (heard : List StreamEvent) :
    headersHeard streamId heard =
      (fieldsHeard streamId heard).foldl (fun text f => addHeader text f.1 f.2) none := by
  induction heard using List.reverseRecOn with
  | nil => rfl
  | append_singleton heard e ih =>
      rw [headersHeard_concat, fieldsHeard, List.filterMap_append, List.foldl_append,
        ← fieldsHeard, ← ih]
      cases e with
      | header s name value =>
          by_cases hs : s = streamId
          · simp [hs]
          · simp [hs]
      | data s data => rfl

theorem bodyHeard_eq (streamId : StreamId) (heard : List StreamEvent) :
    (bodyHeard streamId heard).getD [] = (chunksHeard streamId heard).flatten := by
  induction heard using List.reverseRecOn with
  | nil => rfl
  | append_singleton heard e ih =>
      rw [bodyHeard_concat, chunksHeard, List.filterMap_append, List.flatten_append,
        ← chunksHeard, ← ih]
      cases e with
      | header s name value => simp
      | data s data =>
          by_cases hs : s = streamId
          · simp [hs]
          · simp [hs]

theorem regular_cons (f : Str × Str) (fields : List (Str × Str)) :
    regular (f :: fields) =
      if f.1.headD '\x00' = ':' then regular fields else f :: regular fields := by
  by_cases hpseudo : f.1.headD '\x00' = ':'
  · rw [if_pos hpseudo]
    exact List.filter_cons_of_neg (by simpa only [decide_eq_true_eq, not_not] using hpseudo)
  · rw [if_neg hpseudo]
    exact List.filter_cons_of_pos (by simpa only [decide_eq_true_eq] using hpseudo)

/-- Once there is a text, only regular fields are added to it. -/
theorem addHeader_some (text : Str) (f : Str × Str) :
    addHeader (some text) f.1 f.2 = some (text ++ headerLines (regular [f])) := by
  rw [regular_cons, addHeader]
  by_cases hname : f.1 = ":status".toList
  · have hpseudo : f.1.headD '\x00' = ':' := by
      rw [hname]
      rfl
    rw [if_pos hname, if_pos hpseudo]
    simp [regular, headerLines]
  · rw [if_neg hname]
    split
    · simp [regular, headerLines]
    · simp [regular, headerLines]

theorem headerLines_regular_cons (f : Str × Str) (fields : List (Str × Str)) :
    headerLines (regular (f :: fields)) =
      headerLines (regular [f]) ++ headerLines (regular fields) := by
  rw [← List.singleton_append, regular, List.filter_append, headerLines, List.flatMap_append]
  rfl

theorem foldl_addHeader (text : Str) (fields : List (Str × Str)) :
    fields.foldl (fun text f => addHeader text f.1 f.2) (some text) =
      some (text ++ headerLines (regular fields)) := by
  induction fields generalizing text with
  | nil => simp [regular, headerLines]
  | cons f fields ih =>
      rw [List.foldl_cons, addHeader_some, ih, headerLines_regular_cons f fields, List.append_assoc]

theorem responseText_some {headers : Str} (h : headers ≠ []) (body : Option Str) :
    responseText (some headers) body = headers ++ "\r\n".toList ++ body.getD [] := by
  have hisEmpty : headers.isEmpty = false := by simpa using h
  simp only [responseText, Option.getD_some, hisEmpty, Bool.false_eq_true, if_false]

/-- When the first field is `:status`, the response has the status line. -/
theorem textHeard_of_status {streamId : StreamId} {heard : List StreamEvent}
    (h : BeginsWithStatus streamId heard) :
    ∃ status, firstStatus (fieldsHeard streamId heard) = some status ∧
      textHeard streamId heard = statusResponse status (fieldsHeard streamId heard)
        (chunksHeard streamId heard) := by
  rw [BeginsWithStatus, Option.map_eq_some_iff] at h
  obtain ⟨⟨name, status⟩, hhead, hname⟩ := h
  replace hname : name = ":status".toList := hname
  obtain ⟨rest, hfields⟩ := List.head?_eq_some_iff.mp hhead
  refine ⟨status, ?_, ?_⟩
  · rw [hfields, firstStatus, List.find?_cons_of_pos (by rw [hname]; rfl)]
    rfl
  have hregular : regular ((name, status) :: rest) = regular rest := by
    rw [regular_cons, hname]
    exact if_pos rfl
  have hheaders : headersHeard streamId heard =
      some ("HTTP/1.1 ".toList ++ status ++ " OK\r\n".toList ++ headerLines (regular rest)) := by
    have hfirst : addHeader none name status = some ("HTTP/1.1 ".toList ++ status ++ " OK\r\n".toList) :=
      if_pos hname
    rw [headersHeard_eq, hfields, List.foldl_cons, hfirst, foldl_addHeader]
  have hne : "HTTP/1.1 ".toList ++ status ++ " OK\r\n".toList ++ headerLines (regular rest) ≠ [] :=
    List.append_ne_nil_of_left_ne_nil (List.append_ne_nil_of_left_ne_nil
      (List.append_ne_nil_of_left_ne_nil (by decide) _) _) _
  rw [textHeard, hheaders, responseText_some hne, bodyHeard_eq, hfields, ← hregular]
  rfl

/-! ## The invariant -/

/-- The same as a relay: its calls are the requests and its answers the invocations. -/
def Exchange.toRelay (x : Exchange) : Relay :=
  ⟨x.agent, x.requests.length, x.opened, x.heard, x.invoked.map fun e => answer e.1 e.2⟩

/-- Beside what holds of the relay: the request ids in the maps are those of requests,
a request opens one stream at most, every callback is stored until it is invoked, none
is stored once the connection has disconnected, and a response was invoked for a stream
whose fields began with `:status`. -/
structure ExchangeInv (x : Exchange) : Prop where
  relay : RelayInv x.toRelay
  mapped : ∀ e ∈ x.agent.streamToRequest.entries, e.2 ∈ x.requests
  stored : ∀ id call, x.agent.pendingRequests.lookup id = some call → id ∈ x.requests
  opened_lt : ∀ e ∈ x.opened, e.1 < x.requests.length
  opened_once : (x.opened.map Prod.fst).Nodup
  settled : ∀ call < x.requests.length, call ∈ x.callbacks ∨
    ∃ id, x.agent.pendingRequests.lookup id = some call
  down : x.agent.state = .disconnected → ∀ id, x.agent.pendingRequests.lookup id = none
  begun : ∀ e ∈ x.invoked, e.2.error = false → ∃ streamId, (e.2.callback, streamId) ∈ x.opened ∧
    BeginsWithStatus streamId (x.heard.take e.1)

theorem exchangeInv_init (state : State) : ExchangeInv (Exchange.init state) where
  relay := by
    refine ⟨⟨?_, ?_, ?_, List.nodup_nil, ?_⟩, ⟨?_, ?_, fun _ _ => ⟨rfl, rfl⟩⟩, ⟨?_, ?_⟩⟩ <;>
      simp [Exchange.toRelay, Exchange.init, AgentConnection.created]
  mapped := by simp [Exchange.init, AgentConnection.created]
  stored := by simp [Exchange.init, AgentConnection.created]
  opened_lt := by simp [Exchange.init]
  opened_once := List.nodup_nil
  settled := by simp [Exchange.init]
  down := by simp [Exchange.init, AgentConnection.created]
  begun := by simp [Exchange.init]

section
variable {x : Exchange}

theorem toRelay_callbacks (x : Exchange) : x.toRelay.replies.map Reply.call = x.callbacks := by
  rw [Exchange.toRelay, List.map_map, Exchange.callbacks]
  exact List.map_congr_left fun e _ => call_answer e.1 e.2

theorem ExchangeInv.correlated (H : ExchangeInv x) : Correlated x where
  once := by
    rw [← toRelay_callbacks]
    exact H.relay.calls.once
  all := by
    intro hdown call hcall
    rcases H.settled call hcall with hinvoked | ⟨id, hid⟩
    · exact hinvoked
    · rw [H.down hdown id] at hid
      cases hid
  own := by
    intro e he herror
    obtain ⟨s, hs, hbegins⟩ := H.begun e he herror
    have hanswer : answer e.1 e.2 = ⟨e.2.callback, e.2.response, none, e.1⟩ := by
      rw [answer, herror]
      rfl
    obtain ⟨s', hs', htext⟩ := H.relay.replies.own (answer e.1 e.2)
      (List.mem_map.mpr ⟨e, he, rfl⟩) (by rw [hanswer])
    rw [hanswer] at hs' htext
    -- a request opens one stream at most
    have hsame : (e.2.callback, s') = (e.2.callback, s) :=
      List.inj_on_of_nodup_map H.opened_once hs' hs rfl
    obtain ⟨status, hstatus, hresponse⟩ := textHeard_of_status hbegins
    refine ⟨s, status, hs, hstatus, ?_⟩
    rw [← hresponse, ← (Prod.mk.inj hsame).2]
    exact htext

/-! ## Settling requests -/

/-- What an operation that adds no request does besides resolving: a callback that is
not stored any more has been invoked, and a connection that goes down has none stored. -/
structure Settles (x : Exchange) (agent : AgentConnection ℕ) (invoked : List (Invocation ℕ)) :
    Prop where
  resolves : Resolves x.toRelay agent invoked
  kept : ∀ id call, x.agent.pendingRequests.lookup id = some call →
    agent.pendingRequests.lookup id = some call ∨ call ∈ invoked.map Invocation.callback
  down : agent.state = .disconnected →
    x.agent.state = .disconnected ∨ ∀ id, agent.pendingRequests.lookup id = none
  begun : ∀ i ∈ invoked, i.error = false → ∃ streamId, (i.callback, streamId) ∈ x.opened ∧
    BeginsWithStatus streamId x.heard

theorem callbacks_advance (x : Exchange) (agent : AgentConnection ℕ)
    (invoked : List (Invocation ℕ)) :
    (x.advance (agent, invoked)).callbacks = x.callbacks ++ invoked.map Invocation.callback := by
  simp only [Exchange.callbacks, Exchange.advance, List.map_append, List.map_map]
  rfl

theorem toRelay_advance (x : Exchange) (agent : AgentConnection ℕ)
    (invoked : List (Invocation ℕ)) :
    (x.advance (agent, invoked)).toRelay = x.toRelay.advance (agent, invoked) := by
  simp only [Exchange.toRelay, Exchange.advance, Relay.advance, List.map_append, List.map_map]
  rfl

/-- Such an operation keeps the invariant. -/
theorem ExchangeInv.advance (H : ExchangeInv x) {agent : AgentConnection ℕ}
    {invoked : List (Invocation ℕ)} (hop : Settles x agent invoked) :
    ExchangeInv (x.advance (agent, invoked)) where
  relay := by
    rw [toRelay_advance]
    exact H.relay.advance hop.resolves
  mapped := by
    intro e he
    have hold := hop.resolves.streams e.1 e.2 (Assoc.mem_entries_iff.mp he)
    exact H.mapped ⟨e.1, e.2⟩ (Assoc.mem_entries_iff.mpr hold)
  stored := fun id call hid => H.stored id call (hop.resolves.pending id call hid).1
  opened_lt := H.opened_lt
  opened_once := H.opened_once
  settled := by
    intro call hcall
    rw [callbacks_advance, List.mem_append]
    rcases H.settled call hcall with hinvoked | ⟨id, hid⟩
    · exact .inl (.inl hinvoked)
    · rcases hop.kept id call hid with hkept | hinvoked
      · exact .inr ⟨id, hkept⟩
      · exact .inl (.inr hinvoked)
  down := by
    intro hdown id
    rcases hop.down hdown with hbefore | hnone
    · by_contra hsome
      obtain ⟨call, hcall⟩ := Option.ne_none_iff_exists'.mp hsome
      have hold := (hop.resolves.pending id call hcall).1
      rw [show x.toRelay.agent = x.agent from rfl, H.down hbefore id] at hold
      cases hold
    · exact hnone id
  begun := by
    intro e he herror
    rcases List.mem_append.mp he with he | he
    · exact H.begun e he herror
    · obtain ⟨i, hi, rfl⟩ := List.mem_map.mp he
      obtain ⟨s, hs, hbegins⟩ := hop.begun i hi herror
      refine ⟨s, hs, ?_⟩
      show BeginsWithStatus s (x.heard.take x.heard.length)
      rw [List.take_length]
      exact hbegins

/-- An operation that does nothing to requests. -/
theorem Settles.none {agent : AgentConnection ℕ}
    (hpending : agent.pendingRequests = x.agent.pendingRequests)
    (hstreams : agent.streamToRequest = x.agent.streamToRequest)
    (hheaders : agent.streamHeaders = x.agent.streamHeaders)
    (hbodies : agent.streamBodiesRecv = x.agent.streamBodiesRecv)
    (hdown : agent.state = .disconnected → x.agent.state = .disconnected) :
    Settles x agent [] where
  resolves := .none hpending hstreams hheaders hbodies
  kept := fun id call hid => .inl (by rw [hpending]; exact hid)
  down := fun h => .inl (hdown h)
  begun := by simp

/-- Timers do not matter to requests. -/
theorem Settles.startTimer {agent : AgentConnection ℕ} {invoked : List (Invocation ℕ)}
    (h : Settles x agent invoked) (requestId : Str) (streamId : StreamId) :
    Settles x (agent.startTimer requestId streamId) invoked :=
  ⟨h.resolves.startTimer requestId streamId, h.kept, h.down, h.begun⟩

theorem ExchangeInv.settles_handleDisconnect (H : ExchangeInv x) (session : Bool) (state : State) :
    Settles x (handleDisconnect { x.agent with session, state }).1
      (handleDisconnect { x.agent with session, state }).2 where
  resolves := H.relay.resolves_handleDisconnect session state
  kept := by
    intro id call hid
    refine .inr (List.mem_map.mpr ⟨⟨call, [], true⟩, ?_, rfl⟩)
    exact List.mem_map.mpr ⟨⟨id, call⟩, Assoc.mem_entries_iff.mpr hid, rfl⟩
  down := fun _ => .inr (by simp [handleDisconnect])
  begun := by
    intro i hi herror
    obtain ⟨e, _, rfl⟩ := List.mem_map.mp hi
    cases herror

theorem ExchangeInv.settles_close (H : ExchangeInv x) :
    Settles x (close x.agent).1 (close x.agent).2 := by
  simp only [close]
  split
  · exact .none rfl rfl rfl rfl id
  · exact H.settles_handleDisconnect false .disconnected

/-- Without a session or not, a connection that comes up stores no other callbacks. -/
theorem ExchangeInv.settles_initialize (H : ExchangeInv x) (sent : Bool) :
    Settles x (initializeNghttp2 { x.agent with state := .connected } sent).1
      (initializeNghttp2 { x.agent with state := .connected } sent).2 := by
  cases sent with
  | true => exact .none rfl rfl rfl rfl (fun h => by cases h)
  | false => exact H.settles_handleDisconnect false .disconnected

theorem ExchangeInv.settles_start (H : ExchangeInv x) (sent : Bool) :
    Settles x (start x.agent sent).1 (start x.agent sent).2 := by
  simp only [start]
  split
  · rename_i hconnected
    have hsame : x.agent = { x.agent with state := .connected } := by rw [← hconnected]
    rw [hsame]
    exact H.settles_initialize sent
  · exact .none rfl rfl rfl rfl id

theorem ExchangeInv.settles_handshake (H : ExchangeInv x) (ok sent : Bool) :
    Settles x (handshakeDone x.agent ok sent).1 (handshakeDone x.agent ok sent).2 := by
  cases ok with
  | true => exact H.settles_initialize sent
  | false => exact H.settles_handleDisconnect x.agent.session .disconnected

/-- Erasing a request id takes one callback away. -/
theorem kept_erase {requestId : Str} {callback : ℕ}
    (hstored : x.agent.pendingRequests.lookup requestId = some callback) {id : Str} {call : ℕ}
    (hid : x.agent.pendingRequests.lookup id = some call) :
    (x.agent.pendingRequests.erase requestId).lookup id = some call ∨ call ∈ [callback] := by
  by_cases heq : id = requestId
  · subst heq
    rw [hstored] at hid
    exact .inr (List.mem_singleton.mpr (Option.some.inj hid).symm)
  · left
    rw [AList.lookup_erase_ne heq]
    exact hid

/-- The end of a stream invokes the callback of the request that opened it. -/
theorem ExchangeInv.settles_complete (H : ExchangeInv x) {streamId : StreamId}
    (hbegins : BeginsWithStatus streamId x.heard) :
    Settles x (completeRequest x.agent streamId).1 (completeRequest x.agent streamId).2 := by
  have hresolves : Resolves x.toRelay (completeRequest x.agent streamId).1
      (completeRequest x.agent streamId).2 := H.relay.resolves_complete streamId
  obtain ⟨requestId, callback, hmap, hstored, heq⟩ | ⟨_, heq⟩ := completeRequest_cases x.agent streamId
  · rw [heq] at hresolves ⊢
    refine ⟨hresolves, fun _ _ hid => kept_erase hstored hid, .inl, ?_⟩
    intro i hi _
    rw [List.mem_singleton.mp hi]
    exact ⟨streamId, H.relay.streams.opener streamId requestId callback hmap hstored, hbegins⟩
  · rw [heq]
    exact .none rfl rfl rfl rfl id

theorem ExchangeInv.settles_timer (H : ExchangeInv x) (i : ℕ) :
    Settles x (timerExpired x.agent i).1 (timerExpired x.agent i).2 := by
  have hresolves : Resolves x.toRelay (timerExpired x.agent i).1 (timerExpired x.agent i).2 :=
    H.relay.resolves_timer i
  obtain ⟨requestId, streamId, callback, _, hstored, heq⟩ | ⟨_, _, _, heq⟩ :=
    timerExpired_cases x.agent i
  · rw [heq] at hresolves ⊢
    refine ⟨hresolves, fun _ _ hid => kept_erase hstored hid, .inl, ?_⟩
    intro i hi herror
    rw [List.mem_singleton.mp hi] at herror
    cases herror
  · rw [heq]
    exact .none rfl rfl rfl rfl id

theorem ExchangeInv.settles_frame (H : ExchangeInv x) {f : RecvFrame}
    (hstatus : StatusFirst x (.frame f)) :
    Settles x (onFrameRecv x.agent f).1 (onFrameRecv x.agent f).2 := by
  obtain ⟨streamId, hends, heq⟩ | ⟨_, heq⟩ | ⟨_, heq⟩ := onFrameRecv_cases x.agent f
  · have hbegins : BeginsWithStatus streamId x.heard := by
      obtain rfl | rfl := hends
      · exact hstatus
      · exact hstatus
    rw [heq]
    exact H.settles_complete hbegins
  · rw [heq]
    exact H.settles_close
  · rw [heq]
    exact .none rfl rfl rfl rfl id

/-! ## Requests -/

/-- A request that is stored. -/
def Exchange.store (x : Exchange) (requestId httpRequest : Str) (streamId : StreamId) : Exchange :=
  { x with
    agent := x.agent.register requestId httpRequest x.requests.length streamId
    requests := x.requests ++ [requestId]
    opened := x.opened ++ [(x.requests.length, streamId)] }

theorem toRelay_store (x : Exchange) (requestId httpRequest : Str) (streamId : StreamId) :
    (x.store requestId httpRequest streamId).toRelay =
      x.toRelay.store requestId httpRequest streamId := by
  simp only [Exchange.toRelay, Exchange.store, Relay.store, List.length_append,
    List.length_singleton]

/-- Calls are numbered in turn. -/
theorem lt_of_mem_concat {opened : List (ℕ × StreamId)} {n : ℕ} (h : ∀ e ∈ opened, e.1 < n)
    (s : StreamId) : ∀ e ∈ opened ++ [(n, s)], e.1 < n + 1 := by
  intro e he
  obtain he | he := List.mem_append.mp he
  · exact Nat.lt_succ_of_lt (h e he)
  · rw [List.mem_singleton.mp he]
    exact Nat.lt_succ_self n

/-- The next number is a new one. -/
theorem nodup_fst_concat {opened : List (ℕ × StreamId)} {n : ℕ} (h : ∀ e ∈ opened, e.1 < n)
    (hnodup : (opened.map Prod.fst).Nodup) (s : StreamId) :
    ((opened ++ [(n, s)]).map Prod.fst).Nodup := by
  rw [List.map_append]
  refine hnodup.append (List.nodup_singleton _) ?_
  intro call hold hnew
  obtain ⟨e, he, rfl⟩ := List.mem_map.mp hold
  exact absurd (List.mem_singleton.mp hnew) (Nat.ne_of_lt (h e he))

theorem ExchangeInv.store (H : ExchangeInv x) {requestId : Str} (httpRequest : Str)
    {streamId : StreamId} (haccepts : x.agent.Accepts streamId) (hid : requestId ∉ x.requests)
    (hfresh : streamId ∉ x.opened.map Prod.snd) :
    ExchangeInv (x.store requestId httpRequest streamId) where
  relay := by
    rw [toRelay_store]
    apply H.relay.store httpRequest hfresh
    intro e he heq
    exact hid (heq ▸ H.mapped e he)
  mapped := by
    intro e he
    rcases stream_store (r := x.toRelay) httpRequest (Assoc.mem_entries_iff.mp he) with
      ⟨_, hnew⟩ | ⟨_, hold⟩
    · exact List.mem_append_right _ (List.mem_singleton.mpr hnew)
    · exact List.mem_append_left _ (H.mapped ⟨e.1, e.2⟩ (Assoc.mem_entries_iff.mpr hold))
  stored := by
    intro id call hcall
    rcases pending_store (r := x.toRelay) httpRequest hcall with ⟨hnew, _⟩ | ⟨_, hold⟩
    · exact List.mem_append_right _ (List.mem_singleton.mpr hnew)
    · exact List.mem_append_left _ (H.stored id call hold)
  opened_lt := by
    intro e he
    show e.1 < (x.requests ++ [requestId]).length
    rw [List.length_append, List.length_singleton]
    exact lt_of_mem_concat H.opened_lt streamId e he
  opened_once := nodup_fst_concat H.opened_lt H.opened_once streamId
  settled := by
    intro call hcall
    replace hcall : call < (x.requests ++ [requestId]).length := hcall
    rw [List.length_append, List.length_singleton] at hcall
    show call ∈ x.callbacks ∨
      ∃ id, (x.agent.pendingRequests.insert requestId x.requests.length).lookup id = some call
    by_cases hnew : call = x.requests.length
    · subst hnew
      exact .inr ⟨requestId, AList.lookup_insert _⟩
    · rcases H.settled call (by omega) with hinvoked | ⟨id, hstored⟩
      · exact .inl hinvoked
      · have hne : id ≠ requestId := fun heq => hid (heq ▸ H.stored id call hstored)
        exact .inr ⟨id, by rw [AList.lookup_insert_ne hne, hstored]⟩
  down := by
    intro hdown
    have hconnected : (x.store requestId httpRequest streamId).agent.state = .connected := haccepts.1
    rw [hconnected] at hdown
    cases hdown
  begun := by
    intro e he herror
    obtain ⟨s, hs, hbegins⟩ := H.begun e he herror
    exact ⟨s, List.mem_append_left _ hs, hbegins⟩

/-- A request that is refused is answered at once. -/
theorem ExchangeInv.refuse (H : ExchangeInv x) (requestId : Str) :
    ExchangeInv ({ x with requests := x.requests ++ [requestId] }.advance
      (x.agent, [⟨x.requests.length, [], true⟩])) where
  relay := by
    have hcall : (answer x.heard.length ⟨x.requests.length, [], true⟩).call = x.toRelay.calls :=
      call_answer _ _
    have hfail := H.relay.fail hcall (by simp [answer]) (by rw [heardBefore_answer]; exact le_refl _)
    simpa only [Exchange.toRelay, Exchange.advance, List.length_append, List.length_singleton,
      List.map_append, List.map_cons, List.map_nil] using hfail
  mapped := fun e he => List.mem_append_left _ (H.mapped e he)
  stored := fun id call hid => List.mem_append_left _ (H.stored id call hid)
  opened_lt := by
    intro e he
    have hlt := H.opened_lt e he
    show e.1 < (x.requests ++ [requestId]).length
    rw [List.length_append, List.length_singleton]
    omega
  opened_once := H.opened_once
  settled := by
    intro call hcall
    replace hcall : call < (x.requests ++ [requestId]).length := hcall
    rw [List.length_append, List.length_singleton] at hcall
    rw [callbacks_advance, List.mem_append]
    by_cases hnew : call = x.requests.length
    · exact .inl (.inr (List.mem_singleton.mpr hnew))
    · rcases H.settled call (by omega) with hinvoked | hstored
      · exact .inl (.inl hinvoked)
      · exact .inr hstored
  down := H.down
  begun := by
    intro e he herror
    rcases List.mem_append.mp he with he | he
    · exact H.begun e he herror
    · rw [List.mem_singleton.mp he] at herror
      cases herror

theorem ExchangeInv.send (H : ExchangeInv x) {requestId : Str} (httpRequest : Str)
    {streamId : StreamId} (sent : Bool)
    (hdistinct : Distinct x (.send requestId httpRequest streamId sent)) :
    ExchangeInv (exchangeStep x (.send requestId httpRequest streamId sent)) := by
  simp only [exchangeStep, Exchange.request]
  by_cases haccepts : x.agent.Accepts streamId
  · have hstored := H.store httpRequest haccepts hdistinct.1 (hdistinct.2 haccepts)
    rw [if_pos haccepts, sendHttpRequest_of_accepts haccepts]
    cases sent with
    | true => exact hstored.advance (Settles.startTimer (.none rfl rfl rfl rfl id) _ _)
    | false => exact hstored.advance (hstored.settles_close.startTimer _ _)
  · rw [if_neg haccepts, sendHttpRequest_of_not_accepts haccepts]
    exact H.refuse requestId

/-! ## Runs -/

/-- More is heard on a stream. -/
theorem ExchangeInv.hear (H : ExchangeInv x) {agent : AgentConnection ℕ} (e : StreamEvent)
    (hrelay : RelayInv { x.toRelay with agent, heard := x.heard ++ [e] })
    (hpending : agent.pendingRequests = x.agent.pendingRequests)
    (hstreams : agent.streamToRequest = x.agent.streamToRequest)
    (hstate : agent.state = x.agent.state) :
    ExchangeInv { x with agent, heard := x.heard ++ [e] } where
  relay := hrelay
  mapped := by
    rw [hstreams]
    exact H.mapped
  stored := by
    rw [hpending]
    exact H.stored
  opened_lt := H.opened_lt
  opened_once := H.opened_once
  settled := by
    rw [hpending]
    exact H.settled
  down := by
    rw [hpending, hstate]
    exact H.down
  begun := by
    intro i hi herror
    obtain ⟨s, hs, hbegins⟩ := H.begun i hi herror
    refine ⟨s, hs, ?_⟩
    have hle : i.1 ≤ x.heard.length := by
      have hheard := H.relay.replies.heard_le (answer i.1 i.2) (List.mem_map.mpr ⟨i, hi, rfl⟩)
      rwa [heardBefore_answer] at hheard
    rw [List.take_append_of_le_length hle]
    exact hbegins

theorem exchangeInv_step (x : Exchange) (e : ExchangeEvent) (H : ExchangeInv x)
    (he : Distinct x e ∧ StatusFirst x e) : ExchangeInv (exchangeStep x e) := by
  obtain ⟨hdistinct, hstatus⟩ := he
  cases e with
  | start sent => exact H.advance (H.settles_start sent)
  | handshake ok sent => exact H.advance (H.settles_handshake ok sent)
  | send requestId httpRequest streamId sent => exact H.send httpRequest sent hdistinct
  | header streamId name value =>
      apply H.hear (.header streamId name value) (H.relay.header streamId name value)
      all_goals
        simp only [onHeader]
        split <;> rfl
  | data streamId data =>
      exact H.hear (.data streamId data) (H.relay.data streamId data) rfl rfl rfl
  | frame f => exact H.advance (H.settles_frame hstatus)
  | timer i => exact H.advance (H.settles_timer i)
  | disconnect => exact H.advance H.settles_close

end

/-- **Requests and responses are correlated**, in whatever order requests, headers, data,
ends of streams, timers and disconnects come, in every run with distinct request ids and
streams. -/
theorem requests_correlated (state : State) (evs : List ExchangeEvent)
    (H : Along exchangeStep (fun x e => Distinct x e ∧ StatusFirst x e) (Exchange.init state) evs) :
    Always exchangeStep Correlated (Exchange.init state) evs := by
  have hall := always_of_invariant ExchangeInv exchangeInv_step (exchangeInv_init state) H
  exact Always.imp (fun _ hx => hx.correlated) hall

/-- Two requests at once: the second is answered first, the first is failed by the loss
of the connection. -/
theorem requests_correlated_outOfTurn :
    Always exchangeStep Correlated (Exchange.init .connected)
      [.start true, .send "a".toList "GET / HTTP/1.1\r\n\r\n".toList 1 true,
        .send "b".toList "GET / HTTP/1.1\r\n\r\n".toList 3 true,
        .header 3 ":status".toList "200".toList, .header 1 ":status".toList "404".toList,
        .data 3 "x".toList, .data 1 "y".toList, .frame (.data 3 true), .disconnect] :=
  requests_correlated .connected _ (by decide)

end Protogate.Agent
