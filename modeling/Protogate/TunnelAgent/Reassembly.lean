import Protogate.Lib.Bytes
import Protogate.Lib.LastMatch
import Protogate.Lib.Run
import Protogate.Lib.Text

/-!
# Requests put together by the agent

nghttp2 delivers what the server sends on its streams as header fields, data chunks and
frames, with those of different streams in any order.  The agent collects fields and chunks
under the stream id, and gives the request to its callback when a frame ends the stream.
Each stream is a sequence of events of its own; the others do not touch it.  A header field
is logged when it comes, and the call is taken to return.

The chunks of stream 1 are dropped, as those of the response to a CONNECT.  But the agent is
the HTTP/2 server: stream 1 is the first stream the other side opens.

## Main definitions

* `Http2Request`, `RequestSession`, `sessionStep` — the agent's side.
* `Phase`, `Interleaves` — what nghttp2 delivers on a well-formed stream, and on many.
* `IsRequest` — the request made of the events of a stream.
* `Reassembles` — each stream that ends gives its request, once.
* `reassembles_iff` — this is so exactly if stream 1 does not end with a body.
-/

namespace Protogate.TunnelAgent

open Protogate.Lib

/-! ## The session -/

/-- `HTTP2Request`. -/
structure Http2Request where
  streamId : ℤ
  method : Str
  path : Str
  authority : Str
  headers : Assoc Str Str
  body : Bytes
  requestId : Str
  clientIp : Str

/-- What `pending_requests_[stream_id]` makes. -/
def Http2Request.empty : Http2Request := ⟨0, [], [], [], ∅, [], [], []⟩

/-- The field of the request for a header name, or its entry in the map. -/
def Http2Request.setField (r : Http2Request) (name value : Str) : Http2Request :=
  if name = ":method".toList then { r with method := value }
  else if name = ":path".toList then { r with path := value }
  else if name = ":authority".toList then { r with authority := value }
  else if name = "x-tunnel-request-id".toList then { r with requestId := value }
  else if name = "x-client-ip".toList then { r with clientIp := value }
  else { r with headers := r.headers.insert name value }

/-- What nghttp2 delivers: a header field, a data chunk, and a frame, with the flags
END_HEADERS and END_STREAM where they are looked at. -/
inductive SessionEvent
  | header (streamId : ℤ) (name value : Str)
  | chunk (streamId : ℤ) (data : Bytes)
  | headers (streamId : ℤ) (endHeaders endStream : Bool)
  | data (streamId : ℤ) (endStream : Bool)
  | other (streamId : ℤ)
  deriving DecidableEq

def SessionEvent.streamId : SessionEvent → ℤ
  | .header s _ _ | .chunk s _ | .headers s _ _ | .data s _ | .other s => s

/-- `pending_requests_`, and the invocations of `on_request_` with the stream whose end was
the reason. -/
structure RequestSession where
  pendingRequests : Assoc ℤ Http2Request
  calls : List (ℤ × Http2Request)

def RequestSession.init : RequestSession := ⟨∅, []⟩

/-- `on_header_callback`. -/
def onHeader (x : RequestSession) (s : ℤ) (name value : Str) : RequestSession :=
  let req := (x.pendingRequests.lookup s).getD .empty
  { x with
    pendingRequests := x.pendingRequests.insert s
      (Http2Request.setField { req with streamId := s } name value) }

/-- `on_data_chunk_recv_callback`. -/
def onDataChunk (x : RequestSession) (s : ℤ) (data : Bytes) : RequestSession :=
  if s = 1 then x
  else
    let req := (x.pendingRequests.lookup s).getD .empty
    { x with pendingRequests := x.pendingRequests.insert s { req with body := req.body ++ data } }

/-- The request is complete. -/
def RequestSession.complete (x : RequestSession) (s : ℤ) : RequestSession :=
  match x.pendingRequests.lookup s with
  | none => x
  | some req => ⟨x.pendingRequests.erase s, x.calls ++ [(s, req)]⟩

/-- The callbacks of nghttp2. -/
def sessionStep (x : RequestSession) : SessionEvent → RequestSession
  | .header s name value => onHeader x s name value
  | .chunk s data => onDataChunk x s data
  | .headers s endHeaders endStream => if endHeaders && endStream then x.complete s else x
  | .data s endStream => if endStream then x.complete s else x
  | .other _ => x

/-- The invocations of `on_request_` for a stream. -/
def RequestSession.callsOn (x : RequestSession) (s : ℤ) : List Http2Request :=
  (x.calls.filter fun c => c.1 = s).map Prod.snd

/-! ## Streams -/

/-- The events on a stream. -/
def onStream (s : ℤ) (evs : List SessionEvent) : List SessionEvent :=
  evs.filter fun e => e.streamId = s

/-- Where a stream is: before its first field, in the block of fields, in the body, in the
trailers, and after its end. -/
inductive Phase
  | idle
  | fields
  | body
  | trailers
  | closed
  deriving DecidableEq, Repr

/-- The next phase; nghttp2 delivers a block of fields before the HEADERS frame, and the frame
when the block has come to its end. -/
def Phase.next : Phase → SessionEvent → Option Phase
  | p, .other _ => some p
  | .idle, .header _ _ _ | .fields, .header _ _ _ => some .fields
  | .fields, .headers _ true endStream => some (if endStream then .closed else .body)
  | .body, .chunk _ _ => some .body
  | .body, .data _ endStream => some (if endStream then .closed else .body)
  | .body, .header _ _ _ | .trailers, .header _ _ _ => some .trailers
  | .body, .headers _ true true | .trailers, .headers _ true true => some .closed
  | _, _ => none

/-- The phase after the events of one stream, if they are well-formed so far. -/
def phase (evs : List SessionEvent) : Option Phase := evs.foldlM Phase.next .idle

/-- The events of each stream are well-formed, however they are interleaved. -/
def Interleaves (evs : List SessionEvent) : Prop :=
  ∀ s ∈ evs.map SessionEvent.streamId, (phase (onStream s evs)).isSome

instance (evs : List SessionEvent) : Decidable (Interleaves evs) :=
  inferInstanceAs (Decidable (∀ s ∈ evs.map SessionEvent.streamId, (phase (onStream s evs)).isSome))

/-- The stream ends with END_STREAM. -/
def Ends (evs : List SessionEvent) (s : ℤ) : Prop := phase (onStream s evs) = some .closed

instance (evs : List SessionEvent) (s : ℤ) : Decidable (Ends evs s) :=
  inferInstanceAs (Decidable (_ = _))

/-! ## The request of a stream -/

/-- The header fields among events, in order. -/
def fieldsOf (evs : List SessionEvent) : List (Str × Str) :=
  evs.filterMap fun
    | .header _ name value => some (name, value)
    | _ => none

/-- The data among events. -/
def dataOf (evs : List SessionEvent) : Bytes :=
  evs.flatMap fun
    | .chunk _ data => data
    | _ => []

/-- The last value of a name. -/
def lastValue (name : Str) (fields : List (Str × Str)) : Option Str :=
  (lastMatch (fun f => decide (f.1 = name)) fields).map Prod.snd

/-- The names that have fields of their own. -/
def ownNames : List Str :=
  [":method".toList, ":path".toList, ":authority".toList, "x-tunnel-request-id".toList,
    "x-client-ip".toList]

/-- The fields of the request are the last values of their names. -/
structure FieldsLast (fields : List (Str × Str)) (r : Http2Request) : Prop where
  method : r.method = (lastValue ":method".toList fields).getD []
  path : r.path = (lastValue ":path".toList fields).getD []
  authority : r.authority = (lastValue ":authority".toList fields).getD []
  requestId : r.requestId = (lastValue "x-tunnel-request-id".toList fields).getD []
  clientIp : r.clientIp = (lastValue "x-client-ip".toList fields).getD []
  headers : ∀ name, r.headers.lookup name =
    if name ∈ ownNames then none else lastValue name fields

/-- The request made of the events of a stream. -/
structure IsRequest (s : ℤ) (evs : List SessionEvent) (r : Http2Request) : Prop where
  streamId : r.streamId = s
  fields : FieldsLast (fieldsOf evs) r
  body : r.body = dataOf evs

/-- A stream that ends gives its request to `on_request_`, once, and leaves nothing pending; a
stream that has not ended gives none. -/
def Reassembles (evs : List SessionEvent) : Prop :=
  ∀ s, if Ends evs s then
      (∃ r, (run sessionStep .init evs).callsOn s = [r] ∧ IsRequest s (onStream s evs) r) ∧
        s ∉ (run sessionStep .init evs).pendingRequests
    else (run sessionStep .init evs).callsOn s = []

/-! ## One stream -/

/-- What a session holds for one stream: its pending request, and the invocations. -/
abbrev StreamView := Option Http2Request × List Http2Request

def RequestSession.view (s : ℤ) (x : RequestSession) : StreamView :=
  (x.pendingRequests.lookup s, x.callsOn s)

/-- What an event does to its own stream. -/
def requestStep (v : StreamView) : SessionEvent → StreamView
  | .header s name value =>
      (some (Http2Request.setField { v.1.getD .empty with streamId := s } name value), v.2)
  | .chunk s data =>
      if s = 1 then v
      else (some { v.1.getD .empty with body := (v.1.getD .empty).body ++ data }, v.2)
  | .headers _ endHeaders endStream => if endHeaders && endStream then (none, v.2 ++ v.1.toList) else v
  | .data _ endStream => if endStream then (none, v.2 ++ v.1.toList) else v
  | .other _ => v

section
variable (x : RequestSession)

theorem view_complete (s k : ℤ) : (x.complete s).view k =
    if k = s then (none, x.callsOn s ++ (x.pendingRequests.lookup s).toList) else x.view k := by
  simp only [RequestSession.view, RequestSession.complete, RequestSession.callsOn]
  by_cases hk : k = s
  · subst hk
    cases hlookup : x.pendingRequests.lookup k with
    | none => simp [hlookup]
    | some req => simp
  · cases x.pendingRequests.lookup s with
    | none => simp [hk]
    | some req => simp [hk, Ne.symm hk]

theorem view_insert (s k : ℤ) (r : Http2Request) :
    RequestSession.view k { x with pendingRequests := x.pendingRequests.insert s r } =
      if k = s then (some r, x.callsOn s) else x.view k := by
  simp only [RequestSession.view, RequestSession.callsOn, Assoc.lookup_insert_ite]
  split
  · rename_i hk
    rw [hk]
  · rfl

/-- What an event does to its own stream. -/
theorem view_sessionStep_own (e : SessionEvent) :
    (sessionStep x e).view e.streamId = requestStep (x.view e.streamId) e := by
  cases e with
  | header s name value =>
      simp only [sessionStep, onHeader, SessionEvent.streamId, view_insert, if_true]
      rfl
  | chunk s data =>
      by_cases hone : s = 1
      · simp [sessionStep, onDataChunk, requestStep, hone]
      · simp only [sessionStep, onDataChunk, SessionEvent.streamId, requestStep, if_neg hone,
          view_insert, if_true]
        rfl
  | headers s endHeaders endStream =>
      simp only [sessionStep, SessionEvent.streamId, requestStep]
      cases endHeaders && endStream with
      | false => rfl
      | true =>
          simp only [if_true, view_complete]
          rfl
  | data s endStream =>
      cases endStream with
      | false => rfl
      | true =>
          simp only [sessionStep, SessionEvent.streamId, requestStep, if_true, view_complete]
          rfl
  | other s => rfl

/-- It does nothing to another. -/
theorem view_sessionStep_other (e : SessionEvent) (k : ℤ) (hk : k ≠ e.streamId) :
    (sessionStep x e).view k = x.view k := by
  cases e with
  | header s name value =>
      simp only [sessionStep, onHeader, view_insert]
      exact if_neg hk
  | chunk s data =>
      simp only [sessionStep, onDataChunk]
      split
      · rfl
      · rw [view_insert]
        exact if_neg hk
  | headers s endHeaders endStream =>
      simp only [sessionStep]
      split
      · rw [view_complete]
        exact if_neg hk
      · rfl
  | data s endStream =>
      simp only [sessionStep]
      split
      · rw [view_complete]
        exact if_neg hk
      · rfl
  | other s => rfl

/-- What is held for a stream depends on its own events only. -/
theorem view_run_onStream (s : ℤ) (evs : List SessionEvent) :
    (run sessionStep .init evs).view s = run requestStep (none, []) (onStream s evs) :=
  view_run SessionEvent.streamId RequestSession.view requestStep
    view_sessionStep_own view_sessionStep_other s .init evs

end

/-! ## Fields and data -/

theorem lastValue_concat (name : Str) (fields : List (Str × Str)) (n value : Str) :
    lastValue name (fields ++ [(n, value)]) = if n = name then some value else lastValue name fields := by
  simp only [lastValue, lastMatch_concat, decide_eq_true_eq]
  split <;> rfl

theorem fieldsOf_concat (evs : List SessionEvent) (e : SessionEvent) :
    fieldsOf (evs ++ [e]) = fieldsOf evs ++ fieldsOf [e] := List.filterMap_append

theorem dataOf_concat (evs : List SessionEvent) (e : SessionEvent) :
    dataOf (evs ++ [e]) = dataOf evs ++ dataOf [e] := List.flatMap_append

theorem lastValue_of_ne {name n : Str} (h : n ≠ name) (fields : List (Str × Str)) (value : Str) :
    lastValue name (fields ++ [(n, value)]) = lastValue name fields := by
  rw [lastValue_concat, if_neg h]

/-- A field with a place of its own is not in the map. -/
theorem headers_of_own {fields : List (Str × Str)} {r : Http2Request} (h : FieldsLast fields r)
    {name : Str} (hown : name ∈ ownNames) (value n : Str) : r.headers.lookup n =
      if n ∈ ownNames then none else lastValue n (fields ++ [(name, value)]) := by
  rw [h.headers n]
  split
  · rfl
  · rename_i hn
    have hne : name ≠ n := fun heq => hn (heq ▸ hown)
    exact (lastValue_of_ne hne fields value).symm

/-- The stream id and the body do not matter. -/
theorem FieldsLast.update {fields : List (Str × Str)} {r : Http2Request} (h : FieldsLast fields r)
    (streamId : ℤ) (body : Bytes) : FieldsLast fields { r with streamId, body } :=
  ⟨h.method, h.path, h.authority, h.requestId, h.clientIp, h.headers⟩

/-- One more field. -/
theorem FieldsLast.setField {fields : List (Str × Str)} {r : Http2Request} (h : FieldsLast fields r)
    (name value : Str) : FieldsLast (fields ++ [(name, value)]) (r.setField name value) := by
  simp only [Http2Request.setField]
  split_ifs with hmethod hpath hauthority hrequestId hclientIp
  · subst hmethod
    refine ⟨?_, ?_, ?_, ?_, ?_, headers_of_own h (by decide) value⟩ <;>
      simp [lastValue_concat, h.path, h.authority, h.requestId, h.clientIp]
  · subst hpath
    refine ⟨?_, ?_, ?_, ?_, ?_, headers_of_own h (by decide) value⟩ <;>
      simp [lastValue_concat, h.method, h.authority, h.requestId, h.clientIp]
  · subst hauthority
    refine ⟨?_, ?_, ?_, ?_, ?_, headers_of_own h (by decide) value⟩ <;>
      simp [lastValue_concat, h.method, h.path, h.requestId, h.clientIp]
  · subst hrequestId
    refine ⟨?_, ?_, ?_, ?_, ?_, headers_of_own h (by decide) value⟩ <;>
      simp [lastValue_concat, h.method, h.path, h.authority, h.clientIp]
  · subst hclientIp
    refine ⟨?_, ?_, ?_, ?_, ?_, headers_of_own h (by decide) value⟩ <;>
      simp [lastValue_concat, h.method, h.path, h.authority, h.requestId]
  · have hown : name ∉ ownNames := by
      simp only [ownNames, List.mem_cons, List.not_mem_nil, hmethod, hpath, hauthority,
        hrequestId, hclientIp, or_self, not_false_eq_true]
    refine ⟨by rw [lastValue_of_ne hmethod, h.method], by rw [lastValue_of_ne hpath, h.path],
      by rw [lastValue_of_ne hauthority, h.authority],
      by rw [lastValue_of_ne hrequestId, h.requestId], by rw [lastValue_of_ne hclientIp, h.clientIp],
      fun n => ?_⟩
    rw [Assoc.lookup_insert_ite, h.headers n, lastValue_concat]
    by_cases hn : n = name
    · subst hn
      simp [hown]
    · simp [hn, Ne.symm hn]

/-! ## The phases of a stream -/

/-- The request so far: like the one that should be made, but that stream 1 has no body. -/
structure Collected (s : ℤ) (evs : List SessionEvent) (r : Http2Request) : Prop where
  fields : FieldsLast (fieldsOf evs) r
  body : r.body = if s = 1 then [] else dataOf evs

theorem collected_empty (s : ℤ) : Collected s [] .empty where
  fields := ⟨rfl, rfl, rfl, rfl, rfl, fun name => by simp [Http2Request.empty, fieldsOf, lastValue, lastMatch]⟩
  body := by simp [Http2Request.empty, dataOf]

/-- What a session holds for a stream in this phase. -/
def Holds (s : ℤ) (evs : List SessionEvent) (v : StreamView) : Phase → Prop
  | .idle => v = (none, []) ∧ Collected s evs .empty
  | .fields | .body | .trailers => ∃ r, v = (some r, []) ∧ r.streamId = s ∧ Collected s evs r
  | .closed => ∃ r, v = (none, [r]) ∧ r.streamId = s ∧ Collected s evs r

section
variable {s : ℤ} {evs : List SessionEvent} {r : Http2Request}

theorem Collected.header (h : Collected s evs r) (name value : Str) :
    Collected s (evs ++ [.header s name value])
      (Http2Request.setField { r with streamId := s } name value) where
  fields := by
    rw [fieldsOf_concat]
    exact (h.fields.update s r.body).setField name value
  body := by
    have hbody : (Http2Request.setField { r with streamId := s } name value).body = r.body := by
      simp only [Http2Request.setField]
      split_ifs <;> rfl
    rw [hbody, h.body, dataOf_concat]
    simp [dataOf]

theorem streamId_setField (name value : Str) : (r.setField name value).streamId = r.streamId := by
  simp only [Http2Request.setField]
  split_ifs <;> rfl

/-- A frame has no fields and no data. -/
theorem Collected.frame (h : Collected s evs r) {e : SessionEvent} (hfields : fieldsOf [e] = [])
    (hdata : dataOf [e] = []) : Collected s (evs ++ [e]) r where
  fields := by
    rw [fieldsOf_concat, hfields, List.append_nil]
    exact h.fields
  body := by
    rw [dataOf_concat, hdata, List.append_nil]
    exact h.body

theorem Collected.chunk (h : Collected s evs r) (data : Bytes) (hs : s ≠ 1) :
    Collected s (evs ++ [.chunk s data]) { r with body := r.body ++ data } where
  fields := by
    have hnone : fieldsOf [.chunk s data] = [] := rfl
    rw [fieldsOf_concat, hnone, List.append_nil]
    exact h.fields.update r.streamId _
  body := by
    rw [dataOf_concat, if_neg hs, h.body, if_neg hs]
    simp [dataOf]

/-- The chunks of stream 1 do not count. -/
theorem Collected.chunk_one (h : Collected 1 evs r) (data : Bytes) :
    Collected 1 (evs ++ [.chunk 1 data]) r where
  fields := by
    rw [fieldsOf_concat]
    simpa [fieldsOf] using h.fields
  body := by
    rw [if_pos rfl, h.body, if_pos rfl]

variable {v : StreamView}

/-- A field that belongs to a block. -/
theorem holds_header {name value : Str} (hv : v = (some r, [])) (hc : Collected s evs r) :
    ∃ r', requestStep v (.header s name value) = (some r', []) ∧ r'.streamId = s ∧
      Collected s (evs ++ [.header s name value]) r' := by
  subst hv
  exact ⟨_, rfl, streamId_setField name value, hc.header name value⟩

theorem holds_chunk {data : Bytes} (hv : v = (some r, [])) (hid : r.streamId = s)
    (hc : Collected s evs r) :
    ∃ r', requestStep v (.chunk s data) = (some r', []) ∧ r'.streamId = s ∧
      Collected s (evs ++ [.chunk s data]) r' := by
  subst hv
  by_cases hs : s = 1
  · subst hs
    exact ⟨r, by simp [requestStep], hid, hc.chunk_one data⟩
  · exact ⟨_, if_neg hs, hid, hc.chunk data hs⟩

/-- An event on a stream that has begun and not ended. -/
theorem holds_open {p q : Phase} {e : SessionEvent} (hv : v = (some r, [])) (hid : r.streamId = s)
    (hc : Collected s evs r) (he : e.streamId = s) (hidle : p ≠ .idle) (hopen : p ≠ .closed)
    (hnext : p.next e = some q) : Holds s (evs ++ [e]) (requestStep v e) q := by
  cases e with
  | header s' name value =>
      obtain rfl : s' = s := he
      cases p with
      | idle => exact absurd rfl hidle
      | closed => cases hnext
      | _ =>
          obtain rfl := Option.some.inj hnext
          exact holds_header hv hc
  | chunk s' data =>
      obtain rfl : s' = s := he
      cases p with
      | body =>
          obtain rfl := Option.some.inj hnext
          exact holds_chunk hv hid hc
      | _ => cases hnext
  | headers s' endHeaders endStream =>
      subst hv
      cases endHeaders with
      | false => cases p <;> cases hnext
      | true =>
          -- the frame ends the stream, or it is that of the first block
          cases endStream with
          | true =>
              obtain rfl : q = .closed := by cases p <;> cases hnext <;> rfl
              exact ⟨r, rfl, hid, hc.frame rfl rfl⟩
          | false =>
              obtain rfl : q = .body := by
                cases p <;> cases hnext
                rfl
              exact ⟨r, rfl, hid, hc.frame rfl rfl⟩
  | data s' endStream =>
      subst hv
      cases p with
      | body =>
          obtain rfl := Option.some.inj hnext
          cases endStream with
          | true => exact ⟨r, rfl, hid, hc.frame rfl rfl⟩
          | false => exact ⟨r, rfl, hid, hc.frame rfl rfl⟩
      | _ => cases hnext
  | other s' =>
      obtain rfl := Option.some.inj hnext
      cases p with
      | idle => exact absurd rfl hidle
      | closed => exact absurd rfl hopen
      | _ => exact ⟨r, hv, hid, hc.frame rfl rfl⟩

/-- An event keeps to the phases. -/
theorem holds_step {p q : Phase} {e : SessionEvent} (h : Holds s evs v p) (he : e.streamId = s)
    (hnext : p.next e = some q) : Holds s (evs ++ [e]) (requestStep v e) q := by
  cases p with
  | idle =>
      obtain ⟨rfl, hc⟩ := h
      cases e with
      | header s' name value =>
          obtain rfl : s' = s := he
          obtain rfl := Option.some.inj hnext
          exact ⟨_, rfl, streamId_setField name value, hc.header name value⟩
      | other s' =>
          obtain rfl := Option.some.inj hnext
          exact ⟨rfl, hc.frame rfl rfl⟩
      | headers s' endHeaders endStream => cases endHeaders <;> cases endStream <;> cases hnext
      | _ => cases hnext
  | closed =>
      obtain ⟨r, hv, hid, hc⟩ := h
      cases e with
      | other s' =>
          obtain rfl := Option.some.inj hnext
          exact ⟨r, hv, hid, hc.frame rfl rfl⟩
      | headers s' endHeaders endStream => cases endHeaders <;> cases endStream <;> cases hnext
      | _ => cases hnext
  | fields | body | trailers =>
      obtain ⟨r, hv, hid, hc⟩ := h
      exact holds_open hv hid hc he (by simp) (by simp) hnext

/-- What a session holds for a stream after its events. -/
theorem holds_run (hs : ∀ e ∈ evs, e.streamId = s) {p : Phase} (hphase : phase evs = some p) :
    Holds s evs (run requestStep (none, []) evs) p := by
  induction evs using List.reverseRecOn generalizing p with
  | nil =>
      obtain rfl := Option.some.inj hphase
      exact ⟨rfl, collected_empty s⟩
  | append_singleton evs e ih =>
      rw [phase, List.foldlM_append] at hphase
      obtain ⟨p', hp', hnext⟩ := Option.bind_eq_some_iff.mp hphase
      rw [List.foldlM_cons] at hnext
      obtain ⟨q, hq, hnil⟩ := Option.bind_eq_some_iff.mp hnext
      obtain rfl : q = p := Option.some.inj hnil
      rw [run_append]
      exact holds_step (ih (fun e' he' => hs e' (List.mem_append_left _ he')) hp')
        (hs e (by simp)) hq

end

/-! ## All streams -/

section
variable {evs : List SessionEvent}

/-- Every stream is in some phase. -/
theorem Interleaves.phase (H : Interleaves evs) (s : ℤ) :
    ∃ p, phase (onStream s evs) = some p := by
  by_cases hs : s ∈ evs.map SessionEvent.streamId
  · exact Option.isSome_iff_exists.mp (H s hs)
  · have hnil : onStream s evs = [] := by
      rw [onStream, List.filter_eq_nil_iff]
      intro e he
      simpa using fun heq : e.streamId = s => hs (List.mem_map.mpr ⟨e, he, heq⟩)
    exact ⟨.idle, by rw [hnil]; rfl⟩

theorem Interleaves.holds (H : Interleaves evs) (s : ℤ) : ∃ p, TunnelAgent.phase (onStream s evs) = some p ∧
    Holds s (onStream s evs) ((run sessionStep .init evs).view s) p := by
  obtain ⟨p, hp⟩ := H.phase s
  refine ⟨p, hp, ?_⟩
  rw [view_run_onStream]
  exact holds_run (fun e he => by simpa [onStream] using (List.mem_filter.mp he).2) hp

/-- A stream that ends gives one request, with the body of the stream unless it is stream 1. -/
theorem Interleaves.ended (H : Interleaves evs) {s : ℤ} (hends : Ends evs s) :
    ∃ r, (run sessionStep .init evs).callsOn s = [r] ∧ r.streamId = s ∧
      Collected s (onStream s evs) r ∧ s ∉ (run sessionStep .init evs).pendingRequests := by
  obtain ⟨p, hp, hholds⟩ := H.holds s
  obtain rfl := Option.some.inj (hp.symm.trans hends)
  obtain ⟨r, hview, hid, hc⟩ := hholds
  obtain ⟨hlookup, hcalls⟩ := Prod.mk.inj hview
  exact ⟨r, hcalls, hid, hc, AList.lookup_eq_none.mp hlookup⟩

theorem Interleaves.callsOn_of_not_ends (H : Interleaves evs) {s : ℤ} (hends : ¬ Ends evs s) :
    (run sessionStep .init evs).callsOn s = [] := by
  obtain ⟨p, hp, hholds⟩ := H.holds s
  cases p with
  | idle => exact (Prod.mk.inj hholds.1).2
  | closed => exact absurd hp hends
  | _ =>
      obtain ⟨r, hview, _⟩ := hholds
      exact (Prod.mk.inj hview).2

end

/-- **Requests are reassembled** in every interleaving of well-formed streams exactly if
stream 1, should it end, carries no data. -/
theorem reassembles_iff (evs : List SessionEvent) (H : Interleaves evs) :
    Reassembles evs ↔ (Ends evs 1 → dataOf (onStream 1 evs) = []) := by
  constructor
  · intro hall hends
    obtain ⟨⟨r, hcalls, hrequest⟩, _⟩ := (if_pos hends).mp (hall 1)
    obtain ⟨r', hcalls', _, hc, _⟩ := H.ended hends
    obtain rfl : r = r' := List.singleton_inj.mp (hcalls.symm.trans hcalls')
    rw [← hrequest.body, hc.body, if_pos rfl]
  · intro hone s
    split
    · rename_i hends
      obtain ⟨r, hcalls, hid, hc, hpending⟩ := H.ended hends
      refine ⟨⟨r, hcalls, hid, hc.fields, ?_⟩, hpending⟩
      rw [hc.body]
      split
      · rename_i hs
        subst hs
        exact (hone hends).symm
      · rfl
    · rename_i hends
      exact H.callsOn_of_not_ends hends

/-- A POST on a stream, up to its body. -/
def samplePost (s : ℤ) : List SessionEvent :=
  [.header s ":method".toList "POST".toList, .header s ":path".toList "/a".toList,
    .headers s true false]

/-- Stream 1 has no body; those of streams 3 and 5 come in turns. -/
theorem reassembles_inTurns :
    let evs := [.header 1 ":method".toList "GET".toList, .headers 1 true true] ++ samplePost 3 ++
      samplePost 5 ++ [.chunk 3 [65], .chunk 5 [66], .data 5 true, .chunk 3 [67], .data 3 true]
    Reassembles evs ↔ (Ends evs 1 → dataOf (onStream 1 evs) = []) :=
  reassembles_iff _ (by decide)

/-- The first request of the server is a POST with a body of one byte. -/
theorem not_reassembles :
    Interleaves (samplePost 1 ++ [.chunk 1 [65], .data 1 true]) ∧
      ¬ Reassembles (samplePost 1 ++ [.chunk 1 [65], .data 1 true]) := by
  refine ⟨by decide, fun H => ?_⟩
  obtain ⟨⟨r, hcalls, hrequest⟩, _⟩ := (if_pos (by decide)).mp (H 1)
  have hbody : ((run sessionStep .init (samplePost 1 ++ [.chunk 1 [65], .data 1 true])).callsOn 1).map
      Http2Request.body = [[]] := by decide
  rw [hcalls] at hbody
  have hempty : r.body = [] := by simpa using hbody
  exact absurd (hrequest.body.symm.trans hempty) (by decide)

end Protogate.TunnelAgent
