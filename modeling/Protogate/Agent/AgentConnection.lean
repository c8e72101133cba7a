import Protogate.Lib.Assoc
import Protogate.Lib.Bytes
import Protogate.Lib.Text

/-!
# Requests on an agent connection

`send_http_request` opens an HTTP/2 stream and stores the callback under the
request id and the request id under the stream id.  The callback is invoked when
the stream ends, when the request's timer expires, or when the connection is lost.
What nghttp2 delivers for a stream is collected under the stream id meanwhile.

`nghttp2_submit_data` is called before the stream of the request exists, so it fails
whenever there is a body (`submitData_of_newStream`): the HEADERS of such a request do not
end its stream, and no DATA follow.

Callbacks are values; the operations return, next to the new state, the callbacks
they invoke with the arguments, in order.  nghttp2 is a parameter of the events:
the stream id it gives, and whether sending succeeds.  Calls of the logger are taken to
return.

## Main definitions

* `AgentConnection` — the state.
* `start`, `handshakeDone`, `sendHttpRequest`, `onHeader`, `onDataChunk`, `onFrameRecv`,
  `completeRequest`, `timerExpired`, `close` — the operations.
* `completeRequest_cases`, `timerExpired_cases`, `onFrameRecv_cases` — what they come to.
* `AgentConnection.submitData`, `AgentConnection.NewStream` — whether nghttp2 takes a body.
* `parseHttpRequest` — the header list and the body of a request text.
* `sendTcpClose` — the TCP_CLOSE frame for a connection id.
-/

namespace Protogate.Agent

open Protogate.Lib

/-! ## State -/

inductive State
  | connecting
  | authenticating
  | connected
  | disconnecting
  | disconnected
  deriving DecidableEq, Repr

/-- An `int32_t` from nghttp2; negative values are errors. -/
abbrev StreamId := ℤ

/-- A callback with its arguments. -/
structure Invocation (κ : Type) where
  callback : κ
  response : Str
  error : Bool
  deriving DecidableEq, Repr

/-- What nghttp2 has taken for a request: its HEADERS, which end the stream or not, and the
body for which it holds a data provider. -/
structure Submission where
  streamId : StreamId
  headers : List (Str × Str)
  endStream : Bool
  provided : Option Str
  deriving DecidableEq, Repr

/-- The state around requests: `http2_session_` is null or not, the five maps, the
timers that have not expired, and what nghttp2 has taken. -/
structure AgentConnection (κ : Type) where
  state : State
  session : Bool
  pendingRequests : Assoc Str κ
  streamToRequest : Assoc StreamId Str
  streamBodies : Assoc Str Str
  streamHeaders : Assoc StreamId Str
  streamBodiesRecv : Assoc StreamId Str
  timers : List (Str × StreamId)
  submitted : List Submission

/-- A connection right after `start`. -/
def AgentConnection.started (κ : Type) : AgentConnection κ :=
  ⟨.connected, true, ∅, ∅, ∅, ∅, ∅, [], []⟩

/-- A connection when it is created, without a session: in `CONNECTING`, or in
`CONNECTED` for a socket that is authenticated. -/
def AgentConnection.created (κ : Type) (state : State) : AgentConnection κ :=
  ⟨state, false, ∅, ∅, ∅, ∅, ∅, [], []⟩

variable {κ : Type}

/-! ## Closing -/

/-- `handle_disconnect` fails all pending requests. -/
def handleDisconnect (s : AgentConnection κ) : AgentConnection κ × List (Invocation κ) :=
  ({ s with pendingRequests := ∅ }, s.pendingRequests.entries.map fun e => ⟨e.2, [], true⟩)

def close (s : AgentConnection κ) : AgentConnection κ × List (Invocation κ) :=
  if s.state = .disconnected ∨ s.state = .disconnecting then (s, [])
  else handleDisconnect { s with session := false, state := .disconnected }

/-! ## Starting -/

/-- `initialize_nghttp2`; `sent` is whether the `nghttp2_session_send` at the end succeeds. -/
def initializeNghttp2 (s : AgentConnection κ) (sent : Bool) :
    AgentConnection κ × List (Invocation κ) :=
  let s := { s with session := true }
  if sent then (s, []) else close s

/-- `start`; without authentication the handshake goes on by itself. -/
def start (s : AgentConnection κ) (sent : Bool) : AgentConnection κ × List (Invocation κ) :=
  if s.state = .connected then initializeNghttp2 s sent else (s, [])

/-- The completion of the handshake that `do_handshake` starts. -/
def handshakeDone (s : AgentConnection κ) (ok sent : Bool) :
    AgentConnection κ × List (Invocation κ) :=
  if ok then initializeNghttp2 { s with state := .connected } sent
  else handleDisconnect { s with state := .disconnected }

/-! ## The text of a request -/

/-- `headers[name] = value` in a `std::map`, which is in the order of the names. -/
def setHeader (name value : Str) : List (Str × Str) → List (Str × Str)
  | [] => [(name, value)]
  | (n, v) :: rest =>
      if name = n then (name, value) :: rest
      else if name < n then (name, value) :: (n, v) :: rest
      else (n, v) :: setHeader name value rest

/-- One header line without its end; a line without a colon is skipped. -/
def parseHeaderLine (line : Str) (headers : List (Str × Str)) : List (Str × Str) :=
  let line := if line.getLast? = some '\r' then line.dropLast else line
  if ':' ∈ line then
    let name := line.takeWhile (· ≠ ':')
    let value := (line.dropWhile (· ≠ ':')).drop 1
    setHeader (name.map Char.toLower) (trim (fun c => c = ' ' || c = '\t') value) headers
  else headers

/-- The header lines up to an empty one, and what follows; `n` bounds their number. -/
def parseHeaderLines : ℕ → Str → List (Str × Str) → List (Str × Str) × Str
  | 0, stream, headers => (headers, stream)
  | n + 1, stream, headers =>
      match getline stream with
      | none => (headers, [])
      | some (line, stream) =>
          if line = [] ∨ line = ['\r'] then (headers, stream)
          else parseHeaderLines n stream (parseHeaderLine line headers)

/-- The header list submitted for a request text, and its body. -/
def parseHttpRequest (requestId httpRequest : Str) : List (Str × Str) × Str :=
  let (requestLine, stream) := (getline httpRequest).getD ([], [])
  let (method, line) := extractWord requestLine
  let (path, _) := extractWord line
  let (headers, body) := parseHeaderLines stream.length stream []
  let authority := headers.filter fun h => h.1 = "host".toList
  let others := headers.filter fun h => h.1 ≠ "host".toList
  ([(":method".toList, method), (":path".toList, path), (":scheme".toList, "https".toList)] ++
      authority.map (fun h => (":authority".toList, h.2)) ++
      [("x-tunnel-request-id".toList, requestId)] ++ others, body)

/-! ## Sending a request -/

/-- `nghttp2_submit_data`: without the stream the result is `NGHTTP2_ERR_STREAM_CLOSED`, which is
only logged, and nghttp2 does not take the provider.  A stream comes into being when its HEADERS
are sent.  Those of earlier requests have been, or else their session was closed; those of the
request itself are sent at the end of `send_http_request`. -/
def AgentConnection.submitData (s : AgentConnection κ) (streamId : StreamId) (body : Str) :
    Option Str :=
  if s.submitted.any fun sub => sub.streamId = streamId then some body else none

/-- Submit a request and store its callback, its stream and its body. -/
def AgentConnection.register (s : AgentConnection κ) (requestId httpRequest : Str) (callback : κ)
    (streamId : StreamId) : AgentConnection κ :=
  let (headers, body) := parseHttpRequest requestId httpRequest
  let provided := if body.isEmpty then none else s.submitData streamId body
  { s with
    submitted := s.submitted ++ [⟨streamId, headers, body.isEmpty, provided⟩]
    streamBodies := if body.isEmpty then s.streamBodies else s.streamBodies.insert requestId body
    pendingRequests := s.pendingRequests.insert requestId callback
    streamToRequest := s.streamToRequest.insert streamId requestId }

/-- Start the timer of a request. -/
def AgentConnection.startTimer (s : AgentConnection κ) (requestId : Str) (streamId : StreamId) :
    AgentConnection κ :=
  { s with timers := s.timers ++ [(requestId, streamId)] }

/-- `send_http_request`; `streamId` is what nghttp2 returns for the headers, and
`sent` whether the `nghttp2_session_send` at the end succeeds. -/
def sendHttpRequest (s : AgentConnection κ) (requestId httpRequest : Str) (callback : κ)
    (streamId : StreamId) (sent : Bool) : AgentConnection κ × List (Invocation κ) :=
  if s.state ≠ .connected then (s, [⟨callback, [], true⟩])
  else if !s.session then (s, [⟨callback, [], true⟩])
  else if streamId < 0 then (s, [⟨callback, [], true⟩])
  else
    let s := s.register requestId httpRequest callback streamId
    let (s, invoked) := if sent then (s, []) else close s
    (s.startTimer requestId streamId, invoked)

/-- nghttp2 gives a request a stream id that it has not given before. -/
def AgentConnection.NewStream (s : AgentConnection κ) (streamId : StreamId) : Prop :=
  ∀ sub ∈ s.submitted, sub.streamId ≠ streamId

instance (s : AgentConnection κ) (streamId : StreamId) : Decidable (s.NewStream streamId) :=
  inferInstanceAs (Decidable (∀ sub ∈ s.submitted, sub.streamId ≠ streamId))

/-- The provider of a body is submitted before there is a stream for it. -/
theorem submitData_of_newStream {s : AgentConnection κ} {streamId : StreamId}
    (h : s.NewStream streamId) (body : Str) : s.submitData streamId body = none := by
  have hany : (s.submitted.any fun sub => sub.streamId = streamId) = false := by
    rw [List.any_eq_false]
    exact fun sub hsub => by simpa using h sub hsub
  rw [AgentConnection.submitData, hany]
  rfl

/-- A request is submitted: the connection is up and nghttp2 gives it a stream. -/
def AgentConnection.Accepts (s : AgentConnection κ) (streamId : StreamId) : Prop :=
  s.state = .connected ∧ s.session = true ∧ 0 ≤ streamId

instance (s : AgentConnection κ) (streamId : StreamId) : Decidable (s.Accepts streamId) :=
  inferInstanceAs (Decidable (_ ∧ _ ∧ _))

section
variable {s : AgentConnection κ} {streamId : StreamId}

/-- A submitted request is stored; if sending fails the connection is lost at once. -/
theorem sendHttpRequest_of_accepts (h : s.Accepts streamId) (requestId httpRequest : Str)
    (callback : κ) (sent : Bool) :
    sendHttpRequest s requestId httpRequest callback streamId sent =
      let result := if sent then (s.register requestId httpRequest callback streamId, [])
        else close (s.register requestId httpRequest callback streamId)
      (result.1.startTimer requestId streamId, result.2) := by
  obtain ⟨hstate, hsession, hid⟩ := h
  simp only [sendHttpRequest, hstate, hsession, not_lt.mpr hid, ne_eq, not_true_eq_false, if_false,
    Bool.not_true, Bool.false_eq_true]

/-- Other requests are refused. -/
theorem sendHttpRequest_of_not_accepts (h : ¬ s.Accepts streamId) (requestId httpRequest : Str)
    (callback : κ) (sent : Bool) :
    sendHttpRequest s requestId httpRequest callback streamId sent =
      (s, [⟨callback, [], true⟩]) := by
  simp only [sendHttpRequest]
  split
  · rfl
  · split
    · rfl
    · split
      · rfl
      · rename_i hstate hsession hid
        refine absurd ⟨?_, ?_, not_lt.mp hid⟩ h
        · simpa using hstate
        · simpa using hsession

end

/-! ## What nghttp2 delivers -/

/-- The text collected for a stream after one more header. -/
def addHeader (text : Option Str) (name value : Str) : Option Str :=
  if name = ":status".toList then
    match text with
    | none => some ("HTTP/1.1 ".toList ++ value ++ " OK\r\n".toList)
    | some text => some text
  else if name.headD '\x00' = ':' then text
  else some (text.getD [] ++ (name ++ ": ".toList ++ value ++ "\r\n".toList))

/-- `on_header_callback`. -/
def onHeader (s : AgentConnection κ) (streamId : StreamId) (name value : Str) : AgentConnection κ :=
  match addHeader (s.streamHeaders.lookup streamId) name value with
  | some text => { s with streamHeaders := s.streamHeaders.insert streamId text }
  | none => s

/-- `on_data_chunk_recv_callback`. -/
def onDataChunk (s : AgentConnection κ) (streamId : StreamId) (data : Str) : AgentConnection κ :=
  { s with
    streamBodiesRecv := s.streamBodiesRecv.insert streamId
      ((s.streamBodiesRecv.lookup streamId).getD [] ++ data) }

/-- The response built from the text of the headers and the body. -/
def responseText (headers body : Option Str) : Str :=
  let response := headers.getD []
  (if response.isEmpty then response else response ++ "\r\n".toList) ++ body.getD []

/-- `complete_request`. -/
def completeRequest (s : AgentConnection κ) (streamId : StreamId) :
    AgentConnection κ × List (Invocation κ) :=
  match s.streamToRequest.lookup streamId with
  | none => (s, [])
  | some requestId =>
      match s.pendingRequests.lookup requestId with
      | none => (s, [])
      | some callback =>
          let response := responseText (s.streamHeaders.lookup streamId)
            (s.streamBodiesRecv.lookup streamId)
          ({ s with
              pendingRequests := s.pendingRequests.erase requestId
              streamToRequest := s.streamToRequest.erase streamId
              streamHeaders := s.streamHeaders.erase streamId
              streamBodiesRecv := s.streamBodiesRecv.erase streamId
              streamBodies := s.streamBodies.erase requestId },
            [⟨callback, response, false⟩])

/-- A frame from the agent, with what `on_frame_recv_callback` looks at: of HEADERS
whether they are those of a response. -/
inductive RecvFrame
  | headers (streamId : StreamId) (response endStream : Bool)
  | data (streamId : StreamId) (endStream : Bool)
  | goaway
  | other
  deriving DecidableEq, Repr

/-- `on_frame_recv_callback`. -/
def onFrameRecv (s : AgentConnection κ) : RecvFrame → AgentConnection κ × List (Invocation κ)
  | .headers streamId response endStream =>
      if response && endStream then completeRequest s streamId else (s, [])
  | .data streamId endStream => if endStream then completeRequest s streamId else (s, [])
  | .goaway => close s
  | .other => (s, [])

/-! ## Timers -/

/-- The handler of the `i`-th timer, without error. -/
def timerExpired (s : AgentConnection κ) (i : ℕ) : AgentConnection κ × List (Invocation κ) :=
  match s.timers[i]? with
  | none => (s, [])
  | some (requestId, streamId) =>
      let s := { s with timers := s.timers.eraseIdx i }
      match s.pendingRequests.lookup requestId with
      | none => (s, [])
      | some callback =>
          ({ s with
              pendingRequests := s.pendingRequests.erase requestId
              streamToRequest := s.streamToRequest.erase streamId
              streamBodies := s.streamBodies.erase requestId },
            [⟨callback, [], true⟩])

/-! ## What the operations come to -/

/-- The connection after `complete_request` has invoked a callback. -/
def AgentConnection.completed (a : AgentConnection κ) (id : Str) (s : StreamId) :
    AgentConnection κ :=
  { a with
    pendingRequests := a.pendingRequests.erase id
    streamToRequest := a.streamToRequest.erase s
    streamHeaders := a.streamHeaders.erase s
    streamBodiesRecv := a.streamBodiesRecv.erase s
    streamBodies := a.streamBodies.erase id }

/-- The connection after a timer has invoked a callback. -/
def AgentConnection.timedOut (a : AgentConnection κ) (id : Str) (s : StreamId) :
    AgentConnection κ :=
  { a with
    pendingRequests := a.pendingRequests.erase id
    streamToRequest := a.streamToRequest.erase s
    streamBodies := a.streamBodies.erase id }

section
variable (a : AgentConnection κ)

/-- `complete_request` takes out the request mapped from the stream, or does nothing. -/
theorem completeRequest_cases (s : StreamId) :
    (∃ id callback, a.streamToRequest.lookup s = some id ∧
      a.pendingRequests.lookup id = some callback ∧
      completeRequest a s = (a.completed id s, [⟨callback,
        responseText (a.streamHeaders.lookup s) (a.streamBodiesRecv.lookup s), false⟩])) ∨
    (∀ id, a.streamToRequest.lookup s = some id → id ∉ a.pendingRequests) ∧
      completeRequest a s = (a, []) := by
  simp only [completeRequest]
  cases hmap : a.streamToRequest.lookup s with
  | none => exact .inr ⟨by simp, rfl⟩
  | some id =>
      cases hstored : a.pendingRequests.lookup id with
      | none =>
          refine .inr ⟨?_, by simp [hstored]⟩
          intro id' heq
          rw [← Option.some.inj heq]
          exact AList.lookup_eq_none.mp hstored
      | some callback =>
          exact .inl ⟨id, callback, rfl, hstored, by simp [hstored, AgentConnection.completed]⟩

/-- A timer takes out its request if that is pending. -/
theorem timerExpired_cases (i : ℕ) :
    (∃ id s callback, a.timers[i]? = some (id, s) ∧ a.pendingRequests.lookup id = some callback ∧
      timerExpired a i = ({ a.timedOut id s with timers := a.timers.eraseIdx i },
        [⟨callback, [], true⟩])) ∨
    (∀ id s, a.timers[i]? = some (id, s) → id ∉ a.pendingRequests) ∧
      ∃ timers, timers.Sublist a.timers ∧ timerExpired a i = ({ a with timers }, []) := by
  simp only [timerExpired]
  cases htimer : a.timers[i]? with
  | none => exact .inr ⟨by simp, a.timers, .refl _, rfl⟩
  | some timer =>
      obtain ⟨id, s⟩ := timer
      cases hstored : a.pendingRequests.lookup id with
      | none =>
          refine .inr ⟨?_, a.timers.eraseIdx i, List.eraseIdx_sublist _ _, by simp [hstored]⟩
          rintro id' s' heq
          obtain ⟨rfl, rfl⟩ := Prod.mk.inj (Option.some.inj heq)
          exact AList.lookup_eq_none.mp hstored
      | some callback =>
          exact .inl ⟨id, s, callback, rfl, hstored, by simp [hstored, AgentConnection.timedOut]⟩

/-- A frame completes the request on the stream it ends, closes the connection, or does
nothing. -/
theorem onFrameRecv_cases (f : RecvFrame) :
    (∃ s, (f = .headers s true true ∨ f = .data s true) ∧ onFrameRecv a f = completeRequest a s) ∨
      (f = .goaway ∧ onFrameRecv a f = close a) ∨ (f ≠ .goaway ∧ onFrameRecv a f = (a, [])) := by
  cases f with
  | headers s response endStream =>
      cases hends : response && endStream with
      | true =>
          obtain ⟨rfl, rfl⟩ := Bool.and_eq_true_iff.mp hends
          exact .inl ⟨s, .inl rfl, rfl⟩
      | false => exact .inr (.inr ⟨by simp, by rw [onFrameRecv, hends]; rfl⟩)
  | data s endStream =>
      cases endStream with
      | true => exact .inl ⟨s, .inr rfl, rfl⟩
      | false => exact .inr (.inr ⟨by simp, rfl⟩)
  | goaway => exact .inr (.inl ⟨rfl, rfl⟩)
  | other => exact .inr (.inr ⟨by simp, rfl⟩)

end

/-! ## Closing a TCP connection -/

/-- `static_cast<uint8_t>` of a character. -/
def charByte (c : Char) : UInt8 := UInt8.ofNat c.toNat

/-- The first 16 characters of the id, filled up with zeros. -/
def closeId (connectionId : Str) : Bytes :=
  let copied := (connectionId.take 16).map charByte
  copied ++ List.replicate (16 - copied.length) 0

/-- The frame `send_tcp_close` writes to the socket of a connected agent. -/
def sendTcpClose (s : AgentConnection κ) (connectionId : Str) : Option Bytes :=
  if s.state ≠ .connected then none else some (0x12 :: closeId connectionId ++ [0, 0])

end Protogate.Agent
