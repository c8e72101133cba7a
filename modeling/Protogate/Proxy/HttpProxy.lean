import Protogate.Agent.AgentConnection
import Protogate.Lib.Run

/-!
# Routing requests to an agent

`route_to_agent` gives a request the id `req_` followed by the time in seconds and
passes it to the agent connection with a callback that answers the client.

A `Relay` is the agent connection with the calls made so far.  Calls are numbered
and the number is the callback; the relay records which stream a call opened, what
was heard on all streams, and the answers to the clients with how much had been
heard by then.

## Main definitions

* `HTTPRequest`, `HTTPResponse` — as the proxy has them.
* `routeToAgent` — the call.
* `Relay`, `RelayEvent`, `relayStep` — a call, or something that happens to the agent.
* `Isolated` — every call is answered once at most, with its own response.
-/

namespace Protogate.Proxy

open Protogate.Lib Protogate.Agent

/-! ## Requests and responses -/

/-- A request; the order of the headers is that of the map's iteration. -/
structure HTTPRequest where
  method : Str
  path : Str
  version : Str
  host : Str
  clientIp : Str
  headers : List (Str × Str)
  body : Str
  deriving DecidableEq, Repr

def headerLines (headers : List (Str × Str)) : Str :=
  headers.flatMap fun h => h.1 ++ ": ".toList ++ h.2 ++ "\r\n".toList

/-- `HTTPRequest::to_string`. -/
def HTTPRequest.toText (r : HTTPRequest) : Str :=
  r.method ++ " ".toList ++ r.path ++ " ".toList ++ r.version ++ "\r\n".toList ++
    headerLines r.headers ++ "\r\n".toList ++ r.body

structure HTTPResponse where
  statusCode : ℕ
  statusMessage : Str
  headers : List (Str × Str)
  body : Str
  deriving DecidableEq, Repr

/-- `HTTPResponse::to_string`. -/
def HTTPResponse.toText (r : HTTPResponse) : Str :=
  let length :=
    if r.headers.all (fun h => h.1 ≠ "content-length".toList) && !r.body.isEmpty then
      "Content-Length: ".toList ++ decimal r.body.length ++ "\r\n".toList
    else []
  "HTTP/1.1 ".toList ++ decimal r.statusCode ++ " ".toList ++ r.statusMessage ++ "\r\n".toList ++
    headerLines r.headers ++ length ++ "\r\n".toList ++ r.body

/-- `HTTPResponse::error`. -/
def HTTPResponse.error (code : ℕ) (message : Str) : HTTPResponse where
  statusCode := code
  statusMessage := message
  headers := [("Content-Type".toList, "text/plain".toList)]
  body := message ++ "\n".toList

/-! ## The relay -/

/-- What nghttp2 says about a stream. -/
inductive StreamEvent
  | header (streamId : StreamId) (name value : Str)
  | data (streamId : StreamId) (data : Str)
  deriving DecidableEq, Repr

/-- An answer to a client: the call it belongs to, its text, the status if it is an
error made by the proxy, and how much had been heard on all streams. -/
structure Reply where
  call : ℕ
  text : Str
  error : Option ℕ
  heardBefore : ℕ
  deriving DecidableEq, Repr

/-- The agent connection, the number of calls, the streams they opened, what was
heard, and the answers. -/
structure Relay where
  agent : AgentConnection ℕ
  calls : ℕ
  opened : List (ℕ × StreamId)
  heard : List StreamEvent
  replies : List Reply

def Relay.init : Relay := ⟨.started ℕ, 0, [], [], []⟩

/-- The callback `route_to_agent` gives to the agent connection. -/
def answer (heardBefore : ℕ) (i : Invocation ℕ) : Reply :=
  if i.error then ⟨i.callback, (HTTPResponse.error 502 "Bad Gateway".toList).toText, some 502, heardBefore⟩
  else ⟨i.callback, i.response, none, heardBefore⟩

/-- The agent connection goes on, and the callbacks it invokes answer. -/
def Relay.advance (r : Relay) (result : AgentConnection ℕ × List (Invocation ℕ)) : Relay :=
  { r with
    agent := result.1
    replies := r.replies ++ result.2.map (answer r.heard.length) }

/-- What a call finds: whether `is_connected` holds for the tunnel, whether
`get_agent` finds the connection then, the time, and what nghttp2 does. -/
structure RouteEnv where
  isConnected : Bool
  found : Bool
  now : ℤ
  streamId : StreamId
  sent : Bool
  deriving DecidableEq, Repr

/-- The request id of a call. -/
def RouteEnv.requestId (env : RouteEnv) : Str := "req_".toList ++ decimal env.now

/-- A request is submitted to nghttp2. -/
def Submits (r : Relay) (env : RouteEnv) : Prop :=
  env.isConnected = true ∧ env.found = true ∧ r.agent.state = .connected ∧
    r.agent.session = true ∧ 0 ≤ env.streamId

instance (r : Relay) (env : RouteEnv) : Decidable (Submits r env) :=
  inferInstanceAs (Decidable (_ ∧ _ ∧ _ ∧ _ ∧ _))

/-- An error made by the proxy itself. -/
def Relay.refuse (r : Relay) (code : ℕ) (message : Str) : Relay :=
  { r with
    calls := r.calls + 1
    replies := r.replies ++
      [⟨r.calls, (HTTPResponse.error code message).toText, some code, r.heard.length⟩] }

/-- `route_to_agent`. -/
def routeToAgent (r : Relay) (request : HTTPRequest) (env : RouteEnv) : Relay :=
  if !env.isConnected then r.refuse 503 "Agent not connected".toList
  else if !env.found then r.refuse 500 "Agent connection error".toList
  else
    let opened :=
      if Submits r env then r.opened ++ [(r.calls, env.streamId)] else r.opened
    { r with calls := r.calls + 1, opened }.advance
      (sendHttpRequest r.agent env.requestId request.toText r.calls env.streamId env.sent)

/-- A call, something nghttp2 delivers, the expiry of a timer, or the loss of the
connection. -/
inductive RelayEvent
  | route (request : HTTPRequest) (env : RouteEnv)
  | header (streamId : StreamId) (name value : Str)
  | data (streamId : StreamId) (data : Str)
  | frame (f : RecvFrame)
  | timer (i : ℕ)
  | disconnect

def relayStep (r : Relay) : RelayEvent → Relay
  | .route request env => routeToAgent r request env
  | .header streamId name value =>
      { r with
        agent := onHeader r.agent streamId name value
        heard := r.heard ++ [.header streamId name value] }
  | .data streamId data =>
      { r with
        agent := onDataChunk r.agent streamId data
        heard := r.heard ++ [.data streamId data] }
  | .frame f => r.advance (onFrameRecv r.agent f)
  | .timer i => r.advance (timerExpired r.agent i)
  | .disconnect => r.advance (close r.agent)

/-! ## Isolation -/

/-- The header text accumulated for a stream. -/
def headersHeard (streamId : StreamId) (heard : List StreamEvent) : Option Str :=
  heard.foldl (fun text e =>
    match e with
    | .header s name value => if s = streamId then addHeader text name value else text
    | .data _ _ => text) none

/-- The body accumulated for a stream. -/
def bodyHeard (streamId : StreamId) (heard : List StreamEvent) : Option Str :=
  heard.foldl (fun text e =>
    match e with
    | .header _ _ _ => text
    | .data s data => if s = streamId then some (text.getD [] ++ data) else text) none

/-- The header and body text accumulated for a stream. -/
def textHeard (streamId : StreamId) (heard : List StreamEvent) : Str :=
  responseText (headersHeard streamId heard) (bodyHeard streamId heard)

/-- Every call is answered once at most; and an answer that is not an error is what
had been accumulated for the stream this call opened. -/
structure Isolated (r : Relay) : Prop where
  once : (r.replies.map Reply.call).Nodup
  own : ∀ reply ∈ r.replies, reply.error = none →
    ∃ streamId, (reply.call, streamId) ∈ r.opened ∧
      reply.text = textHeard streamId (r.heard.take reply.heardBefore)

end Protogate.Proxy
