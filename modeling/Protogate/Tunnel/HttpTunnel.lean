import Protogate.Agent.StreamEnd
import Protogate.Lib.Channels
import Protogate.TunnelAgent.RequestForwarder
import Protogate.Wire.Bodies
import Protogate.Wire.TunnelMetadata

/-!
# The tunnel for requests

A client's request goes through four parties: the server submits it on a new stream, nghttp2
carries the stream to the agent, the agent puts the request together and forwards it to the
local service, and the service's answer comes back on the same stream.  The streams of one
agent session share a socket; nghttp2 delivers each of them in order and interleaves them as
it likes, while requests, timers, GOAWAY and the loss of the connection come at any time.

The body of a request is submitted before its stream is there, and nghttp2 does not take it.  So
the agent gets the fields of such a request, and neither the body nor the end of the stream.

The parties are those of their own modules, where calls of the loggers return.  What is added
is what is in transit between them, and the record of the requests made and the answers given.
nghttp2 at each end gets the bytes that the other end sent, in their order: no read of the socket
begins like a TCP frame.  What is sent on a stream that nghttp2 resets stays in transit.

## Main definitions

* `Relayed`, `Answer` — the record of requests and answers.
* `Relayed.events`, `Answer.events` — what nghttp2 delivers for them.
* `HttpTunnel`, `httpTunnelStep` — all parties, and one step of one of them.
* `submitted_request` — what the connection gives nghttp2 for a request.
* `phase_events` — how far the events of a request take its stream.
* `fieldsHeard_before`, `chunksHeard_before` — what is heard of a response before its last event.
-/

namespace Protogate.Tunnel

open Protogate.Lib Protogate.Agent Protogate.Proxy Protogate.TunnelAgent Protogate.Wire

/-! ## What travels -/

/-- What nghttp2 chooses for a response: the room it offers the data provider, and where it
cuts the data it hands to the server. -/
structure Framing where
  room : ℕ
  cuts : List ℕ
  deriving DecidableEq, Repr

/-- The pieces of the data; a callback is made for each that is not empty. -/
def Framing.pieces {α : Type} [DecidableEq α] (f : Framing) (data : List α) : List (List α) :=
  (cut f.cuts data).filter fun piece => piece ≠ []

/-- A request that was submitted: the call it belongs to, its text, and its stream. -/
structure Relayed where
  call : ℕ
  requestId : Str
  text : Str
  streamId : StreamId
  deriving DecidableEq

/-- The header list of the request, and its body. -/
def Relayed.headers (q : Relayed) : List (Str × Str) := (parseHttpRequest q.requestId q.text).1
def Relayed.body (q : Relayed) : Str := (parseHttpRequest q.requestId q.text).2

/-- What the agent's callbacks see of a request: `keeps` tells the fields that nghttp2 finds
valid.  The stream ends with them if there is no body, and else not at all. -/
def Relayed.events (keeps : Str × Str → Bool) (q : Relayed) : List SessionEvent :=
  (q.headers.filter keeps).map (fun h => .header q.streamId h.1 h.2) ++
    [.headers q.streamId true q.body.isEmpty]

/-- A response that the agent submitted on a stream. -/
structure Answer where
  streamId : StreamId
  response : ForwardResponse
  framing : Framing
  deriving DecidableEq

/-- The fields submitted; nghttp2 puts their names in lower case. -/
def Answer.fields (a : Answer) : List (Str × Str) :=
  (":status".toList, decimal a.response.statusCode) ::
    a.response.headers.map fun h => (lower h.1, h.2)

def Answer.sentBody (a : Answer) : Str :=
  (readCallback a.response.body a.framing.room).data.map byteChar

/-- What the server's callbacks see of a response. -/
inductive ResponseEvent
  | header (streamId : StreamId) (name value : Str)
  | headers (streamId : StreamId)
  | chunk (streamId : StreamId) (data : Str)
  | data (streamId : StreamId)
  deriving DecidableEq, Repr

def ResponseEvent.streamId : ResponseEvent → StreamId
  | .header s _ _ | .headers s | .chunk s _ | .data s => s

/-- The call nghttp2 makes. -/
def ResponseEvent.toExchange : ResponseEvent → ExchangeEvent
  | .header s name value => .header s name value
  | .headers s => .frame (.headers s true false)
  | .chunk s piece => .data s piece
  | .data s => .frame (.data s true)

/-- A response always has a data provider, so the stream ends with a DATA frame. -/
def Answer.events (keeps : Str × Str → Bool) (a : Answer) : List ResponseEvent :=
  (a.fields.filter keeps).map (fun h => .header a.streamId h.1 h.2) ++
    .headers a.streamId :: (a.framing.pieces a.sentBody).map (.chunk a.streamId) ++
      [.data a.streamId]

/-! ## The parties -/

/-- The server's connection, the agent's session and what it keeps about responses, the
events in transit, those that have arrived, and the record. -/
structure HttpTunnel where
  server : Exchange
  session : RequestSession
  responses : Responses
  downlink : List SessionEvent
  uplink : List ResponseEvent
  seen : List SessionEvent
  landed : List ResponseEvent
  requests : List Relayed
  answers : List Answer

/-- A socket that has just been authenticated, and the session of its agent. -/
def HttpTunnel.init : HttpTunnel where
  server := .init .connected
  session := .init
  responses := ⟨true, ∅, []⟩
  downlink := []
  uplink := []
  seen := []
  landed := []
  requests := []
  answers := []

/-- What the local service, nghttp2 and the socket say to a request that is complete. -/
structure Reply where
  response : ForwardResponse
  accepted : Bool
  sent : Bool
  framing : Framing
  deriving DecidableEq

/-- The callback given to `HTTP2Session::start`: the request is forwarded, and the response
submitted on the stream it names. -/
def HttpTunnel.onRequest (keeps : Str × Str → Bool) (t : HttpTunnel) (request : Http2Request)
    (reply : Reply) : HttpTunnel :=
  let answer : Answer := ⟨request.streamId, reply.response, reply.framing⟩
  let responses := Wire.sendResponse t.responses request.streamId reply.response.statusCode
    reply.response.headers reply.response.body reply.accepted reply.sent
  if reply.accepted then
    { t with
      responses
      uplink := t.uplink ++ answer.events keeps
      answers := t.answers ++ [answer] }
  else { t with responses }

/-- The next event on a stream reaches the agent; `reply` is what comes of a request that it
completes. -/
def HttpTunnel.toAgent (keeps : Str × Str → Bool) (t : HttpTunnel) (s : StreamId) (reply : Reply) :
    HttpTunnel :=
  match receive SessionEvent.streamId s t.downlink with
  | none => t
  | some (e, downlink) =>
      let session := sessionStep t.session e
      let arrived := { t with downlink, session, seen := t.seen ++ [e] }
      match session.calls.drop t.session.calls.length with
      | [] => arrived
      | (_, request) :: _ => arrived.onRequest keeps request reply

/-- The next event on a stream reaches the server. -/
def HttpTunnel.toServer (t : HttpTunnel) (s : StreamId) : HttpTunnel :=
  match receive ResponseEvent.streamId s t.uplink with
  | none => t
  | some (e, uplink) =>
      { t with server := exchangeStep t.server e.toExchange, uplink, landed := t.landed ++ [e] }

/-- A request of a client; if the connection takes it, it is in transit. -/
def HttpTunnel.request (keeps : Str × Str → Bool) (t : HttpTunnel) (requestId text : Str)
    (streamId : StreamId) (sent : Bool) : HttpTunnel :=
  let server := exchangeStep t.server (.send requestId text streamId sent)
  let q : Relayed := ⟨t.server.requests.length, requestId, text, streamId⟩
  if t.server.agent.Accepts streamId then
    { t with
      server
      downlink := t.downlink ++ q.events keeps
      requests := t.requests ++ [q] }
  else { t with server }

inductive HttpTunnelEvent
  | start (sent : Bool)
  | request (requestId text : Str) (streamId : StreamId) (sent : Bool)
  | toAgent (streamId : StreamId) (reply : Reply)
  | toServer (streamId : StreamId)
  | timer (i : ℕ)
  | goaway
  | disconnect
  deriving DecidableEq

def httpTunnelStep (keeps : Str × Str → Bool) (t : HttpTunnel) : HttpTunnelEvent → HttpTunnel
  | .start sent => { t with server := exchangeStep t.server (.start sent) }
  | .request requestId text streamId sent => t.request keeps requestId text streamId sent
  | .toAgent s reply => t.toAgent keeps s reply
  | .toServer s => t.toServer s
  | .timer i => { t with server := exchangeStep t.server (.timer i) }
  | .goaway => { t with server := exchangeStep t.server (.frame .goaway) }
  | .disconnect => { t with server := exchangeStep t.server .disconnect }

/-! ## The events of a request -/

/-- nghttp2 keeps the pseudo-header fields. -/
def KeepsPseudo (keeps : Str × Str → Bool) : Prop :=
  ∀ name value, name.head? = some ':' → keeps (name, value) = true

section
variable {keeps : Str × Str → Bool} {q : Relayed}

/-- What the connection gives nghttp2 for a request on a new stream: the fields, and no body. -/
theorem submitted_request {t : HttpTunnel} {call : ℕ} {requestId text : Str} {s : StreamId}
    (haccepts : t.server.agent.Accepts s) (hnew : t.server.agent.NewStream s) :
    (exchangeStep t.server (.send requestId text s true)).agent.submitted =
      t.server.agent.submitted ++ [⟨s, Relayed.headers ⟨call, requestId, text, s⟩,
        (Relayed.body ⟨call, requestId, text, s⟩).isEmpty, none⟩] := by
  simp only [exchangeStep, Exchange.request, Exchange.advance, sendHttpRequest_of_accepts haccepts, if_true,
    AgentConnection.startTimer, AgentConnection.register, submitData_of_newStream hnew, ite_self]
  rfl

theorem streamId_of_mem_events {e : SessionEvent} (he : e ∈ q.events keeps) : e.streamId = q.streamId := by
  simp only [Relayed.events, List.mem_append, List.mem_map, List.mem_singleton] at he
  obtain ⟨h, _, rfl⟩ | rfl := he <;> rfl

theorem other_not_mem_events (s : ℤ) : SessionEvent.other s ∉ q.events keeps := by
  simp [Relayed.events]

theorem fieldsOf_append (xs ys : List SessionEvent) : fieldsOf (xs ++ ys) = fieldsOf xs ++ fieldsOf ys :=
  List.filterMap_append

theorem dataOf_append (xs ys : List SessionEvent) : dataOf (xs ++ ys) = dataOf xs ++ dataOf ys :=
  List.flatMap_append

theorem fieldsOf_headers (s : ℤ) (fields : List (Str × Str)) :
    fieldsOf (fields.map fun h => .header s h.1 h.2) = fields := by
  simp [fieldsOf, List.filterMap_map]

theorem dataOf_headers (s : ℤ) (fields : List (Str × Str)) :
    dataOf (fields.map fun h => .header s h.1 h.2) = [] := by
  simp [dataOf, List.flatMap_map]

theorem flatten_pieces {α : Type} [DecidableEq α] (f : Framing) (data : List α) :
    (f.pieces data).flatten = data := flatten_filter_cut f.cuts data

/-- The fields delivered are those kept. -/
theorem fieldsOf_events : fieldsOf (q.events keeps) = q.headers.filter keeps := by
  rw [Relayed.events, fieldsOf_append, fieldsOf_headers]
  simp [fieldsOf]

/-- No data is delivered. -/
theorem dataOf_events : dataOf (q.events keeps) = [] := by
  rw [Relayed.events, dataOf_append, dataOf_headers]
  simp [dataOf]

/-- The first field is `:method`. -/
theorem headers_filter_ne_nil (hkeeps : KeepsPseudo keeps) : q.headers.filter keeps ≠ [] := by
  intro hnil
  have hmethod : ∃ value, (":method".toList, value) ∈ q.headers := by
    simp only [Relayed.headers, parseHttpRequest]
    exact ⟨_, List.mem_cons_self⟩
  obtain ⟨value, hmem⟩ := hmethod
  exact List.filter_eq_nil_iff.mp hnil _ hmem (hkeeps _ _ rfl)

/-- The events end the stream of a request without a body, and leave that of another one open. -/
theorem phase_events (hkeeps : KeepsPseudo keeps) :
    phase (q.events keeps) = some (if q.body.isEmpty then .closed else .body) := by
  obtain ⟨f, fields, hfields⟩ := List.exists_cons_of_ne_nil (headers_filter_ne_nil (q := q) hkeeps)
  have hblock : (((q.headers.filter keeps).map fun h => SessionEvent.header q.streamId h.1 h.2).foldlM
      Phase.next .idle) = some .fields := by
    rw [hfields]
    exact foldlM_fields q.streamId fields
  rw [phase, Relayed.events, List.foldlM_append, hblock]
  cases q.body.isEmpty <;> rfl

end

/-! ## Whole streams -/

theorem onStream_eq (s : ℤ) (evs : List SessionEvent) :
    onStream s evs = onChannel SessionEvent.streamId s evs := rfl

/-- What begins a well-formed stream is well-formed so far. -/
theorem phase_isSome_of_append {xs ys : List SessionEvent} (h : (phase (xs ++ ys)).isSome) :
    (phase xs).isSome := by
  rw [phase, List.foldlM_append] at h
  cases hxs : phase xs with
  | none =>
      rw [phase] at hxs
      simp [hxs] at h
  | some p => rfl

/-- After the end of a stream nothing comes that is looked at. -/
theorem foldlM_closed {ys : List SessionEvent} {p : Phase} (h : ys.foldlM Phase.next .closed = some p)
    (hother : ∀ s, SessionEvent.other s ∉ ys) : ys = [] := by
  cases ys with
  | nil => rfl
  | cons e ys =>
      rw [List.foldlM_cons] at h
      cases e with
      | other s => exact absurd List.mem_cons_self (hother s)
      | headers s endHeaders endStream => cases endHeaders <;> cases endStream <;> simp [Phase.next] at h
      | _ => simp [Phase.next] at h

/-- A stream that has ended has been delivered whole. -/
theorem eq_nil_of_phase_closed {xs ys : List SessionEvent} (hxs : phase xs = some .closed)
    (h : (phase (xs ++ ys)).isSome) (hother : ∀ s, SessionEvent.other s ∉ ys) : ys = [] := by
  obtain ⟨p, hp⟩ := Option.isSome_iff_exists.mp h
  rw [phase, List.foldlM_append, ← phase, hxs] at hp
  exact foldlM_closed hp hother

/-! ## The events of a response -/

/-- What the connection hears of an event. -/
def ResponseEvent.toHeard : ResponseEvent → Option Proxy.StreamEvent
  | .header s name value => some (.header s name value)
  | .chunk s piece => some (.data s piece)
  | .headers _ | .data _ => none

/-- The text of a response in the words of the connection. -/
def Answer.text (keeps : Str × Str → Bool) (a : Answer) : Str :=
  statusResponse (decimal a.response.statusCode) (a.fields.filter keeps) [a.sentBody]

/-- The events of a response before its last. -/
def Answer.before (keeps : Str × Str → Bool) (a : Answer) : List ResponseEvent :=
  (a.fields.filter keeps).map (fun h => .header a.streamId h.1 h.2) ++
    .headers a.streamId :: (a.framing.pieces a.sentBody).map (.chunk a.streamId)

section
variable {keeps : Str × Str → Bool} {a : Answer}

theorem events_eq_before : a.events keeps = a.before keeps ++ [.data a.streamId] := by
  simp [Answer.events, Answer.before]

theorem data_not_mem_before (s : StreamId) : ResponseEvent.data s ∉ a.before keeps := by
  simp [Answer.before]

theorem streamId_of_mem_before {e : ResponseEvent} (he : e ∈ a.before keeps) :
    e.streamId = a.streamId := by
  simp only [Answer.before, List.mem_append, List.mem_map, List.mem_cons] at he
  obtain ⟨h, _, rfl⟩ | rfl | ⟨_, _, rfl⟩ := he <;> rfl

theorem streamId_of_mem_answer {e : ResponseEvent} (he : e ∈ a.events keeps) :
    e.streamId = a.streamId := by
  rw [events_eq_before, List.mem_append, List.mem_singleton] at he
  obtain he | rfl := he
  · exact streamId_of_mem_before he
  · rfl

/-- How a body is cut does not matter. -/
theorem statusResponse_flatten (status : Str) (fields : List (Str × Str)) {chunks : List Str} {body : Str}
    (h : chunks.flatten = body) : statusResponse status fields chunks = statusResponse status fields [body] := by
  have hflat : chunks.flatten = [body].flatten := by simp [h]
  unfold statusResponse
  rw [hflat]

theorem firstStatus_cons (value : Str) (fields : List (Str × Str)) :
    firstStatus ((":status".toList, value) :: fields) = some value := by
  simp [firstStatus]

theorem beginsWithStatus_of_cons {s : StreamId} {heard : List Proxy.StreamEvent} {value : Str}
    {fields : List (Str × Str)} (h : fieldsHeard s heard = (":status".toList, value) :: fields) :
    BeginsWithStatus s heard := by
  rw [BeginsWithStatus, h]
  rfl

theorem fields_filter (hkeeps : KeepsPseudo keeps) : a.fields.filter keeps =
    (":status".toList, decimal a.response.statusCode) ::
      (a.response.headers.map fun h => (lower h.1, h.2)).filter keeps :=
  List.filter_cons_of_pos (hkeeps _ _ rfl)

end

/-- The fields heard on a stream are those of its own events. -/
theorem fieldsHeard_filterMap (s : StreamId) (landed : List ResponseEvent) :
    fieldsHeard s (landed.filterMap ResponseEvent.toHeard) =
      fieldsHeard s ((onChannel ResponseEvent.streamId s landed).filterMap ResponseEvent.toHeard) := by
  rw [fieldsHeard, fieldsHeard, List.filterMap_filterMap, List.filterMap_filterMap]
  refine (filterMap_onChannel (fun e he => ?_) landed).symm
  cases e with
  | header k name value => simpa [ResponseEvent.toHeard, ResponseEvent.streamId] using he
  | _ => simp [ResponseEvent.toHeard]

theorem chunksHeard_filterMap (s : StreamId) (landed : List ResponseEvent) :
    chunksHeard s (landed.filterMap ResponseEvent.toHeard) =
      chunksHeard s ((onChannel ResponseEvent.streamId s landed).filterMap ResponseEvent.toHeard) := by
  rw [chunksHeard, chunksHeard, List.filterMap_filterMap, List.filterMap_filterMap]
  refine (filterMap_onChannel (fun e he => ?_) landed).symm
  cases e with
  | chunk k data => simpa [ResponseEvent.toHeard, ResponseEvent.streamId] using he
  | _ => simp [ResponseEvent.toHeard]

section
variable {keeps : Str × Str → Bool} {a : Answer}

theorem fieldsHeard_before : fieldsHeard a.streamId ((a.before keeps).filterMap ResponseEvent.toHeard) =
    a.fields.filter keeps := by
  simp [Answer.before, fieldsHeard, ResponseEvent.toHeard, List.filterMap_map, List.filterMap_append,
    List.filterMap_filterMap]

theorem chunksHeard_before : chunksHeard a.streamId ((a.before keeps).filterMap ResponseEvent.toHeard) =
    a.framing.pieces a.sentBody := by
  simp [Answer.before, chunksHeard, ResponseEvent.toHeard, List.filterMap_map, List.filterMap_append,
    List.filterMap_filterMap]

end

end Protogate.Tunnel
