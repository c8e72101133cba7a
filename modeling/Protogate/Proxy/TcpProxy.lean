import Protogate.Lib.Assoc
import Protogate.Lib.LastMatch
import Protogate.Lib.Run
import Protogate.Models.Tunnel
import Protogate.Proxy.TcpProtocol

/-!
# The TCP proxy

`TCPProxy` copies bytes between client sockets and agents.  A connection object
is shared between the map `connections_`, keyed by connection id, and the
handlers of its asynchronous operations; so objects are numbered, the map holds
numbers, and a handler holds the number of its object whatever the map says.

Next to the fields of the source a `Connection` records the operations that are
outstanding on its client socket and the bytes that have passed so far.

## Main definitions

* `TCPConnection`, `Connection`, `TcpProxy` — the state.
* `createConnection`, `createConnectionByPort`, `sendData`, `receiveData`,
  `updateWindow`, `closeConnection`, `handleAgentTcpFrame` — the operations.
* `Event`, `step` — one step: a call, or the completion of an operation.
* `lookup_update` — an update changes one object.
* `sendData_cases`, `closeConnection_cases` — what `send_data` and `close_connection` do.
* `createConnection_rule`, `createConnectionByPort_rule`, `closeConnection_rule`,
  `sendData_rule`, `clientRead_rule`, `clientEnd_rule`, `handleAgentTcpFrame_rule`,
  `updateWindow_rule`, `receiveData_rule` — what the operations keep.
-/

namespace Protogate.Proxy

open Protogate.Lib Protogate.Models Protogate.Wire

/-! ## State -/

inductive ConnectionState
  | connecting
  | established
  | closing
  | closed
  deriving DecidableEq, Repr

/-- TCP connection context. -/
structure TCPConnection where
  connectionId : Str
  tunnelId : Str
  clientIp : Str
  targetPort : ℕ
  state : ConnectionState
  bytesSent : ℕ
  bytesReceived : ℕ
  sendBuffer : Bytes
  recvBuffer : Bytes
  deriving DecidableEq, Repr

/-- The 64 KB windows, the same for every connection. -/
def sendWindowSize : ℕ := 65536
def recvWindowSize : ℕ := 65536

/-- A connection object, the operations outstanding on its client socket, and the
bytes that have passed: read from the client, accepted from the agent, and given
to writes to the client. -/
structure Connection extends TCPConnection where
  reading : Bool
  writes : List Bytes
  read : Bytes
  accepted : Bytes
  written : Bytes
  overErased : Bool
  deriving DecidableEq, Repr

/-- A TCP_OPEN frame before serialization. -/
structure TCPOpenFrame where
  connectionId : ConnectionId
  targetPort : UInt16
  deriving DecidableEq

/-- A TCP_DATA frame before serialization. -/
structure TCPDataFrame where
  connectionId : ConnectionId
  sequenceNumber : UInt32
  data : Bytes
  deriving DecidableEq

/-- A frame handed to the agent connection of a tunnel, with the connection id
given next to it and whether `send_tcp_data` reported success. -/
inductive AgentSend
  | tcpOpen (tunnelId connectionId : Str) (frame : TCPOpenFrame) (ok : Bool)
  | tcpData (tunnelId connectionId : Str) (frame : TCPDataFrame) (ok : Bool)
  | tcpClose (tunnelId connectionId : Str)
  deriving DecidableEq

/-- The objects by number, the map of the source, and what went to the agents. -/
structure TcpProxy where
  objects : Assoc ℕ Connection
  created : ℕ
  connections : Assoc Str ℕ
  sent : List AgentSend

def TcpProxy.init : TcpProxy := ⟨∅, 0, ∅, []⟩

/-- Change the object `ref`, if it exists. -/
def TcpProxy.update (p : TcpProxy) (ref : ℕ) (f : Connection → Connection) : TcpProxy :=
  match p.objects.lookup ref with
  | some c => { p with objects := p.objects.insert ref (f c) }
  | none => p

/-- `get_connection`. -/
def TcpProxy.getConnection (p : TcpProxy) (id : Str) : Option (ℕ × Connection) := do
  let ref ← p.connections.lookup id
  let c ← p.objects.lookup ref
  return (ref, c)

/-! ## Creating a connection -/

/-- What a `create_connection` call reads elsewhere: the cached tunnel, the address
of the client, whether the agent is connected, whether it is still registered
when the frame is sent and how that goes, and the random id. -/
structure CreateEnv where
  tunnel : Option Tunnel
  clientIp : Option Str
  connected : Bool
  agent : Option Bool
  uuid : ConnectionId

/-- `validate_ip_allowlist`; `allows list ip` says that the list parses and allows
the address. -/
def validateIpAllowlist (allows : List Str → Str → Bool) (tunnel : Tunnel) (ip : Str) : Bool :=
  tunnel.ipAllowlist.isEmpty || allows tunnel.ipAllowlist ip

/-- The address of a client that passes the checks both overloads make. -/
def admitClient (allows : List Str → Str → Bool) (env : CreateEnv) : Option Str := do
  let tunnel ← env.tunnel
  let ip ← env.clientIp
  if validateIpAllowlist allows tunnel ip && env.connected then some ip else none

/-- A connection object as both overloads make it. -/
def newConnection (id tunnelId ip : Str) (port : ℕ) (state : ConnectionState) : Connection where
  connectionId := id
  tunnelId := tunnelId
  clientIp := ip
  targetPort := port
  state := state
  bytesSent := 0
  bytesReceived := 0
  sendBuffer := []
  recvBuffer := []
  -- `read_from_client` starts a read on an established connection only
  reading := state = .established
  writes := []
  read := []
  accepted := []
  written := []
  overErased := false

/-- The state after `send_tcp_data` has reported on the TCP_OPEN frame. -/
def openState (ok : Bool) : ConnectionState := if ok then .established else .connecting

/-- Make the object, under a new number. -/
def TcpProxy.addObject (p : TcpProxy) (c : Connection) : TcpProxy :=
  { p with objects := p.objects.insert p.created c, created := p.created + 1 }

/-- `create_connection` with an explicit tunnel id. -/
def createConnection (allows : List Str → Str → Bool) (p : TcpProxy) (env : CreateEnv)
    (tunnelId : Str) : TcpProxy :=
  match admitClient allows env with
  | none => p
  | some ip =>
      match env.agent with
      | some ok =>
          let id := connectionIdToString env.uuid
          { p.addObject (newConnection id tunnelId ip 0 (openState ok)) with
            connections := p.connections.insert id p.created
            sent := p.sent ++ [.tcpOpen tunnelId id ⟨env.uuid, 0⟩ ok] }
      | none => p.addObject (newConnection [] tunnelId ip 0 .established)

/-- `match_tunnel_by_port` over the cached tunnels in the order visited. -/
def matchTunnelByPort (order : List (Str × Tunnel)) (port : ℕ) : Str :=
  match lastMatch (fun e => e.2.protocol == .tcp && e.2.targetPort == port) order with
  | some (tunnelId, _) => tunnelId
  | none => []

/-- `generate_connection_id` of the proxy, from eight random digits. -/
def generateConnectionId (digits : Vector (Fin 16) 8) : Str :=
  "tcp-".toList ++ digits.toList.map fun d => Nat.digitChar d

/-- `create_connection` by port: the object is stored under a temporary id before
it gets the id of the TCP_OPEN frame. -/
def createConnectionByPort (allows : List Str → Str → Bool) (p : TcpProxy) (env : CreateEnv)
    (order : List (Str × Tunnel)) (port : ℕ) (digits : Vector (Fin 16) 8) : TcpProxy :=
  let tunnelId := matchTunnelByPort order port
  let tempId := generateConnectionId digits
  if tunnelId.isEmpty then p
  else
    match admitClient allows env with
    | none => p
    | some ip =>
        match env.agent with
        | some ok =>
            let id := connectionIdToString env.uuid
            { p.addObject (newConnection id tunnelId ip port (openState ok)) with
              connections := p.connections.insert tempId p.created
              sent := p.sent ++ [.tcpOpen tunnelId id ⟨env.uuid, 0⟩ ok] }
        | none =>
            { p.addObject (newConnection tempId tunnelId ip port .established) with
              connections := p.connections.insert tempId p.created }

/-! ## Closing -/

/-- `close_connection`; `agent` says whether the tunnel's agent is registered. -/
def closeConnection (p : TcpProxy) (id : Str) (graceful agent : Bool) : TcpProxy :=
  match p.getConnection id with
  | none => p
  | some (ref, c) =>
      let p :=
        if graceful && !c.sendBuffer.isEmpty then
          p.update ref fun c => { c with state := .closing }
        else
          { p.update ref fun c => { c with state := .closed } with
            connections := p.connections.erase id }
      if agent then { p with sent := p.sent ++ [.tcpClose c.tunnelId id] } else p

/-- `handle_error` closes at once. -/
def handleError (p : TcpProxy) (id : Str) (agent : Bool) : TcpProxy :=
  closeConnection p id false agent

/-! ## From the client to the agent -/

/-- `send_window_size - send_buffer.size()` in 64 bits. -/
def available (c : Connection) : ℕ :=
  (2 ^ 64 + sendWindowSize - c.sendBuffer.length) % 2 ^ 64

/-- Append the accepted bytes to the send buffer. -/
def Connection.queue (c : Connection) (data : Bytes) : Connection :=
  { c with sendBuffer := c.sendBuffer ++ data, bytesSent := c.bytesSent + data.length }

/-- `send_data`: the number of bytes accepted and the state after it; `agent` is
whether the tunnel's agent is registered, and how `send_tcp_data` goes. -/
def sendData (p : TcpProxy) (id : Str) (data : Bytes) (agent : Option Bool) : ℕ × TcpProxy :=
  match p.getConnection id with
  | none => (0, p)
  | some (ref, c) =>
      if c.state ≠ .established then (0, p)
      else
        let toSend := min data.length (available c)
        if toSend = 0 then (0, p)
        else
          let queued := p.update ref (·.queue (data.take toSend))
          match agent with
          | none => (toSend, queued)
          | some ok =>
              match stringToConnectionId id with
              | none => (0, queued)
              | some uuid =>
                  let frame : TCPDataFrame := ⟨uuid, UInt32.ofNat c.bytesSent, data.take toSend⟩
                  (toSend, { queued with sent := queued.sent ++ [.tcpData c.tunnelId id frame ok] })

/-- `update_window`. -/
def updateWindow (p : TcpProxy) (id : Str) (bytesConsumed : ℕ) : TcpProxy :=
  match p.getConnection id with
  | none => p
  | some (ref, c) =>
      if bytesConsumed ≤ c.sendBuffer.length then
        p.update ref fun c => { c with sendBuffer := c.sendBuffer.drop bytesConsumed }
      else p

/-- `read_from_client`: start a read if the connection is established. -/
def Connection.startRead (c : Connection) : Connection :=
  { c with reading := c.state = .established }

def Connection.finishRead (c : Connection) (data : Bytes) : Connection :=
  { c with reading := false, read := c.read ++ data }

/-- A read of the client's socket completes with `data`. -/
def clientRead (p : TcpProxy) (ref : ℕ) (data : Bytes) (agent : Option Bool) : TcpProxy :=
  match p.objects.lookup ref with
  | none => p
  | some c =>
      if !c.reading then p
      else
        let p := p.update ref (·.finishRead data)
        ((sendData p c.connectionId data agent).2).update ref Connection.startRead

/-- A read of the client's socket completes with an error or the end of the stream. -/
def clientEnd (p : TcpProxy) (ref : ℕ) (eof agent : Bool) : TcpProxy :=
  match p.objects.lookup ref with
  | none => p
  | some c =>
      if !c.reading then p
      else closeConnection (p.update ref fun c => { c with reading := false }) c.connectionId eof agent

/-! ## From the agent to the client -/

/-- Append a payload to the receive buffer. -/
def Connection.accept (c : Connection) (data : Bytes) (length : ℕ) : Connection :=
  { c with
    recvBuffer := c.recvBuffer ++ data
    bytesReceived := c.bytesReceived + length
    accepted := c.accepted ++ data }

/-- `receive_data` with a buffer of `length` bytes. -/
def receiveData (p : TcpProxy) (id : Str) (data : Bytes) (length : ℕ) : TcpProxy :=
  match p.getConnection id with
  | none => p
  | some (ref, c) =>
      if recvWindowSize < c.recvBuffer.length + length then p
      else p.update ref (·.accept data length)

/-- `write_to_client`: start a write of the whole receive buffer. -/
def Connection.startWrite (c : Connection) : Connection :=
  if c.recvBuffer.isEmpty then c
  else { c with writes := c.writes ++ [c.recvBuffer], written := c.written ++ c.recvBuffer }

/-- The completion handler of a write of `n` bytes. -/
def Connection.finishWrite (c : Connection) (n : ℕ) : Connection :=
  Connection.startWrite
    { c with
      recvBuffer := c.recvBuffer.drop n
      overErased := c.overErased || decide (c.recvBuffer.length < n) }

/-- The `i`-th of the outstanding writes of an object completes. -/
def writeDone (p : TcpProxy) (ref i : ℕ) : TcpProxy :=
  p.update ref fun c =>
    match c.writes[i]? with
    | none => c
    | some contents => Connection.finishWrite { c with writes := c.writes.eraseIdx i } contents.length

/-- What the server makes of a frame from the agent. -/
inductive AgentFrame
  | data (connectionId : Str) (data : Bytes) (length : ℕ)
  | close (connectionId : Str)
  | error (connectionId : Str)
  deriving DecidableEq, Repr

/-- The first frame of a buffer; the length check is in 32 bits. -/
def decodeAgentFrame (frame : Bytes) : Option AgentFrame :=
  if frame.length < 17 then none
  else
    match connectionIdOfBytes ((frame.drop 1).take 16) with
    | none => none
    | some uuid =>
        let id := connectionIdToString uuid
        let type := frame.headD 0
        if type = 0x11 then
          if 25 ≤ frame.length then
            let dataLen := field 21 4 frame
            if (25 + dataLen) % 2 ^ 32 ≤ frame.length then
              some (.data id ((frame.drop 25).take dataLen) dataLen)
            else none
          else none
        else if type = 0x12 then some (.close id)
        else if type = 0x13 then if 21 ≤ frame.length then some (.error id) else none
        else none

/-- `handle_agent_tcp_frame`. -/
def handleAgentTcpFrame (p : TcpProxy) (frame : Bytes) (agent : Bool) : TcpProxy :=
  match decodeAgentFrame frame with
  | none => p
  | some (.data id data length) =>
      let p := receiveData p id data length
      match p.getConnection id with
      | none => p
      | some (ref, _) => p.update ref Connection.startWrite
  | some (.close id) => closeConnection p id true agent
  | some (.error id) => handleError p id agent

/-! ## Steps -/

/-- A call of the proxy, or the completion of an operation on a client socket. -/
inductive Event
  | create (env : CreateEnv) (tunnelId : Str)
  | createByPort (env : CreateEnv) (order : List (Str × Tunnel)) (port : ℕ)
      (digits : Vector (Fin 16) 8)
  | clientRead (ref : ℕ) (data : Bytes) (agent : Option Bool)
  | clientEnd (ref : ℕ) (eof agent : Bool)
  | writeDone (ref i : ℕ)
  | agentFrame (frame : Bytes) (agent : Bool)
  | updateWindow (connectionId : Str) (bytesConsumed : ℕ)
  | close (connectionId : Str) (graceful agent : Bool)

def step (allows : List Str → Str → Bool) (p : TcpProxy) : Event → TcpProxy
  | .create env tunnelId => createConnection allows p env tunnelId
  | .createByPort env order port digits => createConnectionByPort allows p env order port digits
  | .clientRead ref data agent => clientRead p ref data agent
  | .clientEnd ref eof agent => clientEnd p ref eof agent
  | .writeDone ref i => writeDone p ref i
  | .agentFrame frame agent => handleAgentTcpFrame p frame agent
  | .updateWindow id n => updateWindow p id n
  | .close id graceful agent => closeConnection p id graceful agent

/-! ## What an operation changes -/

theorem lookup_update (p : TcpProxy) (ref r : ℕ) (f : Connection → Connection) :
    (p.update ref f).objects.lookup r =
      if r = ref then (p.objects.lookup r).map f else p.objects.lookup r := by
  simp only [TcpProxy.update]
  split
  · rename_i c hc
    rw [Assoc.lookup_insert_ite]
    by_cases hr : r = ref
    · rw [if_pos hr, if_pos hr, hr, hc]
      rfl
    · rw [if_neg hr, if_neg hr]
  · rename_i hc
    by_cases hr : r = ref
    · rw [if_pos hr, hr, hc]
      rfl
    · rw [if_neg hr]

theorem lookup_update_self {p : TcpProxy} {ref : ℕ} {c : Connection}
    (h : p.objects.lookup ref = some c) (f : Connection → Connection) :
    (p.update ref f).objects.lookup ref = some (f c) := by
  rw [lookup_update, if_pos rfl, h]
  rfl

@[simp] theorem connections_update (p : TcpProxy) (ref : ℕ) (f : Connection → Connection) :
    (p.update ref f).connections = p.connections := by
  simp only [TcpProxy.update]
  split <;> rfl

@[simp] theorem sent_update (p : TcpProxy) (ref : ℕ) (f : Connection → Connection) :
    (p.update ref f).sent = p.sent := by
  simp only [TcpProxy.update]
  split <;> rfl

@[simp] theorem created_update (p : TcpProxy) (ref : ℕ) (f : Connection → Connection) :
    (p.update ref f).created = p.created := by
  simp only [TcpProxy.update]
  split <;> rfl

theorem lookup_addObject (p : TcpProxy) (c : Connection) (r : ℕ) :
    (p.addObject c).objects.lookup r = if r = p.created then some c else p.objects.lookup r :=
  Assoc.lookup_insert_ite p.objects p.created r c

theorem getConnection_eq_some_iff {p : TcpProxy} {id : Str} {ref : ℕ} {c : Connection} :
    p.getConnection id = some (ref, c) ↔
      p.connections.lookup id = some ref ∧ p.objects.lookup ref = some c := by
  simp only [TcpProxy.getConnection]
  constructor
  · intro h
    obtain ⟨r, hr, h⟩ := Option.bind_eq_some_iff.mp h
    obtain ⟨d, hd, h⟩ := Option.bind_eq_some_iff.mp h
    obtain ⟨rfl, rfl⟩ := Prod.mk.inj (Option.some.inj h)
    exact ⟨hr, hd⟩
  · rintro ⟨hr, hc⟩
    simp [hr, hc]

theorem update_update (p : TcpProxy) (ref : ℕ) (f g : Connection → Connection) :
    (p.update ref f).update ref g = p.update ref fun c => g (f c) := by
  simp only [TcpProxy.update]
  cases hc : p.objects.lookup ref with
  | none => simp only [hc]
  | some c => simp only [AList.lookup_insert, AList.insert_insert]

theorem update_sent (p : TcpProxy) (sent : List AgentSend) (ref : ℕ) (f : Connection → Connection) :
    TcpProxy.update { p with sent := sent } ref f = { p.update ref f with sent := sent } := by
  simp only [TcpProxy.update]
  cases p.objects.lookup ref with
  | none => rfl
  | some c => rfl

theorem connectionId_startWrite (c : Connection) : c.startWrite.connectionId = c.connectionId := by
  rw [Connection.startWrite]
  split <;> rfl

theorem getConnection_update {p : TcpProxy} {id : Str} {ref : ℕ} {c : Connection}
    (h : p.getConnection id = some (ref, c)) (f : Connection → Connection) :
    (p.update ref f).getConnection id = some (ref, f c) := by
  obtain ⟨hmap, hobj⟩ := getConnection_eq_some_iff.mp h
  exact getConnection_eq_some_iff.mpr ⟨by simpa using hmap, lookup_update_self hobj f⟩

/-- A read that completes sends and starts the next one. -/
theorem clientRead_eq {p : TcpProxy} {ref : ℕ} {c : Connection}
    (h : p.objects.lookup ref = some c) (hreading : c.reading = true) (data : Bytes)
    (agent : Option Bool) :
    clientRead p ref data agent = ((sendData (p.update ref (·.finishRead data))
      (c.finishRead data).connectionId data agent).2).update ref Connection.startRead := by
  simp only [clientRead, h, hreading, Bool.not_true, Bool.false_eq_true, if_false]
  rfl

/-- A TCP_DATA frame for an unknown connection is dropped. -/
theorem handle_data_none {p : TcpProxy} {frame : Bytes} {agent : Bool} {id : Str} {data : Bytes}
    {length : ℕ} (hframe : decodeAgentFrame frame = some (.data id data length))
    (hget : p.getConnection id = none) : handleAgentTcpFrame p frame agent = p := by
  simp only [handleAgentTcpFrame, hframe, receiveData, hget]

/-- A TCP_DATA frame changes one object: its payload is accepted if it fits into
the window, and a write is started in any case. -/
theorem handle_data_some {p : TcpProxy} {frame : Bytes} {agent : Bool} {id : Str} {data : Bytes}
    {length ref : ℕ} {c : Connection}
    (hframe : decodeAgentFrame frame = some (.data id data length))
    (hget : p.getConnection id = some (ref, c)) :
    handleAgentTcpFrame p frame agent =
      if recvWindowSize < c.recvBuffer.length + length then p.update ref Connection.startWrite
      else p.update ref fun c => (c.accept data length).startWrite := by
  simp only [handleAgentTcpFrame, hframe, receiveData, hget]
  by_cases hfull : recvWindowSize < c.recvBuffer.length + length
  · simp only [hfull, if_true, hget]
  · simp only [hfull, if_false, getConnection_update hget, update_update]

/-- A frame from the agent does nothing, changes the object it carries data for, or closes a
connection. -/
theorem handleAgentTcpFrame_cases (p : TcpProxy) (frame : Bytes) (agent : Bool) :
    handleAgentTcpFrame p frame agent = p ∨
      (∃ id data length ref c, decodeAgentFrame frame = some (.data id data length) ∧
        p.getConnection id = some (ref, c) ∧
        handleAgentTcpFrame p frame agent =
          if recvWindowSize < c.recvBuffer.length + length then p.update ref Connection.startWrite
          else p.update ref fun c => (c.accept data length).startWrite) ∨
      ∃ id graceful, handleAgentTcpFrame p frame agent = closeConnection p id graceful agent := by
  cases hframe : decodeAgentFrame frame with
  | none =>
      left
      simp only [handleAgentTcpFrame, hframe]
  | some f =>
      cases f with
      | data id data length =>
          cases hget : p.getConnection id with
          | none => exact .inl (handle_data_none hframe hget)
          | some found =>
              obtain ⟨ref, c⟩ := found
              right
              left
              exact ⟨id, data, length, ref, c, rfl, hget, handle_data_some hframe hget⟩
      | close id =>
          right
          right
          exact ⟨id, true, by simp only [handleAgentTcpFrame, hframe]⟩
      | error id =>
          right
          right
          exact ⟨id, false, by simp only [handleAgentTcpFrame, hframe, handleError]⟩

/-- Creation keeps what is kept when an object is made and stored under the id of the TCP_OPEN
frame, and when one is made without an id. -/
theorem createConnection_rule {P : TcpProxy → Prop} {p : TcpProxy} {env : CreateEnv} {t : Str}
    (hself : P p)
    (hkeyed : ∀ ip ok, P { p.addObject
      (newConnection (connectionIdToString env.uuid) t ip 0 (openState ok)) with
      connections := p.connections.insert (connectionIdToString env.uuid) p.created
      sent := p.sent ++ [.tcpOpen t (connectionIdToString env.uuid) ⟨env.uuid, 0⟩ ok] })
    (hgone : ∀ ip, P (p.addObject (newConnection [] t ip 0 .established)))
    (allows : List Str → Str → Bool) : P (createConnection allows p env t) := by
  simp only [createConnection]
  split
  · exact hself
  · rename_i ip _
    split
    · exact hkeyed ip _
    · exact hgone ip

/-- By port the object is stored under the temporary id, whatever its own is. -/
theorem createConnectionByPort_rule {P : TcpProxy → Prop} {p : TcpProxy} {env : CreateEnv}
    {order : List (Str × Tunnel)} {port : ℕ} {digits : Vector (Fin 16) 8} (hself : P p)
    (hkeyed : ∀ ip ok, P { p.addObject (newConnection (connectionIdToString env.uuid)
        (matchTunnelByPort order port) ip port (openState ok)) with
      connections := p.connections.insert (generateConnectionId digits) p.created
      sent := p.sent ++ [.tcpOpen (matchTunnelByPort order port) (connectionIdToString env.uuid)
        ⟨env.uuid, 0⟩ ok] })
    (hgone : ∀ ip, P { p.addObject (newConnection (generateConnectionId digits)
        (matchTunnelByPort order port) ip port .established) with
      connections := p.connections.insert (generateConnectionId digits) p.created })
    (allows : List Str → Str → Bool) :
    P (createConnectionByPort allows p env order port digits) := by
  simp only [createConnectionByPort]
  split
  · exact hself
  · split
    · exact hself
    · rename_i ip _
      split
      · exact hkeyed ip _
      · exact hgone ip

/-- Closing keeps what is kept when the object changes its state, its key goes, and a frame
is sent. -/
theorem closeConnection_rule {P : TcpProxy → Prop} {p : TcpProxy} {id : Str} (hself : P p)
    (hclosing : ∀ ref, P (p.update ref fun c => { c with state := .closing }))
    (hclosed : ∀ ref, P { p.update ref fun c => { c with state := .closed } with
      connections := p.connections.erase id })
    (hsend : ∀ q t, P q → P { q with sent := q.sent ++ [.tcpClose t id] })
    (graceful agent : Bool) : P (closeConnection p id graceful agent) := by
  simp only [closeConnection]
  split
  · exact hself
  · rename_i ref c _
    by_cases hpending : (graceful && !c.sendBuffer.isEmpty) = true
    · simp only [hpending, if_true]
      split
      · exact hsend _ c.tunnelId (hclosing ref)
      · exact hclosing ref
    · simp only [hpending]
      split
      · exact hsend _ c.tunnelId (hclosed ref)
      · exact hclosed ref

/-- `close_connection` does nothing, or it makes a connection wait for its buffer to be
emptied, or it closes and removes it; it may send a TCP_CLOSE frame. -/
theorem closeConnection_cases (p : TcpProxy) (id : Str) (graceful agent : Bool) :
    (p.getConnection id = none ∧ closeConnection p id graceful agent = p) ∨
      ∃ ref c extra, p.getConnection id = some (ref, c) ∧
        (∀ a ∈ extra, a = .tcpClose c.tunnelId id) ∧
        ((graceful = true ∧ c.sendBuffer ≠ [] ∧ closeConnection p id graceful agent =
            { p.update ref fun c => { c with state := .closing } with sent := p.sent ++ extra }) ∨
          ((graceful = true → c.sendBuffer = []) ∧ closeConnection p id graceful agent =
            { p.update ref fun c => { c with state := .closed } with
              connections := p.connections.erase id
              sent := p.sent ++ extra })) := by
  cases hget : p.getConnection id with
  | none => exact .inl ⟨rfl, by simp only [closeConnection, hget]⟩
  | some found =>
      obtain ⟨ref, c⟩ := found
      right
      refine ⟨ref, c, if agent then [.tcpClose c.tunnelId id] else [], rfl, ?_, ?_⟩
      · intro a ha
        cases agent with
        | true => exact List.mem_singleton.mp ha
        | false => cases ha
      · by_cases hpending : graceful = true ∧ c.sendBuffer ≠ []
        · left
          have hif : (graceful && !c.sendBuffer.isEmpty) = true := by
            simpa [List.isEmpty_iff] using hpending
          refine ⟨hpending.1, hpending.2, ?_⟩
          simp only [closeConnection, hget, hif, if_true]
          cases agent with
          | true => rw [sent_update]; rfl
          | false =>
              rw [if_neg Bool.false_ne_true, if_neg Bool.false_ne_true, List.append_nil,
                ← sent_update p ref fun c => { c with state := .closing }]
        · right
          have hif : (graceful && !c.sendBuffer.isEmpty) = false := by
            simpa [List.isEmpty_iff] using hpending
          refine ⟨fun hg => by_contra fun hne => hpending ⟨hg, hne⟩, ?_⟩
          simp only [closeConnection, hget, hif, Bool.false_eq_true, if_false]
          cases agent with
          | true => simp only [sent_update, if_true]
          | false =>
              rw [if_neg Bool.false_ne_true, if_neg Bool.false_ne_true, List.append_nil,
                ← sent_update p ref fun c => { c with state := .closed }]

/-- Sending keeps what is kept when bytes are queued, and when a data frame is then sent
under the id, which can be parsed. -/
theorem sendData_rule {P : TcpProxy → Prop} {p : TcpProxy} {id : Str} (hself : P p)
    (hqueue : ∀ ref c data, p.getConnection id = some (ref, c) → P (p.update ref (·.queue data)))
    (hsend : ∀ ref c data frame ok, p.getConnection id = some (ref, c) →
      (stringToConnectionId id).isSome → P { p.update ref (·.queue data) with
        sent := (p.update ref (·.queue data)).sent ++ [.tcpData c.tunnelId id frame ok] })
    (data : Bytes) (agent : Option Bool) : P (sendData p id data agent).2 := by
  rw [sendData]
  split
  · exact hself
  · rename_i ref c hget
    dsimp only
    split
    · exact hself
    · split
      · exact hself
      · split
        · exact hqueue ref c _ hget
        · split
          · exact hqueue ref c _ hget
          · rename_i uuid hparse
            exact hsend ref c _ _ _ hget (Option.isSome_of_eq_some hparse)

/-- `send_data` does nothing, or it queues `n` bytes.  Then it returns `n`, having sent them in
a frame if the agent is registered; only when the id cannot be parsed it returns 0. -/
theorem sendData_cases (p : TcpProxy) (id : Str) (data : Bytes) (agent : Option Bool) :
    (sendData p id data agent = (0, p) ∧ ∀ ref c, p.getConnection id = some (ref, c) →
        c.state = .established → min data.length (available c) = 0) ∨
      ∃ ref c n, p.getConnection id = some (ref, c) ∧ c.state = .established ∧
        n = min data.length (available c) ∧ 0 < n ∧
        ((agent = none ∧
            sendData p id data agent = (n, p.update ref (·.queue (data.take n)))) ∨
          (agent.isSome ∧ stringToConnectionId id = none ∧
            sendData p id data agent = (0, p.update ref (·.queue (data.take n)))) ∨
          ∃ ok uuid, agent = some ok ∧ stringToConnectionId id = some uuid ∧
            sendData p id data agent = (n, { p.update ref (·.queue (data.take n)) with
              sent := p.sent ++ [.tcpData c.tunnelId id
                ⟨uuid, UInt32.ofNat c.bytesSent, data.take n⟩ ok] })) := by
  cases hget : p.getConnection id with
  | none =>
      left
      simp [sendData, hget]
  | some found =>
      obtain ⟨ref, c⟩ := found
      by_cases hstate : c.state = .established
      · by_cases hzero : min data.length (available c) = 0
        · left
          refine ⟨by simp only [sendData, hget, hstate, hzero, ne_eq, not_true_eq_false, if_false,
            if_true], ?_⟩
          rintro ref' c' ⟨⟩ _
          exact hzero
        · right
          refine ⟨ref, c, _, rfl, hstate, rfl, Nat.pos_of_ne_zero hzero, ?_⟩
          simp only [sendData, hget, hstate, hzero, ne_eq, not_true_eq_false, if_false]
          cases agent with
          | none => exact .inl ⟨rfl, rfl⟩
          | some ok =>
              right
              cases hparse : stringToConnectionId id with
              | none => exact .inl ⟨rfl, rfl, rfl⟩
              | some uuid => exact .inr ⟨ok, uuid, rfl, rfl, by rw [sent_update]⟩
      · left
        refine ⟨by simp only [sendData, hget, hstate, ne_eq, not_false_eq_true, if_true], ?_⟩
        rintro ref' c' ⟨⟩ hc
        exact absurd hc hstate

/-- A read that completes keeps what is kept when its bytes are sent and the next one starts. -/
theorem clientRead_rule {P : TcpProxy → Prop} {p : TcpProxy} {ref : ℕ} {data : Bytes}
    {agent : Option Bool} (hself : P p)
    (hread : ∀ c, p.objects.lookup ref = some c → c.reading = true →
      P (((sendData (p.update ref (·.finishRead data)) c.connectionId data agent).2).update ref
        Connection.startRead)) :
    P (clientRead p ref data agent) := by
  simp only [clientRead]
  split
  · exact hself
  · rename_i c hc
    split
    · exact hself
    · rename_i hreading
      exact hread c hc (by simpa using hreading)

/-- One that fails closes the connection. -/
theorem clientEnd_rule {P : TcpProxy → Prop} {p : TcpProxy} {ref : ℕ} {eof agent : Bool}
    (hself : P p) (hend : ∀ c, p.objects.lookup ref = some c → c.reading = true →
      P (closeConnection (p.update ref fun c => { c with reading := false }) c.connectionId eof agent)) :
    P (clientEnd p ref eof agent) := by
  simp only [clientEnd]
  split
  · exact hself
  · rename_i c hc
    split
    · exact hself
    · rename_i hreading
      exact hend c hc (by simpa using hreading)

/-- A frame from the agent starts a write on the connection it carries data for, if it fits
after the data are accepted, or closes one. -/
theorem handleAgentTcpFrame_rule {P : TcpProxy → Prop} {p : TcpProxy} {frame : Bytes} {agent : Bool}
    (hself : P p)
    (hwrite : ∀ id ref c, p.getConnection id = some (ref, c) → P (p.update ref Connection.startWrite))
    (haccept : ∀ id ref c data length, p.getConnection id = some (ref, c) →
      P (p.update ref fun c => (c.accept data length).startWrite))
    (hclose : ∀ id graceful, P (closeConnection p id graceful agent)) :
    P (handleAgentTcpFrame p frame agent) := by
  rcases handleAgentTcpFrame_cases p frame agent with
    hsame | ⟨id, data, length, ref, c, _, hget, hstep⟩ | ⟨id, graceful, hstep⟩
  · rwa [hsame]
  · rw [hstep]
    split
    · exact hwrite id ref c hget
    · exact haccept id ref c data length hget
  · rw [hstep]
    exact hclose id graceful

/-- `update_window` takes bytes from the connection it finds, if it has as many. -/
theorem updateWindow_rule {P : TcpProxy → Prop} {p : TcpProxy} {id : Str} {n : ℕ} (hself : P p)
    (hdrop : ∀ ref c, p.getConnection id = some (ref, c) → n ≤ c.sendBuffer.length →
      P (p.update ref fun c => { c with sendBuffer := c.sendBuffer.drop n })) :
    P (updateWindow p id n) := by
  simp only [updateWindow]
  split
  · exact hself
  · rename_i ref c hget
    split
    · exact hdrop ref c hget ‹_›
    · exact hself

/-- `receive_data` accepts what fits on the connection it finds. -/
theorem receiveData_rule {P : TcpProxy → Prop} {p : TcpProxy} {id : Str} {data : Bytes}
    {length : ℕ} (hself : P p) (haccept : ∀ ref c, p.getConnection id = some (ref, c) →
      c.recvBuffer.length + length ≤ recvWindowSize → P (p.update ref (·.accept data length))) :
    P (receiveData p id data length) := by
  simp only [receiveData]
  split
  · exact hself
  · rename_i ref c hget
    split
    · exact hself
    · exact haccept ref c hget (by omega)

/-! ## Temporary ids -/

/-- The temporary ids of the proxy are not texts of ids. -/
theorem stringToConnectionId_generateConnectionId (digits : Vector (Fin 16) 8) :
    stringToConnectionId (generateConnectionId digits) = none := by
  have hlen : (generateConnectionId digits).length = 12 := by simp [generateConnectionId]
  have hle := List.length_filter_le (· ≠ '-') (generateConnectionId digits)
  rw [stringToConnectionId]
  exact if_pos (by omega)

theorem generateConnectionId_ne (digits : Vector (Fin 16) 8) (uuid : ConnectionId) :
    generateConnectionId digits ≠ connectionIdToString uuid := by
  intro heq
  have hnone := stringToConnectionId_generateConnectionId digits
  rw [heq, stringToConnectionId_connectionIdToString] at hnone
  cases hnone

/-! ## Properties of every object -/

/-- Every connection object satisfies `Q`. -/
def AllObjects (Q : Connection → Prop) (p : TcpProxy) : Prop :=
  ∀ ref c, p.objects.lookup ref = some c → Q c

theorem allObjects_update {Q : Connection → Prop} {p : TcpProxy} {f : Connection → Connection}
    (H : AllObjects Q p) (ref : ℕ)
    (hf : ∀ c, p.objects.lookup ref = some c → Q c → Q (f c)) : AllObjects Q (p.update ref f) := by
  intro r c hr
  rw [lookup_update] at hr
  split at hr
  · rename_i heq
    subst heq
    obtain ⟨d, hd, rfl⟩ := Option.map_eq_some_iff.mp hr
    exact hf d hd (H r d hd)
  · exact H r c hr

theorem allObjects_addObject {Q : Connection → Prop} {p : TcpProxy} {c : Connection}
    (H : AllObjects Q p) (hc : Q c) : AllObjects Q (p.addObject c) := by
  intro r d hr
  rw [lookup_addObject] at hr
  split at hr
  · rw [← Option.some.inj hr]
    exact hc
  · exact H r d hr

/-! ## A connection -/

/-- The tunnel `db` without an allowlist. -/
def sampleTunnel : Tunnel :=
  ⟨"db".toList, .tcp, "localhost".toList, 5432, [], 0, 0, 0, .active⟩

/-- A client of `db` whose TCP_OPEN frame reaches the agent. -/
def sampleEnv : CreateEnv :=
  ⟨some sampleTunnel, some "10.0.0.1".toList, true, some true, Vector.replicate 16 0xab⟩

/-- A TCP_DATA frame of that connection with a payload of one byte. -/
def sampleFrame (b : UInt8) : Bytes :=
  (TcpFrame.tcpData sampleEnv.uuid 0 [b] (by simp)).bytes

end Protogate.Proxy
