import Protogate.Agent.AgentConnection
import Protogate.Agent.StartRead
import Protogate.Lib.Channels
import Protogate.Proxy.ClientStreams
import Protogate.Proxy.SequenceNumbers
import Protogate.TunnelAgent.Forwarding
import Protogate.Wire.Agreement

/-!
# The tunnel for TCP connections

The proxy sends frames to the agents of many tunnels; each agent has a forwarder with
connections of its own and sends frames back.  On the way to or from one agent frames arrive in
order, while those of different agents overtake one another.  A frame may get lost, and when an
agent connects again, its forwarder is a new one and everything on the way is gone.

A read of either side returns bytes, which that side takes apart.  The runs looked at are those in
which each such read is one frame, whole and alone (`Proper`), which takes frames that fit into the
buffer of the read: the agent's is shorter than a TCP_DATA frame with all that was read from a
client.  What becomes of cut and joined frames is the subject of `Protogate.Agent.StartRead` and
`Protogate.TunnelAgent.Http2Session`.

The proxy and the forwarders are those of their own modules, where calls of the loggers return,
and what passes between them are the bytes they write.  `opened` and `reads` record the
connections the agents made, and what was read on them.

## Main definitions

* `AgentSend.bytes`, `Happening.bytes` — the frames as they are written.
* `LocalName` — a connection of an agent.
* `TcpTunnel`, `tcpTunnelStep` — all parties, and one step of one of them.
* `Proper` — the steps of the runs looked at.
-/

namespace Protogate.Tunnel

open Protogate.Lib Protogate.Models Protogate.Wire Protogate.Proxy Protogate.TunnelAgent
open Protogate.Agent (closeId isTcpRead)

/-! ## Frames -/

/-- The bytes given to the socket: serialized frames, and what `send_tcp_close` puts together. -/
def AgentSend.bytes (order : ByteOrder) : AgentSend → Bytes
  | .tcpOpen _ _ frame _ => TcpProtocol.TCPOpenFrame.serialize order
      { connectionId := frame.connectionId, targetPort := frame.targetPort }
  | .tcpData _ _ frame _ => frame.bytes
  | .tcpClose _ id => 0x12 :: closeId id ++ [0, 0]

/-- Whether the frame goes out. -/
def AgentSend.ok : AgentSend → Bool
  | .tcpOpen _ _ _ ok | .tcpData _ _ _ ok => ok
  | .tcpClose _ _ => true

/-- `send_tcp_close_frame` of the forwarder. -/
def sendTcpCloseFrame (order : ByteOrder) (id : ConnectionId) (reasonCode : UInt16) : Bytes :=
  0x12 :: (id.toList ++ memory order 2 (toNetwork order 2 reasonCode.toNat))

/-- The bytes of a frame that a forwarder sends. -/
def Happening.bytes (order : ByteOrder) : Happening → Option Bytes
  | .opened _ | .queued _ _ => none
  | .sentData id data seq => some (sendTcpDataFrame order id data seq)
  | .sentClose id reasonCode => some (sendTcpCloseFrame order id reasonCode)

/-! ## The parties -/

/-- A connection of an agent: the tunnel, the session, the number in it, and its id. -/
structure LocalName where
  tunnelId : Str
  session : ℕ
  number : ℕ
  connectionId : ConnectionId
  deriving DecidableEq

/-- How often the agent has connected again, and the forwarder of this session. -/
structure AgentSide where
  session : ℕ
  forwarder : Forwarder

/-- The forwarder that a session starts with; `set_tcp_forwarder` sets its callback. -/
def startedForwarder (targetPort : UInt16) : Forwarder :=
  { Forwarder.initial targetPort with sendCallback := true }

structure TcpTunnel where
  proxy : TcpProxy
  agents : Str → AgentSide
  toAgent : List AgentSend
  toServer : List (Str × Happening)
  opened : List LocalName
  reads : List (LocalName × Bytes)

def TcpTunnel.init (targetPort : Str → UInt16) : TcpTunnel where
  proxy := .init
  agents := fun t => ⟨0, startedForwarder (targetPort t)⟩
  toAgent := []
  toServer := []
  opened := []
  reads := []

namespace TcpTunnel

def setAgent (t : TcpTunnel) (tunnelId : Str) (a : AgentSide) : TcpTunnel :=
  { t with agents := Function.update t.agents tunnelId a }

/-- A step of the proxy; the frames it sends go out. -/
def serve (allows : List Str → Str → Bool) (t : TcpTunnel) (e : Event) : TcpTunnel :=
  let proxy := step allows t.proxy e
  { t with
    proxy
    toAgent := t.toAgent ++ (proxy.sent.drop t.proxy.sent.length).filter AgentSend.ok }

/-- An agent handles a frame. -/
def handleFrame (tunnelId : Str) (t : TcpTunnel) (frame : Bytes) : TcpTunnel :=
  let side := t.agents tunnelId
  match forwarderCall frame with
  | none => t
  | some (.tcpOpen id port) =>
      { t.setAgent tunnelId { side with forwarder := side.forwarder.handleTcpOpen id port } with
        opened := t.opened ++ [⟨tunnelId, side.session, side.forwarder.objects.length, id⟩] }
  | some call =>
      t.setAgent tunnelId { side with forwarder := side.forwarder.call call }

/-- A read of an agent returns `data`, with which the next frame on its way is through. -/
def toAgentArrives (t : TcpTunnel) (tunnelId : Str) (data : Bytes) : TcpTunnel :=
  match receive AgentSend.tunnelId tunnelId t.toAgent with
  | none => t
  | some (_, toAgent) => (classify data).1.foldl (handleFrame tunnelId) { t with toAgent }

/-- What is read when a read ends on the `k`-th connection. -/
def readBy (tunnelId : Str) (side : AgentSide) : ForwarderEvent → List (LocalName × Bytes)
  | .readDone k (some data) =>
      match side.forwarder.objects[k]? with
      | none => []
      | some c =>
          if c.reading ∧ side.forwarder.Alive k c then
            [(⟨tunnelId, side.session, k, c.connectionId⟩, data)]
          else []
  | _ => []

/-- Something ends at an agent that was under way there; the frames it sends go out. -/
def agentStep (t : TcpTunnel) (tunnelId : Str) (e : ForwarderEvent) : TcpTunnel :=
  let side := t.agents tunnelId
  let forwarder := forwarderStep side.forwarder e
  let happened := forwarder.history.take (forwarder.history.length - side.forwarder.history.length)
  { t.setAgent tunnelId { side with forwarder } with
    toServer := t.toServer ++ happened.reverse.map fun h => (tunnelId, h)
    reads := t.reads ++ readBy tunnelId side e }

/-- A read of the server returns `data`, with which the next frame on its way from an agent is
through; `agent` is what `close_connection` finds. -/
def toServerArrives (allows : List Str → Str → Bool) (t : TcpTunnel) (tunnelId : Str) (agent : Bool)
    (data : Bytes) : TcpTunnel :=
  match receive Prod.fst tunnelId t.toServer with
  | none => t
  | some (_, toServer) =>
      if isTcpRead data then { t with toServer }.serve allows (.agentFrame data agent)
      else { t with toServer }

/-- An agent connects again, with a new forwarder. -/
def restart (t : TcpTunnel) (tunnelId : Str) (targetPort : UInt16) : TcpTunnel :=
  { t.setAgent tunnelId ⟨(t.agents tunnelId).session + 1, startedForwarder targetPort⟩ with
    toAgent := t.toAgent.filter fun a => a.tunnelId ≠ tunnelId
    toServer := t.toServer.filter fun m => m.1 ≠ tunnelId }

/-- The next frame to an agent is lost. -/
def loseToAgent (t : TcpTunnel) (tunnelId : Str) : TcpTunnel :=
  match receive AgentSend.tunnelId tunnelId t.toAgent with
  | none => t
  | some (_, toAgent) => { t with toAgent }

/-- The next frame from an agent is lost. -/
def loseToServer (t : TcpTunnel) (tunnelId : Str) : TcpTunnel :=
  match receive Prod.fst tunnelId t.toServer with
  | none => t
  | some (_, toServer) => { t with toServer }

end TcpTunnel

/-! ## Steps -/

inductive TcpTunnelEvent
  | proxy (e : Event)
  | agent (tunnelId : Str) (e : ForwarderEvent)
  | toAgent (tunnelId : Str) (data : Bytes)
  | toServer (tunnelId : Str) (agent : Bool) (data : Bytes)
  | restart (tunnelId : Str) (targetPort : UInt16)
  | loseToAgent (tunnelId : Str)
  | loseToServer (tunnelId : Str)

def tcpTunnelStep (allows : List Str → Str → Bool) (t : TcpTunnel) : TcpTunnelEvent → TcpTunnel
  | .proxy e => t.serve allows e
  | .agent tunnelId e => t.agentStep tunnelId e
  | .toAgent tunnelId data => t.toAgentArrives tunnelId data
  | .toServer tunnelId agent data => t.toServerArrives allows tunnelId agent data
  | .restart tunnelId targetPort => t.restart tunnelId targetPort
  | .loseToAgent tunnelId => t.loseToAgent tunnelId
  | .loseToServer tunnelId => t.loseToServer tunnelId

/-- The sizes of the buffers that the agent and the server read frames into. -/
def agentBuffer : ℕ := 8192
def serverBuffer : ℕ := 16384

/-- The bytes of the next frame on its way to an agent. -/
def TcpTunnel.nextToAgent (order : ByteOrder) (t : TcpTunnel) (tunnelId : Str) : Option Bytes :=
  (receive AgentSend.tunnelId tunnelId t.toAgent).map fun m => AgentSend.bytes order m.1

/-- The bytes of the next frame on its way from an agent. -/
def TcpTunnel.nextToServer (order : ByteOrder) (t : TcpTunnel) (tunnelId : Str) : Option Bytes :=
  (receive Prod.fst tunnelId t.toServer).bind fun m => Happening.bytes order m.1.2

/-- Frames come from the other side only, and each is one read; generated ids are new; and a read
fills its buffer at most. -/
def Proper (order : ByteOrder) (t : TcpTunnel) : TcpTunnelEvent → Prop
  | .proxy (.agentFrame _ _) => False
  | .proxy e => NewIds t.proxy e
  | .agent _ (.call _) => False
  | .agent _ (.readDone _ (some data)) => data.length ≤ readBufferSize
  | .toAgent tunnelId data => t.nextToAgent order tunnelId = some data ∧ data.length ≤ agentBuffer
  | .toServer tunnelId _ data => t.nextToServer order tunnelId = some data ∧ data.length ≤ serverBuffer
  | _ => True

end Protogate.Tunnel
