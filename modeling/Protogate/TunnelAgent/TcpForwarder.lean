import Protogate.Lib.Assoc
import Protogate.Lib.ByteOrder
import Protogate.Proxy.TcpProtocol
import Protogate.TunnelAgent.Http2Session

/-!
# The forwarder of the agent

The agent keeps one local connection for each connection id the server has opened.
`handle_tcp_frame` reads the id and the fields of a frame and calls the forwarder.

Connecting to the target and reading from it happen later; the state only records
what the frames decide.  The message of a TCP_ERROR is logged as it is, and calls of
the logger are taken to return.

## Main definitions

* `LocalConnection`, `TcpForwarder` — the state.
* `handleTcpOpen`, `handleTcpData`, `handleTcpClose`, `handleTcpError` — the operations.
* `handleTcpFrame` — the dispatch.
* `ForwarderCall`, `forwarderCall` — the call with which a frame reaches the forwarder.
* `sendTcpDataFrame` — the frame for data read from the target.
* `lookup_closeConnection` — closing removes one connection.
-/

namespace Protogate.TunnelAgent

open Protogate.Lib Protogate.Wire Protogate.Proxy

/-- A connection to the local target: whether it is connected yet, the data queued
until then, and the data written to it. -/
structure LocalConnection where
  connected : Bool
  pendingData : List Bytes
  written : List Bytes
  targetPort : UInt16
  deriving DecidableEq

/-- The open connections, and the target port used when a frame names none. -/
structure TcpForwarder where
  targetPort : UInt16
  connections : Assoc ConnectionId LocalConnection

/-! ## Operations -/

/-- A connection is stored before it is connected. -/
def handleTcpOpen (f : TcpForwarder) (id : ConnectionId) (targetPort : UInt16) : TcpForwarder :=
  let port := if 0 < targetPort then targetPort else f.targetPort
  { f with connections := f.connections.insert id ⟨false, [], [], port⟩ }

def handleTcpData (f : TcpForwarder) (id : ConnectionId) (data : Bytes) : TcpForwarder :=
  match f.connections.lookup id with
  | none => f
  | some c =>
      let c :=
        if c.connected then { c with written := c.written ++ [data] }
        else { c with pendingData := c.pendingData ++ [data] }
      { f with connections := f.connections.insert id c }

/-- Close the socket and forget the connection. -/
def TcpForwarder.closeConnection (f : TcpForwarder) (id : ConnectionId) : TcpForwarder :=
  match f.connections.lookup id with
  | none => f
  | some _ => { f with connections := f.connections.erase id }

def handleTcpClose (f : TcpForwarder) (id : ConnectionId) : TcpForwarder := f.closeConnection id

/-- The error code and the message are only logged. -/
def handleTcpError (f : TcpForwarder) (id : ConnectionId) : TcpForwarder := f.closeConnection id

/-- `handle_tcp_frame`; the length check of TCP_DATA is in 32 bits. -/
def handleTcpFrame (f : TcpForwarder) (frame : Bytes) : TcpForwarder :=
  match connectionIdOfBytes ((frame.drop 1).take 16) with
  | none => f
  | some id =>
      let type := frame.headD 0
      if type = 0x10 then
        if 19 ≤ frame.length then handleTcpOpen f id (UInt16.ofNat (field 17 2 frame)) else f
      else if type = 0x11 then
        if 25 ≤ frame.length then
          let dataLen := field 21 4 frame
          if (25 + dataLen) % 2 ^ 32 ≤ frame.length then
            handleTcpData f id ((frame.drop 25).take dataLen)
          else f
        else f
      else if type = 0x12 then handleTcpClose f id
      else if type = 0x13 then if 21 ≤ frame.length then handleTcpError f id else f
      else f

/-- The TCP frames of one read, handled in order. -/
def handleTcpRead (f : TcpForwarder) (data : Bytes) : TcpForwarder :=
  (classify data).1.foldl handleTcpFrame f

/-! ## Calls -/

/-- A call of the forwarder with its arguments. -/
inductive ForwarderCall
  | tcpOpen (connectionId : ConnectionId) (targetPort : UInt16)
  | tcpData (connectionId : ConnectionId) (data : Bytes)
  | tcpClose (connectionId : ConnectionId)
  | tcpError (connectionId : ConnectionId) (errorCode : UInt16) (message : Bytes)
  deriving DecidableEq

/-- The call `handle_tcp_frame` makes.  A message that is not all there is passed on
as the empty one. -/
def forwarderCall (frame : Bytes) : Option ForwarderCall :=
  match connectionIdOfBytes ((frame.drop 1).take 16) with
  | none => none
  | some id =>
      let type := frame.headD 0
      if type = 0x10 then
        if 19 ≤ frame.length then some (.tcpOpen id (UInt16.ofNat (field 17 2 frame))) else none
      else if type = 0x11 then
        if 25 ≤ frame.length then
          let dataLen := field 21 4 frame
          if (25 + dataLen) % 2 ^ 32 ≤ frame.length then
            some (.tcpData id ((frame.drop 25).take dataLen))
          else none
        else none
      else if type = 0x12 then some (.tcpClose id)
      else if type = 0x13 then
        if 21 ≤ frame.length then
          let msgLen := field 19 2 frame
          let message := if 21 + msgLen ≤ frame.length then (frame.drop 21).take msgLen else []
          some (.tcpError id (UInt16.ofNat (field 17 2 frame)) message)
        else none
      else none

/-- What a call does. -/
def TcpForwarder.perform (f : TcpForwarder) : ForwarderCall → TcpForwarder
  | .tcpOpen id port => handleTcpOpen f id port
  | .tcpData id data => handleTcpData f id data
  | .tcpClose id => handleTcpClose f id
  | .tcpError id _ _ => handleTcpError f id

/-- The dispatch makes its call. -/
theorem handleTcpFrame_eq (f : TcpForwarder) (frame : Bytes) :
    handleTcpFrame f frame = (forwarderCall frame).elim f f.perform := by
  simp only [handleTcpFrame, forwarderCall]
  split
  · rfl
  · split
    · split <;> rfl
    · split
      · split
        · split <;> rfl
        · rfl
      · split
        · rfl
        · split
          · split <;> rfl
          · rfl

/-- `send_tcp_data_frame`: the bytes of the converted numbers are copied from memory. -/
def sendTcpDataFrame (order : ByteOrder) (connectionId : ConnectionId) (data : Bytes)
    (sequenceNumber : UInt32) : Bytes :=
  0x11 :: (connectionId.toList ++ (memory order 4 (toNetwork order 4 sequenceNumber.toNat) ++
    (memory order 4 (toNetwork order 4 (UInt32.ofNat data.length).toNat) ++ data)))

/-! ## Closing -/

theorem lookup_closeConnection (f : TcpForwarder) (id v : ConnectionId) :
    (f.closeConnection id).connections.lookup v =
      if v = id then none else f.connections.lookup v := by
  simp only [TcpForwarder.closeConnection]
  cases h : f.connections.lookup id with
  | some c => exact Assoc.lookup_erase_ite f.connections id v
  | none =>
      by_cases hv : v = id
      · rw [if_pos hv, hv]
        exact h
      · rw [if_neg hv]

/-- A TCP_CLOSE frame alone in a read closes the connection of its id. -/
theorem handleTcpRead_close (f : TcpForwarder) (id : ConnectionId) (reason : UInt16) :
    handleTcpRead f (TcpFrame.tcpClose id reason).bytes = f.closeConnection id := by
  have hwhole : Whole frameSize (TcpFrame.tcpClose id reason).bytes :=
    whole_bytes (by simp [PayloadFits, TcpFrame.payload])
  have hclassify : classify (TcpFrame.tcpClose id reason).bytes =
      ([(TcpFrame.tcpClose id reason).bytes], []) := by
    have hframes : ∀ g ∈ [(TcpFrame.tcpClose id reason).bytes], Whole frameSize g := by
      simpa using hwhole
    simpa using classify_append hframes takeFrame_nil
  have hid : connectionIdOfBytes (((TcpFrame.tcpClose id reason).bytes.drop 1).take 16) = some id := by
    have hbytes : ((TcpFrame.tcpClose id reason).bytes.drop 1).take 16 = id.toList := by
      simp [TcpFrame.bytes, TcpFrame.header]
    rw [hbytes, connectionIdOfBytes_toList]
  rw [handleTcpRead, hclassify]
  simp only [List.foldl_cons, List.foldl_nil, handleTcpFrame, hid]
  rfl

end Protogate.TunnelAgent
