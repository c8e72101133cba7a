import Protogate.Lib.Bytes

/-!
# The frames on the tunnel connection

One TLS connection between server and agent carries HTTP/2 frames and TCP tunnel
frames, without a common header.  This module gives the bytes of both kinds as
they are documented: the HTTP/2 frame header, and the formats of the TCP frames.
The size of a frame is found from its first bytes.

## Main definitions

* `Http2Frame`, `TcpFrame` — the frames, with the bounds their headers impose.
* `TcpFrame.bytes`, `Http2Frame.bytes` — their bytes.
* `isTcpType` — the first bytes that both ends take for a TCP frame.
-/

namespace Protogate.Wire

open Protogate.Lib

/-- The 16 bytes of a connection id. -/
abbrev ConnectionId := Vector UInt8 16

/-! ## HTTP/2 frames -/

/-- An HTTP/2 frame within the default `SETTINGS_MAX_FRAME_SIZE`. -/
structure Http2Frame where
  type : UInt8
  flags : UInt8
  streamId : UInt32
  payload : Bytes
  length_le : payload.length ≤ 16384
  deriving DecidableEq

/-- The nine bytes of header and the payload. -/
def Http2Frame.bytes (f : Http2Frame) : Bytes :=
  be 3 f.payload.length ++ ([f.type, f.flags] ++ (be 4 f.streamId.toNat ++ f.payload))

/-- The first byte of an HTTP/2 frame is the high byte of its length, which is 0. -/
theorem Http2Frame.bytes_head (f : Http2Frame) : ∃ rest, f.bytes = 0 :: rest := by
  have hzero : UInt8.ofNat (f.payload.length / 256 / 256) = 0 := by
    have hle := f.length_le
    have hdiv : f.payload.length / 256 / 256 = 0 := by omega
    rw [hdiv]
    rfl
  simp only [Http2Frame.bytes, be, hzero, List.nil_append, List.cons_append]
  exact ⟨_, rfl⟩

/-! ## TCP frames -/

/-- The frames of the TCP tunnel protocol. -/
inductive TcpFrame
  | tcpOpen (connectionId : ConnectionId) (targetPort : UInt16)
  | tcpData (connectionId : ConnectionId) (sequenceNumber : UInt32) (data : Bytes)
      (length_lt : data.length < 2 ^ 32)
  | tcpClose (connectionId : ConnectionId) (reason : UInt16)
  | tcpError (connectionId : ConnectionId) (errorCode : UInt16) (message : Bytes)
      (length_lt : message.length < 2 ^ 16)
  | tcpAck (connectionId : ConnectionId) (ackSequenceNumber windowSize : UInt32)
  deriving DecidableEq

namespace TcpFrame

/-- The type byte and the connection id, with which every frame starts. -/
def header (type : UInt8) (connectionId : ConnectionId) : Bytes := type :: connectionId.toList

@[simp] theorem length_header (type : UInt8) (id : ConnectionId) : (header type id).length = 17 := by
  simp [header]

/-- The bytes of a frame, numbers in network byte order. -/
def bytes : TcpFrame → Bytes
  | tcpOpen id port => header 0x10 id ++ be 2 port.toNat
  | tcpData id seq data _ => header 0x11 id ++ (be 4 seq.toNat ++ (be 4 data.length ++ data))
  | tcpClose id reason => header 0x12 id ++ be 2 reason.toNat
  | tcpError id code message _ =>
      header 0x13 id ++ (be 2 code.toNat ++ (be 2 message.length ++ message))
  | tcpAck id ack window => header 0x14 id ++ (be 4 ack.toNat ++ be 4 window.toNat)

/-- The payload of a data frame. -/
def payload : TcpFrame → Bytes
  | tcpData _ _ data _ => data
  | _ => []

theorem bytes_ne_nil (f : TcpFrame) : f.bytes ≠ [] := by
  cases f <;> simp [bytes, header]

end TcpFrame

/-- A first byte from 0x10 to 0x14, by which both ends recognise a TCP frame. -/
def isTcpType (b : UInt8) : Bool := 0x10 ≤ b && b ≤ 0x14

theorem isTcpType_head (f : TcpFrame) : ∃ b rest, f.bytes = b :: rest ∧ isTcpType b = true := by
  cases f <;> exact ⟨_, _, rfl, rfl⟩

/-! ## The multiplexed stream -/

/-- A frame of either kind; `P` says which TCP frames occur. -/
inductive Item (P : TcpFrame → Prop)
  | http2 (f : Http2Frame)
  | tcp (f : TcpFrame) (h : P f)

/-- What a receiver should make of the stream: bytes for the HTTP/2 library, and
TCP frames. -/
inductive Delivery (α : Type)
  | byte (b : UInt8)
  | frame (f : α)
  deriving DecidableEq, Repr

/-- The bytes handed to the HTTP/2 library. -/
def http2Bytes {α : Type} (deliveries : List (Delivery α)) : Bytes :=
  deliveries.filterMap fun
    | .byte b => some b
    | .frame _ => none

@[simp] theorem http2Bytes_append {α : Type} (xs ys : List (Delivery α)) :
    http2Bytes (xs ++ ys) = http2Bytes xs ++ http2Bytes ys := by
  simp [http2Bytes]

end Protogate.Wire
