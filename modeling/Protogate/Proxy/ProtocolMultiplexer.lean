import Protogate.Lib.Codec
import Protogate.Lib.Run

/-!
# The frames of the protocol multiplexer

`ProtocolMultiplexer` has a frame format of its own, with the connection id as
text of any length and a length in front of the payload, and queues frames in an
output buffer.  Sizes are 64 bits wide, and no sum of a field and an offset
comes near that, so they are natural numbers here.

## Main definitions

* `TCPFrame` with `serialize` and `deserialize`.
* `tcpFrameCodec` — the two as an exact codec.
* `ProtocolMultiplexer`, `Call` — the output buffer and what is queued in it.
* `frame_format_exact` — the format can be decoded, on every input.
-/

namespace Protogate.Multiplexer

open Protogate.Lib

/-! ## The format -/

/-- A frame; the type can be any byte. -/
structure TCPFrame where
  type : UInt8
  connectionId : Bytes
  payload : Bytes
  deriving DecidableEq, Repr

namespace TCPFrame

/-- Within the bounds that the two length fields impose. -/
def Bounded (f : TCPFrame) : Prop := f.connectionId.length < 2 ^ 16 ∧ f.payload.length < 2 ^ 32

instance (f : TCPFrame) : Decidable f.Bounded :=
  inferInstanceAs (Decidable (f.connectionId.length < 2 ^ 16 ∧ f.payload.length < 2 ^ 32))

/-- Lengths beyond the width of their field are cut to it. -/
def serialize (f : TCPFrame) : Bytes :=
  f.type :: (be 2 f.connectionId.length ++
    (f.connectionId ++ (be 4 f.payload.length ++ f.payload)))

def deserialize (data : Bytes) : Except String TCPFrame :=
  if data.length < 7 then .error "Invalid TCP frame: too short"
  else
    let connIdLen := field 1 2 data
    if data.length < 3 + connIdLen + 4 then .error "Invalid TCP frame: truncated connection ID"
    else
      let payloadLen := field (3 + connIdLen) 4 data
      if data.length < 3 + connIdLen + 4 + payloadLen then
        .error "Invalid TCP frame: truncated payload"
      else .ok ⟨data.getD 0 0, (data.drop 3).take connIdLen,
        (data.drop (3 + connIdLen + 4)).take payloadLen⟩

/-! ## Exactness -/

theorem serialize_ne_nil (f : TCPFrame) : f.serialize ≠ [] := List.cons_ne_nil _ _

/-- The encoding of a frame that fits is read back, whatever follows. -/
theorem deserialize_serialize {f : TCPFrame} (hf : f.Bounded) (rest : Bytes) :
    deserialize (f.serialize ++ rest) = .ok f := by
  obtain ⟨type, connectionId, payload⟩ := f
  obtain ⟨hid, hpayload⟩ := hf
  dsimp only at hid hpayload
  have hdata : serialize ⟨type, connectionId, payload⟩ ++ rest = [type] ++ (be 2 connectionId.length ++
      (connectionId ++ (be 4 payload.length ++ (payload ++ rest)))) := by
    simp [serialize]
  have hlen : (serialize ⟨type, connectionId, payload⟩ ++ rest).length =
      7 + connectionId.length + payload.length + rest.length := by
    rw [hdata]
    simp only [List.length_append, List.length_singleton, length_be]
    omega
  have hconn : field 1 2 (serialize ⟨type, connectionId, payload⟩ ++ rest) =
      connectionId.length := by
    have hone : [type].length = 1 := rfl
    rw [hdata, field_append _ hone (length_be 2 _), ofBe_be_of_lt hid]
  have hoff : ([type] ++ (be 2 connectionId.length ++ connectionId)).length =
      3 + connectionId.length := by
    simp only [List.length_append, List.length_singleton, length_be]
    omega
  have hpay : field (3 + connectionId.length) 4 (serialize ⟨type, connectionId, payload⟩ ++ rest) =
      payload.length := by
    rw [hdata, ← List.append_assoc (be 2 _), ← List.append_assoc [type],
      field_append _ hoff (length_be 4 _), ofBe_be_of_lt hpayload]
  have hdropId : (serialize ⟨type, connectionId, payload⟩ ++ rest).drop 3 =
      connectionId ++ (be 4 payload.length ++ (payload ++ rest)) := by
    rw [hdata, ← List.append_assoc]
    exact List.drop_left' (by simp)
  have hdropPayload : (serialize ⟨type, connectionId, payload⟩ ++ rest).drop
      (3 + connectionId.length + 4) = payload ++ rest := by
    rw [← List.drop_drop, ← List.drop_drop, hdropId, List.drop_left, List.drop_left' (length_be 4 _)]
  have hhead : (serialize ⟨type, connectionId, payload⟩ ++ rest).getD 0 0 = type := rfl
  rw [deserialize, hconn]
  dsimp only
  rw [hpay, hdropId, hdropPayload, hlen, List.take_left, List.take_left, hhead,
    if_neg (by omega), if_neg (by omega), if_neg (by omega)]

/-- A frame that the decoder accepts fits, and the input begins with its encoding. -/
theorem of_deserialize_eq_ok {data : Bytes} {f : TCPFrame} (h : deserialize data = .ok f) :
    f.Bounded ∧ f.serialize <+: data := by
  rw [deserialize] at h
  split at h
  · cases h
  · rename_i hshort
    dsimp only at h
    split at h
    · cases h
    · rename_i hconn
      split at h
      · cases h
      · rename_i hpayload
        -- The bytes of the two length fields are the encodings of the lengths.
        have hfield1 : 1 + 2 ≤ data.length := by omega
        have hfield2 : 3 + field 1 2 data + 4 ≤ data.length := by omega
        have hlenId : ((data.drop 3).take (field 1 2 data)).length = field 1 2 data := by
          rw [List.length_take, List.length_drop]
          omega
        have hlenPayload : ((data.drop (3 + field 1 2 data + 4)).take
            (field (3 + field 1 2 data) 4 data)).length = field (3 + field 1 2 data) 4 data := by
          rw [List.length_take, List.length_drop]
          omega
        cases h
        refine ⟨⟨?_, ?_⟩, ?_⟩
        · rw [hlenId]
          exact field_lt 1 2 data
        · rw [hlenPayload]
          exact field_lt _ 4 data
        · refine ⟨data.drop (3 + field 1 2 data + 4 + field (3 + field 1 2 data) 4 data), ?_⟩
          have hcons : data.getD 0 0 :: data.drop 1 = data := by
            cases data with
            | nil => simp at hfield1
            | cons b data => rfl
          rw [serialize, hlenId, hlenPayload, be_field hfield1, be_field hfield2]
          simp only [List.cons_append, List.append_assoc]
          rw [take_drop_append, take_drop_append, take_drop_append 3, take_drop_append 1 2, hcons]

end TCPFrame

/-- The format as an exact codec. -/
def tcpFrameCodec : Codec TCPFrame String where
  Valid := TCPFrame.Bounded
  encode := TCPFrame.serialize
  decode := TCPFrame.deserialize
  encode_ne_nil := TCPFrame.serialize_ne_nil
  decode_eq_ok := by
    intro data f
    constructor
    · exact TCPFrame.of_deserialize_eq_ok
    · rintro ⟨hf, rest, rfl⟩
      exact TCPFrame.deserialize_serialize hf rest

/-! ## The output buffer -/

/-- The part of the multiplexer that the frames go through. -/
structure ProtocolMultiplexer where
  outputBuffer : Bytes := []
  deriving DecidableEq, Repr

namespace ProtocolMultiplexer

/-- Append the bytes of a frame, as each of the `send_tcp_…` does. -/
def queue (m : ProtocolMultiplexer) (frame : TCPFrame) : ProtocolMultiplexer :=
  { m with outputBuffer := m.outputBuffer ++ frame.serialize }

def sendTcpData (m : ProtocolMultiplexer) (connectionId data : Bytes) : Bool × ProtocolMultiplexer :=
  (true, m.queue ⟨0x01, connectionId, data⟩)

def sendTcpClose (m : ProtocolMultiplexer) (connectionId : Bytes) : Bool × ProtocolMultiplexer :=
  (true, m.queue ⟨0x02, connectionId, []⟩)

def sendTcpError (m : ProtocolMultiplexer) (connectionId errorMessage : Bytes) :
    Bool × ProtocolMultiplexer :=
  (true, m.queue ⟨0x03, connectionId, errorMessage⟩)

/-- The window size goes out as four bytes of payload, highest first. -/
def sendTcpWindow (m : ProtocolMultiplexer) (connectionId : Bytes) (windowSize : UInt32) :
    Bool × ProtocolMultiplexer :=
  (true, m.queue ⟨0x04, connectionId, be 4 windowSize.toNat⟩)

/-- The queued bytes are moved out. -/
def getOutputData (m : ProtocolMultiplexer) : Bytes × ProtocolMultiplexer :=
  (m.outputBuffer, { m with outputBuffer := [] })

end ProtocolMultiplexer

/-- A call that queues a frame. -/
inductive Call
  | sendTcpData (connectionId data : Bytes)
  | sendTcpClose (connectionId : Bytes)
  | sendTcpError (connectionId errorMessage : Bytes)
  | sendTcpWindow (connectionId : Bytes) (windowSize : UInt32)
  deriving DecidableEq, Repr

/-- One call. -/
def step (m : ProtocolMultiplexer) : Call → ProtocolMultiplexer
  | .sendTcpData connectionId data => (m.sendTcpData connectionId data).2
  | .sendTcpClose connectionId => (m.sendTcpClose connectionId).2
  | .sendTcpError connectionId errorMessage => (m.sendTcpError connectionId errorMessage).2
  | .sendTcpWindow connectionId windowSize => (m.sendTcpWindow connectionId windowSize).2

/-- The frame that a call stands for. -/
def Call.frame : Call → TCPFrame
  | .sendTcpData connectionId data => ⟨0x01, connectionId, data⟩
  | .sendTcpClose connectionId => ⟨0x02, connectionId, []⟩
  | .sendTcpError connectionId errorMessage => ⟨0x03, connectionId, errorMessage⟩
  | .sendTcpWindow connectionId windowSize => ⟨0x04, connectionId, be 4 windowSize.toNat⟩

theorem step_eq_queue (m : ProtocolMultiplexer) (call : Call) : step m call = m.queue call.frame := by
  cases call <;> rfl

/-- A run of calls appends the encodings of their frames, in order. -/
theorem outputBuffer_run (m : ProtocolMultiplexer) (calls : List Call) :
    (run step m calls).outputBuffer =
      m.outputBuffer ++ tcpFrameCodec.encodeAll (calls.map Call.frame) := by
  induction calls generalizing m with
  | nil => simp
  | cons call calls ih =>
      rw [run_cons, ih, step_eq_queue, List.map_cons, Codec.encodeAll_cons, ← List.append_assoc]
      rfl

/-- **The frame format can be decoded exactly**: on every input the decoder returns
the frame whose encoding is there and throws where there is none, and a queue of
frames is taken apart into the frames that were sent. -/
theorem frame_format_exact :
    (∀ (data : Bytes) (f : TCPFrame), f.Bounded →
      (TCPFrame.deserialize data = .ok f ↔ f.serialize <+: data)) ∧
    (∀ data : Bytes, (∀ f : TCPFrame, f.Bounded → ¬ f.serialize <+: data) →
      ∃ what, TCPFrame.deserialize data = .error what) ∧
    (∀ (m : ProtocolMultiplexer) (calls : List Call), m.outputBuffer = [] →
      (∀ call ∈ calls, call.frame.Bounded) →
        let output := (run step m calls).getOutputData.1
        tcpFrameCodec.decodeAll output.length output = (calls.map Call.frame, [])) := by
  refine ⟨?_, fun _ => tcpFrameCodec.decode_eq_error, ?_⟩
  · intro data f hf
    exact (tcpFrameCodec.decode_eq_ok data f).trans (and_iff_right hf)
  · intro m calls hempty hcalls
    have houtput : (run step m calls).getOutputData.1 =
        tcpFrameCodec.encodeAll (calls.map Call.frame) := by
      rw [ProtocolMultiplexer.getOutputData, outputBuffer_run, hempty, List.nil_append]
    have hvalid : ∀ f ∈ calls.map Call.frame, tcpFrameCodec.Valid f := by
      intro f hf
      obtain ⟨call, hcall, rfl⟩ := List.mem_map.mp hf
      exact hcalls call hcall
    dsimp only
    rw [houtput]
    exact tcpFrameCodec.decodeAll_encodeAll hvalid (Nat.le_refl _)

/-- A frame read from the front of a longer buffer, and two calls taken apart. -/
theorem frame_format_exact_two :
    (TCPFrame.deserialize (TCPFrame.serialize ⟨0x01, [99, 49], [1, 2, 3]⟩ ++ [2, 0]) =
        .ok ⟨0x01, [99, 49], [1, 2, 3]⟩ ↔
      TCPFrame.serialize ⟨0x01, [99, 49], [1, 2, 3]⟩ <+:
        TCPFrame.serialize ⟨0x01, [99, 49], [1, 2, 3]⟩ ++ [2, 0]) ∧
    let output := (run step {} [.sendTcpData [99, 49] [1, 2, 3], .sendTcpWindow [99] 7]).getOutputData.1
    tcpFrameCodec.decodeAll output.length output =
      ([⟨0x01, [99, 49], [1, 2, 3]⟩, ⟨0x04, [99], [0, 0, 0, 7]⟩], []) :=
  ⟨frame_format_exact.1 _ ⟨0x01, [99, 49], [1, 2, 3]⟩ (by decide),
    frame_format_exact.2.2 {} [.sendTcpData [99, 49] [1, 2, 3], .sendTcpWindow [99] 7] rfl
      (by decide)⟩

end Protogate.Multiplexer
