import Protogate.Proxy.TcpProxy
import Protogate.TunnelAgent.TcpForwarder
import Protogate.Wire.TcpCodec

/-!
# The two ends agree on the frames

Server and agent encode and decode the TCP frames with code of their own.  What
joins them is the documented format of `TcpFrame`: both decoders read it, and an
encoder is understood as far as it writes it.

## Main definitions

* `Delivers` — a frame is taken by the agent as one frame and makes a given call.
* `forwarderCall_bytes`, `decodeAgentFrame_bytes` — both ends read the format.
* `tcpData_agrees` — data frames are understood in both directions.
* `control_agrees_iff` — which TCP_OPEN and TCP_ERROR frames are understood.
-/

namespace Protogate.Agreement

open Protogate.Lib Protogate.Wire Protogate.TcpProtocol Protogate.TunnelAgent
open Protogate.Proxy (AgentFrame decodeAgentFrame connectionIdOfBytes connectionIdOfBytes_toList
  connectionIdToString)

/-- Followed by any whole frames, the bytes are taken as exactly one frame, for which
`handle_tcp_frame` makes the call. -/
def Delivers (bytes : Bytes) (call : ForwarderCall) : Prop :=
  forwarderCall bytes = some call ∧
    ∀ later : List Bytes, (∀ g ∈ later, Whole frameSize g) →
      processTcpFrames (bytes ++ later.flatten) = (bytes :: later, [])

/-! ## The documented format -/

/-- The call a frame stands for. -/
def callOf : TcpFrame → Option ForwarderCall
  | .tcpOpen id port => some (.tcpOpen id port)
  | .tcpData id _ data _ => some (.tcpData id data)
  | .tcpClose id _ => some (.tcpClose id)
  | .tcpError id code message _ => some (.tcpError id code message)
  | .tcpAck _ _ _ => none

theorem connectionIdOfBytes_header (type : UInt8) (id : ConnectionId) (rest : Bytes) :
    connectionIdOfBytes (((TcpFrame.header type id ++ rest).drop 1).take 16) = some id := by
  have hbytes : ((TcpFrame.header type id ++ rest).drop 1).take 16 = id.toList := by
    rw [TcpFrame.header, List.cons_append, List.drop_one, List.tail_cons, List.take_left' (by simp)]
  rw [hbytes, connectionIdOfBytes_toList]

/-- The 16-bit number right behind the header. -/
theorem field_header (type : UInt8) (id : ConnectionId) {n : ℕ} (hn : n < 256 ^ 2) (rest : Bytes) :
    field 17 2 (TcpFrame.header type id ++ (be 2 n ++ rest)) = n := by
  rw [field_append rest (TcpFrame.length_header ..) (length_be ..), ofBe_be_of_lt hn]

section DataFrame

variable (id : ConnectionId) (seq : UInt32) (data : Bytes) (hlt : data.length < 2 ^ 32)

theorem length_tcpData : (TcpFrame.tcpData id seq data hlt).bytes.length = 25 + data.length := by
  simp only [TcpFrame.bytes, List.length_append, TcpFrame.length_header, length_be]
  omega

theorem field_tcpData : field 21 4 (TcpFrame.tcpData id seq data hlt).bytes = data.length := by
  have hoff : (TcpFrame.header 0x11 id ++ be 4 seq.toNat).length = 21 := by simp
  rw [TcpFrame.bytes, ← List.append_assoc, field_append data hoff (length_be ..),
    ofBe_be_of_lt (by omega)]

theorem drop_tcpData : (TcpFrame.tcpData id seq data hlt).bytes.drop 25 = data := by
  have hoff : (TcpFrame.header 0x11 id ++ (be 4 seq.toNat ++ be 4 data.length)).length = 25 := by
    simp
  have hsplit : (TcpFrame.tcpData id seq data hlt).bytes =
      (TcpFrame.header 0x11 id ++ (be 4 seq.toNat ++ be 4 data.length)) ++ data := by
    simp [TcpFrame.bytes]
  rw [hsplit, List.drop_left' hoff]

end DataFrame

section ErrorFrame

variable (id : ConnectionId) (code : UInt16) (message : Bytes) (hlt : message.length < 2 ^ 16)

theorem length_tcpError :
    (TcpFrame.tcpError id code message hlt).bytes.length = 21 + message.length := by
  simp only [TcpFrame.bytes, List.length_append, TcpFrame.length_header, length_be]
  omega

theorem field_tcpError :
    field 19 2 (TcpFrame.tcpError id code message hlt).bytes = message.length := by
  have hoff : (TcpFrame.header 0x13 id ++ be 2 code.toNat).length = 19 := by simp
  rw [TcpFrame.bytes, ← List.append_assoc, field_append message hoff (length_be ..),
    ofBe_be_of_lt (by omega)]

theorem drop_tcpError : (TcpFrame.tcpError id code message hlt).bytes.drop 21 = message := by
  have hoff : (TcpFrame.header 0x13 id ++ (be 2 code.toNat ++ be 2 message.length)).length = 21 := by
    simp
  have hsplit : (TcpFrame.tcpError id code message hlt).bytes =
      (TcpFrame.header 0x13 id ++ (be 2 code.toNat ++ be 2 message.length)) ++ message := by
    simp [TcpFrame.bytes]
  rw [hsplit, List.drop_left' hoff]

end ErrorFrame

/-- The agent reads the documented format. -/
theorem forwarderCall_bytes {f : TcpFrame} (hfit : PayloadFits f) :
    forwarderCall f.bytes = callOf f := by
  cases f with
  | tcpOpen id port =>
      have hport := field_header 0x10 id port.toNat_lt []
      have hid := connectionIdOfBytes_header 0x10 id (be 2 port.toNat)
      rw [List.append_nil] at hport
      simp only [forwarderCall, TcpFrame.bytes, hid, hport, UInt16.ofNat_toNat]
      simp [TcpFrame.header, callOf]
  | tcpData id seq data hlt =>
      have hid := connectionIdOfBytes_header 0x11 id (be 4 seq.toNat ++ (be 4 data.length ++ data))
      have hlen := length_tcpData id seq data hlt
      have hhead : (TcpFrame.tcpData id seq data hlt).bytes.headD 0 = 0x11 := rfl
      have hle : data.length ≤ 65536 := hfit
      have hwrap : (25 + data.length) % 2 ^ 32 = 25 + data.length := by omega
      simp only [forwarderCall, field_tcpData, drop_tcpData, hlen, hwrap, hhead]
      rw [TcpFrame.bytes, hid]
      simp [callOf]
  | tcpClose id reason =>
      have hid := connectionIdOfBytes_header 0x12 id (be 2 reason.toNat)
      simp only [forwarderCall, TcpFrame.bytes, hid]
      simp [TcpFrame.header, callOf]
  | tcpError id code message hlt =>
      have hcode := field_header 0x13 id code.toNat_lt (be 2 message.length ++ message)
      have hid := connectionIdOfBytes_header 0x13 id (be 2 code.toNat ++ (be 2 message.length ++ message))
      have hlen := length_tcpError id code message hlt
      have hhead : (TcpFrame.tcpError id code message hlt).bytes.headD 0 = 0x13 := rfl
      simp only [forwarderCall, field_tcpError, drop_tcpError, hlen, hhead]
      rw [TcpFrame.bytes, hid, hcode]
      simp [callOf]
  | tcpAck id ack window =>
      have hid := connectionIdOfBytes_header 0x14 id (be 4 ack.toNat ++ be 4 window.toNat)
      simp only [forwarderCall, TcpFrame.bytes, hid]
      simp [TcpFrame.header, callOf]

/-- A frame in the documented format is delivered with the call it stands for. -/
theorem delivers_bytes {f : TcpFrame} {call : ForwarderCall} (hfit : PayloadFits f)
    (hcall : callOf f = some call) : Delivers f.bytes call := by
  refine ⟨?_, ?_⟩
  · rw [forwarderCall_bytes hfit, hcall]
  · intro later hlater
    have hwhole : ∀ g ∈ f.bytes :: later, Whole frameSize g := by
      intro g hg
      obtain rfl | hg := List.mem_cons.mp hg
      · exact whole_bytes hfit
      · exact hlater g hg
    have hsplit := splitFrames_append hwhole takeFrame_nil (Nat.le_refl _)
    rw [List.flatten_cons, List.append_nil] at hsplit
    exact hsplit

/-- The server reads data frames in the documented format. -/
theorem decodeAgentFrame_bytes (id : ConnectionId) (seq : UInt32) {data : Bytes}
    (hle : data.length ≤ 65536) (hlt : data.length < 2 ^ 32) :
    decodeAgentFrame (TcpFrame.tcpData id seq data hlt).bytes =
      some (.data (connectionIdToString id) data data.length) := by
  have hid := connectionIdOfBytes_header 0x11 id (be 4 seq.toNat ++ (be 4 data.length ++ data))
  have hlen := length_tcpData id seq data hlt
  have hhead : (TcpFrame.tcpData id seq data hlt).bytes.headD 0 = 0x11 := rfl
  have hwrap : (25 + data.length) % 2 ^ 32 = 25 + data.length := by omega
  have hlong : ¬ 25 + data.length < 17 := by omega
  simp only [decodeAgentFrame, field_tcpData, drop_tcpData, hlen, hwrap, hhead, hlong, if_false]
  rw [TcpFrame.bytes, hid]
  simp

/-! ## Data frames -/

/-- The agent writes data frames in the documented format. -/
theorem sendTcpDataFrame_eq_bytes (order : ByteOrder) (id : ConnectionId) (seq : UInt32)
    (data : Bytes) (hlt : data.length < 2 ^ 32) :
    sendTcpDataFrame order id data seq = (TcpFrame.tcpData id seq data hlt).bytes := by
  have hnum : (UInt32.ofNat data.length).toNat = data.length := UInt32.toNat_ofNat_of_lt hlt
  rw [sendTcpDataFrame, memory_toNetwork, memory_toNetwork, hnum]
  rfl

/-- **Both ends agree on data frames.**  What the server serializes the agent hands to the
forwarder, and what the agent sends the server hands to `receive_data`, on every host. -/
theorem tcpData_agrees (order : ByteOrder) (id : ConnectionId) (seq : UInt32) (payload : Bytes)
    (hle : payload.length ≤ 65536) :
    (processTcpFrames (TCPDataFrame.serialize ⟨.tcpData, id, seq, payload⟩) =
        ([TCPDataFrame.serialize ⟨.tcpData, id, seq, payload⟩], []) ∧
      forwarderCall (TCPDataFrame.serialize ⟨.tcpData, id, seq, payload⟩) =
        some (.tcpData id payload)) ∧
    decodeAgentFrame (sendTcpDataFrame order id payload seq) =
      some (.data (connectionIdToString id) payload payload.length) := by
  have hlt : payload.length < 2 ^ 32 := by omega
  have hbytes : TCPDataFrame.serialize ⟨.tcpData, id, seq, payload⟩ =
      (TcpFrame.tcpData id seq payload hlt).bytes :=
    TCPDataFrame.serialize_eq_bytes ⟨.tcpData, id, seq, payload⟩ rfl hlt
  have hdelivers : Delivers (TcpFrame.tcpData id seq payload hlt).bytes (.tcpData id payload) :=
    delivers_bytes hle rfl
  refine ⟨?_, ?_⟩
  · rw [hbytes]
    have hall := hdelivers.2 [] (by simp)
    rw [List.flatten_nil, List.append_nil] at hall
    exact ⟨hall, hdelivers.1⟩
  · rw [sendTcpDataFrame_eq_bytes order id seq payload hlt, decodeAgentFrame_bytes id seq hle hlt]

/-- A payload of two bytes between a little-endian agent and the server. -/
theorem tcpData_agrees_little :
    (processTcpFrames (TCPDataFrame.serialize ⟨.tcpData, Vector.replicate 16 7, 5, [65, 66]⟩) =
        ([TCPDataFrame.serialize ⟨.tcpData, Vector.replicate 16 7, 5, [65, 66]⟩], []) ∧
      forwarderCall (TCPDataFrame.serialize ⟨.tcpData, Vector.replicate 16 7, 5, [65, 66]⟩) =
        some (.tcpData (Vector.replicate 16 7) [65, 66])) ∧
    decodeAgentFrame (sendTcpDataFrame .little (Vector.replicate 16 7) [65, 66] 5) =
      some (.data (connectionIdToString (Vector.replicate 16 7)) [65, 66] 2) :=
  tcpData_agrees .little (Vector.replicate 16 7) 5 [65, 66] (by decide)

/-! ## Control frames -/

/-- A TCP_OPEN frame arrives with the converted port. -/
theorem delivers_open (order : ByteOrder) (f : TCPOpenFrame) (htype : f.type = .tcpOpen) :
    Delivers (f.serialize order) (.tcpOpen f.connectionId (hton16 order f.targetPort)) := by
  have hbytes : f.serialize order =
      (TcpFrame.tcpOpen f.connectionId (hton16 order f.targetPort)).bytes := by
    rw [TCPOpenFrame.serialize, htype]
    rfl
  rw [hbytes]
  exact delivers_bytes (by simp [PayloadFits, TcpFrame.payload]) rfl

theorem hton16_eq_iff {order : ByteOrder} {value : UInt16} :
    hton16 order value = value ↔ order = .big ∨ byteSwap 2 value.toNat = value.toNat := by
  rw [← UInt16.toNat_inj, toNat_hton16, toNetwork_eq_iff]

/-- What is taken as one frame has the size the splitter reads. -/
theorem frameSize_of_processTcpFrames {bytes : Bytes}
    (h : processTcpFrames bytes = ([bytes], [])) : frameSize bytes = bytes.length := by
  rw [processTcpFrames] at h
  cases hlen : bytes.length with
  | zero =>
      rw [hlen] at h
      simp [splitFrames] at h
  | succ n =>
      rw [hlen, splitFrames] at h
      cases htake : takeFrame frameSize bytes with
      | none => simp [htake] at h
      | some taken =>
          obtain ⟨frame, rest⟩ := taken
          simp only [htake, Prod.mk.injEq, List.cons.injEq] at h
          simp only [takeFrame] at htake
          split at htake
          · cases htake
          · rename_i hsize
            have hframe := congrArg (fun p => p.1.length) (Option.some.inj htake)
            simp only [List.length_take, h.1.1] at hframe
            omega

/-- The size the agent reads off an error frame: the message is as long as the converted
length says. -/
theorem frameSize_error (order : ByteOrder) (f : TCPErrorFrame) (htype : f.type = .tcpError) :
    frameSize (f.serialize order) = 21 + (hton16 order (.ofNat f.message.length)).toNat := by
  have hlen : 21 ≤ (f.serialize order).length := by
    rw [f.serialize_eq, List.length_append, f.length_lead]
    omega
  have hfield : field 19 2 (f.serialize order) = (hton16 order (.ofNat f.message.length)).toNat := by
    have hoff : (TcpFrame.header f.type f.connectionId ++
        be 2 (hton16 order f.errorCode).toNat).length = 19 := by simp
    rw [TCPErrorFrame.serialize, ← List.append_assoc, field_append _ hoff (length_be ..),
      ofBe_be_of_lt (UInt16.toNat_lt _)]
  have hhead : f.serialize order = 0x13 :: (f.serialize order).tail := by
    rw [TCPErrorFrame.serialize, htype]
    rfl
  rw [hhead, frameSize, ← hhead, hfield]
  simp only [hlen, if_true]
  rfl

/-- A TCP_ERROR frame whose length is the same in both orders arrives with the converted
code. -/
theorem delivers_error (order : ByteOrder) (f : TCPErrorFrame) (htype : f.type = .tcpError)
    (hlt : f.message.length < 2 ^ 16)
    (hlen : hton16 order (.ofNat f.message.length) = .ofNat f.message.length) :
    Delivers (f.serialize order) (.tcpError f.connectionId (hton16 order f.errorCode) f.message) := by
  have hnum : (UInt16.ofNat f.message.length).toNat = f.message.length :=
    UInt16.toNat_ofNat_of_lt hlt
  have hbytes : f.serialize order =
      (TcpFrame.tcpError f.connectionId (hton16 order f.errorCode) f.message hlt).bytes := by
    rw [TCPErrorFrame.serialize, htype, hlen, hnum]
    rfl
  rw [hbytes]
  exact delivers_bytes (by simp [PayloadFits, TcpFrame.payload]) rfl

/-- A frame can be delivered with one call only. -/
theorem Delivers.call_unique {bytes : Bytes} {a b : ForwarderCall} (ha : Delivers bytes a)
    (hb : Delivers bytes b) : a = b := Option.some.inj (ha.1.symm.trans hb.1)

theorem Delivers.frameSize_eq {bytes : Bytes} {call : ForwarderCall} (h : Delivers bytes call) :
    frameSize bytes = bytes.length := by
  have hall := h.2 [] (by simp)
  rw [List.flatten_nil, List.append_nil] at hall
  exact frameSize_of_processTcpFrames hall

/-- **When the agent understands the server's control frames**: on a big-endian host
always, and on a little-endian one for the numbers that are the same in both orders. -/
theorem control_agrees_iff (order : ByteOrder) :
    (∀ f : TCPOpenFrame, f.type = .tcpOpen →
      (Delivers (f.serialize order) (.tcpOpen f.connectionId f.targetPort) ↔
        order = .big ∨ byteSwap 2 f.targetPort.toNat = f.targetPort.toNat)) ∧
    (∀ f : TCPErrorFrame, f.type = .tcpError → f.message.length < 2 ^ 16 →
      (Delivers (f.serialize order) (.tcpError f.connectionId f.errorCode f.message) ↔
        order = .big ∨ (byteSwap 2 f.errorCode.toNat = f.errorCode.toNat ∧
          byteSwap 2 f.message.length = f.message.length))) := by
  refine ⟨?_, ?_⟩
  · intro f htype
    have hdelivers := delivers_open order f htype
    rw [← hton16_eq_iff]
    constructor
    · intro h
      have hcall := hdelivers.call_unique h
      injection hcall
    · intro hport
      rwa [hport] at hdelivers
  · intro f htype hlt
    have hnum : (UInt16.ofNat f.message.length).toNat = f.message.length :=
      UInt16.toNat_ofNat_of_lt hlt
    have hcond : (order = .big ∨ (byteSwap 2 f.errorCode.toNat = f.errorCode.toNat ∧
        byteSwap 2 f.message.length = f.message.length)) ↔
          hton16 order f.errorCode = f.errorCode ∧
            hton16 order (.ofNat f.message.length) = .ofNat f.message.length := by
      rw [hton16_eq_iff, hton16_eq_iff, hnum, or_and_left]
    rw [hcond]
    constructor
    · intro h
      -- the frame is as long as the length read by the agent says
      have hlen : hton16 order (.ofNat f.message.length) = .ofNat f.message.length := by
        have hsize := h.frameSize_eq
        rw [frameSize_error order f htype, f.serialize_eq, List.length_append, f.length_lead] at hsize
        rw [← UInt16.toNat_inj, hnum]
        omega
      have hcall := (delivers_error order f htype hlt hlen).call_unique h
      injection hcall with _ hcode _
      exact ⟨hcode, hlen⟩
    · rintro ⟨hcode, hlen⟩
      have hdelivers := delivers_error order f htype hlt hlen
      rwa [hcode] at hdelivers

/-- The port 9100 and an error with a message of two bytes: from a big-endian host they are
understood, and from a little-endian one the port is not. -/
theorem control_agrees_iff_hosts :
    (Delivers (TCPOpenFrame.serialize .big ⟨.tcpOpen, Vector.replicate 16 7, 9100⟩)
        (.tcpOpen (Vector.replicate 16 7) 9100) ∧
      Delivers (TCPErrorFrame.serialize .big ⟨.tcpError, Vector.replicate 16 7, 3, [66, 67]⟩)
        (.tcpError (Vector.replicate 16 7) 3 [66, 67])) ∧
    ¬ Delivers (TCPOpenFrame.serialize .little ⟨.tcpOpen, Vector.replicate 16 7, 9100⟩)
      (.tcpOpen (Vector.replicate 16 7) 9100) := by
  have hopen := fun order =>
    (control_agrees_iff order).1 ⟨.tcpOpen, Vector.replicate 16 7, 9100⟩ rfl
  have herror := (control_agrees_iff .big).2
    ⟨.tcpError, Vector.replicate 16 7, 3, [66, 67]⟩ rfl (by decide)
  exact ⟨⟨(hopen .big).mpr (.inl rfl), herror.mpr (.inl rfl)⟩,
    fun h => absurd ((hopen .little).mp h) (by decide)⟩

/-- Port 9100, 0x238c, arrives as 0x8c23 from a little-endian host; an error with a message
of two bytes is not taken as a frame at all. -/
theorem not_control_agrees :
    (forwarderCall (TCPOpenFrame.serialize .little ⟨.tcpOpen, Vector.replicate 16 7, 9100⟩) =
        some (.tcpOpen (Vector.replicate 16 7) 35875) ∧
      processTcpFrames (TCPErrorFrame.serialize .little
        ⟨.tcpError, Vector.replicate 16 7, 3, [66, 67]⟩) =
          ([], TCPErrorFrame.serialize .little ⟨.tcpError, Vector.replicate 16 7, 3, [66, 67]⟩)) ∧
    ¬ ∀ order : ByteOrder,
      (∀ f : TCPOpenFrame, f.type = .tcpOpen →
        Delivers (f.serialize order) (.tcpOpen f.connectionId f.targetPort)) ∧
      (∀ f : TCPErrorFrame, f.type = .tcpError → f.message.length < 2 ^ 16 →
        Delivers (f.serialize order) (.tcpError f.connectionId f.errorCode f.message)) := by
  have hopen : forwarderCall (TCPOpenFrame.serialize .little
      ⟨.tcpOpen, Vector.replicate 16 7, 9100⟩) =
        some (.tcpOpen (Vector.replicate 16 7) 35875) := by decide +kernel
  have herror : processTcpFrames (TCPErrorFrame.serialize .little
      ⟨.tcpError, Vector.replicate 16 7, 3, [66, 67]⟩) =
        ([], TCPErrorFrame.serialize .little ⟨.tcpError, Vector.replicate 16 7, 3, [66, 67]⟩) := by
    decide +kernel
  refine ⟨⟨hopen, herror⟩, ?_⟩
  intro hall
  have hcall := ((hall .little).1 ⟨.tcpOpen, Vector.replicate 16 7, 9100⟩ rfl).1
  rw [hopen] at hcall
  exact absurd hcall (by decide)

end Protogate.Agreement
