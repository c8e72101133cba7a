import Protogate.Lib.ByteOrder
import Protogate.Wire.Frames

/-!
# The TCP frame codecs

The five pairs of `serialize` and `deserialize` of `tcp_protocol.cpp`, on a host
of either byte order.  The control frames convert with `hton` before they write
the bytes of a number from the top, and with `ntoh` after they have put the bytes
together again; `TCPDataFrame` writes without a conversion and reads with one.

## Main definitions

* `hton16`, `ntoh16`, `hton32`, `ntoh32` — the helpers of the source.
* `TCPOpenFrame`, `TCPDataFrame`, `TCPCloseFrame`, `TCPErrorFrame`, `TCPAckFrame`
  with their codecs.
* `Fault` — a decoder that throws, or that reads past its buffer.
* `TCPOpenFrame.serialize_eq_bytes_iff` — where the documented format is met.
* `tcpData_round_trip_iff`, `control_round_trip` — which frames come back.
-/

namespace Protogate.TcpProtocol

open Protogate.Lib Protogate.Wire

/-! ## Numbers -/

/-- `htons`. -/
def hton16 (order : ByteOrder) (value : UInt16) : UInt16 := .ofNat (toNetwork order 2 value.toNat)

/-- `ntohs`. -/
def ntoh16 (order : ByteOrder) (value : UInt16) : UInt16 := .ofNat (toNetwork order 2 value.toNat)

/-- `htonl`. -/
def hton32 (order : ByteOrder) (value : UInt32) : UInt32 := .ofNat (toNetwork order 4 value.toNat)

/-- `ntohl`. -/
def ntoh32 (order : ByteOrder) (value : UInt32) : UInt32 := .ofNat (toNetwork order 4 value.toNat)

theorem toNat_hton16 (order : ByteOrder) (value : UInt16) :
    (hton16 order value).toNat = toNetwork order 2 value.toNat :=
  UInt16.toNat_ofNat_of_lt (toNetwork_lt value.toNat_lt)

theorem toNat_hton32 (order : ByteOrder) (value : UInt32) :
    (hton32 order value).toNat = toNetwork order 4 value.toNat :=
  UInt32.toNat_ofNat_of_lt (toNetwork_lt value.toNat_lt)

theorem toNat_ntoh32 (order : ByteOrder) (value : UInt32) :
    (ntoh32 order value).toNat = toNetwork order 4 value.toNat :=
  UInt32.toNat_ofNat_of_lt (toNetwork_lt value.toNat_lt)

@[simp] theorem ntoh16_hton16 (order : ByteOrder) (value : UInt16) :
    ntoh16 order (hton16 order value) = value := by
  rw [ntoh16, toNat_hton16, toNetwork_toNetwork value.toNat_lt, UInt16.ofNat_toNat]

@[simp] theorem ntoh32_hton32 (order : ByteOrder) (value : UInt32) :
    ntoh32 order (hton32 order value) = value := by
  rw [ntoh32, toNat_hton32, toNetwork_toNetwork value.toNat_lt, UInt32.ofNat_toNat]

theorem ntoh32_eq_iff {order : ByteOrder} {value : UInt32} :
    ntoh32 order value = value ↔ order = .big ∨ byteSwap 4 value.toNat = value.toNat := by
  rw [← UInt32.toNat_inj, toNat_ntoh32, toNetwork_eq_iff]

/-- A 16-bit number put together from the bytes at `off`, highest first. -/
def shifted16 (off : ℕ) (data : Bytes) : UInt16 := .ofNat (field off 2 data)

/-- A 32-bit number put together from the bytes at `off`, highest first. -/
def shifted32 (off : ℕ) (data : Bytes) : UInt32 := .ofNat (field off 4 data)

theorem shifted16_append {off : ℕ} {before : Bytes} (value : UInt16) (rest : Bytes)
    (hoff : before.length = off) : shifted16 off (before ++ (be 2 value.toNat ++ rest)) = value := by
  rw [shifted16, field_append rest hoff (length_be 2 _), ofBe_be_of_lt value.toNat_lt,
    UInt16.ofNat_toNat]

theorem shifted32_append {off : ℕ} {before : Bytes} (value : UInt32) (rest : Bytes)
    (hoff : before.length = off) : shifted32 off (before ++ (be 4 value.toNat ++ rest)) = value := by
  rw [shifted32, field_append rest hoff (length_be 4 _), ofBe_be_of_lt value.toNat_lt,
    UInt32.ofNat_toNat]

/-! ## Frames -/

/-- `enum class TCPFrameType : uint8_t`: any byte, five of which have a name. -/
abbrev TCPFrameType := UInt8

namespace TCPFrameType

def tcpOpen : TCPFrameType := 0x10
def tcpData : TCPFrameType := 0x11
def tcpClose : TCPFrameType := 0x12
def tcpError : TCPFrameType := 0x13
def tcpAck : TCPFrameType := 0x14

end TCPFrameType

structure TCPOpenFrame where
  type : TCPFrameType := .tcpOpen
  connectionId : ConnectionId
  targetPort : UInt16
  deriving DecidableEq

structure TCPDataFrame where
  type : TCPFrameType := .tcpData
  connectionId : ConnectionId
  sequenceNumber : UInt32
  data : Bytes
  deriving DecidableEq

/-- The reason is a `TCPCloseReason`, which can hold any 16-bit number. -/
structure TCPCloseFrame where
  type : TCPFrameType := .tcpClose
  connectionId : ConnectionId
  reason : UInt16
  deriving DecidableEq

/-- The code is a `TCPErrorCode`, which can hold any 16-bit number. -/
structure TCPErrorFrame where
  type : TCPFrameType := .tcpError
  connectionId : ConnectionId
  errorCode : UInt16
  message : Bytes
  deriving DecidableEq

structure TCPAckFrame where
  type : TCPFrameType := .tcpAck
  connectionId : ConnectionId
  ackSequenceNumber : UInt32
  windowSize : UInt32
  deriving DecidableEq

/-! ## Encoders -/

open TcpFrame (header)

def TCPOpenFrame.serialize (order : ByteOrder) (f : TCPOpenFrame) : Bytes :=
  header f.type f.connectionId ++ be 2 (hton16 order f.targetPort).toNat

/-- No conversion: the shifts alone give network order. -/
def TCPDataFrame.serialize (f : TCPDataFrame) : Bytes :=
  header f.type f.connectionId ++
    (be 4 f.sequenceNumber.toNat ++ (be 4 (UInt32.ofNat f.data.length).toNat ++ f.data))

def TCPCloseFrame.serialize (order : ByteOrder) (f : TCPCloseFrame) : Bytes :=
  header f.type f.connectionId ++ be 2 (hton16 order f.reason).toNat

def TCPErrorFrame.serialize (order : ByteOrder) (f : TCPErrorFrame) : Bytes :=
  header f.type f.connectionId ++ (be 2 (hton16 order f.errorCode).toNat ++
    (be 2 (hton16 order (.ofNat f.message.length)).toNat ++ f.message))

def TCPAckFrame.serialize (order : ByteOrder) (f : TCPAckFrame) : Bytes :=
  header f.type f.connectionId ++
    (be 4 (hton32 order f.ackSequenceNumber).toNat ++ be 4 (hton32 order f.windowSize).toNat)

/-! ## Decoders -/

/-- How a decoder ends without a frame: it throws a `runtime_error`, or it has
read past the end of its buffer. -/
inductive Fault
  | exception (what : String)
  | outOfBounds
  deriving DecidableEq, Repr

/-- `std::copy(data + 1, data + 17, …)`. -/
def connectionIdAt (data : Bytes) : ConnectionId := .ofFn fun i => data.getD (i + 1) 0

/-- The checks with which every `deserialize` starts. -/
def checked {α : Type} (name : String) (size : ℕ) (type : TCPFrameType) (data : Bytes)
    (read : Except Fault α) : Except Fault α :=
  if data.length < size then .error (.exception (name ++ ": buffer too small"))
  else if data.getD 0 0 ≠ type then .error (.exception (name ++ ": invalid frame type"))
  else read

def TCPOpenFrame.deserialize (order : ByteOrder) (data : Bytes) : Except Fault TCPOpenFrame :=
  checked "TCPOpenFrame" 19 .tcpOpen data <|
    .ok ⟨data.getD 0 0, connectionIdAt data, ntoh16 order (shifted16 17 data)⟩

/-- `25 + data_length` is computed in 32 bits and can wrap, so the check can pass
for a buffer that is too short. -/
def TCPDataFrame.deserialize (order : ByteOrder) (data : Bytes) : Except Fault TCPDataFrame :=
  checked "TCPDataFrame" 25 .tcpData data <|
    let dataLength := ntoh32 order (shifted32 21 data)
    if data.length < (25 + dataLength).toNat then
      .error (.exception "TCPDataFrame: incomplete data")
    else if data.length < 25 + dataLength.toNat then .error .outOfBounds
    else .ok ⟨data.getD 0 0, connectionIdAt data, ntoh32 order (shifted32 17 data),
      (data.drop 25).take dataLength.toNat⟩

def TCPCloseFrame.deserialize (order : ByteOrder) (data : Bytes) : Except Fault TCPCloseFrame :=
  checked "TCPCloseFrame" 19 .tcpClose data <|
    .ok ⟨data.getD 0 0, connectionIdAt data, ntoh16 order (shifted16 17 data)⟩

def TCPErrorFrame.deserialize (order : ByteOrder) (data : Bytes) : Except Fault TCPErrorFrame :=
  checked "TCPErrorFrame" 21 .tcpError data <|
    let msgLength := ntoh16 order (shifted16 19 data)
    if data.length < 21 + msgLength.toNat then
      .error (.exception "TCPErrorFrame: incomplete message")
    else .ok ⟨data.getD 0 0, connectionIdAt data, ntoh16 order (shifted16 17 data),
      (data.drop 21).take msgLength.toNat⟩

def TCPAckFrame.deserialize (order : ByteOrder) (data : Bytes) : Except Fault TCPAckFrame :=
  checked "TCPAckFrame" 25 .tcpAck data <|
    .ok ⟨data.getD 0 0, connectionIdAt data, ntoh32 order (shifted32 17 data),
      ntoh32 order (shifted32 21 data)⟩

/-! ## The common header -/

section Header

variable (type : TCPFrameType) (id : ConnectionId) (rest : Bytes)

@[simp] theorem getD_header : (header type id ++ rest).getD 0 0 = type := rfl

@[simp] theorem connectionIdAt_header : connectionIdAt (header type id ++ rest) = id := by
  apply Vector.ext
  intro i hi
  have hlen : i < id.toList.length := by simpa using hi
  simp [connectionIdAt, header, List.getElem?_append_left hlen, hi]

variable {α : Type} {name : String} {size : ℕ}

theorem checked_header {read : Except Fault α} (h : size ≤ (header type id ++ rest).length) :
    checked name size type (header type id ++ rest) read = read := by
  rw [checked, if_neg (Nat.not_lt.mpr h), getD_header, if_neg (not_not_intro rfl)]

theorem checked_short {type : TCPFrameType} {data : Bytes} {read : Except Fault α}
    (h : data.length < size) :
    checked name size type data read = .error (.exception (name ++ ": buffer too small")) := by
  rw [checked, if_pos h]

end Header

/-! ## The documented format -/

/-- Data frames go out in the documented format on every host. -/
theorem TCPDataFrame.serialize_eq_bytes (f : TCPDataFrame) (htype : f.type = .tcpData)
    (hlength : f.data.length < 2 ^ 32) :
    f.serialize = (TcpFrame.tcpData f.connectionId f.sequenceNumber f.data hlength).bytes := by
  have hnum : (UInt32.ofNat f.data.length).toNat = f.data.length :=
    UInt32.toNat_ofNat_of_lt hlength
  rw [TCPDataFrame.serialize, htype, hnum]
  rfl

/-- A TCP_OPEN frame goes out in the documented format on a big-endian host, and on a
little-endian one only for a port that is the same in both orders. -/
theorem TCPOpenFrame.serialize_eq_bytes_iff (order : ByteOrder) (f : TCPOpenFrame)
    (htype : f.type = .tcpOpen) :
    f.serialize order = (TcpFrame.tcpOpen f.connectionId f.targetPort).bytes ↔
      order = .big ∨ byteSwap 2 f.targetPort.toNat = f.targetPort.toNat := by
  rw [TCPOpenFrame.serialize, htype, ← toNetwork_eq_iff, ← toNat_hton16]
  constructor
  · intro h
    have hport := congrArg ofBe (List.append_cancel_left h)
    rwa [ofBe_be_of_lt (UInt16.toNat_lt _), ofBe_be_of_lt (UInt16.toNat_lt _)] at hport
  · intro h
    rw [h]
    rfl

/-! ## Data frames -/

theorem TCPDataFrame.length_serialize (f : TCPDataFrame) :
    f.serialize.length = 25 + f.data.length := by
  simp only [TCPDataFrame.serialize, List.length_append, TcpFrame.length_header, length_be]
  omega

section Data

variable (f : TCPDataFrame) (rest : Bytes)

private theorem sequence_at : shifted32 17 (f.serialize ++ rest) = f.sequenceNumber := by
  simp only [TCPDataFrame.serialize, List.append_assoc]
  exact shifted32_append f.sequenceNumber _ (TcpFrame.length_header ..)

private theorem length_at :
    shifted32 21 (f.serialize ++ rest) = UInt32.ofNat f.data.length := by
  have hoff : (header f.type f.connectionId ++ be 4 f.sequenceNumber.toNat).length = 21 := by simp
  simp only [TCPDataFrame.serialize, List.append_assoc]
  rw [← List.append_assoc]
  exact shifted32_append _ (f.data ++ rest) hoff

private theorem data_at : (f.serialize ++ rest).drop 25 = f.data ++ rest := by
  have hoff : (header f.type f.connectionId ++ (be 4 f.sequenceNumber.toNat ++
      be 4 (UInt32.ofNat f.data.length).toNat)).length = 25 := by simp
  have hsplit : f.serialize ++ rest = (header f.type f.connectionId ++
      (be 4 f.sequenceNumber.toNat ++ be 4 (UInt32.ofNat f.data.length).toNat)) ++
        (f.data ++ rest) := by simp [TCPDataFrame.serialize]
  rw [hsplit, List.drop_left' hoff]

/-- What the decoder computes from an encoded frame with anything behind it. -/
theorem TCPDataFrame.deserialize_serialize (order : ByteOrder) (htype : f.type = .tcpData) :
    TCPDataFrame.deserialize order (f.serialize ++ rest) =
      let dataLength := ntoh32 order (.ofNat f.data.length)
      if (f.serialize ++ rest).length < (25 + dataLength).toNat then
        .error (.exception "TCPDataFrame: incomplete data")
      else if (f.serialize ++ rest).length < 25 + dataLength.toNat then .error .outOfBounds
      else .ok ⟨.tcpData, f.connectionId, ntoh32 order f.sequenceNumber,
        (f.data ++ rest).take dataLength.toNat⟩ := by
  have hsize : 25 ≤ (f.serialize ++ rest).length := by
    rw [List.length_append, f.length_serialize]
    omega
  have hhead : ∃ tail, f.serialize ++ rest = header TCPFrameType.tcpData f.connectionId ++ tail := by
    rw [TCPDataFrame.serialize, htype, List.append_assoc]
    exact ⟨_, rfl⟩
  rw [TCPDataFrame.deserialize, sequence_at, length_at, data_at]
  obtain ⟨tail, htail⟩ := hhead
  rw [htail] at hsize ⊢
  rw [checked_header _ _ _ hsize, getD_header, connectionIdAt_header]

end Data

/-- **A data frame comes back exactly where the conversion of the decoder does nothing.** -/
theorem tcpData_round_trip_iff (order : ByteOrder) (f : TCPDataFrame) (rest : Bytes)
    (htype : f.type = .tcpData) (hlength : f.data.length < 2 ^ 32 - 25) :
    TCPDataFrame.deserialize order (f.serialize ++ rest) = .ok f ↔
      order = .big ∨ (byteSwap 4 f.sequenceNumber.toNat = f.sequenceNumber.toNat ∧
        byteSwap 4 f.data.length = f.data.length) := by
  have htoNat : (UInt32.ofNat f.data.length).toNat = f.data.length :=
    UInt32.toNat_ofNat_of_lt (Nat.lt_of_lt_of_le hlength (by decide))
  have hcond : (order = .big ∨ (byteSwap 4 f.sequenceNumber.toNat = f.sequenceNumber.toNat ∧
      byteSwap 4 f.data.length = f.data.length)) ↔
        ntoh32 order f.sequenceNumber = f.sequenceNumber ∧
          ntoh32 order (.ofNat f.data.length) = .ofNat f.data.length := by
    rw [ntoh32_eq_iff, ntoh32_eq_iff, htoNat, or_and_left]
  have hframe : f = ⟨.tcpData, f.connectionId, f.sequenceNumber, f.data⟩ := by rw [← htype]
  rw [hcond, TCPDataFrame.deserialize_serialize f rest order htype]
  dsimp only
  constructor
  · intro hok
    split at hok
    · cases hok
    · split at hok
      · cases hok
      · rename_i hfits
        have hok := Except.ok.inj hok
        have hseq := congrArg TCPDataFrame.sequenceNumber hok
        -- The payload that comes back is as long as the converted length says.
        have hlen := congrArg (fun g => g.data.length) hok
        dsimp only at hseq hlen
        rw [List.length_take, List.length_append] at hlen
        rw [List.length_append, f.length_serialize] at hfits
        refine ⟨hseq, ?_⟩
        rw [← UInt32.toNat_inj, htoNat]
        omega
  · rintro ⟨hseq, hlen⟩
    have hwrap : (25 + UInt32.ofNat f.data.length).toNat = 25 + f.data.length := by
      rw [UInt32.toNat_add, htoNat]
      exact Nat.mod_eq_of_lt (by simp; omega)
    have hfits : ¬ (f.serialize ++ rest).length < 25 + f.data.length := by
      rw [List.length_append, f.length_serialize]
      omega
    rw [hseq, hlen, hwrap, htoNat, if_neg hfits, if_neg hfits, List.take_left, ← hframe]

/-- Two bytes at position 7 come back on a big-endian host; on a little-endian one only a
sequence number and a length that read the same from both ends would. -/
theorem tcpData_round_trip_big :
    TCPDataFrame.deserialize .big
        (TCPDataFrame.serialize ⟨.tcpData, Vector.replicate 16 3, 7, [65, 66]⟩ ++ [1, 2]) =
      .ok ⟨.tcpData, Vector.replicate 16 3, 7, [65, 66]⟩ ∧
    TCPDataFrame.deserialize .little
        (TCPDataFrame.serialize ⟨.tcpData, Vector.replicate 16 3, 7, [65, 66]⟩ ++ [1, 2]) ≠
      .ok ⟨.tcpData, Vector.replicate 16 3, 7, [65, 66]⟩ := by
  have hiff := fun order => tcpData_round_trip_iff order
    ⟨.tcpData, Vector.replicate 16 3, 7, [65, 66]⟩ [1, 2] rfl (by decide)
  exact ⟨(hiff .big).mpr (.inl rfl), fun h => absurd ((hiff .little).mp h) (by decide)⟩

/-- On a little-endian host the first frame with one byte of payload is refused:
its length is read as 2²⁴. -/
theorem tcpData_one_byte_refused :
    TCPDataFrame.deserialize .little
      (TCPDataFrame.serialize ⟨.tcpData, Vector.replicate 16 0, 0, [65]⟩ ++ []) =
        .error (.exception "TCPDataFrame: incomplete data") ∧
    ¬ ∀ (f : TCPDataFrame) (rest : Bytes) (order : ByteOrder), f.type = .tcpData →
      f.data.length < 2 ^ 32 - 25 →
        TCPDataFrame.deserialize order (f.serialize ++ rest) = .ok f := by
  have hrefused : TCPDataFrame.deserialize .little
      (TCPDataFrame.serialize ⟨.tcpData, Vector.replicate 16 0, 0, [65]⟩ ++ []) =
        .error (.exception "TCPDataFrame: incomplete data") := by decide +kernel
  refine ⟨hrefused, ?_⟩
  intro hall
  have hok := hall ⟨.tcpData, Vector.replicate 16 0, 0, [65]⟩ [] .little rfl (by decide)
  rw [hrefused] at hok
  cases hok

/-! ## Control frames -/

/-- `decode` gives back what `encode` wrote, whatever follows, and throws where
the end of the encoding is missing. -/
def RoundTrips {α : Type} (encode : α → Bytes) (decode : Bytes → Except Fault α) (f : α) : Prop :=
  (∀ rest, decode (encode f ++ rest) = .ok f) ∧
    ∀ data, data <+: encode f → data.length < (encode f).length →
      ∃ what, decode data = .error (.exception what)

/-- A frame that is one 16-bit number behind the header. -/
theorem roundTrips_number16 {α : Type} {order : ByteOrder} {name : String} {type : TCPFrameType}
    {id : ConnectionId} {value : UInt16} {encode : α → Bytes} {decode : Bytes → Except Fault α}
    (make : TCPFrameType → ConnectionId → UInt16 → α)
    (hencode : encode (make type id value) = header type id ++ be 2 (hton16 order value).toNat)
    (hdecode : ∀ data, decode data = checked name 19 type data
      (.ok (make (data.getD 0 0) (connectionIdAt data) (ntoh16 order (shifted16 17 data))))) :
    RoundTrips encode decode (make type id value) := by
  refine ⟨?_, ?_⟩
  · intro rest
    have hsize : 19 ≤ (header type id ++ (be 2 (hton16 order value).toNat ++ rest)).length := by
      simp; omega
    rw [hdecode, hencode, List.append_assoc, shifted16_append _ rest (TcpFrame.length_header ..),
      ntoh16_hton16, getD_header, connectionIdAt_header, checked_header _ _ _ hsize]
  · intro data _ hshort
    have hlen : (encode (make type id value)).length = 19 := by simp [hencode]
    rw [hdecode]
    exact ⟨_, checked_short (by omega)⟩

theorem TCPOpenFrame.roundTrips (order : ByteOrder) (f : TCPOpenFrame) (htype : f.type = .tcpOpen) :
    RoundTrips (TCPOpenFrame.serialize order) (TCPOpenFrame.deserialize order) f := by
  obtain ⟨type, id, port⟩ := f
  subst htype
  exact roundTrips_number16 TCPOpenFrame.mk rfl (fun _ => rfl)

theorem TCPCloseFrame.roundTrips (order : ByteOrder) (f : TCPCloseFrame)
    (htype : f.type = .tcpClose) :
    RoundTrips (TCPCloseFrame.serialize order) (TCPCloseFrame.deserialize order) f := by
  obtain ⟨type, id, reason⟩ := f
  subst htype
  exact roundTrips_number16 TCPCloseFrame.mk rfl (fun _ => rfl)

theorem TCPAckFrame.roundTrips (order : ByteOrder) (f : TCPAckFrame) (htype : f.type = .tcpAck) :
    RoundTrips (TCPAckFrame.serialize order) (TCPAckFrame.deserialize order) f := by
  have hlen : (f.serialize order).length = 25 := by simp [TCPAckFrame.serialize]
  refine ⟨?_, ?_⟩
  · intro rest
    have hsize : 25 ≤ (header f.type f.connectionId ++ (be 4 (hton32 order f.ackSequenceNumber).toNat ++
        (be 4 (hton32 order f.windowSize).toNat ++ rest))).length := by simp; omega
    have hoff : (header f.type f.connectionId ++
        be 4 (hton32 order f.ackSequenceNumber).toNat).length = 21 := by simp
    have hwindow := shifted32_append (hton32 order f.windowSize) rest hoff
    rw [List.append_assoc] at hwindow
    rw [TCPAckFrame.serialize, List.append_assoc, List.append_assoc, TCPAckFrame.deserialize,
      shifted32_append _ _ (TcpFrame.length_header ..), hwindow, ntoh32_hton32, ntoh32_hton32,
      getD_header, connectionIdAt_header, ← htype, checked_header _ _ _ hsize]
  · intro data _ hshort
    exact ⟨_, checked_short (by omega)⟩

/-! ### The error frame -/

/-- The 21 bytes in front of the message. -/
def TCPErrorFrame.lead (order : ByteOrder) (f : TCPErrorFrame) : Bytes :=
  header f.type f.connectionId ++ (be 2 (hton16 order f.errorCode).toNat ++
    be 2 (hton16 order (.ofNat f.message.length)).toNat)

theorem TCPErrorFrame.serialize_eq (order : ByteOrder) (f : TCPErrorFrame) :
    f.serialize order = f.lead order ++ f.message := by
  simp [TCPErrorFrame.serialize, TCPErrorFrame.lead]

@[simp] theorem TCPErrorFrame.length_lead (order : ByteOrder) (f : TCPErrorFrame) :
    (f.lead order).length = 21 := by
  simp [TCPErrorFrame.lead]

/-- The decoder after a whole lead: the message is there or it is not. -/
theorem TCPErrorFrame.deserialize_lead (order : ByteOrder) (f : TCPErrorFrame) (tail : Bytes)
    (htype : f.type = .tcpError) (hlength : f.message.length < 2 ^ 16) :
    TCPErrorFrame.deserialize order (f.lead order ++ tail) =
      if tail.length < f.message.length then
        .error (.exception "TCPErrorFrame: incomplete message")
      else .ok ⟨f.type, f.connectionId, f.errorCode, tail.take f.message.length⟩ := by
  have hcode : shifted16 17 (f.lead order ++ tail) = hton16 order f.errorCode := by
    simp only [TCPErrorFrame.lead, List.append_assoc]
    exact shifted16_append _ _ (TcpFrame.length_header ..)
  have hmessage : shifted16 19 (f.lead order ++ tail) = hton16 order (.ofNat f.message.length) := by
    have hoff : (header f.type f.connectionId ++ be 2 (hton16 order f.errorCode).toNat).length = 19 := by
      simp
    simp only [TCPErrorFrame.lead, List.append_assoc]
    rw [← List.append_assoc]
    exact shifted16_append _ tail hoff
  have hdrop : (f.lead order ++ tail).drop 21 = tail := List.drop_left' (f.length_lead order)
  have hnum : (UInt16.ofNat f.message.length).toNat = f.message.length :=
    UInt16.toNat_ofNat_of_lt hlength
  have hhead : ∃ rest, f.lead order ++ tail = header f.type f.connectionId ++ rest := by
    rw [TCPErrorFrame.lead, List.append_assoc]
    exact ⟨_, rfl⟩
  have hsize : 21 ≤ (f.lead order ++ tail).length := by simp
  have hfits : (f.lead order ++ tail).length < 21 + f.message.length ↔
      tail.length < f.message.length := by
    rw [List.length_append, f.length_lead]
    omega
  rw [TCPErrorFrame.deserialize, hcode, hmessage, ntoh16_hton16, ntoh16_hton16, hdrop]
  simp only [hnum, hfits]
  obtain ⟨rest, hrest⟩ := hhead
  rw [hrest] at hsize ⊢
  rw [getD_header, connectionIdAt_header, ← htype, checked_header _ _ _ hsize]

theorem TCPErrorFrame.roundTrips (order : ByteOrder) (f : TCPErrorFrame)
    (htype : f.type = .tcpError) (hlength : f.message.length < 2 ^ 16) :
    RoundTrips (TCPErrorFrame.serialize order) (TCPErrorFrame.deserialize order) f := by
  refine ⟨?_, ?_⟩
  · intro rest
    have hfits : ¬ (f.message ++ rest).length < f.message.length := by simp
    rw [f.serialize_eq, List.append_assoc, f.deserialize_lead order _ htype hlength, if_neg hfits,
      List.take_left]
  · intro data hpre hshort
    by_cases hlead : data.length < 21
    · exact ⟨_, checked_short hlead⟩
    · -- The lead is whole, so the length it gives is right and the message is cut.
      rw [f.serialize_eq] at hpre hshort
      have hle : (f.lead order).length ≤ data.length := by
        rw [f.length_lead]
        omega
      obtain ⟨tail, rfl⟩ := List.prefix_of_prefix_length_le (List.prefix_append _ _) hpre hle
      have hcut : tail.length < f.message.length := by
        simp only [List.length_append] at hshort
        omega
      rw [f.deserialize_lead order tail htype hlength, if_pos hcut]
      exact ⟨_, rfl⟩

/-- **The control frames come back on every host**, and no proper beginning of one
is taken for a frame. -/
theorem control_round_trip (order : ByteOrder) :
    (∀ f : TCPOpenFrame, f.type = .tcpOpen →
      RoundTrips (TCPOpenFrame.serialize order) (TCPOpenFrame.deserialize order) f) ∧
    (∀ f : TCPCloseFrame, f.type = .tcpClose →
      RoundTrips (TCPCloseFrame.serialize order) (TCPCloseFrame.deserialize order) f) ∧
    (∀ f : TCPErrorFrame, f.type = .tcpError → f.message.length < 2 ^ 16 →
      RoundTrips (TCPErrorFrame.serialize order) (TCPErrorFrame.deserialize order) f) ∧
    (∀ f : TCPAckFrame, f.type = .tcpAck →
      RoundTrips (TCPAckFrame.serialize order) (TCPAckFrame.deserialize order) f) :=
  ⟨TCPOpenFrame.roundTrips order, TCPCloseFrame.roundTrips order, TCPErrorFrame.roundTrips order,
    TCPAckFrame.roundTrips order⟩

/-- A frame of each kind on a little-endian host. -/
theorem control_round_trip_little :
    RoundTrips (TCPOpenFrame.serialize .little) (TCPOpenFrame.deserialize .little)
      ⟨.tcpOpen, Vector.replicate 16 7, 9100⟩ ∧
    RoundTrips (TCPCloseFrame.serialize .little) (TCPCloseFrame.deserialize .little)
      ⟨.tcpClose, Vector.replicate 16 7, 1⟩ ∧
    RoundTrips (TCPErrorFrame.serialize .little) (TCPErrorFrame.deserialize .little)
      ⟨.tcpError, Vector.replicate 16 7, 3, [66, 67]⟩ ∧
    RoundTrips (TCPAckFrame.serialize .little) (TCPAckFrame.deserialize .little)
      ⟨.tcpAck, Vector.replicate 16 7, 12, 65536⟩ :=
  ⟨(control_round_trip .little).1 ⟨.tcpOpen, Vector.replicate 16 7, 9100⟩ rfl,
    (control_round_trip .little).2.1 ⟨.tcpClose, Vector.replicate 16 7, 1⟩ rfl,
    (control_round_trip .little).2.2.1 ⟨.tcpError, Vector.replicate 16 7, 3, [66, 67]⟩ rfl
      (by decide),
    (control_round_trip .little).2.2.2 ⟨.tcpAck, Vector.replicate 16 7, 12, 65536⟩ rfl⟩

end Protogate.TcpProtocol
