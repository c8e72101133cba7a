import Protogate.Lib.Access
import Protogate.Wire.TcpCodec

/-!
# The decoders and the end of their buffer

The decoders of `tcp_protocol.cpp` once more, by single accesses to the buffer, so
that an access outside it shows.  The one for data frames computes `25 + data_length`
in 32 bits: where this wraps, the check passes for a buffer that is too short.

## Main definitions

* `TCPOpenFrame.deserializeFrom` and its relatives — `none` where a byte outside the
  buffer is read.
* `deserializeFrom_eq` — they compute what `deserialize` does.
* `InBounds` — no access is outside and the payload is a piece of the buffer.
* `Overruns` — the buffers on which the length check is defeated.
* `deserialize_inBounds_iff` — they are the only ones.
-/

namespace Protogate.TcpProtocol

open Protogate.Lib Protogate.Wire

/-! ## Decoding by accesses -/

/-- The copy of the connection id. -/
def connectionIdFrom (data : Bytes) : Option ConnectionId :=
  if 17 ≤ data.length then some (connectionIdAt data) else none

/-- The checks and the accesses with which every `deserialize` starts. -/
def checkedFrom {α : Type} (name : String) (size : ℕ) (type : TCPFrameType) (data : Bytes)
    (read : TCPFrameType → ConnectionId → Option (Except String α)) : Option (Except String α) :=
  if data.length < size then some (.error (name ++ ": buffer too small"))
  else do
    let found ← data[0]?
    if found ≠ type then some (.error (name ++ ": invalid frame type"))
    else do
      let id ← connectionIdFrom data
      read found id

def TCPOpenFrame.deserializeFrom (order : ByteOrder) (data : Bytes) :
    Option (Except String TCPOpenFrame) :=
  checkedFrom "TCPOpenFrame" 19 .tcpOpen data fun type id => do
    let portBe ← numberAt data 17 2
    return .ok ⟨type, id, ntoh16 order (.ofNat portBe)⟩

def TCPDataFrame.deserializeFrom (order : ByteOrder) (data : Bytes) :
    Option (Except String TCPDataFrame) :=
  checkedFrom "TCPDataFrame" 25 .tcpData data fun type id => do
    let seqBe ← numberAt data 17 4
    let lenBe ← numberAt data 21 4
    let dataLength := ntoh32 order (.ofNat lenBe)
    if data.length < (25 + dataLength).toNat then
      return .error "TCPDataFrame: incomplete data"
    else do
      let payload ← copyAt data 25 dataLength.toNat
      return .ok ⟨type, id, ntoh32 order (.ofNat seqBe), payload⟩

def TCPCloseFrame.deserializeFrom (order : ByteOrder) (data : Bytes) :
    Option (Except String TCPCloseFrame) :=
  checkedFrom "TCPCloseFrame" 19 .tcpClose data fun type id => do
    let reasonBe ← numberAt data 17 2
    return .ok ⟨type, id, ntoh16 order (.ofNat reasonBe)⟩

def TCPErrorFrame.deserializeFrom (order : ByteOrder) (data : Bytes) :
    Option (Except String TCPErrorFrame) :=
  checkedFrom "TCPErrorFrame" 21 .tcpError data fun type id => do
    let errorBe ← numberAt data 17 2
    let lenBe ← numberAt data 19 2
    let msgLength := ntoh16 order (.ofNat lenBe)
    -- in `int`, which does not wrap here
    if data.length < 21 + msgLength.toNat then
      return .error "TCPErrorFrame: incomplete message"
    else do
      let message ← copyAt data 21 msgLength.toNat
      return .ok ⟨type, id, ntoh16 order (.ofNat errorBe), message⟩

def TCPAckFrame.deserializeFrom (order : ByteOrder) (data : Bytes) :
    Option (Except String TCPAckFrame) :=
  checkedFrom "TCPAckFrame" 25 .tcpAck data fun type id => do
    let ackBe ← numberAt data 17 4
    let winBe ← numberAt data 21 4
    return .ok ⟨type, id, ntoh32 order (.ofNat ackBe), ntoh32 order (.ofNat winBe)⟩

/-! ## The accesses and the decoders -/

/-- A decoder's outcome as that of its accesses. -/
def accesses {α : Type} : Except Fault α → Option (Except String α)
  | .ok f => some (.ok f)
  | .error (.exception what) => some (.error what)
  | .error .outOfBounds => none

/-- The common checks, when the accesses after them do what the decoder does. -/
theorem checkedFrom_eq {α : Type} {name : String} {size : ℕ} {type : TCPFrameType} {data : Bytes}
    {read : TCPFrameType → ConnectionId → Option (Except String α)} {decoded : Except Fault α}
    (hsize : 17 ≤ size)
    (hread : size ≤ data.length → read (data.getD 0 0) (connectionIdAt data) = accesses decoded) :
    checkedFrom name size type data read = accesses (checked name size type data decoded) := by
  simp only [checkedFrom, checked]
  by_cases hshort : data.length < size
  · simp only [hshort, if_true, accesses]
  · have hzero : data[0]? = some (data.getD 0 0) := getElem?_eq_getD (by omega)
    have hid : connectionIdFrom data = some (connectionIdAt data) := if_pos (by omega)
    simp only [hshort, if_false, hzero, hid, Option.bind_eq_bind, Option.bind_some]
    split
    · rfl
    · exact hread (by omega)

section
variable (order : ByteOrder) (data : Bytes)

theorem TCPOpenFrame.deserializeFrom_eq :
    TCPOpenFrame.deserializeFrom order data = accesses (TCPOpenFrame.deserialize order data) := by
  refine checkedFrom_eq (by decide) fun hlen => ?_
  simp only [numberAt_eq (show 17 + 2 ≤ data.length from hlen)]
  rfl

theorem TCPCloseFrame.deserializeFrom_eq :
    TCPCloseFrame.deserializeFrom order data = accesses (TCPCloseFrame.deserialize order data) := by
  refine checkedFrom_eq (by decide) fun hlen => ?_
  simp only [numberAt_eq (show 17 + 2 ≤ data.length from hlen)]
  rfl

theorem TCPAckFrame.deserializeFrom_eq :
    TCPAckFrame.deserializeFrom order data = accesses (TCPAckFrame.deserialize order data) := by
  refine checkedFrom_eq (by decide) fun hlen => ?_
  have hack : numberAt data 17 4 = some (field 17 4 data) := numberAt_eq (by omega)
  have hwin : numberAt data 21 4 = some (field 21 4 data) := numberAt_eq (by omega)
  simp only [hack, hwin]
  rfl

theorem TCPErrorFrame.deserializeFrom_eq :
    TCPErrorFrame.deserializeFrom order data = accesses (TCPErrorFrame.deserialize order data) := by
  refine checkedFrom_eq (by decide) fun hlen => ?_
  have hcode : numberAt data 17 2 = some (field 17 2 data) := numberAt_eq (by omega)
  have hmsg : numberAt data 19 2 = some (field 19 2 data) := numberAt_eq (by omega)
  simp only [hcode, hmsg, Option.bind_eq_bind, Option.bind_some]
  by_cases hshort : data.length < 21 + (ntoh16 order (shifted16 19 data)).toNat
  · simp only [shifted16] at hshort
    simp only [shifted16, hshort, if_true]
    rfl
  · have hcopy := copyAt_eq (Nat.not_lt.mp hshort)
    simp only [shifted16] at hshort hcopy
    simp only [shifted16, hshort, if_false, hcopy]
    rfl

theorem TCPDataFrame.deserializeFrom_eq :
    TCPDataFrame.deserializeFrom order data = accesses (TCPDataFrame.deserialize order data) := by
  refine checkedFrom_eq (by decide) fun hlen => ?_
  have hseq : numberAt data 17 4 = some (field 17 4 data) := numberAt_eq (by omega)
  have hnum : numberAt data 21 4 = some (field 21 4 data) := numberAt_eq (by omega)
  simp only [hseq, hnum, Option.bind_eq_bind, Option.bind_some]
  change _ = accesses (if data.length < (25 + ntoh32 order (shifted32 21 data)).toNat then _ else _)
  by_cases hrefused : data.length < (25 + ntoh32 order (shifted32 21 data)).toNat
  · simp only [shifted32] at hrefused
    simp only [shifted32, hrefused, if_true]
    rfl
  · by_cases hshort : data.length < 25 + (ntoh32 order (shifted32 21 data)).toNat
    · have hcopy := copyAt_eq_none hshort
      simp only [shifted32] at hrefused hshort hcopy
      simp only [shifted32, hrefused, hshort, if_false, if_true, hcopy]
      rfl
    · have hcopy := copyAt_eq (Nat.not_lt.mp hshort)
      simp only [shifted32] at hrefused hshort hcopy
      simp only [shifted32, hrefused, hshort, if_false, hcopy]
      rfl

end

/-! ## Inside the buffer -/

/-- No access is outside the buffer, and the payload of a frame is a piece of it. -/
def InBounds {α : Type} (result : Option (Except String α)) (payload : α → Bytes) (data : Bytes) :
    Prop :=
  result ≠ none ∧ ∀ f, result = some (.ok f) → payload f <:+: data

/-- A decoder that checks `size` bytes and then makes a frame of them. -/
theorem inBounds_checked {α : Type} {name : String} {size : ℕ} {type : TCPFrameType} {data : Bytes}
    {read : Except Fault α} {payload : α → Bytes} (hread : read ≠ .error .outOfBounds)
    (hpayload : ∀ f, read = .ok f → payload f <:+: data) :
    InBounds (accesses (checked name size type data read)) payload data := by
  have hcases : checked name size type data read = read ∨
      ∃ what, checked name size type data read = .error (.exception what) := by
    simp only [checked]
    split
    · exact .inr ⟨_, rfl⟩
    · split
      · exact .inr ⟨_, rfl⟩
      · exact .inl rfl
  obtain hsame | ⟨what, hthrown⟩ := hcases
  · rw [hsame]
    cases read with
    | ok f =>
        refine ⟨by simp [accesses], fun g hg => ?_⟩
        have hfg : f = g := by simpa [accesses] using hg
        exact hpayload g (by rw [hfg])
    | error e =>
        cases e with
        | exception what => exact ⟨by simp [accesses], by simp [accesses]⟩
        | outOfBounds => exact absurd rfl hread
  · rw [hthrown]
    exact ⟨by simp [accesses], by simp [accesses]⟩

/-- A buffer whose announced length is so large that `25 + data_length` wraps, and which
does not hold so many bytes. -/
def Overruns (order : ByteOrder) (data : Bytes) : Prop :=
  25 ≤ data.length ∧ data.getD 0 0 = TCPFrameType.tcpData ∧
    2 ^ 32 - 25 ≤ (ntoh32 order (shifted32 21 data)).toNat ∧
      data.length < 25 + (ntoh32 order (shifted32 21 data)).toNat

instance (order : ByteOrder) (data : Bytes) : Decidable (Overruns order data) :=
  inferInstanceAs (Decidable (_ ∧ _))

/-- Only where the sum wraps is the length check of data frames not enough. -/
theorem TCPDataFrame.deserialize_eq_outOfBounds_iff (order : ByteOrder) (data : Bytes) :
    TCPDataFrame.deserialize order data = .error .outOfBounds ↔ Overruns order data := by
  have hsum : (25 + ntoh32 order (shifted32 21 data)).toNat =
      (25 + (ntoh32 order (shifted32 21 data)).toNat) % 2 ^ 32 := UInt32.toNat_add ..
  have hlt := (ntoh32 order (shifted32 21 data)).toNat_lt
  simp only [TCPDataFrame.deserialize, checked, hsum, Overruns]
  constructor
  · intro h
    split at h
    · cases h
    · split at h
      · cases h
      · split at h
        · cases h
        · split at h
          · rename_i hsize htype hpass hshort
            exact ⟨by omega, not_not.mp htype, by omega, hshort⟩
          · cases h
  · rintro ⟨hsize, htype, hlarge, hshort⟩
    have hpass : ¬ data.length < (25 + (ntoh32 order (shifted32 21 data)).toNat) % 2 ^ 32 := by
      omega
    rw [if_neg (by omega), if_neg (not_not_intro htype), if_neg hpass, if_pos hshort]

theorem TCPDataFrame.inBounds_iff (order : ByteOrder) (data : Bytes) :
    InBounds (TCPDataFrame.deserializeFrom order data) TCPDataFrame.data data ↔
      ¬ Overruns order data := by
  rw [TCPDataFrame.deserializeFrom_eq, ← TCPDataFrame.deserialize_eq_outOfBounds_iff]
  constructor
  · rintro ⟨hdone, _⟩ houtside
    rw [houtside] at hdone
    exact hdone rfl
  · intro hinside
    cases hresult : TCPDataFrame.deserialize order data with
    | error e =>
        cases e with
        | exception what => exact ⟨by simp [accesses], by simp [accesses]⟩
        | outOfBounds => exact absurd hresult hinside
    | ok f =>
        refine ⟨by simp [accesses], fun g hg => ?_⟩
        have hfg : f = g := by simpa [accesses] using hg
        subst hfg
        -- a frame comes only from the last branch, with a copied payload
        simp only [TCPDataFrame.deserialize, checked] at hresult
        split at hresult
        · cases hresult
        · split at hresult
          · cases hresult
          · split at hresult
            · cases hresult
            · split at hresult
              · cases hresult
              · rw [← Except.ok.inj hresult]
                exact take_drop_infix data 25 _

theorem TCPErrorFrame.inBounds (order : ByteOrder) (data : Bytes) :
    InBounds (TCPErrorFrame.deserializeFrom order data) TCPErrorFrame.message data := by
  rw [TCPErrorFrame.deserializeFrom_eq]
  refine inBounds_checked ?_ ?_
  · dsimp only
    split <;> simp
  · intro f hf
    dsimp only at hf
    split at hf
    · cases hf
    · rw [← Except.ok.inj hf]
      exact take_drop_infix data 21 _

/-- **When the decoders stay in their buffer**: four of them on every buffer, the one for
data frames unless its length check is defeated. -/
theorem deserialize_inBounds_iff (order : ByteOrder) (data : Bytes) :
    (InBounds (TCPOpenFrame.deserializeFrom order data) (fun _ => []) data ∧
      InBounds (TCPDataFrame.deserializeFrom order data) TCPDataFrame.data data ∧
      InBounds (TCPCloseFrame.deserializeFrom order data) (fun _ => []) data ∧
      InBounds (TCPErrorFrame.deserializeFrom order data) TCPErrorFrame.message data ∧
      InBounds (TCPAckFrame.deserializeFrom order data) (fun _ => []) data) ↔
        ¬ Overruns order data := by
  have hopen : InBounds (TCPOpenFrame.deserializeFrom order data) (fun _ => []) data := by
    rw [TCPOpenFrame.deserializeFrom_eq]
    exact inBounds_checked (by simp) fun _ _ => List.nil_infix
  have hclose : InBounds (TCPCloseFrame.deserializeFrom order data) (fun _ => []) data := by
    rw [TCPCloseFrame.deserializeFrom_eq]
    exact inBounds_checked (by simp) fun _ _ => List.nil_infix
  have hack : InBounds (TCPAckFrame.deserializeFrom order data) (fun _ => []) data := by
    rw [TCPAckFrame.deserializeFrom_eq]
    exact inBounds_checked (by simp) fun _ _ => List.nil_infix
  rw [← TCPDataFrame.inBounds_iff]
  constructor
  · rintro ⟨_, hdata, _⟩
    exact hdata
  · intro hdata
    exact ⟨hopen, hdata, hclose, TCPErrorFrame.inBounds order data, hack⟩

/-- A TCP_DATA header announcing 2³² - 1 bytes and nothing after it. -/
def overrun : Bytes := TcpFrame.header 0x11 (Vector.replicate 16 0) ++
  [0, 0, 0, 0, 0xff, 0xff, 0xff, 0xff]

/-- The decoder copies from behind these 25 bytes on hosts of both orders. -/
theorem not_deserialize_inBounds :
    (∀ order, TCPDataFrame.deserializeFrom order overrun = none) ∧
    ¬ ∀ (order : ByteOrder) (data : Bytes),
      InBounds (TCPOpenFrame.deserializeFrom order data) (fun _ => []) data ∧
      InBounds (TCPDataFrame.deserializeFrom order data) TCPDataFrame.data data ∧
      InBounds (TCPCloseFrame.deserializeFrom order data) (fun _ => []) data ∧
      InBounds (TCPErrorFrame.deserializeFrom order data) TCPErrorFrame.message data ∧
      InBounds (TCPAckFrame.deserializeFrom order data) (fun _ => []) data := by
  have houtside : ∀ order, TCPDataFrame.deserializeFrom order overrun = none := by
    intro order
    cases order <;> decide +kernel
  refine ⟨houtside, ?_⟩
  intro hall
  exact (hall .little overrun).2.1.1 (houtside .little)

end Protogate.TcpProtocol
