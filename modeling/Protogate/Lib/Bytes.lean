import Mathlib.Data.List.Induction
import Mathlib.Tactic.Ring

/-!
# Byte strings and big-endian numbers

Numbers of a fixed width in network byte order, and reading them back from a
position inside a buffer.

## Main definitions

* `be w n` — the `w` bytes of `n`, most significant first.
* `ofBe` — the number a byte string denotes.
* `field off w data` — the number in bytes `off … off + w - 1` of a buffer.
* `field_append` — reading a field of a buffer put together from its parts.
* `ofBe_be`, `be_ofBe`, `be_field` — bytes of a number and number of the bytes.
-/

namespace Protogate.Lib

/-- A byte string. -/
abbrev Bytes := List UInt8

/-- The low `w` bytes of `n`, most significant first. -/
def be : ℕ → ℕ → Bytes
  | 0, _ => []
  | w + 1, n => be w (n / 256) ++ [UInt8.ofNat n]

/-- The number denoted by a byte string, most significant byte first. -/
def ofBe (data : Bytes) : ℕ := data.foldl (fun n b => n * 256 + b.toNat) 0

@[simp] theorem length_be (w n : ℕ) : (be w n).length = w := by
  induction w generalizing n with
  | zero => rfl
  | succ w ih => simp [be, ih]

theorem ofBe_concat (data : Bytes) (b : UInt8) : ofBe (data ++ [b]) = ofBe data * 256 + b.toNat := by
  simp [ofBe]

/-- Encoding keeps the number modulo the width. -/
theorem ofBe_be (w n : ℕ) : ofBe (be w n) = n % 256 ^ w := by
  induction w generalizing n with
  | zero => simp [be, ofBe, Nat.mod_one]
  | succ w ih =>
      have hbyte : (UInt8.ofNat n).toNat = n % 256 := by simp
      have hsplit : n % 256 ^ (w + 1) = n % 256 + 256 * (n / 256 % 256 ^ w) := by
        rw [pow_succ, mul_comm, Nat.mod_mul]
      rw [be, ofBe_concat, ih, hbyte, hsplit]
      omega

theorem ofBe_be_of_lt {w n : ℕ} (h : n < 256 ^ w) : ofBe (be w n) = n := by
  rw [ofBe_be, Nat.mod_eq_of_lt h]

theorem ofBe_lt (data : Bytes) : ofBe data < 256 ^ data.length := by
  induction data using List.reverseRecOn with
  | nil => simp [ofBe]
  | append_singleton data b ih =>
      have hb := b.toNat_lt
      rw [ofBe_concat, List.length_append, List.length_singleton, pow_succ]
      omega

/-- A byte string is the encoding of the number it denotes. -/
theorem be_ofBe (data : Bytes) : be data.length (ofBe data) = data := by
  induction data using List.reverseRecOn with
  | nil => rfl
  | append_singleton data b ih =>
      have hb := b.toNat_lt
      have hdiv : (ofBe data * 256 + b.toNat) / 256 = ofBe data := by omega
      have hmod : UInt8.ofNat (ofBe data * 256 + b.toNat) = b := by
        apply UInt8.toNat_inj.mp
        rw [UInt8.toNat_ofNat']
        omega
      rw [ofBe_concat, List.length_append, List.length_singleton, be, hdiv, hmod, ih]

/-- The number in `w` bytes of a buffer from offset `off`. -/
def field (off w : ℕ) (data : Bytes) : ℕ := ofBe ((data.drop off).take w)

theorem field_append {off w : ℕ} {before number : Bytes} (rest : Bytes)
    (hoff : before.length = off) (hw : number.length = w) :
    field off w (before ++ (number ++ rest)) = ofBe number := by
  rw [field, List.drop_left' hoff, List.take_left' hw]

/-- The bytes of a field that lies inside the buffer. -/
theorem be_field {off w : ℕ} {data : Bytes} (h : off + w ≤ data.length) :
    be w (field off w data) = (data.drop off).take w := by
  have hlen : ((data.drop off).take w).length = w := by
    rw [List.length_take, List.length_drop]
    omega
  have hbytes := be_ofBe ((data.drop off).take w)
  rwa [hlen] at hbytes

/-- A field within the first `n` bytes. -/
theorem field_take {off w n : ℕ} (h : off + w ≤ n) (data : Bytes) :
    field off w (data.take n) = field off w data := by
  rw [field, field, List.drop_take, List.take_take, Nat.min_eq_left (by omega)]

theorem field_drop (off w n : ℕ) (data : Bytes) :
    field off w (data.drop n) = field (n + off) w data := by
  rw [field, field, List.drop_drop]

theorem field_lt (off w : ℕ) (data : Bytes) : field off w data < 256 ^ w :=
  Nat.lt_of_lt_of_le (ofBe_lt _) (Nat.pow_le_pow_right (by decide) (List.length_take_le w _))

/-- A buffer from `off` on is a stretch of `n` bytes and what follows it. -/
theorem take_drop_append (off n : ℕ) (data : Bytes) :
    (data.drop off).take n ++ data.drop (off + n) = data.drop off := by
  rw [← List.drop_drop, List.take_append_drop]

end Protogate.Lib
