import Protogate.Lib.Bytes

/-!
# Accesses to a buffer

A function that reads a buffer byte by byte fails at the first access outside it.
Inside, the accesses give the fields and stretches of the buffer.

## Main definitions

* `numberAt`, `copyAt` — a number read byte by byte, and a copied stretch; `none`
  where a byte outside the buffer is read.
* `numberAt_eq`, `copyAt_eq` — what they give inside.
-/

namespace Protogate.Lib

/-- The number in the `w` bytes from `off`, most significant first, one access for each. -/
def numberAt (data : Bytes) (off : ℕ) : ℕ → Option ℕ
  | 0 => some 0
  | w + 1 => do
      let n ← numberAt data off w
      let b ← data[off + w]?
      return n * 256 + b.toNat

/-- A copy of `n` bytes from `off`. -/
def copyAt (data : Bytes) (off n : ℕ) : Option Bytes :=
  if off + n ≤ data.length then some ((data.drop off).take n) else none

theorem numberAt_eq {data : Bytes} {off w : ℕ} (h : off + w ≤ data.length) :
    numberAt data off w = some (field off w data) := by
  induction w with
  | zero => simp [numberAt, field, ofBe]
  | succ w ih =>
      have hlt : off + w < data.length := by omega
      have hsplit : (data.drop off).take (w + 1) = (data.drop off).take w ++ [data[off + w]] := by
        rw [List.take_add_one, List.getElem?_drop, List.getElem?_eq_getElem hlt, Option.toList_some]
      rw [numberAt, ih (by omega), List.getElem?_eq_getElem hlt, field, field, hsplit, ofBe_concat]
      rfl

theorem copyAt_eq {data : Bytes} {off n : ℕ} (h : off + n ≤ data.length) :
    copyAt data off n = some ((data.drop off).take n) := if_pos h

theorem copyAt_eq_none {data : Bytes} {off n : ℕ} (h : data.length < off + n) :
    copyAt data off n = none := if_neg (Nat.not_le.mpr h)

/-- A copied stretch is a piece of the buffer. -/
theorem take_drop_infix (data : Bytes) (off n : ℕ) : (data.drop off).take n <:+: data :=
  (List.take_prefix n _).isInfix.trans (List.drop_suffix off data).isInfix

/-- The first byte. -/
theorem getElem?_zero_eq_headD {data : Bytes} (h : 0 < data.length) :
    data[0]? = some (data.headD 0) := by
  cases data with
  | nil => cases h
  | cons b rest => rfl

/-- The access `data[i]`. -/
theorem getElem?_eq_getD {data : Bytes} {i : ℕ} (h : i < data.length) : data[i]? = some (data.getD i 0) := by
  simp [List.getElem?_eq_getElem h]

end Protogate.Lib
