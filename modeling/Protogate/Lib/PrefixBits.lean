import Mathlib.Data.List.Basic

/-!
# Bit prefixes of byte strings

Two byte strings agree in their first `n` bits exactly when their first `n / 8` bytes are
the same and so are the `n % 8` high bits of the next.  This is how programs compare
network addresses; they also clear the bits behind the prefix.

## Main definitions

* `byteBits`, `bits` — the bits of a byte and of a byte string, the highest first.
* `highMask r` — the byte whose `r` high bits are set.
* `clearFrom n`, `agreeUpTo n` — clearing, and comparing, byte by byte.
* `mask_eq_iff`, `agreeUpTo_iff` — the comparison is equality of the first bits.
-/

namespace Protogate.Lib

/-! ## Bytes -/

/-- The bits of a byte, the highest first. -/
def byteBits (b : UInt8) : List Bool := [7, 6, 5, 4, 3, 2, 1, 0].map b.toNat.testBit

/-- `0xFF << (8 - r)`, an `int` that is stored in a byte. -/
def highMask (r : ℕ) : UInt8 := UInt8.ofNat (0xFF <<< (8 - r))

@[simp] theorem length_byteBits (b : UInt8) : (byteBits b).length = 8 := rfl

theorem byteBits_inj {a b : UInt8} : byteBits a = byteBits b ↔ a = b := by
  constructor
  · intro h
    have hlow : ∀ i ∈ [7, 6, 5, 4, 3, 2, 1, 0], a.toNat.testBit i = b.toNat.testBit i :=
      List.map_inj_left.mp h
    apply UInt8.toNat_inj.mp
    apply Nat.eq_of_testBit_eq
    intro i
    by_cases hi : i < 8
    · apply hlow
      simp only [List.mem_cons, List.not_mem_nil, or_false]
      omega
    · have hpow : 2 ^ 8 ≤ 2 ^ i := Nat.pow_le_pow_right (by decide) (Nat.not_lt.mp hi)
      rw [Nat.testBit_lt_two_pow (Nat.lt_of_lt_of_le a.toNat_lt hpow),
        Nat.testBit_lt_two_pow (Nat.lt_of_lt_of_le b.toNat_lt hpow)]
  · exact congrArg byteBits

theorem byteBits_and (a b : UInt8) : byteBits (a &&& b) = List.zipWith and (byteBits a) (byteBits b) := by
  simp only [byteBits, UInt8.toNat_and, Nat.testBit_and, List.map_cons, List.map_nil,
    List.zipWith_cons_cons, List.zipWith_nil_right]

theorem byteBits_highMask : ∀ r : Fin 8,
    byteBits (highMask r) = List.replicate r true ++ List.replicate (8 - r) false := by
  decide

theorem zipWith_and_true (xs : List Bool) :
    List.zipWith and xs (List.replicate xs.length true) = xs := by
  induction xs with
  | nil => rfl
  | cons x xs ih =>
      rw [List.length_cons, List.replicate_succ, List.zipWith_cons_cons, ih, Bool.and_true]

theorem zipWith_and_false (xs : List Bool) :
    List.zipWith and xs (List.replicate xs.length false) = List.replicate xs.length false := by
  induction xs with
  | nil => rfl
  | cons x xs ih =>
      rw [List.length_cons, List.replicate_succ, List.zipWith_cons_cons, ih, Bool.and_false]

/-- A mask keeps the first bits and clears the others. -/
theorem zipWith_and_mask {xs : List Bool} {r k : ℕ} (h : xs.length = r + k) :
    List.zipWith and xs (List.replicate r true ++ List.replicate k false) =
      xs.take r ++ List.replicate k false := by
  have htake : (xs.take r).length = r := by
    rw [List.length_take]
    omega
  have hdrop : (xs.drop r).length = k := by
    rw [List.length_drop]
    omega
  have htrue := zipWith_and_true (xs.take r)
  have hfalse := zipWith_and_false (xs.drop r)
  rw [htake] at htrue
  rw [hdrop] at hfalse
  calc List.zipWith and xs (List.replicate r true ++ List.replicate k false)
      = List.zipWith and (xs.take r ++ xs.drop r)
          (List.replicate r true ++ List.replicate k false) := by rw [List.take_append_drop]
    _ = List.zipWith and (xs.take r) (List.replicate r true) ++
          List.zipWith and (xs.drop r) (List.replicate k false) :=
        List.zipWith_append (by rw [htake, List.length_replicate])
    _ = xs.take r ++ List.replicate k false := by rw [htrue, hfalse]

/-- Two masked bytes are the same when the high bits are. -/
theorem mask_eq_iff {r : ℕ} (hr : r < 8) (a b : UInt8) :
    a &&& highMask r = b &&& highMask r ↔ (byteBits a).take r = (byteBits b).take r := by
  have hmask := byteBits_highMask ⟨r, hr⟩
  have hand : ∀ c : UInt8, byteBits (c &&& highMask r) =
      (byteBits c).take r ++ List.replicate (8 - r) false := by
    intro c
    rw [byteBits_and, hmask]
    apply zipWith_and_mask
    rw [length_byteBits]
    omega
  rw [← byteBits_inj, hand, hand]
  exact List.append_left_inj _

/-! ## Byte strings -/

/-- The bits of a byte string, in order. -/
def bits (bs : List UInt8) : List Bool := bs.flatMap byteBits

/-- Zero the bits from the `n`-th on. -/
def clearFrom (n : ℕ) (bs : List UInt8) : List UInt8 :=
  bs.mapIdx fun i b =>
    if i < n / 8 then b else if i = n / 8 ∧ 0 < n % 8 then b &&& highMask (n % 8) else 0

/-- Compare the first `n` bits: the full bytes, and the masked next one if there is a rest. -/
def agreeUpTo (n : ℕ) (as bs : List UInt8) : Bool :=
  as.take (n / 8) == bs.take (n / 8) &&
    (n % 8 == 0 || as.length ≤ n / 8 ||
      as.getD (n / 8) 0 &&& highMask (n % 8) == bs.getD (n / 8) 0 &&& highMask (n % 8))

theorem length_bits (bs : List UInt8) : (bits bs).length = 8 * bs.length := by
  induction bs with
  | nil => rfl
  | cons b bs ih =>
      rw [bits, List.flatMap_cons, ← bits, List.length_append, ih, length_byteBits, List.length_cons]
      omega

theorem bits_inj {as bs : List UInt8} : bits as = bits bs ↔ as = bs := by
  constructor
  · intro h
    induction as generalizing bs with
    | nil =>
        have hlength := congrArg List.length h
        rw [length_bits, length_bits] at hlength
        rw [List.length_nil] at hlength
        exact (List.length_eq_zero_iff.mp (by omega)).symm
    | cons a as ih =>
        cases bs with
        | nil => cases h
        | cons b bs =>
            obtain ⟨hhead, htail⟩ := List.append_inj h rfl
            rw [byteBits_inj.mp hhead, ih htail]
  · exact congrArg bits

/-- The first `n` bits: those of the full bytes, and the high bits of the next one. -/
theorem take_bits {n : ℕ} {bs : List UInt8} (h : n ≤ 8 * bs.length) :
    (bits bs).take n = bits (bs.take (n / 8)) ++ (byteBits (bs.getD (n / 8) 0)).take (n % 8) := by
  induction bs generalizing n with
  | nil =>
      have hn : n = 0 := by simpa using h
      subst hn
      rfl
  | cons b bs ih =>
      have hcons : ∀ xs, bits (b :: xs) = byteBits b ++ bits xs := fun _ => List.flatMap_cons
      rw [hcons]
      by_cases hn : n < 8
      · have hdiv : n / 8 = 0 := by omega
        have hmod : n % 8 = n := by omega
        rw [hdiv, hmod, List.take_append_of_le_length (by rw [length_byteBits]; omega)]
        rfl
      · obtain ⟨m, rfl⟩ : ∃ m, n = 8 + m := ⟨n - 8, by omega⟩
        have hdiv : (8 + m) / 8 = m / 8 + 1 := by omega
        have hmod : (8 + m) % 8 = m % 8 := by omega
        rw [List.length_cons] at h
        rw [hdiv, hmod, List.take_succ_cons, List.getD_cons_succ, hcons, List.append_assoc,
          ← ih (by omega)]
        show ((byteBits b ++ bits bs).take ((byteBits b).length + m)) = _
        exact List.take_length_add_append m

/-- Clearing leaves the full bytes. -/
theorem take_clearFrom (n : ℕ) (bs : List UInt8) :
    (clearFrom n bs).take (n / 8) = bs.take (n / 8) := by
  apply List.ext_getElem?
  intro i
  by_cases hi : i < n / 8
  · rw [List.getElem?_take_of_lt hi, List.getElem?_take_of_lt hi, clearFrom, List.getElem?_mapIdx]
    simp [hi]
  · rw [List.getElem?_take_eq_none (Nat.not_lt.mp hi), List.getElem?_take_eq_none (Nat.not_lt.mp hi)]

/-- It leaves the high bits of the next byte. -/
theorem getD_clearFrom {n : ℕ} (h : 0 < n % 8) (bs : List UInt8) :
    (clearFrom n bs).getD (n / 8) 0 &&& highMask (n % 8) =
      bs.getD (n / 8) 0 &&& highMask (n % 8) := by
  rw [List.getD_eq_getElem?_getD, List.getD_eq_getElem?_getD, clearFrom, List.getElem?_mapIdx]
  cases bs[n / 8]? with
  | none => rfl
  | some b =>
      simp only [Option.map_some, Option.getD_some, Nat.lt_irrefl, if_false, h, and_self, if_true]
      rw [UInt8.and_assoc, UInt8.and_self]

@[simp] theorem length_clearFrom (n : ℕ) (bs : List UInt8) : (clearFrom n bs).length = bs.length := by
  rw [clearFrom, List.length_mapIdx]

/-- What has been cleared stays the same. -/
theorem clearFrom_clearFrom (n : ℕ) (bs : List UInt8) :
    clearFrom n (clearFrom n bs) = clearFrom n bs := by
  apply List.ext_getElem?
  intro i
  rw [clearFrom, List.getElem?_mapIdx]
  cases hi : (clearFrom n bs)[i]? with
  | none => rfl
  | some b =>
      rw [clearFrom, List.getElem?_mapIdx, Option.map_eq_some_iff] at hi
      obtain ⟨a, _, rfl⟩ := hi
      rw [Option.map_some]
      by_cases hfull : i < n / 8
      · simp [hfull]
      · by_cases hnext : i = n / 8 ∧ 0 < n % 8
        · rw [if_neg hfull, if_pos hnext, if_neg hfull, if_pos hnext, UInt8.and_assoc, UInt8.and_self]
        · rw [if_neg hfull, if_neg hnext, if_neg hfull, if_neg hnext]

/-- **Comparing with a cleared string compares the first `n` bits.** -/
theorem agreeUpTo_iff {n : ℕ} {as bs : List UInt8} (hlength : as.length = bs.length)
    (hn : n ≤ 8 * as.length) :
    agreeUpTo n as (clearFrom n bs) = true ↔ (bits as).take n = (bits bs).take n := by
  have hsplit : (bits as).take n = (bits bs).take n ↔ as.take (n / 8) = bs.take (n / 8) ∧
      (byteBits (as.getD (n / 8) 0)).take (n % 8) = (byteBits (bs.getD (n / 8) 0)).take (n % 8) := by
    rw [take_bits hn, take_bits (hlength ▸ hn)]
    constructor
    · intro h
      have hlengths : (bits (as.take (n / 8))).length = (bits (bs.take (n / 8))).length := by
        rw [length_bits, length_bits, List.length_take, List.length_take, hlength]
      obtain ⟨hfull, hrest⟩ := List.append_inj h hlengths
      exact ⟨bits_inj.mp hfull, hrest⟩
    · rintro ⟨hfull, hrest⟩
      rw [hfull, hrest]
  rw [hsplit, agreeUpTo, take_clearFrom, Bool.and_eq_true, beq_iff_eq]
  apply and_congr_right
  intro _
  by_cases hrest : n % 8 = 0
  · simp [hrest]
  · have hlt : n / 8 < as.length := by omega
    have hpos : 0 < n % 8 := Nat.pos_of_ne_zero hrest
    have hfalse : (n % 8 == 0 || decide (as.length ≤ n / 8)) = false := by
      simp [hrest, Nat.not_le.mpr hlt]
    rw [hfalse, Bool.false_or, beq_iff_eq, getD_clearFrom hpos]
    exact mask_eq_iff (Nat.mod_lt n (by decide)) _ _

end Protogate.Lib
