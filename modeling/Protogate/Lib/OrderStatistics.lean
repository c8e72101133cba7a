import Mathlib.Algebra.Order.BigOperators.Group.List
import Mathlib.Algebra.Order.Field.Basic
import Mathlib.Data.List.DropRight
import Mathlib.Data.List.Sort

/-!
# Order statistics of the last samples

The element at index `i` of a sorted list has at most `i` elements strictly below it
and more than `i` elements at most it, however many elements are equal.  A
percentile read at `n * p / 100` therefore has the ranks its name promises.

A list that is appended to and then cut back to its last `n` elements holds the
last `n` of everything that was ever appended.

## Main definitions

* `rtake_append_rtake` — appending and trimming.
* `countP_lt_getElem_le`, `lt_countP_le_getElem` — the ranks of an element of a sorted list.
* `IsPercentile` — the ranks of a percentile; `isPercentile_getElem` — where to read it.
* `le_mean`, `mean_le` — bounds on the elements bound their mean.
-/

namespace Protogate.Lib

universe u
variable {α : Type u}

/-! ## The last elements -/

/-- What was trimmed away before does not matter for the last `n` elements. -/
theorem rtake_append_rtake (n : ℕ) (l m : List α) : (l.rtake n ++ m).rtake n = (l ++ m).rtake n := by
  simp only [List.rtake, List.length_append, List.length_drop, List.drop_append, List.drop_drop]
  congr 2 <;> omega

/-! ## Ranks -/

section Rank
variable [LinearOrder α] {l : List α}

/-- Elements strictly below the one at `i` stand before it. -/
theorem countP_lt_getElem_le (hl : l.SortedLE) {i : ℕ} (hi : i < l.length) :
    l.countP (· < l[i]) ≤ i := by
  have hfrom : (l.drop i).countP (· < l[i]) = 0 := by
    rw [List.countP_eq_zero]
    intro x hx
    obtain ⟨j, hj, rfl⟩ := List.getElem_of_mem hx
    rw [List.length_drop] at hj
    have hle : l[i] ≤ l[i + j] := hl.getElem_le_getElem_of_le (Nat.le_add_right i j)
    simpa using hle
  calc l.countP (· < l[i]) = (l.take i).countP (· < l[i]) + (l.drop i).countP (· < l[i]) := by
        rw [← List.countP_append, List.take_append_drop]
    _ ≤ (l.take i).length := by
        rw [hfrom, Nat.add_zero]
        exact List.countP_le_length
    _ ≤ i := List.length_take_le i l

/-- The one at `i` and all before it are at most it. -/
theorem lt_countP_le_getElem (hl : l.SortedLE) {i : ℕ} (hi : i < l.length) :
    i < l.countP (· ≤ l[i]) := by
  have hupto : (l.take (i + 1)).countP (· ≤ l[i]) = (l.take (i + 1)).length := by
    rw [List.countP_eq_length]
    intro x hx
    obtain ⟨j, hj, rfl⟩ := List.getElem_of_mem hx
    rw [List.length_take] at hj
    have hle : l[j] ≤ l[i] := hl.getElem_le_getElem_of_le (by omega)
    simpa using hle
  have hlen : (l.take (i + 1)).length = i + 1 := by
    rw [List.length_take]
    omega
  have hle : (l.take (i + 1)).countP (· ≤ l[i]) ≤ l.countP (· ≤ l[i]) :=
    (List.take_sublist (i + 1) l).countP_le
  omega

/-- `x` is the `p`-th percentile of `l`: one of its elements, with at most `p` percent
strictly below it and more than `p` percent at most it. -/
structure IsPercentile (p : ℕ) (l : List α) (x : α) : Prop where
  mem : x ∈ l
  below : 100 * l.countP (· < x) ≤ p * l.length
  upTo : p * l.length < 100 * l.countP (· ≤ x)

theorem IsPercentile.perm {p : ℕ} {l' : List α} {x : α} (H : IsPercentile p l x)
    (h : l.Perm l') : IsPercentile p l' x where
  mem := h.mem_iff.mp H.mem
  below := by
    rw [← h.countP_eq, ← h.length_eq]
    exact H.below
  upTo := by
    rw [← h.countP_eq, ← h.length_eq]
    exact H.upTo

/-- The index of a percentile is in bounds. -/
theorem percentile_index_lt {n p : ℕ} (hn : 0 < n) (hp : p < 100) : n * p / 100 < n := by
  rw [Nat.div_lt_iff_lt_mul (by omega)]
  exact Nat.mul_lt_mul_of_pos_left hp hn

/-- Where a percentile stands in a sorted list. -/
theorem isPercentile_getElem (hl : l.SortedLE) (p : ℕ) (hi : l.length * p / 100 < l.length) :
    IsPercentile p l l[l.length * p / 100] where
  mem := List.getElem_mem hi
  below := by
    have hrank := countP_lt_getElem_le hl hi
    have hdiv := Nat.div_mul_le_self (l.length * p) 100
    rw [Nat.mul_comm p]
    omega
  upTo := by
    have hrank := lt_countP_le_getElem hl hi
    rw [Nat.mul_comm p]
    omega

/-- Every element of a sorted list is at most the last. -/
theorem le_getLast (hl : l.SortedLE) (hne : l ≠ []) {x : α} (hx : x ∈ l) : x ≤ l.getLast hne := by
  obtain ⟨i, hi, rfl⟩ := List.getElem_of_mem hx
  rw [List.getLast_eq_getElem]
  exact hl.getElem_le_getElem_of_le (by omega)

end Rank

/-! ## The mean -/

section Mean
variable [Field α] [LinearOrder α] [IsStrictOrderedRing α] {l : List α} {a : α}

theorem le_mean (hne : l ≠ []) (h : ∀ x ∈ l, a ≤ x) : a ≤ l.sum / l.length := by
  have hpos : (0 : α) < l.length := by exact_mod_cast List.length_pos_iff.mpr hne
  rw [le_div_iff₀ hpos, mul_comm, ← nsmul_eq_mul]
  exact List.card_nsmul_le_sum l a h

theorem mean_le (hne : l ≠ []) (h : ∀ x ∈ l, x ≤ a) : l.sum / l.length ≤ a := by
  have hpos : (0 : α) < l.length := by exact_mod_cast List.length_pos_iff.mpr hne
  rw [div_le_iff₀ hpos, mul_comm, ← nsmul_eq_mul]
  exact List.sum_le_card_nsmul l a h

end Mean
end Protogate.Lib
