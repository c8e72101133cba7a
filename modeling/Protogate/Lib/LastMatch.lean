import Protogate.Lib.Assoc
import Mathlib.Data.List.Perm.Basic
import Mathlib.Data.List.Induction

/-!
# The last match of a scan

A loop that overwrites its result at every match keeps the last one.  Over a
container with no fixed order the result depends on the order as soon as two
elements match, so the lemmas come in two kinds: whether anything is found does
not depend on the order, and any matching element is the result of some order.

## Main definitions

* `lastMatch p xs` — the loop.
* `lastMatch_isSome_iff` — something is found exactly when something matches.
* `exists_perm_lastMatch` — each matching element is found in some order.
* `lookup_foldl_insert` — a map filled by a loop.
* `find?_of_unique` — a loop that stops at its first match, where no other
  element matches.
* `Exclusive`, `findSome?_of_exclusive_perm` — the same for a loop that computes its result.
-/

namespace Protogate.Lib

universe u
variable {α : Type u} {p : α → Bool}

/-- Scan `xs`, remembering the element at each match. -/
def lastMatch (p : α → Bool) (xs : List α) : Option α :=
  xs.foldl (fun found x => if p x then some x else found) none

theorem lastMatch_concat (p : α → Bool) (xs : List α) (x : α) :
    lastMatch p (xs ++ [x]) = if p x then some x else lastMatch p xs := by
  simp [lastMatch, List.foldl_append]

/-- What is found was scanned and matches. -/
theorem mem_of_lastMatch {xs : List α} {x : α} (h : lastMatch p xs = some x) :
    x ∈ xs ∧ p x = true := by
  induction xs using List.reverseRecOn with
  | nil => simp [lastMatch] at h
  | append_singleton xs y ih =>
      rw [lastMatch_concat] at h
      split at h
      · obtain rfl := Option.some.inj h
        exact ⟨by simp, ‹_›⟩
      · obtain ⟨hmem, hp⟩ := ih h
        exact ⟨by simp [hmem], hp⟩

theorem lastMatch_eq_none_iff {xs : List α} :
    lastMatch p xs = none ↔ ∀ x ∈ xs, p x = false := by
  induction xs using List.reverseRecOn with
  | nil => simp [lastMatch]
  | append_singleton xs y ih =>
      rw [lastMatch_concat]
      cases hy : p y
      · simp only [Bool.false_eq_true, if_false, ih, List.mem_append, List.mem_singleton]
        constructor
        · rintro h x (hx | rfl)
          · exact h x hx
          · exact hy
        · exact fun h x hx => h x (.inl hx)
      · simp [hy]

theorem lastMatch_isSome_iff {xs : List α} :
    (lastMatch p xs).isSome ↔ ∃ x ∈ xs, p x = true := by
  rw [← not_iff_not]
  simp [lastMatch_eq_none_iff]

theorem lastMatch_congr {q : α → Bool} {xs : List α} (h : ∀ x ∈ xs, p x = q x) :
    lastMatch p xs = lastMatch q xs := by
  induction xs using List.reverseRecOn with
  | nil => rfl
  | append_singleton xs y ih =>
      rw [lastMatch_concat, lastMatch_concat, h y (by simp), ih fun x hx => h x (by simp [hx])]

/-- The last match is the last of a smaller set that it belongs to. -/
theorem lastMatch_of_imp {q : α → Bool} {xs : List α} {x : α} (hlast : lastMatch p xs = some x)
    (hx : q x = true) (himp : ∀ y, q y = true → p y = true) : lastMatch q xs = some x := by
  induction xs using List.reverseRecOn with
  | nil => simp [lastMatch] at hlast
  | append_singleton xs y ih =>
      rw [lastMatch_concat] at hlast ⊢
      by_cases hp : p y = true
      · rw [if_pos hp] at hlast
        obtain rfl := Option.some.inj hlast
        rw [if_pos hx]
      · rw [if_neg hp] at hlast
        rw [if_neg (mt (himp y) hp), ih hlast]

/-- Any matching element comes last in some order of the scan. -/
theorem exists_perm_lastMatch {xs : List α} {x : α} (hx : x ∈ xs) (hp : p x = true) :
    ∃ ys, ys.Perm xs ∧ lastMatch p ys = some x := by
  obtain ⟨as, bs, rfl⟩ := List.append_of_mem hx
  refine ⟨(as ++ bs) ++ [x], ?_, by rw [lastMatch_concat, if_pos hp]⟩
  rw [List.append_assoc]
  exact List.Perm.append_left as (List.perm_append_singleton x bs)

/-- A map filled by a loop holds the last value of each key. -/
theorem lookup_foldl_insert {K : Type u} {V : Type u} [DecidableEq K] (f : α → K) (g : α → V)
    (xs : List α) (k : K) :
    (xs.foldl (fun m x => AList.insert (f x) (g x) m) (∅ : Assoc K V)).lookup k =
      (lastMatch (fun x => decide (f x = k)) xs).map g := by
  induction xs using List.reverseRecOn with
  | nil => rfl
  | append_singleton xs x ih =>
      rw [List.foldl_append, lastMatch_concat, List.foldl_cons, List.foldl_nil,
        Assoc.lookup_insert_ite, ih]
      by_cases hk : f x = k
      · simp [hk]
      · simp [hk, Ne.symm hk]

/-! ## The first match -/

/-- The only matching element is found in every order. -/
theorem find?_of_unique {xs : List α} {x : α} (hmem : x ∈ xs) (hx : p x = true)
    (hunique : ∀ y ∈ xs, p y = true → y = x) : xs.find? p = some x := by
  cases hfound : xs.find? p with
  | none =>
      have hnone := List.find?_eq_none.mp hfound x hmem
      exact absurd hx hnone
  | some y => rw [hunique y (List.mem_of_find?_eq_some hfound) (List.find?_some hfound)]

/-! ## The first result -/

section
variable {β : Type u} {f : α → Option β}

/-- No two elements of the list give a result. -/
def Exclusive (f : α → Option β) (xs : List α) : Prop :=
  xs.Pairwise fun x y => ¬ ((f x).isSome ∧ (f y).isSome)

/-- The only result is found. -/
theorem findSome?_of_exclusive {xs : List α} (hexclusive : Exclusive f xs) {x : α} (hmem : x ∈ xs)
    {b : β} (hx : f x = some b) : xs.findSome? f = some b := by
  induction xs with
  | nil => cases hmem
  | cons y xs ih =>
      obtain ⟨hhead, htail⟩ := List.pairwise_cons.mp hexclusive
      obtain rfl | hmem := List.mem_cons.mp hmem
      · rw [List.findSome?_cons, hx]
      · cases hy : f y with
        | none => rw [List.findSome?_cons, hy, ih htail hmem]
        | some c => exact absurd ⟨by rw [hy]; rfl, by rw [hx]; rfl⟩ (hhead x hmem)

/-- Where at most one element gives a result, the order does not matter. -/
theorem findSome?_of_exclusive_perm {xs ys : List α} (hexclusive : Exclusive f xs)
    (hperm : ys.Perm xs) : ys.findSome? f = xs.findSome? f := by
  cases hfound : ys.findSome? f with
  | none =>
      rw [List.findSome?_eq_none_iff] at hfound
      exact (List.findSome?_eq_none_iff.mpr fun x hx => hfound x (hperm.mem_iff.mpr hx)).symm
  | some b =>
      obtain ⟨x, hmem, hx⟩ := List.exists_of_findSome?_eq_some hfound
      exact (findSome?_of_exclusive hexclusive (hperm.mem_iff.mp hmem) hx).symm

end

end Protogate.Lib
