import Mathlib.Data.List.Flatten
import Mathlib.Data.List.Nodup

/-!
# Writes that share a stream

Several writes are under way on one stream.  Each puts its own items out in order, some
at a time, and nothing orders the writes among each other.  What is out and what the
writes still have, one write after the other, is the content of the stream exactly as
long as no write overtakes an earlier one.

## Main definitions

* `Writes` — what each write still has to put out, and what is out.
* `Writes.start`, `Writes.put` — a write begins; a write puts items out.
* `Writes.InOrder` — no earlier write has items left.
* `total_put`, `inOrder_of_prefix` — the content is kept exactly then.
* `perm_put` — no item is lost or made in any case.
-/

namespace Protogate.Lib

open scoped List

universe u

/-- The items each write still has to put out, oldest write first, and those that are out. -/
structure Writes (α : Type u) where
  remaining : List (List α)
  out : List α
  deriving DecidableEq

namespace Writes
variable {α : Type u}

def empty : Writes α := ⟨[], []⟩

def start (w : Writes α) (items : List α) : Writes α :=
  { w with remaining := w.remaining ++ [items] }

/-- The `i`-th write puts its next `n` items out, or all it has. -/
def put (w : Writes α) (i n : ℕ) : Writes α where
  remaining := w.remaining.set i ((w.remaining.getD i []).drop n)
  out := w.out ++ (w.remaining.getD i []).take n

/-- What is out followed by what remains, in the order of the writes. -/
def total (w : Writes α) : List α := w.out ++ w.remaining.flatten

/-- Nothing is put out, or no earlier write has items left. -/
def InOrder (w : Writes α) (i n : ℕ) : Prop :=
  (w.remaining.getD i []).take n = [] ∨ ∀ items ∈ w.remaining.take i, items = []

instance [DecidableEq α] (w : Writes α) (i n : ℕ) : Decidable (w.InOrder i n) :=
  inferInstanceAs (Decidable (_ ∨ _))

@[simp] theorem total_start (w : Writes α) (items : List α) :
    (w.start items).total = w.total ++ items := by
  simp [total, start]

/-- Several writes begin. -/
theorem total_foldl_start (w : Writes α) (payloads : List (List α)) :
    (payloads.foldl start w).total = w.total ++ payloads.flatten := by
  induction payloads generalizing w with
  | nil => simp
  | cons items payloads ih => simp [ih]

theorem out_prefix_total (w : Writes α) : w.out <+: w.total := List.prefix_append _ _

/-- A write that does not exist puts nothing out. -/
theorem put_of_length_le (w : Writes α) {i : ℕ} (n : ℕ) (h : w.remaining.length ≤ i) :
    w.put i n = w := by
  simp [put, List.set_eq_of_length_le h, List.getElem?_eq_none h]

/-- The write that puts items out, between the ones before and after it. -/
theorem put_split (w : Writes α) {i : ℕ} (n : ℕ) (h : i < w.remaining.length) :
    ∃ items after, w.remaining.getD i [] = items ∧
      w.remaining = w.remaining.take i ++ items :: after ∧
      w.put i n = ⟨w.remaining.take i ++ items.drop n :: after, w.out ++ items.take n⟩ := by
  have hitems : w.remaining.getD i [] = w.remaining[i] := by simp [h]
  refine ⟨w.remaining[i], w.remaining.drop (i + 1), hitems, ?_, ?_⟩
  · rw [← List.drop_eq_getElem_cons h, List.take_append_drop]
  · rw [put, hitems, List.set_eq_take_append_cons_drop, if_pos h]

/-- **A write in order** keeps the content of the stream. -/
theorem total_put (w : Writes α) (i n : ℕ) (H : w.InOrder i n) : (w.put i n).total = w.total := by
  by_cases hi : i < w.remaining.length
  · obtain ⟨items, after, hitems, hsplit, hput⟩ := w.put_split n hi
    have hflatten := congrArg List.flatten hsplit
    rw [List.flatten_append, List.flatten_cons] at hflatten
    rw [InOrder, hitems] at H
    rw [hput, total, total, hflatten, List.flatten_append, List.flatten_cons]
    obtain hnothing | hempty := H
    · have hdrop : items.drop n = items := by
        conv_rhs => rw [← List.take_append_drop n items, hnothing, List.nil_append]
      rw [hnothing, hdrop, List.append_nil]
    · rw [List.flatten_eq_nil_iff.mpr hempty, List.nil_append, List.nil_append, List.append_assoc,
        ← List.append_assoc (items.take n), List.take_append_drop]
  · rw [w.put_of_length_le n (by omega)]

/-- **Any write**, in order or not, only moves items. -/
theorem perm_put (w : Writes α) (i n : ℕ) : (w.put i n).total.Perm w.total := by
  by_cases hi : i < w.remaining.length
  · obtain ⟨items, after, -, hsplit, hput⟩ := w.put_split n hi
    have hflatten := congrArg List.flatten hsplit
    rw [List.flatten_append, List.flatten_cons] at hflatten
    rw [hput, total, total, hflatten, List.flatten_append, List.flatten_cons, List.append_assoc]
    apply List.Perm.append_left
    -- the items taken move in front of what the earlier writes have
    calc items.take n ++ ((w.remaining.take i).flatten ++ (items.drop n ++ after.flatten))
        ~ (w.remaining.take i).flatten ++ (items.take n ++ (items.drop n ++ after.flatten)) :=
          List.perm_append_comm_assoc _ _ _
      _ = (w.remaining.take i).flatten ++ (items ++ after.flatten) := by
          rw [← List.append_assoc (items.take n), List.take_append_drop]
  · rw [w.put_of_length_le n (by omega)]

/-- **Distinct items** stay a prefix of the content, whatever follows it, only where the write
is in order. -/
theorem inOrder_of_prefix (w : Writes α) (i n : ℕ) {later : List α} (hnodup : w.total.Nodup)
    (H : (w.put i n).out <+: w.total ++ later) : w.InOrder i n := by
  by_cases hi : i < w.remaining.length
  · obtain ⟨items, after, hitems, hsplit, hput⟩ := w.put_split n hi
    have hflatten := congrArg List.flatten hsplit
    rw [List.flatten_append, List.flatten_cons] at hflatten
    rw [InOrder, hitems]
    rw [hput, total, hflatten, List.append_assoc, List.prefix_append_right_inj] at H
    rw [total, hflatten] at hnodup
    have hdisjoint := List.disjoint_of_nodup_append (List.nodup_append.mp hnodup).2.1
    cases htaken : items.take n with
    | nil => exact .inl rfl
    | cons x rest =>
        right
        rw [← List.flatten_eq_nil_iff]
        cases hbefore : (w.remaining.take i).flatten with
        | nil => rfl
        | cons y other =>
            -- the next item of the content is `y`, which is not among `items`
            rw [htaken, hbefore, List.cons_append, List.cons_append, List.cons_prefix_cons] at H
            have hx : x ∈ items := List.mem_of_mem_take (htaken ▸ List.mem_cons_self)
            rw [hbefore] at hdisjoint
            exact absurd (List.mem_append_left _ hx)
              (hdisjoint (by rw [H.1]; exact List.mem_cons_self))
  · left
    simp [List.getElem?_eq_none (by omega : w.remaining.length ≤ i)]

end Writes
end Protogate.Lib
