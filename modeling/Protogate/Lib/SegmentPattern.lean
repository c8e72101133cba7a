import Mathlib.Data.List.DropRight

/-!
# Patterns with segments

A pattern is a list of literal elements and of places for a segment, which is not empty
and does not have the separator.  `matchAll` matches a whole text as a backtracking
engine does that tries the longest segment first, and returns the segments.

Where each place is followed by the separator or by nothing, a text is matched in one
way only.

## Main definitions

* `Atom`, `matchAll` — patterns and the matcher.
* `fill`, `FillsIn` — a pattern with segments put into its places.
* `Separated` — each place is followed by the separator or by nothing.
* `matchAll_eq_some_iff` — a text is matched exactly if it is the pattern filled.
* `matchAll_lit_iff`, `matchAll_segment_iff` — patterns with no place, and with one.
-/

namespace Protogate.Lib

universe u
variable {α : Type u}

/-- A literal element, or a place for a segment. -/
inductive Atom (α : Type u)
  | lit (a : α)
  | segment
  deriving DecidableEq, Repr

/-- A text that can be put into a place. -/
def IsSegment (sep : α) (s : List α) : Prop := s ≠ [] ∧ sep ∉ s

/-- The pattern with segments in its places. -/
def fill : List (Atom α) → List (List α) → List α
  | [], _ => []
  | .lit a :: p, segments => a :: fill p segments
  | .segment :: p, [] => fill p []
  | .segment :: p, s :: segments => s ++ fill p segments

/-- The number of places. -/
def places : List (Atom α) → ℕ
  | [] => 0
  | .lit _ :: p => places p
  | .segment :: p => places p + 1

/-- The segments are one for each place. -/
structure FillsIn (sep : α) (p : List (Atom α)) (segments : List (List α)) : Prop where
  length : segments.length = places p
  isSegment : ∀ s ∈ segments, IsSegment sep s

/-- Each place is followed by the separator or by nothing. -/
def Separated (sep : α) : List (Atom α) → Prop
  | [] => True
  | .lit _ :: p => Separated sep p
  | [.segment] => True
  | .segment :: .lit a :: p => a = sep ∧ Separated sep p
  | .segment :: .segment :: _ => False

variable {sep : α}

/-- The text is empty or begins with the separator. -/
def EndsSegment (sep : α) (t : List α) : Prop := t = [] ∨ ∃ rest, t = sep :: rest

/-- Where a segment ends can be told from the text. -/
theorem append_segment_inj {c c' t t' : List α} (hc : sep ∉ c) (hc' : sep ∉ c')
    (ht : EndsSegment sep t) (ht' : EndsSegment sep t') (h : c ++ t = c' ++ t') : c = c' ∧ t = t' := by
  induction c generalizing c' with
  | nil =>
      cases c' with
      | nil => exact ⟨rfl, h⟩
      | cons x c' =>
          have hx : t = x :: (c' ++ t') := h
          obtain rfl | ⟨rest, rfl⟩ := ht
          · cases hx
          · obtain ⟨rfl, _⟩ := List.cons.inj hx
            simp at hc'
  | cons x c ih =>
      cases c' with
      | nil =>
          have hx : x :: (c ++ t) = t' := h
          obtain rfl | ⟨rest, rfl⟩ := ht'
          · cases hx
          · obtain ⟨rfl, _⟩ := List.cons.inj hx
            simp at hc
      | cons y c' =>
          obtain ⟨rfl, htail⟩ := List.cons.inj h
          rw [List.mem_cons, not_or] at hc hc'
          obtain ⟨rfl, rfl⟩ := ih hc.2 hc'.2 htail
          exact ⟨rfl, rfl⟩

/-- **A separated pattern is filled in one way only.** -/
theorem fill_injective {p : List (Atom α)} (hp : Separated sep p) {segments segments' : List (List α)}
    (h : FillsIn sep p segments) (h' : FillsIn sep p segments')
    (heq : fill p segments = fill p segments') : segments = segments' := by
  induction p using Separated.induct generalizing segments segments' with
  | case1 =>
      rw [List.length_eq_zero_iff.mp h.length, List.length_eq_zero_iff.mp h'.length]
  | case2 a p ih =>
      exact ih hp ⟨h.length, h.isSegment⟩ ⟨h'.length, h'.isSegment⟩ (List.cons.inj heq).2
  | case3 =>
      obtain ⟨c, rfl⟩ := List.length_eq_one_iff.mp h.length
      obtain ⟨c', rfl⟩ := List.length_eq_one_iff.mp h'.length
      simpa [fill] using heq
  | case4 a p ih =>
      obtain ⟨rfl, hp⟩ := hp
      obtain ⟨c, rest, rfl⟩ := List.exists_cons_of_length_eq_add_one h.length
      obtain ⟨c', rest', rfl⟩ := List.exists_cons_of_length_eq_add_one h'.length
      have hrest := Nat.succ.inj h.length
      have hrest' := Nat.succ.inj h'.length
      obtain ⟨hc, hsegments⟩ := List.forall_mem_cons.mp h.isSegment
      obtain ⟨hc', hsegments'⟩ := List.forall_mem_cons.mp h'.isSegment
      obtain ⟨rfl, hfill⟩ := append_segment_inj hc.2 hc'.2 (.inr ⟨_, rfl⟩) (.inr ⟨_, rfl⟩) heq
      have htail := (List.cons.inj hfill).2
      rw [ih hp ⟨hrest, hsegments⟩ ⟨hrest', hsegments'⟩ htail]
  | case5 => exact hp.elim

/-! ## Literal parts -/

@[simp] theorem fill_append_lit (a : List α) (p : List (Atom α)) (segments : List (List α)) :
    fill (a.map .lit ++ p) segments = a ++ fill p segments := by
  induction a with
  | nil => rfl
  | cons x a ih => rw [List.map_cons, List.cons_append, fill, ih, List.cons_append]

@[simp] theorem places_append_lit (a : List α) (p : List (Atom α)) :
    places (a.map .lit ++ p) = places p := by
  induction a with
  | nil => rfl
  | cons x a ih => exact ih

@[simp] theorem separated_append_lit {a : List α} {p : List (Atom α)} :
    Separated sep (a.map .lit ++ p) ↔ Separated sep p := by
  induction a with
  | nil => rfl
  | cons x a ih => exact ih

@[simp] theorem fill_lit (a : List α) (segments : List (List α)) : fill (a.map .lit) segments = a := by
  simpa [fill] using fill_append_lit a [] segments

@[simp] theorem places_lit (a : List α) : places (a.map .lit) = 0 := by
  simpa [places] using places_append_lit a []

@[simp] theorem separated_lit (a : List α) : Separated sep (a.map .lit) := by
  have happend : Separated sep (a.map .lit ++ []) := separated_append_lit.mpr trivial
  rwa [List.append_nil] at happend

/-! ## The matcher -/

section
variable [DecidableEq α]

/-- Match the whole text; a segment is as long as possible, and shorter where the rest does not
match otherwise. -/
def matchAll (sep : α) : List (Atom α) → List α → Option (List (List α))
  | [], [] => some []
  | [], _ :: _ => none
  | .lit _ :: _, [] => none
  | .lit a :: p, x :: s => if x = a then matchAll sep p s else none
  | .segment :: p, s =>
      (List.range (s.takeWhile (· ≠ sep)).length).reverse.findSome? fun n =>
        (matchAll sep p (s.drop (n + 1))).map (s.take (n + 1) :: ·)

/-- The beginning of a text before its first separator. -/
theorem isSegment_take {s : List α} {n : ℕ} (hn : n < (s.takeWhile (· ≠ sep)).length) :
    IsSegment sep (s.take (n + 1)) := by
  have hle : (s.takeWhile (· ≠ sep)).length ≤ s.length := (List.takeWhile_prefix _).length_le
  constructor
  · intro hnil
    rw [List.take_eq_nil_iff] at hnil
    obtain hzero | rfl := hnil
    · cases hzero
    · simp at hn
  · intro hmem
    have hbegin : s.take (n + 1) <+: s.takeWhile (· ≠ sep) :=
      List.prefix_of_prefix_length_le (List.take_prefix _ _) (List.takeWhile_prefix _)
        (by rw [List.length_take]; omega)
    have hne := List.mem_takeWhile_imp (hbegin.subset hmem)
    simp at hne

/-- What is matched are segments that fill the pattern. -/
theorem fill_of_matchAll {p : List (Atom α)} {s : List α} {segments : List (List α)}
    (h : matchAll sep p s = some segments) : FillsIn sep p segments ∧ fill p segments = s := by
  induction p generalizing s segments with
  | nil =>
      cases s with
      | nil =>
          cases h
          exact ⟨⟨rfl, by simp⟩, rfl⟩
      | cons x s => cases h
  | cons a p ih =>
      cases a with
      | lit a =>
          cases s with
          | nil => cases h
          | cons x s =>
              rw [matchAll] at h
              split at h
              · rename_i hx
                obtain ⟨⟨hlength, hsegments⟩, hfill⟩ := ih h
                exact ⟨⟨hlength, hsegments⟩, by rw [fill, hfill, hx]⟩
              · cases h
      | segment =>
          rw [matchAll] at h
          obtain ⟨n, hn, hmatch⟩ := List.exists_of_findSome?_eq_some h
          rw [List.mem_reverse, List.mem_range] at hn
          obtain ⟨rest, hrest, rfl⟩ := Option.map_eq_some_iff.mp hmatch
          obtain ⟨⟨hlength, hsegments⟩, hfill⟩ := ih hrest
          refine ⟨⟨by rw [List.length_cons, hlength, places], ?_⟩, ?_⟩
          · rw [List.forall_mem_cons]
            exact ⟨isSegment_take hn, hsegments⟩
          · rw [fill, hfill, List.take_append_drop]

/-- A pattern that is filled with segments is matched. -/
theorem matchAll_fill {p : List (Atom α)} {segments : List (List α)} (h : FillsIn sep p segments) :
    (matchAll sep p (fill p segments)).isSome := by
  induction p generalizing segments with
  | nil => rfl
  | cons a p ih =>
      cases a with
      | lit a =>
          rw [fill, matchAll, if_pos rfl]
          exact ih ⟨h.length, h.isSegment⟩
      | segment =>
          obtain ⟨hlength, hsegments⟩ := h
          cases segments with
          | nil => simp [places] at hlength
          | cons c rest =>
              obtain ⟨hc, hrest⟩ := List.forall_mem_cons.mp hsegments
              have hpos : 0 < c.length := List.length_pos_iff.mpr hc.1
              have htake : (c ++ fill p rest).takeWhile (· ≠ sep) =
                  c ++ (fill p rest).takeWhile (· ≠ sep) :=
                List.takeWhile_append_of_pos fun x hx => by simpa using ne_of_mem_of_not_mem hx hc.2
              rw [fill, matchAll, List.findSome?_isSome_iff]
              refine ⟨c.length - 1, ?_, ?_⟩
              · rw [List.mem_reverse, List.mem_range, htake, List.length_append]
                omega
              · rw [Nat.sub_add_cancel hpos, List.drop_left, Option.isSome_map]
                exact ih ⟨by simpa [places] using hlength, hrest⟩

/-- **A text is matched exactly if it is the pattern filled**, with the segments that fill it. -/
theorem matchAll_eq_some_iff {p : List (Atom α)} (hp : Separated sep p) {s : List α}
    {segments : List (List α)} :
    matchAll sep p s = some segments ↔ FillsIn sep p segments ∧ fill p segments = s := by
  refine ⟨fill_of_matchAll, ?_⟩
  rintro ⟨h, rfl⟩
  obtain ⟨segments', hsegments'⟩ := Option.isSome_iff_exists.mp (matchAll_fill h)
  obtain ⟨h', heq⟩ := fill_of_matchAll hsegments'
  rw [hsegments', fill_injective hp h' h heq]

/-! ## Patterns with one place at most -/

/-- Without a place, only the literal text is matched. -/
theorem matchAll_lit_iff {a s : List α} {segments : List (List α)} :
    matchAll sep (a.map .lit) s = some segments ↔ s = a ∧ segments = [] := by
  rw [matchAll_eq_some_iff (separated_lit a), fill_lit]
  constructor
  · rintro ⟨h, rfl⟩
    exact ⟨rfl, List.length_eq_zero_iff.mp (by rw [h.length, places_lit])⟩
  · rintro ⟨rfl, rfl⟩
    exact ⟨⟨by rw [places_lit]; rfl, by simp⟩, rfl⟩

/-- With one place, the text in it is the segment. -/
theorem matchAll_segment_iff {a b s : List α} (hb : EndsSegment sep b) {segments : List (List α)} :
    matchAll sep (a.map .lit ++ .segment :: b.map .lit) s = some segments ↔
      ∃ c, IsSegment sep c ∧ s = a ++ c ++ b ∧ segments = [c] := by
  have hseparated : Separated sep (.segment :: b.map .lit) := by
    obtain rfl | ⟨rest, rfl⟩ := hb
    · trivial
    · exact ⟨rfl, separated_lit rest⟩
  have hplaces : places (a.map .lit ++ .segment :: b.map .lit) = 1 := by
    rw [places_append_lit, places, places_lit]
  rw [matchAll_eq_some_iff (separated_append_lit.mpr hseparated), fill_append_lit]
  constructor
  · rintro ⟨h, rfl⟩
    obtain ⟨c, rfl⟩ := List.length_eq_one_iff.mp (h.length.trans hplaces)
    exact ⟨c, h.isSegment c (List.mem_singleton_self c), by rw [fill, fill_lit, List.append_assoc], rfl⟩
  · rintro ⟨c, hc, rfl, rfl⟩
    refine ⟨⟨hplaces.symm, ?_⟩, ?_⟩
    · intro s hs
      rwa [List.mem_singleton.mp hs]
    · rw [fill, fill_lit, List.append_assoc]

end

end Protogate.Lib
