import Mathlib.Data.List.Infix

/-!
# Runs of a step function

A component is a state type with a step function.  Every choice its surroundings
make (what arrived, what a call into other code returned, what time it was) is a
field of the event, so a run is determined by its list of events.

`Along` says that each step of a run meets a condition on the state before the
step and the event; `Always` says that each state of a run has a property.  The
induction that turns an invariant of one step into a property of whole runs is
`run_induction`; every result about reachable states goes through it.

## Main definitions

* `run step s evs` — the state reached from `s`.
* `Along step C s evs` — every step satisfies `C`.
* `Always step P s evs` — every state visited satisfies `P`.
* `run_map` — a map that commutes with the steps.
* `run_induction`, `always_of_invariant` — the invariant rules.
* `always_iff_along_under`, `along_congr_under` — exact conditions on the steps.
* `view_run` — a run in which events with different keys do not meet.
-/

namespace Protogate.Lib

universe u v
variable {σ : Type u} {ε : Type v} (step : σ → ε → σ)

/-- The state reached from `s` by the events `evs`, in order. -/
def run (s : σ) (evs : List ε) : σ := evs.foldl step s

@[simp] theorem run_nil (s : σ) : run step s [] = s := rfl
@[simp] theorem run_cons (s : σ) (e : ε) (evs : List ε) :
    run step s (e :: evs) = run step (step s e) evs := rfl

@[simp] theorem run_append (s : σ) (as bs : List ε) :
    run step s (as ++ bs) = run step (run step s as) bs := by
  simp [run, List.foldl_append]

/-- A map that commutes with the steps commutes with runs. -/
theorem run_map {τ : Type*} {step' : τ → ε → τ} (f : σ → τ)
    (h : ∀ s e, f (step s e) = step' (f s) e) (s : σ) (evs : List ε) :
    f (run step s evs) = run step' (f s) evs :=
  (List.foldl_hom f fun s e => (h s e).symm).symm

/-! ## Conditions on every step -/

/-- Every step of the run satisfies `C`, which sees the state before the step. -/
def Along (C : σ → ε → Prop) : σ → List ε → Prop
  | _, [] => True
  | s, e :: evs => C s e ∧ Along C (step s e) evs

instance decidableAlong (C : σ → ε → Prop) [∀ s e, Decidable (C s e)] :
    ∀ s evs, Decidable (Along step C s evs)
  | _, [] => inferInstanceAs (Decidable True)
  | s, e :: evs =>
      have := decidableAlong C (step s e) evs
      inferInstanceAs (Decidable (C s e ∧ Along step C (step s e) evs))

variable {step} {C D : σ → ε → Prop}

@[simp] theorem along_nil (s : σ) : Along step C s [] := trivial

theorem along_cons {s : σ} {e : ε} {evs : List ε} :
    Along step C s (e :: evs) ↔ C s e ∧ Along step C (step s e) evs := Iff.rfl

theorem along_append {s : σ} {as bs : List ε} :
    Along step C s (as ++ bs) ↔ Along step C s as ∧ Along step C (run step s as) bs := by
  induction as generalizing s with
  | nil => simp
  | cons a as ih => simp [along_cons, ih, and_assoc]

/-- A condition that sees only the events holds along a run if each event meets it. -/
theorem along_const_iff {E : ε → Prop} {s : σ} {evs : List ε} :
    Along step (fun _ e => E e) s evs ↔ ∀ e ∈ evs, E e := by
  induction evs generalizing s with
  | nil => simp
  | cons e evs ih => rw [along_cons, ih, List.forall_mem_cons]

/-- **Induction along a run.**  A property of the first state that every step
meeting `C` preserves holds of the last state. -/
theorem run_induction (I : σ → Prop) (hstep : ∀ s e, I s → C s e → I (step s e))
    {s : σ} {evs : List ε} (h0 : I s) (H : Along step C s evs) : I (run step s evs) := by
  induction evs generalizing s with
  | nil => exact h0
  | cons e evs ih => exact ih (hstep s e h0 H.1) H.2

/-- The rule for an invariant that every step preserves. -/
theorem run_invariant (I : σ → Prop) (hstep : ∀ s e, I s → I (step s e)) {s : σ} {evs : List ε}
    (h0 : I s) : I (run step s evs) := by
  induction evs generalizing s with
  | nil => exact h0
  | cons e evs ih => exact ih (hstep s e h0)

/-! ## Properties of every state -/

variable (step) in
/-- Every state of the run, the first and the last included, satisfies `P`. -/
def Always (P : σ → Prop) : σ → List ε → Prop
  | s, [] => P s
  | s, e :: evs => P s ∧ Always P (step s e) evs

variable {P Q : σ → Prop}

theorem Always.head {s : σ} {evs : List ε} (H : Always step P s evs) : P s := by
  cases evs with
  | nil => exact H
  | cons e evs => exact H.1

/-- The states of a run are the ends of its prefixes. -/
theorem always_iff_run {s : σ} {evs : List ε} :
    Always step P s evs ↔ ∀ pre, pre <+: evs → P (run step s pre) := by
  induction evs generalizing s with
  | nil => simp [Always]
  | cons e evs ih =>
      constructor
      · rintro ⟨hs, H⟩ pre hpre
        cases pre with
        | nil => exact hs
        | cons a pre =>
            obtain ⟨rfl, htail⟩ := List.cons_prefix_cons.mp hpre
            exact ih.mp H pre htail
      · intro H
        refine ⟨H [] (List.nil_prefix), ih.mpr fun pre hpre => ?_⟩
        exact H (e :: pre) (List.cons_prefix_cons.mpr ⟨rfl, hpre⟩)

/-- An invariant that every step meeting `C` preserves holds throughout. -/
theorem always_of_invariant (I : σ → Prop) (hstep : ∀ s e, I s → C s e → I (step s e))
    {s : σ} {evs : List ε} (h0 : I s) (H : Along step C s evs) : Always step I s evs := by
  induction evs generalizing s with
  | nil => exact h0
  | cons e evs ih => exact ⟨h0, ih (hstep s e h0 H.1) H.2⟩

/-- When a step that reaches a good state must have met `C`, a run through good
states meets `C` all along. -/
theorem Always.along (h : ∀ s e, P (step s e) → C s e) {s : σ} {evs : List ε}
    (H : Always step P s evs) : Along step C s evs := by
  induction evs generalizing s with
  | nil => trivial
  | cons e evs ih =>
      have hnext : P (step s e) := Always.head H.2
      exact ⟨h s e hnext, ih H.2⟩

theorem Always.imp (h : ∀ s, P s → Q s) {s : σ} {evs : List ε} (H : Always step P s evs) :
    Always step Q s evs := by
  induction evs generalizing s with
  | nil => exact h s H
  | cons e evs ih => exact ⟨h s H.1, ih H.2⟩

/-- When, under an invariant that the steps meeting `D` keep, such a step from a good state
reaches a good state exactly if it meets `C`, a run that meets `D` has `P` throughout exactly
if it meets `C` all along. -/
theorem always_iff_along_under (I : σ → Prop) (hinv : ∀ s e, I s → D s e → I (step s e))
    (h : ∀ s e, I s → D s e → P s → (P (step s e) ↔ C s e)) {s : σ} {evs : List ε} (h0 : I s)
    (hs : P s) (H : Along step D s evs) : Always step P s evs ↔ Along step C s evs := by
  induction evs generalizing s with
  | nil => simp [Always, hs]
  | cons e evs ih =>
      have hnext : I (step s e) := hinv s e h0 H.1
      rw [Always, along_cons, ← h s e h0 H.1 hs]
      constructor
      · rintro ⟨_, hall⟩
        exact ⟨hall.head, (ih hnext hall.head H.2).mp hall⟩
      · rintro ⟨hgood, hall⟩
        exact ⟨hs, (ih hnext hgood H.2).mpr hall⟩

/-- The same for an invariant that every step keeps. -/
theorem always_iff_along (I : σ → Prop) (hinv : ∀ s e, I s → I (step s e))
    (h : ∀ s e, I s → P s → (P (step s e) ↔ C s e)) {s : σ} {evs : List ε} (h0 : I s) (hs : P s) :
    Always step P s evs ↔ Along step C s evs := by
  have htrue : Along step (fun _ _ => True) s evs := along_const_iff.mpr fun _ _ => trivial
  exact always_iff_along_under I (fun s e hI _ => hinv s e hI) (fun s e hI _ => h s e hI) h0 hs htrue

/-- What an invariant and a condition imply at each step holds along the run. -/
theorem along_of_invariant (I : σ → Prop) (hstep : ∀ s e, I s → C s e → I (step s e))
    (h : ∀ s e, I s → C s e → D s e) {s : σ} {evs : List ε} (h0 : I s) (H : Along step C s evs) :
    Along step D s evs := by
  induction evs generalizing s with
  | nil => trivial
  | cons e evs ih => exact ⟨h s e h0 H.1, ih (hstep s e h0 H.1) H.2⟩

/-- What an invariant implies at each step holds along every run. -/
theorem along_of_forall (I : σ → Prop) (hinv : ∀ s e, I s → I (step s e))
    (h : ∀ s e, I s → D s e) {s : σ} {evs : List ε} (h0 : I s) : Along step D s evs := by
  induction evs generalizing s with
  | nil => trivial
  | cons e evs ih => exact ⟨h s e h0, ih (hinv s e h0)⟩

/-- Conditions that are the same under an invariant that the steps meeting `B` keep are the
same along runs that meet `B`. -/
theorem along_congr_under {B : σ → ε → Prop} (I : σ → Prop)
    (hinv : ∀ s e, I s → B s e → I (step s e)) (h : ∀ s e, I s → B s e → (C s e ↔ D s e)) {s : σ}
    {evs : List ε} (h0 : I s) (H : Along step B s evs) : Along step C s evs ↔ Along step D s evs := by
  induction evs generalizing s with
  | nil => exact Iff.rfl
  | cons e evs ih => rw [along_cons, along_cons, h s e h0 H.1, ih (hinv s e h0 H.1) H.2]

/-- Conditions that are the same under an invariant are the same along runs. -/
theorem along_congr (I : σ → Prop) (hinv : ∀ s e, I s → I (step s e))
    (h : ∀ s e, I s → (C s e ↔ D s e)) {s : σ} {evs : List ε} (h0 : I s) :
    Along step C s evs ↔ Along step D s evs := by
  have htrue : Along step (fun _ _ => True) s evs := along_const_iff.mpr fun _ _ => trivial
  exact along_congr_under I (fun s e hI _ => hinv s e hI) (fun s e hI _ => h s e hI) h0 htrue

/-! ## Interleaved runs -/

/-- When each event changes what is seen under its own key, and nothing under another, what is
seen under a key after a run depends on the events with that key only. -/
theorem view_run {κ : Type*} {τ : Type*} [DecidableEq κ] (key : ε → κ) (view : κ → σ → τ)
    (own : τ → ε → τ) (hown : ∀ s e, view (key e) (step s e) = own (view (key e) s) e)
    (hframe : ∀ s e k, k ≠ key e → view k (step s e) = view k s) (k : κ) (s : σ) (evs : List ε) :
    view k (run step s evs) = run own (view k s) (evs.filter fun e => key e = k) := by
  induction evs generalizing s with
  | nil => rfl
  | cons e evs ih =>
      rw [run_cons, ih]
      by_cases he : key e = k
      · subst he
        rw [List.filter_cons_of_pos (by simp), run_cons, hown]
      · rw [List.filter_cons_of_neg (by simpa using he), hframe s e k (Ne.symm he)]

end Protogate.Lib
