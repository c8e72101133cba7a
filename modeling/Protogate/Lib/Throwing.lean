import Mathlib.Data.Nat.Notation

/-!
# Functions that throw

A function that may throw returns an `Except`; its steps follow each other until one throws.

## Main definitions

* `bind_eq_ok_iff` — a sequence of steps succeeds if each does.
* `throwIf`, `throwIf_eq_ok_iff` — a check that throws.
-/

namespace Protogate.Lib

variable {ε α β : Type}

/-- A sequence succeeds if its first step does and the rest then does. -/
theorem bind_eq_ok_iff {x : Except ε α} {f : α → Except ε β} {b : β} :
    (x >>= f) = .ok b ↔ ∃ a, x = .ok a ∧ f a = .ok b := by
  cases x with
  | error e => simp [bind, Except.bind]
  | ok a => simp [bind, Except.bind]

/-- A step that succeeds is followed by the rest. -/
theorem bind_of_eq_ok {x : Except ε α} {a : α} (h : x = .ok a) (f : α → Except ε β) :
    (x >>= f) = f a := by
  rw [h]
  rfl

/-- `if (p) throw what;` -/
def throwIf (p : Prop) [Decidable p] (what : ε) : Except ε Unit :=
  if p then .error what else .ok ()

theorem throwIf_eq_ok_iff {p : Prop} [Decidable p] {what : ε} {u : Unit} :
    throwIf p what = .ok u ↔ ¬ p := by
  rw [throwIf]
  by_cases hp : p
  · simp [hp]
  · simp [hp]

end Protogate.Lib
