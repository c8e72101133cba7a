import Protogate.Lib.Run

/-!
# Readers that keep a log

A reader makes something of each chunk it is given and appends it to a log.  What
it makes of a chunk may depend on its position, the sum of the sizes of the chunks
before it; and the reader may stop.  As long as it cannot stop while the log is a
part of what is expected, the log of a run is as expected exactly when the chunks
say so by themselves.

## Main definitions

* `emitted` — what the chunks say.
* `Reader` — the four facts about a step.
* `Reader.run_log_iff` — the log of a run.
-/

namespace Protogate.Lib

universe u v w
variable {σ : Type u} {ε : Type v} {α : Type w}

/-- What is made of the chunks from position `n` on. -/
def emitted (emit : ℕ → ε → List α) (size : ε → ℕ) : ℕ → List ε → List α
  | _, [] => []
  | n, e :: es => emit n e ++ emitted emit size (n + size e) es

@[simp] theorem emitted_nil (emit : ℕ → ε → List α) (size : ε → ℕ) (n : ℕ) :
    emitted emit size n [] = [] := rfl
@[simp] theorem emitted_cons (emit : ℕ → ε → List α) (size : ε → ℕ) (n : ℕ) (e : ε) (es : List ε) :
    emitted emit size n (e :: es) = emit n e ++ emitted emit size (n + size e) es := rfl

/-- Where positions do not matter. -/
theorem emitted_const (emit : ε → List α) (size : ε → ℕ) (n : ℕ) (es : List ε) :
    emitted (fun _ => emit) size n es = es.flatMap emit := by
  induction es generalizing n with
  | nil => rfl
  | cons e es ih => rw [emitted_cons, ih, List.flatMap_cons]

/-- A step of an active reader appends to the log, and the reader stays active while
the log is a part of `expected`. -/
structure Reader (step : σ → ε → σ) (active : σ → Prop) (log : σ → List α) (position : σ → ℕ)
    (emit : ℕ → ε → List α) (size : ε → ℕ) (expected : List α) : Prop where
  log_step : ∀ s e, active s → log (step s e) = log s ++ emit (position s) e
  position_step : ∀ s e, active s → position (step s e) = position s + size e
  log_mono : ∀ s e, log s <+: log (step s e)
  active_step : ∀ s e, active s → log (step s e) <+: expected → active (step s e)

namespace Reader
variable {step : σ → ε → σ} {active : σ → Prop} {log : σ → List α} {position : σ → ℕ}
  {emit : ℕ → ε → List α} {size : ε → ℕ} {expected : List α}

theorem log_run (H : Reader step active log position emit size expected) (s : σ) (es : List ε) :
    log s <+: log (run step s es) := by
  induction es generalizing s with
  | nil => exact List.prefix_refl _
  | cons e es ih => exact (H.log_mono s e).trans (ih (step s e))

/-- **The log of a run** is the expected one if and only if the chunks say so. -/
theorem run_log_iff (H : Reader step active log position emit size expected) {s : σ}
    (hactive : active s) (es : List ε) :
    log (run step s es) = expected ↔ log s ++ emitted emit size (position s) es = expected := by
  induction es generalizing s with
  | nil => rw [run_nil, emitted_nil, List.append_nil]
  | cons e es ih =>
      have hlog := H.log_step s e hactive
      have hposition := H.position_step s e hactive
      -- on either side the log after this step is a part of what is expected
      by_cases hpart : log (step s e) <+: expected
      · rw [run_cons, ih (H.active_step s e hactive hpart), hlog, hposition, emitted_cons,
          List.append_assoc]
      · constructor
        · intro hrun
          exact absurd (hrun ▸ H.log_run (step s e) es) hpart
        · intro hall
          rw [emitted_cons, ← List.append_assoc, ← hlog] at hall
          exact absurd (hall ▸ List.prefix_append _ _) hpart

end Reader
end Protogate.Lib
