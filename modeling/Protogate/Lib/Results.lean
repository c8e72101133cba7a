import Protogate.Lib.Run

/-!
# Runs with results

The calls of a component return something, and what a caller learns of a run is the
list of the results.  Two runs cannot be told apart by some of the calls when a
relation of their states is kept by these calls and by all the hidden ones between
them; `resultsOf_eq` is that rule.

## Main definitions

* `results step out s evs` — the results of all events, in order.
* `resultsOf step out p s evs` — of those that satisfy `p`, in a run of all.
* `resultsOf_eq` — the rule for hidden events.
* `resultsAmong_eq` — events that leave the state alone may be inserted.
-/

namespace Protogate.Lib

universe u v w
variable {σ : Type u} {ε : Type v} {ρ : Type w} (step : σ → ε → σ) (out : σ → ε → ρ)

/-- What each event returns, in order. -/
def results : σ → List ε → List ρ
  | _, [] => []
  | s, e :: evs => out s e :: results (step s e) evs

/-- What the events that satisfy `p` return, in a run of all events. -/
def resultsOf (p : ε → Bool) : σ → List ε → List ρ
  | _, [] => []
  | s, e :: evs => if p e then out s e :: resultsOf p (step s e) evs else resultsOf p (step s e) evs

@[simp] theorem results_cons (s : σ) (e : ε) (evs : List ε) :
    results step out s (e :: evs) = out s e :: results step out (step s e) evs := rfl

@[simp] theorem resultsOf_nil (p : ε → Bool) (s : σ) : resultsOf step out p s [] = [] := rfl

theorem resultsOf_cons (p : ε → Bool) (s : σ) (e : ε) (evs : List ε) :
    resultsOf step out p s (e :: evs) =
      if p e then out s e :: resultsOf step out p (step s e) evs
      else resultsOf step out p (step s e) evs := rfl

/-- **The rule for hidden events.**  When related states give the events of `p` the same
results and stay related, and the other events keep a state related, those events return in a
run of all what they return in a run of their own. -/
theorem resultsOf_eq {p : ε → Bool} (R : σ → σ → Prop)
    (hout : ∀ s t e, R s t → p e = true → out s e = out t e)
    (hstep : ∀ s t e, R s t → p e = true → R (step s e) (step t e))
    (hhidden : ∀ s t e, R s t → p e = false → R (step s e) t) {s t : σ} (h : R s t)
    (evs : List ε) : resultsOf step out p s evs = results step out t (evs.filter p) := by
  induction evs generalizing s t with
  | nil => rfl
  | cons e evs ih =>
      cases hp : p e with
      | true =>
          rw [resultsOf_cons, if_pos hp, List.filter_cons_of_pos hp, results_cons, hout s t e h hp,
            ih (hstep s t e h hp)]
      | false =>
          rw [resultsOf_cons, hp, List.filter_cons_of_neg (by simp [hp]), ih (hhidden s t e h hp)]
          rfl

/-! ## Inserted events -/

/-- The calls of a run with some of them marked as inserted. -/
abbrev Marked (ε : Type v) := ε × Bool

/-- The run without the inserted events. -/
def unmarked (evs : List (Marked ε)) : List ε := (evs.filter fun e => !e.2).map Prod.fst

theorem unmarked_concat (evs : List (Marked ε)) (e : ε) (inserted : Bool) :
    unmarked (evs ++ [(e, inserted)]) = if inserted then unmarked evs else unmarked evs ++ [e] := by
  rw [unmarked, List.filter_append, List.map_append]
  cases inserted with
  | true => exact List.append_nil _
  | false => rfl

/-- What the events return that were there before, with the inserted ones among them. -/
def resultsAmong (s : σ) (evs : List (Marked ε)) : List ρ :=
  resultsOf (fun s e => step s e.1) (fun s e => out s e.1) (fun e => !e.2) s evs

/-- **Inserting events that leave every state alone** changes no other result. -/
theorem resultsAmong_eq {evs : List (Marked ε)} (h : ∀ e ∈ evs, e.2 = true → ∀ s, step s e.1 = s)
    (s : σ) : resultsAmong step out s evs = results step out s (unmarked evs) := by
  induction evs generalizing s with
  | nil => rfl
  | cons e evs ih =>
      obtain ⟨hhead, htail⟩ := List.forall_mem_cons.mp h
      obtain ⟨call, inserted⟩ := e
      cases inserted with
      | true =>
          have hskip := hhead rfl s
          simp only [resultsAmong, unmarked] at ih ⊢
          simp only [resultsOf_cons, Bool.not_true, Bool.false_eq_true, if_false, hskip, ih htail,
            not_false_eq_true, List.filter_cons_of_neg]
      | false =>
          simp only [resultsAmong, unmarked] at ih ⊢
          simp only [resultsOf_cons, Bool.not_false, if_true, ih htail, List.filter_cons_of_pos,
            List.map_cons, results_cons]

end Protogate.Lib
