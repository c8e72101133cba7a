import Protogate.Security.RateBound

/-!
# Refilling often

A refill counts whole microseconds and then sets the time of the last refill to the full
current time, so the rest of the gap is not counted at all.  A client that is denied refills
the bucket each time it asks; when the rests of these gaps make a microsecond, it has fewer
tokens than one that has waited.

## Main definitions

* `polled` — a bucket after refills at given times.
* `counted`, `lt_counted` — the microseconds that they count: half of all at least.
* `tokens_polled` — what is in the bucket then.
* `KeepsUp` — refilling often leaves no less than refilling once.
* `keepsUp_iff` — when this is so.
-/

namespace Protogate.Security

open Protogate.Lib

/-- The bucket after a refill at each of the times. -/
def polled (l : Limits) (b : Bucket) (times : List ℤ) : Bucket :=
  run (fun b now => l.refillTokens now b) b times

/-- The whole microseconds of the gaps between refills; a time less than a microsecond after the
last refill makes none. -/
def counted : ℤ → List ℤ → ℤ
  | _, [] => 0
  | last, now :: times =>
      if 1000 ≤ now - last then (now - last) / 1000 + counted now times else counted last times

/-- Refilling at each of `retries` and then at `now` leaves at least as many tokens as refilling at
`now` only. -/
def KeepsUp (l : Limits) (b : Bucket) (retries : List ℤ) (now : ℤ) : Prop :=
  (l.refillTokens now b).tokens ≤ (polled l b (retries ++ [now])).tokens

/-- Less than a microsecond of the time that has passed is not counted, or what is counted fills
the bucket. -/
def LosesNothing (l : Limits) (b : Bucket) (retries : List ℤ) (now : ℤ) : Prop :=
  now - b.lastRefill - 1000 * counted b.lastRefill (retries ++ [now]) < 1000 ∨
    l.burstCapacity ≤
      b.tokens + counted b.lastRefill (retries ++ [now]) / 1000000 * l.requestsPerSecond

instance (l : Limits) (b : Bucket) (retries : List ℤ) (now : ℤ) :
    Decidable (LosesNothing l b retries now) :=
  inferInstanceAs (Decidable (_ ∨ _))

/-! ## What is counted -/

theorem counted_nonneg (last : ℤ) (times : List ℤ) : 0 ≤ counted last times := by
  induction times generalizing last with
  | nil => exact le_refl 0
  | cons now times ih =>
      have hrest := ih now
      rw [counted]
      split
      · omega
      · exact ih last

/-- No more is counted than has passed. -/
theorem counted_le {last now : ℤ} {retries : List ℤ}
    (h : (last :: (retries ++ [now])).Pairwise (· ≤ ·)) :
    1000 * counted last (retries ++ [now]) ≤ now - last := by
  induction retries generalizing last with
  | nil =>
      have hle : last ≤ now := by simpa using h
      simp only [List.nil_append, counted]
      split <;> omega
  | cons t retries ih =>
      rw [List.cons_append, List.pairwise_cons] at h
      obtain ⟨hlast, htail⟩ := h
      rw [List.cons_append, counted]
      split
      · have hrest := ih htail
        omega
      · have hskip : (last :: (retries ++ [now])).Pairwise (· ≤ ·) := by
          rw [List.pairwise_cons]
          exact ⟨fun r hr => hlast r (List.mem_cons_of_mem t hr), htail.tail⟩
        exact ih hskip

/-- At least half of the time that has passed is counted, but for a last microsecond. -/
theorem lt_counted (last now : ℤ) (retries : List ℤ) :
    now - last < 2000 * counted last (retries ++ [now]) + 1000 := by
  induction retries generalizing last with
  | nil =>
      simp only [List.nil_append, counted]
      split <;> omega
  | cons t retries ih =>
      have hrest := ih t
      have hskip := ih last
      rw [List.cons_append, counted]
      split <;> omega

/-! ## What is in the bucket -/

theorem tokensToAdd_of_nonneg (l : Limits) {ns : ℤ} (h : 0 ≤ ns) :
    l.tokensToAdd ns = ((ns / 1000 : ℤ) : ℚ) / 1000000 * l.requestsPerSecond := by
  rw [Limits.tokensToAdd, microseconds_of_nonneg h]

/-- What exceeded the capacity before it would exceed it after more has come in. -/
theorem min_add_of_cap {x cap a : ℚ} (ha : 0 ≤ a) : min (min x cap + a) cap = min (x + a) cap := by
  rw [← min_add_add_right, min_assoc, min_eq_right (le_add_of_nonneg_right ha)]

/-- **The tokens after some refills**: those of all the microseconds counted, up to the capacity. -/
theorem tokens_polled (l : Limits) (b : Bucket) (times : List ℤ) :
    (polled l b times).tokens = if counted b.lastRefill times = 0 then b.tokens else
      min (b.tokens + counted b.lastRefill times / 1000000 * l.requestsPerSecond) l.burstCapacity := by
  induction times generalizing b with
  | nil => rfl
  | cons now times ih =>
      rw [polled, run_cons, ← polled, refillTokens_eq, counted]
      split
      · rename_i hlong
        have hrest := counted_nonneg now times
        have hpos : (now - b.lastRefill) / 1000 + counted now times ≠ 0 := by omega
        have hadd : (0 : ℚ) ≤ counted now times / 1000000 * l.requestsPerSecond := by
          have hcast : (0 : ℚ) ≤ counted now times := by exact_mod_cast hrest
          have hrate := l.rate_pos.le
          positivity
        rw [ih, if_neg hpos, tokensToAdd_of_nonneg l (by omega)]
        split
        · rename_i hzero
          simp [hzero]
        · push_cast
          rw [min_add_of_cap hadd]
          congr 1
          ring
      · exact ih b

/-! ## When refilling often keeps up -/

section
variable {l : Limits} {b : Bucket} {retries : List ℤ} {now : ℤ}

/-- **Refilling often keeps up** exactly when it loses less than a microsecond, or when what it
counts fills the bucket. -/
theorem keepsUp_iff (h : (b.lastRefill :: (retries ++ [now])).Pairwise (· ≤ ·)) :
    KeepsUp l b retries now ↔ LosesNothing l b retries now := by
  have hle := counted_le h
  have hnonneg := counted_nonneg b.lastRefill (retries ++ [now])
  have hrate := l.rate_pos
  rw [KeepsUp, LosesNothing, tokens_polled, refillTokens_eq]
  by_cases hzero : counted b.lastRefill (retries ++ [now]) = 0
  · have hshort := lt_counted b.lastRefill now retries
    rw [if_neg (by omega), if_pos hzero, hzero]
    exact iff_of_true (le_refl _) (.inl (by omega))
  · have hlong : 1000 ≤ now - b.lastRefill := by omega
    rw [if_pos hlong, if_neg hzero, tokensToAdd_of_nonneg l (by omega)]
    generalize counted b.lastRefill (retries ++ [now]) = count at *
    have hmore : b.tokens + (((now - b.lastRefill) / 1000 : ℤ) : ℚ) / 1000000 * l.requestsPerSecond ≤
          b.tokens + count / 1000000 * l.requestsPerSecond ↔
        now - b.lastRefill - 1000 * count < 1000 := by
      rw [add_le_add_iff_left, mul_le_mul_iff_left₀ hrate, div_le_div_iff_of_pos_right (by norm_num),
        Int.cast_le]
      omega
    simp only [le_min_iff, min_le_iff, le_refl, or_true, and_true, hmore]

end

/-! ## Clients that retry -/

namespace RateLimiter

/-- A request at one reading of the clock. -/
def request (key : Str) (now : ℤ) : Call := .allowRequest key now now

/-- Requests that are denied only refill the bucket. -/
theorem lookup_run_denied {l : RateLimiter} {key : Str} {b : Bucket} {retries : List ℤ}
    (hbucket : l.buckets.lookup key = some b)
    (hdenied : ∀ r ∈ results step result l (retries.map (request key)), r = .decision false) :
    (run step l (retries.map (request key))).buckets.lookup key =
      some (polled l.limits b retries) := by
  induction retries generalizing l b with
  | nil => exact hbucket
  | cons now retries ih =>
      rw [List.map_cons, results_cons, List.forall_mem_cons] at hdenied
      obtain ⟨hfirst, hlater⟩ := hdenied
      have hrefilled : l.refilled key now now = l.limits.refillTokens now b := by
        rw [refilled, hbucket, Option.getD_some]
      have hno : ¬ 1 ≤ (l.refilled key now now).tokens := by
        intro htoken
        have hallowed := (allowRequest_iff l key now now).mpr htoken
        simp only [request, result, hallowed, Result.decision.injEq, Bool.true_eq_false] at hfirst
      have hlook : (l.step (request key now)).buckets.lookup key =
          some (l.limits.refillTokens now b) := by
        rw [request, lookup_step_request, taken, if_neg hno, hrefilled]
      have hrest := ih hlook hlater
      rw [limits_step] at hrest
      exact hrest

/-- A client that has kept asking is allowed at the time at which one that has waited is, if it
keeps up. -/
theorem allowed_of_waiting {l : RateLimiter} {key : Str} {b : Bucket} {retries : List ℤ} {now : ℤ}
    (hbucket : l.buckets.lookup key = some b)
    (hdenied : ∀ r ∈ results step result l (retries.map (request key)), r = .decision false)
    (hkeeps : KeepsUp l.limits b retries now) (hwaiting : (l.allowRequest key now now).1 = true) :
    ((run step l (retries.map (request key))).allowRequest key now now).1 = true := by
  have hafter := lookup_run_denied hbucket hdenied
  have hlimits : (run step l (retries.map (request key))).limits = l.limits :=
    run_invariant (fun l' : RateLimiter => l'.limits = l.limits) (fun l' c h => by rw [limits_step, h])
      rfl
  rw [allowRequest_iff, refilled, hbucket, Option.getD_some] at hwaiting
  rw [allowRequest_iff, refilled, hafter, hlimits, Option.getD_some]
  rw [KeepsUp, polled, run_append] at hkeeps
  exact hwaiting.trans hkeeps

end RateLimiter

/-! ## A retry that costs a token -/

/-- One request in ten milliseconds, in bursts of one. -/
def tenMillis : Limits := .corrected 100 1

/-- Retries after whole microseconds lose nothing, and one after 1999 nanoseconds does. -/
theorem keepsUp_iff_tenMillis :
    KeepsUp tenMillis ⟨0, 0⟩ [1000, 4000] 10000000 ∧ ¬ KeepsUp tenMillis ⟨0, 0⟩ [1999] 10000000 :=
  ⟨(keepsUp_iff (by decide)).mpr (by decide +kernel),
    fun h => absurd ((keepsUp_iff (by decide)).mp h) (by decide +kernel)⟩

open RateLimiter in
/-- After its first request, one client asks again after 1999 nanoseconds, and after ten milliseconds
it is denied; another has waited and is allowed. -/
theorem not_keepsUp :
    results step result (RateLimiter.new 100 1) [request [] 0, request [] 1999, request [] 10000000] =
        [.decision true, .decision false, .decision false] ∧
      results step result (RateLimiter.new 100 1) [request [] 0, request [] 10000000] =
        [.decision true, .decision true] ∧
      ¬ ∀ (l : Limits) (b : Bucket) (retries : List ℤ) (now : ℤ),
        (b.lastRefill :: (retries ++ [now])).Pairwise (· ≤ ·) → KeepsUp l b retries now := by
  refine ⟨by decide +kernel, by decide +kernel, fun H => ?_⟩
  have hkeeps := H tenMillis ⟨0, 0⟩ [1999] 10000000 (by decide)
  have hlost : ¬ (tenMillis.refillTokens 10000000 ⟨0, 0⟩).tokens ≤
      (polled tenMillis ⟨0, 0⟩ ([1999] ++ [10000000])).tokens := by decide +kernel
  exact hlost hkeeps

end Protogate.Security
