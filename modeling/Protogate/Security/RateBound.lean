import Protogate.Security.RateLimiter
import Mathlib.Tactic.Ring

/-!
# How many requests are allowed in an interval

Tokens come in for whole microseconds, counted from the last refill, and a request less
than a microsecond after it finds the tokens as they were.  So the microsecond in which an
interval begins can count twice: a full bucket is emptied towards its end, and the first
refill brings in all of it.  The number of requests allowed is within the burst capacity
and what comes in while the length of the interval passes, rounded up to microseconds.

`budget` is the potential: the tokens there are, and those still to come by the end of the
interval.  A refill does not raise it and a request that is allowed takes one away.

## Main definitions

* `Forward` — the clock does not go back.
* `granted` — the requests for a key that are allowed in an interval.
* `budget`, `granted_le_budget` — the bound from a bucket.
* `granted_le` — the bound for every interval of every run.
-/

namespace Protogate.Security

open Protogate.Lib

namespace RateLimiter

/-- The readings of the clock that a call takes, in order. -/
def Call.readings : Call → List ℤ
  | .allowRequest _ created now => [created, now]
  | .checkLimit _ now | .getTokens _ now => [now]
  | .reset _ | .clear => []

/-- The clock does not go back from one reading to the next. -/
def Forward (calls : List Call) : Prop := (calls.flatMap Call.readings).Pairwise (· ≤ ·)

instance (calls : List Call) : Decidable (Forward calls) :=
  inferInstanceAs (Decidable ((calls.flatMap Call.readings).Pairwise (· ≤ ·)))

/-- The call is neither `reset` nor `clear`. -/
def Call.Keeps : Call → Prop
  | .allowRequest _ _ _ | .checkLimit _ _ | .getTokens _ _ => True
  | .reset _ | .clear => False

instance : (c : Call) → Decidable c.Keeps
  | .allowRequest _ _ _ | .checkLimit _ _ | .getTokens _ _ => isTrue trivial
  | .reset _ | .clear => isFalse id

/-- The call asks for a token of `key` in the interval from `s` to `t`. -/
def Call.isRequestIn (key : Str) (s t : ℤ) : Call → Bool
  | .allowRequest k _ now => k = key ∧ s ≤ now ∧ now ≤ t
  | .checkLimit _ _ | .getTokens _ _ | .reset _ | .clear => false

/-- How many of them are allowed, in a run of all calls. -/
def granted (l : RateLimiter) (key : Str) (s t : ℤ) (calls : List Call) : ℕ :=
  (resultsOf step result (Call.isRequestIn key s t) l calls).count (.decision true)

/-! ## The tokens of an interval -/

section
variable {l : Limits} {b : Bucket} {now t : ℤ}

theorem microseconds_add_le {m n : ℤ} (hm : 0 ≤ m) (hn : 0 ≤ n) :
    microseconds m + microseconds n ≤ microseconds (m + n) := by
  rw [microseconds_of_nonneg hm, microseconds_of_nonneg hn, microseconds_of_nonneg (by omega)]
  omega

theorem tokensToAdd_add_le {m n : ℤ} (hm : 0 ≤ m) (hn : 0 ≤ n) :
    l.tokensToAdd m + l.tokensToAdd n ≤ l.tokensToAdd (m + n) := by
  have hcast : (microseconds m : ℚ) + microseconds n ≤ microseconds (m + n) := by
    exact_mod_cast microseconds_add_le hm hn
  have hrate := l.rate_pos.le
  rw [Limits.tokensToAdd, Limits.tokensToAdd, Limits.tokensToAdd, ← add_mul, ← add_div]
  gcongr

/-- `ns` in microseconds, rounded up. -/
def microsecondsUp (ns : ℤ) : ℤ := (ns + 999) / 1000

theorem tokensToAdd_le_up {m n : ℤ} (h : 0 ≤ m ∧ m ≤ n + 999) :
    l.tokensToAdd m ≤ l.requestsPerSecond * (microsecondsUp n / 1000000) := by
  have hle : microseconds m ≤ microsecondsUp n := by
    rw [microseconds_of_nonneg h.1, microsecondsUp]
    omega
  have hcast : (microseconds m : ℚ) ≤ microsecondsUp n := by exact_mod_cast hle
  have hrate := l.rate_pos.le
  rw [Limits.tokensToAdd, mul_comm]
  gcongr

theorem tokensToAdd_nonneg {n : ℤ} (hn : 0 ≤ n) : 0 ≤ l.tokensToAdd n := by
  have hcast : (0 : ℚ) ≤ microseconds n := by
    rw [microseconds_of_nonneg hn]
    exact_mod_cast Int.ediv_nonneg hn (by norm_num)
  have hrate := l.rate_pos.le
  rw [Limits.tokensToAdd]
  positivity

/-- The tokens of a bucket and those that come in until `t`. -/
def budget (l : Limits) (t : ℤ) (b : Bucket) : ℚ := b.tokens + l.tokensToAdd (t - b.lastRefill)

theorem budget_nonneg (h : InRange l b) (hlast : b.lastRefill ≤ t) : 0 ≤ budget l t b :=
  add_nonneg h.1 (tokensToAdd_nonneg (by omega))

/-- A refill leaves no more to come than it found. -/
theorem budget_refillTokens_le (ht : now ≤ t) :
    budget l t (l.refillTokens now b) ≤ budget l t b := by
  rw [refillTokens_eq]
  split
  · have hsum : l.tokensToAdd (now - b.lastRefill) + l.tokensToAdd (t - now) ≤
        l.tokensToAdd (now - b.lastRefill + (t - now)) := tokensToAdd_add_le (by omega) (by omega)
    have hmin : min (b.tokens + l.tokensToAdd (now - b.lastRefill)) (l.burstCapacity : ℚ) ≤
        b.tokens + l.tokensToAdd (now - b.lastRefill) := min_le_left _ _
    rw [show now - b.lastRefill + (t - now) = t - b.lastRefill by ring] at hsum
    simp only [budget]
    linarith
  · exact le_refl _

/-- Taking a token takes it out of the budget. -/
theorem budget_taken (l : Limits) (t : ℤ) (b : Bucket) :
    budget l t (taken b) + (if 1 ≤ b.tokens then 1 else 0) = budget l t b := by
  simp only [taken, budget]
  split
  · ring
  · exact add_zero _

theorem lastRefill_taken (b : Bucket) : (taken b).lastRefill = b.lastRefill := by
  rw [taken]
  split <;> rfl

/-- After a refill the last one is at most a microsecond back. -/
theorem lastRefill_refillTokens (h : b.lastRefill ≤ now) :
    now - 1000 < (l.refillTokens now b).lastRefill ∧ (l.refillTokens now b).lastRefill ≤ now := by
  rw [refillTokens_eq]
  split
  · exact ⟨by simp, le_refl _⟩
  · exact ⟨by omega, h⟩

end

/-! ## What a run allows -/

section
variable {l : RateLimiter} {key : Str} {s t : ℤ} {c : Call} {calls : List Call}

theorem forward_cons : Forward (c :: calls) ↔
    c.readings.Pairwise (· ≤ ·) ∧ Forward calls ∧
      ∀ r ∈ c.readings, ∀ c' ∈ calls, ∀ r' ∈ c'.readings, r ≤ r' := by
  simp only [Forward, List.flatMap_cons, List.pairwise_append, List.mem_flatMap,
    forall_exists_index, and_imp]
  refine and_congr_right fun _ => and_congr_right fun _ => ?_
  exact ⟨fun h r hr c' hc' r' hr' => h r hr r' c' hc' hr',
    fun h r hr r' c' hc' hr' => h r hr c' hc' r' hr'⟩

theorem granted_skip (h : c.isRequestIn key s t = false) :
    l.granted key s t (c :: calls) = (l.step c).granted key s t calls := by
  rw [granted, resultsOf_cons, h]
  rfl

/-- A request in the interval counts if it finds a token. -/
theorem granted_request {created now : ℤ} (h : s ≤ now ∧ now ≤ t) :
    l.granted key s t (.allowRequest key created now :: calls) =
      (l.allowRequest key created now).2.granted key s t calls +
        if 1 ≤ (l.refilled key created now).tokens then 1 else 0 := by
  have hin : (Call.allowRequest key created now).isRequestIn key s t = true := by
    simp [Call.isRequestIn, h]
  rw [granted, resultsOf_cons, if_pos hin, List.count_cons]
  simp only [granted, step, result, beq_iff_eq, Result.decision.injEq, allowRequest_iff]

/-- A request counts at most if it finds a token. -/
theorem granted_request_le (created now : ℤ) :
    (l.granted key s t (.allowRequest key created now :: calls) : ℚ) ≤
      (l.allowRequest key created now).2.granted key s t calls +
        if 1 ≤ (l.refilled key created now).tokens then 1 else 0 := by
  by_cases h : s ≤ now ∧ now ≤ t
  · rw [granted_request h]
    push_cast
    exact le_refl _
  · have hout : (Call.allowRequest key created now).isRequestIn key s t = false := by
      simpa [Call.isRequestIn] using h
    rw [granted_skip hout]
    refine le_add_of_nonneg_right ?_
    split <;> norm_num

/-- Hence a budget for the later requests is one for this request, too. -/
theorem granted_request_le_budget {created now : ℤ}
    (h : ((l.allowRequest key created now).2.granted key s t calls : ℚ) ≤
      budget l.limits t (taken (l.refilled key created now))) :
    (l.granted key s t (.allowRequest key created now :: calls) : ℚ) ≤
      budget l.limits t (l.refilled key created now) := by
  have hone : (l.granted key s t (.allowRequest key created now :: calls) : ℚ) ≤
      (l.allowRequest key created now).2.granted key s t calls +
        if 1 ≤ (l.refilled key created now).tokens then 1 else 0 := granted_request_le created now
  have htake := budget_taken l.limits t (l.refilled key created now)
  linarith

/-- After the end of the interval nothing counts. -/
theorem granted_late (h : ∀ c ∈ calls, ∀ r ∈ c.readings, t < r) : l.granted key s t calls = 0 := by
  induction calls generalizing l with
  | nil => rfl
  | cons c calls ih =>
      obtain ⟨hhead, htail⟩ := List.forall_mem_cons.mp h
      rw [granted_skip, ih htail]
      cases c with
      | allowRequest k created now =>
          have hlate := hhead now (by simp [Call.readings])
          simp only [Call.isRequestIn, decide_eq_false_iff_not]
          omega
      | checkLimit | getTokens | reset | clear => rfl

/-- Nor does it from a request after the end on. -/
theorem granted_past {k : Str} {created now : ℤ} (hforward : Forward (.allowRequest k created now :: calls))
    (ht : t < now) : l.granted key s t (.allowRequest k created now :: calls) = 0 := by
  obtain ⟨_, _, hlater⟩ := forward_cons.mp hforward
  have hout : (Call.allowRequest k created now).isRequestIn key s t = false := by
    simp [Call.isRequestIn, not_le.mpr ht]
  have hlate : ∀ c ∈ calls, ∀ r ∈ c.readings, t < r := fun c hc r hr =>
    lt_of_lt_of_le ht (hlater now (by simp [Call.readings]) c hc r hr)
  rw [granted_skip hout, granted_late hlate]

/-- All buckets were refilled before the readings to come. -/
def Behind (l : RateLimiter) (calls : List Call) : Prop :=
  ∀ k b, l.buckets.lookup k = some b → ∀ c ∈ calls, ∀ r ∈ c.readings, b.lastRefill ≤ r

/-- The times of a bucket that a request finds or makes. -/
theorem lastRefill_refilled {k : Str} {created now : ℤ} (hcreated : created ≤ now)
    (h : ∀ b, l.buckets.lookup k = some b → b.lastRefill ≤ now) :
    now - 1000 < (l.refilled k created now).lastRefill ∧
      (l.refilled k created now).lastRefill ≤ now := by
  rw [refilled]
  refine lastRefill_refillTokens ?_
  cases hbucket : l.buckets.lookup k with
  | none => exact hcreated
  | some b => exact h b hbucket

theorem behind_step (h : Behind l (c :: calls)) (hforward : Forward (c :: calls)) :
    Behind (l.step c) calls := by
  obtain ⟨hreadings, _, hlater⟩ := forward_cons.mp hforward
  have hold : ∀ k b, l.buckets.lookup k = some b → ∀ c ∈ calls, ∀ r ∈ c.readings, b.lastRefill ≤ r :=
    fun k b hb c' hc' => h k b hb c' (List.mem_cons_of_mem c hc')
  intro k b hb
  cases c with
  | allowRequest key created now =>
      rw [step, lookup_allowRequest] at hb
      split at hb
      · cases hb
        have hcreated : created ≤ now := by simpa [Call.readings] using hreadings
        have hlast := lastRefill_refilled hcreated fun b hb =>
          h key b hb _ List.mem_cons_self now (by simp [Call.readings])
        intro c' hc' r hr
        rw [lastRefill_taken]
        exact hlast.2.trans (hlater now (by simp [Call.readings]) c' hc' r hr)
      · exact hold k b hb
  | checkLimit | getTokens => exact hold k b hb
  | reset key => exact hold k b (Assoc.lookup_of_lookup_erase hb).2
  | clear => cases hb

/-- The bucket that a request leaves. -/
theorem lookup_step_request (l : RateLimiter) (key : Str) (created now : ℤ) :
    (l.step (.allowRequest key created now)).buckets.lookup key =
      some (taken (l.refilled key created now)) := by
  rw [step, lookup_allowRequest, if_pos rfl]

/-- **What can be allowed from a bucket** is within its budget. -/
theorem granted_le_budget {b : Bucket} (hbucket : l.buckets.lookup key = some b)
    (hlast : b.lastRefill ≤ t) (hwell : l.WellFormed) (hbehind : Behind l calls)
    (hforward : Forward calls) (hkeeps : ∀ c ∈ calls, c.Keeps) :
    (l.granted key s t calls : ℚ) ≤ budget l.limits t b := by
  induction calls generalizing l b with
  | nil => exact_mod_cast budget_nonneg (hwell key b hbucket) hlast
  | cons c calls ih =>
      obtain ⟨_, hrest, _⟩ := forward_cons.mp hforward
      obtain ⟨hkeep, hkeepTail⟩ := List.forall_mem_cons.mp hkeeps
      have hwell' := wellFormed_step hwell c
      have hbehind' := behind_step hbehind hforward
      have hlimits := limits_step l c
      cases c with
      | allowRequest k created now =>
          by_cases hk : k = key
          · subst hk
            have hnow : b.lastRefill ≤ now :=
              hbehind k b hbucket _ List.mem_cons_self now (by simp [Call.readings])
            by_cases ht : now ≤ t
            · have hrefilled : l.refilled k created now = l.limits.refillTokens now b := by
                rw [refilled, hbucket, Option.getD_some]
              have hlast' : (taken (l.refilled k created now)).lastRefill ≤ t := by
                rw [lastRefill_taken, hrefilled]
                exact (lastRefill_refillTokens hnow).2.trans ht
              have hrec := ih (lookup_step_request l k created now) hlast' hwell' hbehind' hrest hkeepTail
              rw [hlimits] at hrec
              calc (l.granted k s t (.allowRequest k created now :: calls) : ℚ)
                  ≤ budget l.limits t (l.refilled k created now) := granted_request_le_budget hrec
                _ ≤ budget l.limits t b := hrefilled ▸ budget_refillTokens_le ht
            · rw [granted_past hforward (not_le.mp ht)]
              exact_mod_cast budget_nonneg (hwell k b hbucket) hlast
          · rw [granted_skip (by simp [Call.isRequestIn, hk])]
            have hsame : (l.step (.allowRequest k created now)).buckets.lookup key = some b := by
              rw [step, lookup_allowRequest, if_neg (Ne.symm hk), hbucket]
            have hrec := ih hsame hlast hwell' hbehind' hrest hkeepTail
            rwa [hlimits] at hrec
      | checkLimit | getTokens =>
          rw [granted_skip rfl]
          exact ih hbucket hlast hwell' hbehind' hrest hkeepTail
      | reset | clear => exact hkeep.elim

/-- What can be allowed from the first request in the interval on: it finds a full bucket at most,
refilled less than a microsecond before the interval begins. -/
theorem granted_le_of_first {created now : ℤ} (hwell : l.WellFormed)
    (hbehind : Behind l (.allowRequest key created now :: calls))
    (hforward : Forward (.allowRequest key created now :: calls)) (hkeeps : ∀ c ∈ calls, c.Keeps)
    (hs : s ≤ now) (ht : now ≤ t) :
    (l.granted key s t (.allowRequest key created now :: calls) : ℚ) ≤ l.limits.burstCapacity +
      l.limits.requestsPerSecond * (microsecondsUp (t - s) / 1000000) := by
  obtain ⟨hreadings, hrest, _⟩ := forward_cons.mp hforward
  have hcreated : created ≤ now := by simpa [Call.readings] using hreadings
  have hlast := lastRefill_refilled hcreated fun b hb =>
    hbehind key b hb _ List.mem_cons_self now (by simp [Call.readings])
  have hlast' : (taken (l.refilled key created now)).lastRefill ≤ t := by
    rw [lastRefill_taken]
    exact hlast.2.trans ht
  have hrec := granted_le_budget (s := s) (lookup_step_request l key created now) hlast'
    (wellFormed_step hwell _) (behind_step hbehind hforward) hrest hkeeps
  rw [limits_step] at hrec
  have hfull := (inRange_refilled hwell key created now).2
  have hadd : l.limits.tokensToAdd (t - (l.refilled key created now).lastRefill) ≤
      l.limits.requestsPerSecond * (microsecondsUp (t - s) / 1000000) :=
    tokensToAdd_le_up (by omega)
  calc (l.granted key s t (.allowRequest key created now :: calls) : ℚ)
      ≤ budget l.limits t (l.refilled key created now) := granted_request_le_budget hrec
    _ ≤ l.limits.burstCapacity + l.limits.requestsPerSecond * (microsecondsUp (t - s) / 1000000) :=
      add_le_add hfull hadd

/-- What can be allowed in an interval, whatever the state before it. -/
theorem granted_le_of_behind (hwell : l.WellFormed) (hbehind : Behind l calls)
    (hforward : Forward calls) (hkeeps : ∀ c ∈ calls, c.Keeps) (hst : s ≤ t) :
    (l.granted key s t calls : ℚ) ≤ l.limits.burstCapacity +
      l.limits.requestsPerSecond * (microsecondsUp (t - s) / 1000000) := by
  induction calls generalizing l with
  | nil =>
      have hup : (0 : ℚ) ≤ microsecondsUp (t - s) := by
        exact_mod_cast Int.ediv_nonneg (by omega) (by norm_num)
      have hrate := l.limits.rate_pos.le
      have hburst := one_le_burstCapacity l.limits
      rw [granted, resultsOf_nil, List.count_nil, Nat.cast_zero]
      positivity
  | cons c calls ih =>
      obtain ⟨_, hrest, _⟩ := forward_cons.mp hforward
      obtain ⟨_, hkeepTail⟩ := List.forall_mem_cons.mp hkeeps
      by_cases hin : c.isRequestIn key s t = true
      · cases c with
        | allowRequest k created now =>
            simp only [Call.isRequestIn, decide_eq_true_eq] at hin
            obtain ⟨rfl, hs, ht⟩ := hin
            exact granted_le_of_first hwell hbehind hforward hkeepTail hs ht
        | checkLimit | getTokens | reset | clear => cases hin
      · have hnext := ih (wellFormed_step hwell c) (behind_step hbehind hforward) hrest hkeepTail
        rw [granted_skip (by simpa using hin)]
        rwa [limits_step] at hnext

end

/-! ## The bound -/

/-- **What a limiter allows in an interval** is within the burst capacity and what comes in
while its length passes, rounded up to whole microseconds. -/
theorem granted_le (requestsPerSecond : ℚ) (burstCapacity : ℕ) (calls : List Call)
    (hkeeps : ∀ c ∈ calls, c.Keeps) (hforward : Forward calls) (key : Str) (s t : ℤ) (hst : s ≤ t) :
    let l := RateLimiter.new requestsPerSecond burstCapacity
    (l.granted key s t calls : ℚ) ≤ l.limits.burstCapacity +
      l.limits.requestsPerSecond * (microsecondsUp (t - s) / 1000000) := by
  refine granted_le_of_behind ?_ ?_ hforward hkeeps hst
  · exact fun _ _ hbucket => by cases hbucket
  · exact fun _ _ hbucket => by cases hbucket

/-- The bucket of a first request is made just before it, at a lower rate, too. -/
example : (RateLimiter.new 100 1).granted [] 500 10000000
    [.allowRequest [] 0 500, .allowRequest [] 10000000 10000000] = 2 := by decide +kernel

/-- Two tokens come in each microsecond.  Of the two there are first, one is taken at once and one
999 nanoseconds later; after one more nanosecond there are two again. -/
def crowded : List Call :=
  [.allowRequest [] 0 0, .allowRequest [] 999 999, .allowRequest [] 1000 1000, .allowRequest [] 1000 1000]

theorem granted_le_crowded : ((RateLimiter.new 2000000 2).granted [] 999 1000 crowded : ℚ) ≤
    (RateLimiter.new 2000000 2).limits.burstCapacity +
      (RateLimiter.new 2000000 2).limits.requestsPerSecond * (microsecondsUp (1000 - 999) / 1000000) :=
  granted_le 2000000 2 crowded (by decide) (by decide) [] 999 1000 (by decide)

/-- Without the rounding this is not so. -/
theorem not_granted_le_exact : (RateLimiter.new 2000000 2).granted [] 999 1000 crowded = 3 ∧
    ¬ ∀ (requestsPerSecond : ℚ) (burstCapacity : ℕ) (calls : List Call), (∀ c ∈ calls, c.Keeps) →
      Forward calls → ∀ (key : Str) (s t : ℤ), s ≤ t →
        ((RateLimiter.new requestsPerSecond burstCapacity).granted key s t calls : ℚ) ≤
          (RateLimiter.new requestsPerSecond burstCapacity).limits.burstCapacity +
            (RateLimiter.new requestsPerSecond burstCapacity).limits.requestsPerSecond *
              ((t - s : ℤ) / 1000000000) := by
  have hthree : (RateLimiter.new 2000000 2).granted [] 999 1000 crowded = 3 := by decide +kernel
  refine ⟨hthree, fun H => ?_⟩
  have hbound := H 2000000 2 crowded (by decide) (by decide) [] 999 1000 (by decide)
  rw [hthree] at hbound
  norm_num [RateLimiter.new, Limits.corrected] at hbound

end RateLimiter
end Protogate.Security
