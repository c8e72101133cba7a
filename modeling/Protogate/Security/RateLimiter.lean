import Mathlib.Algebra.Order.Field.Rat
import Mathlib.Tactic.Linarith
import Mathlib.Tactic.NormNum
import Mathlib.Tactic.Positivity
import Protogate.Lib.Assoc
import Protogate.Lib.Results
import Protogate.Lib.Text

/-!
# The rate limiter

A limiter keeps a bucket of tokens for each key.  Every call first refills the bucket
for the whole microseconds that have passed; a request takes a token if there is one.
Tokens are rational numbers and times are readings of the steady clock in nanoseconds,
one for each reading that a call takes.

## Main definitions

* `Limits`, `Bucket`, `RateLimiter` — the state; `Limits.corrected` is the constructor.
* `Limits.refillTokens` — the refill that all calls share.
* `RateLimiter.step`, `RateLimiter.result` — the calls.
* `InRange`, `inRange_run` — the tokens stay within the capacity.
* `queries_predict` — queries tell what a request would get, and disturb nothing.
-/

namespace Protogate.Security

open Protogate.Lib

/-! ## State -/

/-- The limits that the constructor accepts. -/
structure Limits where
  requestsPerSecond : ℚ
  burstCapacity : ℕ
  rate_pos : 0 < requestsPerSecond
  burst_pos : 0 < burstCapacity

/-- The constructor replaces an invalid limit by its default. -/
def Limits.corrected (requestsPerSecond : ℚ) (burstCapacity : ℕ) : Limits where
  requestsPerSecond := if requestsPerSecond ≤ 0 then 100 else requestsPerSecond
  burstCapacity := if burstCapacity = 0 then 200 else burstCapacity
  rate_pos := by
    split
    · norm_num
    · exact not_le.mp ‹_›
  burst_pos := by
    split
    · norm_num
    · exact Nat.pos_of_ne_zero ‹_›

/-- Token bucket state for a single key. -/
structure Bucket where
  tokens : ℚ
  lastRefill : ℤ
  deriving DecidableEq

structure RateLimiter where
  limits : Limits
  buckets : Assoc Str Bucket

/-- A limiter that has not been called. -/
def RateLimiter.new (requestsPerSecond : ℚ) (burstCapacity : ℕ) : RateLimiter :=
  ⟨.corrected requestsPerSecond burstCapacity, ∅⟩

/-! ## Refill -/

/-- `duration_cast<microseconds>`. -/
def microseconds (ns : ℤ) : ℤ := ns.tdiv 1000

/-- The tokens that come in while `ns` nanoseconds pass. -/
def Limits.tokensToAdd (l : Limits) (ns : ℤ) : ℚ :=
  (microseconds ns : ℚ) / 1000000 * l.requestsPerSecond

/-- Refill tokens based on elapsed time. -/
def Limits.refillTokens (l : Limits) (now : ℤ) (b : Bucket) : Bucket :=
  let tokensToAdd := l.tokensToAdd (now - b.lastRefill)
  if 0 < tokensToAdd then ⟨min (b.tokens + tokensToAdd) l.burstCapacity, now⟩ else b

/-- `Bucket(burst_capacity_)`, at the time it is made. -/
def Limits.newBucket (l : Limits) (created : ℤ) : Bucket := ⟨l.burstCapacity, created⟩

/-! ## Calls -/

namespace RateLimiter

/-- The bucket of `key` as `allow_request` finds it after the refill; a new one is made at
`created`. -/
def refilled (l : RateLimiter) (key : Str) (created now : ℤ) : Bucket :=
  l.limits.refillTokens now ((l.buckets.lookup key).getD (l.limits.newBucket created))

def allowRequest (l : RateLimiter) (key : Str) (created now : ℤ) : Bool × RateLimiter :=
  let bucket := l.refilled key created now
  if 1 ≤ bucket.tokens then
    (true, { l with buckets := l.buckets.insert key { bucket with tokens := bucket.tokens - 1 } })
  else (false, { l with buckets := l.buckets.insert key bucket })

def checkLimit (l : RateLimiter) (key : Str) (now : ℤ) : Bool :=
  match l.buckets.lookup key with
  | none => true
  | some bucket => decide (1 ≤ (l.limits.refillTokens now bucket).tokens)

def reset (l : RateLimiter) (key : Str) : RateLimiter := { l with buckets := l.buckets.erase key }

def clear (l : RateLimiter) : RateLimiter := { l with buckets := ∅ }

def getTokens (l : RateLimiter) (key : Str) (now : ℤ) : ℚ :=
  match l.buckets.lookup key with
  | none => l.limits.burstCapacity
  | some bucket => (l.limits.refillTokens now bucket).tokens

/-- A call with the readings of the clock that it takes; `created` is the one for a new
bucket. -/
inductive Call
  | allowRequest (key : Str) (created now : ℤ)
  | checkLimit (key : Str) (now : ℤ)
  | getTokens (key : Str) (now : ℤ)
  | reset (key : Str)
  | clear
  deriving DecidableEq, Repr

/-- What a call returns. -/
inductive Result
  | decision (allowed : Bool)
  | tokens (count : ℚ)
  | done
  deriving DecidableEq

def step (l : RateLimiter) : Call → RateLimiter
  | .allowRequest key created now => (l.allowRequest key created now).2
  | .checkLimit _ _ | .getTokens _ _ => l
  | .reset key => l.reset key
  | .clear => l.clear

def result (l : RateLimiter) : Call → Result
  | .allowRequest key created now => .decision (l.allowRequest key created now).1
  | .checkLimit key now => .decision (l.checkLimit key now)
  | .getTokens key now => .tokens (l.getTokens key now)
  | .reset _ | .clear => .done

/-- `check_limit` and `get_tokens`. -/
def Call.isQuery : Call → Bool
  | .checkLimit _ _ | .getTokens _ _ => true
  | .allowRequest _ _ _ | .reset _ | .clear => false

/-- The key of a call; `clear` has none. -/
def Call.key : Call → Option Str
  | .allowRequest key _ _ | .checkLimit key _ | .getTokens key _ | .reset key => some key
  | .clear => none

end RateLimiter

/-! ## What a refill does -/

section
variable {l : Limits} {b : Bucket} {now : ℤ}

theorem microseconds_of_nonneg {ns : ℤ} (h : 0 ≤ ns) : microseconds ns = ns / 1000 :=
  Int.tdiv_eq_ediv_of_nonneg h

theorem microseconds_pos_iff {ns : ℤ} : 0 < microseconds ns ↔ 1000 ≤ ns := by
  by_cases hns : 0 ≤ ns
  · rw [microseconds_of_nonneg hns]
    omega
  · have hflip : microseconds (-ns) = -microseconds ns := Int.neg_tdiv ns 1000
    have hpos : microseconds (-ns) = -ns / 1000 := microseconds_of_nonneg (by omega)
    omega

theorem tokensToAdd_pos_iff {ns : ℤ} : 0 < l.tokensToAdd ns ↔ 1000 ≤ ns := by
  have hrate := l.rate_pos
  rw [Limits.tokensToAdd, mul_pos_iff_of_pos_right hrate, div_pos_iff_of_pos_right (by norm_num),
    Int.cast_pos, microseconds_pos_iff]

/-- Less than a microsecond after the last refill nothing happens, not even to its time. -/
theorem refillTokens_eq : l.refillTokens now b = if 1000 ≤ now - b.lastRefill then
    ⟨min (b.tokens + l.tokensToAdd (now - b.lastRefill)) l.burstCapacity, now⟩ else b := by
  simp only [Limits.refillTokens, tokensToAdd_pos_iff]

/-- The number of tokens is within the capacity. -/
def InRange (l : Limits) (b : Bucket) : Prop := 0 ≤ b.tokens ∧ b.tokens ≤ l.burstCapacity

theorem one_le_burstCapacity (l : Limits) : (1 : ℚ) ≤ l.burstCapacity := by
  exact_mod_cast l.burst_pos

theorem inRange_newBucket (l : Limits) (created : ℤ) : InRange l (l.newBucket created) :=
  ⟨by simp [Limits.newBucket], le_refl _⟩

theorem inRange_refillTokens (h : InRange l b) (now : ℤ) : InRange l (l.refillTokens now b) := by
  rw [refillTokens_eq]
  split
  · rename_i hlong
    have hadd : 0 < l.tokensToAdd (now - b.lastRefill) := tokensToAdd_pos_iff.mpr hlong
    have hburst := one_le_burstCapacity l
    refine ⟨le_min ?_ ?_, min_le_right _ _⟩
    · exact add_nonneg h.1 hadd.le
    · exact le_trans zero_le_one hburst
  · exact h

/-- A full bucket stays full. -/
theorem tokens_refill_newBucket (l : Limits) (created now : ℤ) :
    (l.refillTokens now (l.newBucket created)).tokens = l.burstCapacity := by
  rw [refillTokens_eq]
  split
  · rename_i hlong
    have hadd := tokensToAdd_pos_iff (l := l).mpr hlong
    exact min_eq_right (le_add_of_nonneg_right hadd.le)
  · rfl

end

/-! ## What the calls return -/

namespace RateLimiter

/-- All buckets are within the capacity. -/
def WellFormed (l : RateLimiter) : Prop :=
  ∀ key bucket, l.buckets.lookup key = some bucket → InRange l.limits bucket

theorem inRange_refilled {l : RateLimiter} (h : l.WellFormed) (key : Str) (created now : ℤ) :
    InRange l.limits (l.refilled key created now) := by
  rw [refilled]
  cases hbucket : l.buckets.lookup key with
  | none => exact inRange_refillTokens (inRange_newBucket l.limits created) now
  | some bucket => exact inRange_refillTokens (h key bucket hbucket) now

/-- `get_tokens` sees what a request would find, for known and unknown keys. -/
theorem getTokens_eq (l : RateLimiter) (key : Str) (created now : ℤ) :
    l.getTokens key now = (l.refilled key created now).tokens := by
  simp only [getTokens, refilled]
  cases hbucket : l.buckets.lookup key with
  | none => exact (tokens_refill_newBucket l.limits created now).symm
  | some bucket => rfl

theorem checkLimit_iff (l : RateLimiter) (key : Str) (now : ℤ) :
    l.checkLimit key now = true ↔ 1 ≤ l.getTokens key now := by
  simp only [checkLimit, getTokens]
  cases hbucket : l.buckets.lookup key with
  | none => exact iff_of_true rfl (one_le_burstCapacity l.limits)
  | some bucket => simp

theorem allowRequest_iff (l : RateLimiter) (key : Str) (created now : ℤ) :
    (l.allowRequest key created now).1 = true ↔ 1 ≤ (l.refilled key created now).tokens := by
  simp only [allowRequest]
  split <;> simp [*]

/-! ## Runs -/

/-- A bucket after a token has been taken, if there was one. -/
def taken (b : Bucket) : Bucket := if 1 ≤ b.tokens then { b with tokens := b.tokens - 1 } else b

theorem lookup_allowRequest (l : RateLimiter) (key k : Str) (created now : ℤ) :
    (l.allowRequest key created now).2.buckets.lookup k =
      if k = key then some (taken (l.refilled key created now)) else l.buckets.lookup k := by
  simp only [allowRequest, taken]
  split <;> exact Assoc.lookup_insert_ite ..

theorem limits_step (l : RateLimiter) (c : Call) : (l.step c).limits = l.limits := by
  cases c with
  | allowRequest key created now =>
      simp only [step, allowRequest]
      split <;> rfl
  | checkLimit | getTokens | reset | clear => rfl

theorem inRange_taken {l : Limits} {b : Bucket} (h : InRange l b) : InRange l (taken b) := by
  rw [taken]
  split
  · exact ⟨by linarith, by have hle := h.2; linarith⟩
  · exact h

/-- Every call keeps the buckets within the capacity. -/
theorem wellFormed_step {l : RateLimiter} (h : l.WellFormed) (c : Call) : (l.step c).WellFormed := by
  intro k bucket hbucket
  rw [limits_step]
  cases c with
  | allowRequest key created now =>
      rw [step, lookup_allowRequest] at hbucket
      split at hbucket
      · cases hbucket
        exact inRange_taken (inRange_refilled h key created now)
      · exact h k bucket hbucket
  | checkLimit | getTokens => exact h k bucket hbucket
  | reset key => exact h k bucket (Assoc.lookup_of_lookup_erase hbucket).2
  | clear => cases hbucket

theorem wellFormed_run (requestsPerSecond : ℚ) (burstCapacity : ℕ) (calls : List Call) :
    (run step (.new requestsPerSecond burstCapacity) calls).WellFormed :=
  run_invariant WellFormed (fun _ c h => wellFormed_step h c) fun _ _ hbucket => by cases hbucket

/-! ## Other keys -/

/-- The limiters are the same but for the bucket of `key`. -/
def AgreeBut (key : Str) (l l' : RateLimiter) : Prop :=
  l.limits = l'.limits ∧ ∀ k, k ≠ key → l.buckets.lookup k = l'.buckets.lookup k

theorem refilled_congr {l l' : RateLimiter} {key : Str} (hlimits : l.limits = l'.limits)
    (hlookup : l.buckets.lookup key = l'.buckets.lookup key) (created now : ℤ) :
    l.refilled key created now = l'.refilled key created now := by
  rw [refilled, refilled, hlimits, hlookup]

theorem result_of_agreeBut {key : Str} {l l' : RateLimiter} (h : AgreeBut key l l') {c : Call}
    (hkey : c.key ≠ some key) : l.result c = l'.result c := by
  cases c with
  | allowRequest k created now =>
      have hk := h.2 k fun heq => hkey (congrArg some heq)
      simp only [result, allowRequest, refilled_congr h.1 hk]
      split <;> rfl
  | checkLimit k now =>
      have hk := h.2 k fun heq => hkey (congrArg some heq)
      simp only [result, checkLimit, h.1, hk]
  | getTokens k now =>
      have hk := h.2 k fun heq => hkey (congrArg some heq)
      simp only [result, getTokens, h.1, hk]
  | reset | clear => rfl

theorem agreeBut_step {key : Str} {l l' : RateLimiter} (h : AgreeBut key l l') {c : Call}
    (hkey : c.key ≠ some key) : AgreeBut key (l.step c) (l'.step c) := by
  refine ⟨by rw [limits_step, limits_step, h.1], fun k hk => ?_⟩
  cases c with
  | allowRequest k' created now =>
      have hk' := h.2 k' fun heq => hkey (congrArg some heq)
      rw [step, step, lookup_allowRequest, lookup_allowRequest, refilled_congr h.1 hk', h.2 k hk]
  | checkLimit | getTokens => exact h.2 k hk
  | reset k' =>
      simp only [step, reset, Assoc.lookup_erase_ite, h.2 k hk]
  | clear => rfl

theorem agreeBut_of_key {key : Str} {l l' : RateLimiter} (h : AgreeBut key l l') {c : Call}
    (hkey : c.key = some key) : AgreeBut key (l.step c) l' := by
  refine ⟨by rw [limits_step, h.1], fun k hk => ?_⟩
  rw [← h.2 k hk]
  cases c with
  | allowRequest k' created now =>
      cases hkey
      rw [step, lookup_allowRequest, if_neg hk]
  | checkLimit | getTokens => rfl
  | reset k' =>
      cases hkey
      rw [step, reset, Assoc.lookup_erase_ite, if_neg hk]
  | clear => cases hkey

/-- The calls that do not name `key` return what they return when no call names it. -/
theorem resultsOf_others (l : RateLimiter) (key : Str) (calls : List Call) :
    resultsOf step result (fun c => c.key ≠ some key) l calls =
      results step result l (calls.filter fun c => c.key ≠ some key) := by
  refine resultsOf_eq step result (AgreeBut key) ?_ ?_ ?_ ⟨rfl, fun _ _ => rfl⟩ calls
  · intro l l' c h hc
    exact result_of_agreeBut h (by simpa using hc)
  · intro l l' c h hc
    exact agreeBut_step h (by simpa using hc)
  · intro l l' c h hc
    exact agreeBut_of_key h (by simpa using hc)

theorem step_of_isQuery {c : Call} (h : c.isQuery = true) (l : RateLimiter) : l.step c = l := by
  cases c with
  | checkLimit | getTokens => rfl
  | allowRequest | reset | clear => cases h

end RateLimiter

open RateLimiter in
/-- **Queries predict and do not disturb.**  In every state that calls lead to, `check_limit` says
what a request would get, `get_tokens` is at least one then and within the capacity; queries
inserted into a run change no result, and the calls on one key none of the others. -/
theorem queries_predict (requestsPerSecond : ℚ) (burstCapacity : ℕ) (calls : List Call) :
    let l := run step (.new requestsPerSecond burstCapacity) calls
    (∀ key created now,
      l.checkLimit key now = (l.allowRequest key created now).1 ∧
      (1 ≤ l.getTokens key now ↔ (l.allowRequest key created now).1 = true) ∧
      0 ≤ l.getTokens key now ∧ l.getTokens key now ≤ l.limits.burstCapacity) ∧
    (∀ evs : List (Marked Call), (∀ e ∈ evs, e.2 = true → e.1.isQuery = true) →
      resultsAmong step result l evs = results step result l (unmarked evs)) ∧
    ∀ key later, resultsOf step result (fun c => c.key ≠ some key) l later =
      results step result l (later.filter fun c => c.key ≠ some key) := by
  intro l
  have hwell : l.WellFormed := wellFormed_run requestsPerSecond burstCapacity calls
  refine ⟨fun key created now => ?_, fun evs hevs => ?_, fun key later => resultsOf_others l key later⟩
  · have htokens := getTokens_eq l key created now
    have hcheck := checkLimit_iff l key now
    have hallow := allowRequest_iff l key created now
    rw [← htokens] at hallow
    have hrange := inRange_refilled hwell key created now
    rw [InRange, ← htokens] at hrange
    exact ⟨Bool.eq_iff_iff.mpr (hcheck.trans hallow.symm), hallow.symm, hrange⟩
  · exact resultsAmong_eq step result (fun e he hmark s => step_of_isQuery (hevs e he hmark) s) l

end Protogate.Security
