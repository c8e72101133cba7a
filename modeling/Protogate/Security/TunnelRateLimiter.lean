import Protogate.Security.RateLimiter

/-!
# Rate limits of tunnels

Each tunnel has a limiter of its own, made with the default limits at its first
request, replaced when its limits are set and dropped when it is removed.  The key
inside a limiter is the id of its tunnel again.  The tokens of a bucket, doubles in the
source, are exact fractions here, as in the limiter itself.

## Main definitions

* `TunnelRateLimiter`, `TunnelRateLimiter.step`, `TunnelRateLimiter.result` — the calls.
* `decisions` — what the requests of one tunnel are answered in a run.
* `decisions_eq` — they depend on the calls for this tunnel only.
-/

namespace Protogate.Security

open Protogate.Lib

structure TunnelRateLimiter where
  defaultRequestsPerSecond : ℚ
  defaultBurstCapacity : ℕ
  limiters : Assoc Str RateLimiter

namespace TunnelRateLimiter

/-- No limiter has been made yet. -/
def new (defaultRequestsPerSecond : ℚ) (defaultBurstCapacity : ℕ) : TunnelRateLimiter :=
  ⟨defaultRequestsPerSecond, defaultBurstCapacity, ∅⟩

def setTunnelLimit (t : TunnelRateLimiter) (tunnelId : Str) (requestsPerSecond : ℚ)
    (burstCapacity : ℕ) : TunnelRateLimiter :=
  let limiter := RateLimiter.new requestsPerSecond burstCapacity
  { t with limiters := (t.limiters.erase tunnelId).insert tunnelId limiter }

/-- The limiter of a tunnel, made with the defaults if there is none. -/
def limiterOf (t : TunnelRateLimiter) (tunnelId : Str) : RateLimiter :=
  (t.limiters.lookup tunnelId).getD (.new t.defaultRequestsPerSecond t.defaultBurstCapacity)

def allowRequest (t : TunnelRateLimiter) (tunnelId : Str) (created now : ℤ) :
    Bool × TunnelRateLimiter :=
  let answer := (t.limiterOf tunnelId).allowRequest tunnelId created now
  (answer.1, { t with limiters := t.limiters.insert tunnelId answer.2 })

def removeTunnel (t : TunnelRateLimiter) (tunnelId : Str) : TunnelRateLimiter :=
  { t with limiters := t.limiters.erase tunnelId }

/-- A call for a tunnel; a request comes with the readings of the clock. -/
inductive Call
  | setTunnelLimit (tunnelId : Str) (requestsPerSecond : ℚ) (burstCapacity : ℕ)
  | allowRequest (tunnelId : Str) (created now : ℤ)
  | removeTunnel (tunnelId : Str)
  deriving DecidableEq

def Call.tunnelId : Call → Str
  | .setTunnelLimit tunnelId _ _ | .allowRequest tunnelId _ _ | .removeTunnel tunnelId => tunnelId

def step (t : TunnelRateLimiter) : Call → TunnelRateLimiter
  | .setTunnelLimit tunnelId requestsPerSecond burstCapacity =>
      t.setTunnelLimit tunnelId requestsPerSecond burstCapacity
  | .allowRequest tunnelId created now => (t.allowRequest tunnelId created now).2
  | .removeTunnel tunnelId => t.removeTunnel tunnelId

/-- Whether a request is allowed; the other calls return nothing. -/
def result (t : TunnelRateLimiter) : Call → Option Bool
  | .allowRequest tunnelId created now => some (t.allowRequest tunnelId created now).1
  | .setTunnelLimit _ _ _ | .removeTunnel _ => none

/-- What the requests of a tunnel are answered in a run of all calls. -/
def decisions (t : TunnelRateLimiter) (tunnelId : Str) (calls : List Call) : List Bool :=
  (resultsOf step result (fun c => c.tunnelId = tunnelId) t calls).reduceOption

/-! ## What a tunnel sees -/

/-- The tunnel has the same limiter, or in both cases none, and the defaults are the same. -/
structure SameFor (tunnelId : Str) (t t' : TunnelRateLimiter) : Prop where
  rate : t.defaultRequestsPerSecond = t'.defaultRequestsPerSecond
  burst : t.defaultBurstCapacity = t'.defaultBurstCapacity
  limiter : t.limiters.lookup tunnelId = t'.limiters.lookup tunnelId

variable {t t' : TunnelRateLimiter} {tunnelId : Str} {c : Call}

theorem SameFor.limiterOf_eq (h : SameFor tunnelId t t') :
    t.limiterOf tunnelId = t'.limiterOf tunnelId := by
  rw [limiterOf, limiterOf, h.limiter, h.rate, h.burst]

theorem SameFor.result_eq (h : SameFor tunnelId t t') (hc : c.tunnelId = tunnelId) :
    t.result c = t'.result c := by
  subst hc
  cases c with
  | allowRequest id created now =>
      have hlimiter : t.limiterOf id = t'.limiterOf id := h.limiterOf_eq
      simp only [result, allowRequest, hlimiter]
  | setTunnelLimit | removeTunnel => rfl

theorem SameFor.step (h : SameFor tunnelId t t') (hc : c.tunnelId = tunnelId) :
    SameFor tunnelId (t.step c) (t'.step c) := by
  subst hc
  cases c with
  | allowRequest id created now =>
      have hlimiter : t.limiterOf id = t'.limiterOf id := h.limiterOf_eq
      refine ⟨h.rate, h.burst, ?_⟩
      simp only [TunnelRateLimiter.step, allowRequest, hlimiter, Call.tunnelId, AList.lookup_insert]
  | setTunnelLimit id requestsPerSecond burstCapacity =>
      refine ⟨h.rate, h.burst, ?_⟩
      simp only [TunnelRateLimiter.step, setTunnelLimit, Call.tunnelId, AList.lookup_insert]
  | removeTunnel id =>
      refine ⟨h.rate, h.burst, ?_⟩
      simp only [TunnelRateLimiter.step, removeTunnel, Call.tunnelId, AList.lookup_erase]

/-- A call for another tunnel is not seen. -/
theorem SameFor.step_other (h : SameFor tunnelId t t') (hc : c.tunnelId ≠ tunnelId) :
    SameFor tunnelId (t.step c) t' := by
  cases c with
  | allowRequest id created now =>
      have hid : tunnelId ≠ id := fun heq => hc heq.symm
      refine ⟨h.rate, h.burst, ?_⟩
      simp only [TunnelRateLimiter.step, allowRequest]
      rw [AList.lookup_insert_ne hid, h.limiter]
  | setTunnelLimit id requestsPerSecond burstCapacity =>
      have hid : tunnelId ≠ id := fun heq => hc heq.symm
      refine ⟨h.rate, h.burst, ?_⟩
      simp only [TunnelRateLimiter.step, setTunnelLimit]
      rw [AList.lookup_insert_ne hid, AList.lookup_erase_ne hid, h.limiter]
  | removeTunnel id =>
      have hid : tunnelId ≠ id := fun heq => hc heq.symm
      refine ⟨h.rate, h.burst, ?_⟩
      simp only [TunnelRateLimiter.step, removeTunnel]
      rw [AList.lookup_erase_ne hid, h.limiter]

/-- What the calls for a tunnel return in a run of all is what they return alone. -/
theorem resultsOf_tunnel (t : TunnelRateLimiter) (tunnelId : Str) (calls : List Call) :
    resultsOf step result (fun c => c.tunnelId = tunnelId) t calls =
      results step result t (calls.filter fun c => c.tunnelId = tunnelId) := by
  refine resultsOf_eq step result (SameFor tunnelId) ?_ ?_ ?_ ⟨rfl, rfl, rfl⟩ calls
  · intro t t' c h hc
    exact h.result_eq (by simpa using hc)
  · intro t t' c h hc
    exact h.step (by simpa using hc)
  · intro t t' c h hc
    exact h.step_other (by simpa using hc)

/-- **Tunnels do not share their rate budget**: the answers to the requests of a tunnel are those of
the run of the calls for this tunnel alone, at the same times. -/
theorem decisions_eq (t : TunnelRateLimiter) (tunnelId : Str) (calls : List Call) :
    t.decisions tunnelId calls =
      t.decisions tunnelId (calls.filter fun c => c.tunnelId = tunnelId) := by
  rw [decisions, decisions, resultsOf_tunnel, resultsOf_tunnel, List.filter_filter]
  simp only [Bool.and_self]

end TunnelRateLimiter
end Protogate.Security
