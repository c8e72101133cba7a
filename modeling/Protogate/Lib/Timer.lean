import Mathlib.Data.Int.Basic
import Mathlib.Tactic.Ring

/-!
# Timers of an event loop

A timer has an expiry and waits that are pending until then.  Whoever sets the expiry, or
cancels, ends the pending waits as aborted; once the expiry has passed they end with success.  A
wait that has ended is queued for its handler, and what is done to the timer afterwards does not
change how it ended.

## Main definitions

* `Timer`, and its operations `expiresAfter`, `cancel`, `asyncWait`, `expire`, `takeSuccess`.
* `Timer.rearm` — the expiry is set and one wait started.
* `Timer.Paced` — a timer that is only rearmed, and not for less than `gap`, has not expired more
  often than once in each `gap`.
-/

namespace Protogate.Lib

/-- The waits of a timer; all have the same handler, so they are counted. -/
structure Timer where
  expiry : ℤ
  pending : ℕ
  /-- Those that have ended with success and are queued. -/
  succeeded : ℕ
  /-- Those that were aborted and are queued. -/
  aborted : ℕ
  /-- How many have ended with success so far. -/
  expirations : ℕ
  deriving DecidableEq, Repr

namespace Timer

def new : Timer := ⟨0, 0, 0, 0, 0⟩

def cancel (t : Timer) : Timer := { t with pending := 0, aborted := t.aborted + t.pending }

def expiresAfter (t : Timer) (now duration : ℤ) : Timer := { t.cancel with expiry := now + duration }

def asyncWait (t : Timer) : Timer := { t with pending := t.pending + 1 }

/-- What the event loop does with the timer. -/
def expire (t : Timer) (now : ℤ) : Timer :=
  if t.expiry ≤ now then
    { t with
      pending := 0
      succeeded := t.succeeded + t.pending
      expirations := t.expirations + t.pending }
  else t

/-- The handler of a wait that has succeeded is called. -/
def takeSuccess (t : Timer) : Timer := { t with succeeded := t.succeeded - 1 }

/-- The handler of a wait that was aborted is called. -/
def takeAborted (t : Timer) : Timer := { t with aborted := t.aborted - 1 }

def rearm (t : Timer) (now duration : ℤ) : Timer := (t.expiresAfter now duration).asyncWait

section
variable (t : Timer) (now duration : ℤ)

@[simp] theorem pending_cancel : t.cancel.pending = 0 := rfl
@[simp] theorem succeeded_cancel : t.cancel.succeeded = t.succeeded := rfl
@[simp] theorem expirations_cancel : t.cancel.expirations = t.expirations := rfl

@[simp] theorem expiry_rearm : (t.rearm now duration).expiry = now + duration := rfl
@[simp] theorem pending_rearm : (t.rearm now duration).pending = 1 := rfl
@[simp] theorem succeeded_rearm : (t.rearm now duration).succeeded = t.succeeded := rfl
@[simp] theorem expirations_rearm : (t.rearm now duration).expirations = t.expirations := rfl

@[simp] theorem pending_takeSuccess : t.takeSuccess.pending = t.pending := rfl
@[simp] theorem succeeded_takeSuccess : t.takeSuccess.succeeded = t.succeeded - 1 := rfl
@[simp] theorem expirations_takeSuccess : t.takeSuccess.expirations = t.expirations := rfl

@[simp] theorem pending_takeAborted : t.takeAborted.pending = t.pending := rfl
@[simp] theorem succeeded_takeAborted : t.takeAborted.succeeded = t.succeeded := rfl
@[simp] theorem expirations_takeAborted : t.takeAborted.expirations = t.expirations := rfl

/-- The loop ends the pending waits, or leaves the timer as it is. -/
theorem expire_cases : t.expire now = t ∨ t.expiry ≤ now ∧ (t.expire now).pending = 0 ∧
    (t.expire now).succeeded = t.succeeded + t.pending ∧
    (t.expire now).expirations = t.expirations + t.pending := by
  by_cases h : t.expiry ≤ now
  · right
    simp [expire, h]
  · left
    simp [expire, h]

/-- No wait is lost by the loop. -/
theorem pending_add_succeeded_expire :
    (t.expire now).pending + (t.expire now).succeeded = t.pending + t.succeeded := by
  obtain h | ⟨_, hpending, hsucceeded, _⟩ := t.expire_cases now
  · rw [h]
  · omega

end

/-! ## Expirations are apart -/

/-- Since `start` the timer has not expired more often than once in each `gap`, and what is pending
keeps to it. -/
structure Paced (start gap now : ℤ) (t : Timer) : Prop where
  once : t.pending ≤ 1
  apart : start + t.expirations * gap ≤ now
  next : t.pending = 1 → start + (t.expirations + 1) * gap ≤ t.expiry

namespace Paced
variable {start gap now : ℤ} {t : Timer}

theorem new (h : start ≤ now) : Paced start gap now Timer.new where
  once := by simp [Timer.new]
  apart := by simpa [Timer.new] using h
  next := by simp [Timer.new]

theorem later (H : Paced start gap now t) {now' : ℤ} (h : now ≤ now') : Paced start gap now' t where
  once := H.once
  apart := le_trans H.apart h
  next := H.next

theorem cancel (H : Paced start gap now t) : Paced start gap now t.cancel where
  once := by simp
  apart := H.apart
  next := by simp

theorem rearm (H : Paced start gap now t) {duration : ℤ} (h : gap ≤ duration) :
    Paced start gap now (t.rearm now duration) where
  once := by simp
  apart := H.apart
  next := by
    intro _
    have hpast := H.apart
    rw [expiry_rearm, expirations_rearm, add_mul, one_mul]
    omega

theorem expire (H : Paced start gap now t) : Paced start gap now (t.expire now) := by
  obtain hsame | ⟨hpassed, hpending, _, hexpirations⟩ := t.expire_cases now
  · rw [hsame]
    exact H
  · refine ⟨by omega, ?_, by omega⟩
    rw [hexpirations]
    obtain hnone | hone : t.pending = 0 ∨ t.pending = 1 := by
      have honce := H.once
      omega
    · rw [hnone]
      exact H.apart
    · -- the wait that ends was not due before
      have hnext := H.next hone
      rw [hone, Nat.cast_add, Nat.cast_one]
      omega

theorem takeSuccess (H : Paced start gap now t) : Paced start gap now t.takeSuccess where
  once := H.once
  apart := H.apart
  next := H.next

theorem takeAborted (H : Paced start gap now t) : Paced start gap now t.takeAborted where
  once := H.once
  apart := H.apart
  next := H.next

end Paced
end Timer
end Protogate.Lib
