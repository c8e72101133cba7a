import Protogate.Lib.Timer
import Protogate.Security.DefaultContext
import Protogate.Storage.Cache

/-!
# The automatic reload of certificates

`start_auto_reload` schedules a reload, and the handler of the timer reloads all certificates and
schedules the next.  The handler takes its time, and it may be queued already when the reload is
stopped and started again; then there are two handlers, and the one that schedules last aborts
what the other has scheduled.  `start_auto_reload`, `stop_auto_reload` and `schedule_reload` are one
step each, so no two of them are taken to overlap.

The interval is converted to nanoseconds of 64 bits, and the time now is added to it; the sum does
not go past the end of the clock.

## Main definitions

* `AutoReload`, `ReloadEvent`, `reloadStep` — the manager with its timer.
* `Chained`, `auto_reload_chained` — while the reload is active the next one is under way.
* `AtLeast`, `reloads_spaced` — how often the certificates are reloaded.
-/

namespace Protogate.Security

open Protogate.Lib
open Protogate.Storage (IsInt64 int64 int64_of_isInt64)

/-! ## The manager and its timer -/

/-- The reload is in its handlers when it has begun and the next is not scheduled yet. -/
structure AutoReload where
  manager : TlsManager
  /-- Whether there is an IO context. -/
  ioContext : Bool
  reloadTimer : Option Timer
  active : Bool
  intervalMinutes : ℕ
  now : ℤ
  reloading : ℕ
  /-- The scheduled reloads that have begun so far. -/
  reloads : ℕ

/-- The nanoseconds of so many minutes. -/
def exactMinutes (n : ℕ) : ℤ := n * 60000000000

/-- The nanoseconds of a `std::chrono::minutes`, in 64 bits. -/
def minutes (n : ℕ) : ℤ := int64 (exactMinutes n)

/-- How far ahead `expires_after` sets a timer. -/
def capped (now duration : ℤ) : ℤ := min duration (2 ^ 63 - 1 - now)

namespace AutoReload

def init (manager : TlsManager) (ioContext : Bool) (now : ℤ) : AutoReload :=
  ⟨manager, ioContext, none, false, 60, now, 0, 0⟩

/-- `schedule_reload`. -/
def scheduleReload (s : AutoReload) : AutoReload :=
  if ! s.active then s
  else { s with
    reloadTimer := s.reloadTimer.map fun t => t.rearm s.now (capped s.now (minutes s.intervalMinutes)) }

/-- `start_auto_reload`. -/
def startAutoReload (s : AutoReload) (reloadIntervalMinutes : ℕ) : AutoReload :=
  if ! s.ioContext then s
  else if s.active then s
  else scheduleReload { s with
    intervalMinutes := reloadIntervalMinutes
    active := true
    reloadTimer := some (s.reloadTimer.getD Timer.new) }

/-- `stop_auto_reload`. -/
def stopAutoReload (s : AutoReload) : AutoReload :=
  if ! s.active then s
  else { s with active := false, reloadTimer := s.reloadTimer.map Timer.cancel }

/-- The event loop finds that the timer has expired. -/
def expire (s : AutoReload) : AutoReload :=
  { s with reloadTimer := s.reloadTimer.map fun t => t.expire s.now }

/-- The handler of `schedule_reload` is called, and goes as far as the certificates; `order` is
that of the domains, and `vaults` is Key Vault. -/
def onTimer (accepts : Str → Str → Bool) (s : AutoReload) (order : List Str) (vaults : Str → Vault) :
    AutoReload :=
  match s.reloadTimer with
  | none => s
  | some t =>
      if t.succeeded = 0 then s
      else if ! s.active then { s with reloadTimer := some t.takeSuccess }
      else { s with
        reloadTimer := some t.takeSuccess
        manager := (s.manager.reloadAllCertificates accepts vaults order).2
        reloading := s.reloading + 1
        reloads := s.reloads + 1 }

/-- The handler ends: it schedules the next reload. -/
def reloaded (s : AutoReload) : AutoReload :=
  if s.reloading = 0 then s else scheduleReload { s with reloading := s.reloading - 1 }

/-- The handler is called for a wait that was aborted. -/
def onAborted (s : AutoReload) : AutoReload :=
  { s with reloadTimer := s.reloadTimer.map Timer.takeAborted }

end AutoReload

/-! ## Runs -/

inductive ReloadAction
  | start (reloadIntervalMinutes : ℕ)
  | stop
  | expire
  | timer (order : List Str) (vaults : Str → Vault)
  | reloaded
  | aborted
  /-- A call of the manager by others. -/
  | call (c : TlsManager.Call)

/-- What happens, and how long after what happened before. -/
structure ReloadEvent where
  elapsed : ℕ
  action : ReloadAction

namespace AutoReload

def wait (s : AutoReload) (elapsed : ℕ) : AutoReload := { s with now := s.now + elapsed }

def perform (accepts : Str → Str → Bool) (s : AutoReload) : ReloadAction → AutoReload
  | .start reloadIntervalMinutes => s.startAutoReload reloadIntervalMinutes
  | .stop => s.stopAutoReload
  | .expire => s.expire
  | .timer order vaults => s.onTimer accepts order vaults
  | .reloaded => s.reloaded
  | .aborted => s.onAborted
  | .call c => { s with manager := TlsManager.after accepts s.manager c }

end AutoReload

def reloadStep (accepts : Str → Str → Bool) (s : AutoReload) (e : ReloadEvent) : AutoReload :=
  (s.wait e.elapsed).perform accepts e.action

/-! ## The next reload is under way -/

/-- At most one wait is pending, and none while the reload is not active; while it is, a wait is
pending, its handler is queued, or a reload is being made. -/
structure Chained (s : AutoReload) : Prop where
  once : ∀ t, s.reloadTimer = some t → t.pending ≤ 1
  rests : s.active = false → ∀ t, s.reloadTimer = some t → t.pending = 0
  alive : s.active = true → ∃ t, s.reloadTimer = some t ∧ 0 < t.pending + t.succeeded + s.reloading

section
variable {accepts : Str → Str → Bool} {s : AutoReload}

theorem chained_init (manager : TlsManager) (ioContext : Bool) (now : ℤ) :
    Chained (.init manager ioContext now) where
  once := by simp [AutoReload.init]
  rests := by simp [AutoReload.init]
  alive := by simp [AutoReload.init]

/-- What is scheduled is pending. -/
theorem chained_scheduleReload (hactive : s.active = true) {t : Timer} (ht : s.reloadTimer = some t) :
    Chained s.scheduleReload := by
  have hs : s.scheduleReload =
      { s with reloadTimer := some (t.rearm s.now (capped s.now (minutes s.intervalMinutes))) } := by
    simp [AutoReload.scheduleReload, hactive, ht]
  rw [hs]
  refine ⟨?_, ?_, fun _ => ⟨_, rfl, ?_⟩⟩
  · rintro _ ⟨⟩
    simp
  · simp [hactive]
  · simp

theorem chained_wait (H : Chained s) (elapsed : ℕ) : Chained (s.wait elapsed) :=
  ⟨H.once, H.rests, H.alive⟩

theorem Chained.start (H : Chained s) (n : ℕ) : Chained (s.startAutoReload n) := by
  rw [AutoReload.startAutoReload]
  split
  · exact H
  · split
    · exact H
    · exact chained_scheduleReload rfl rfl

theorem Chained.stop (H : Chained s) : Chained s.stopAutoReload := by
  rw [AutoReload.stopAutoReload]
  split
  · exact H
  · refine ⟨?_, ?_, by simp⟩
    · intro t ht
      obtain ⟨_, _, rfl⟩ := Option.map_eq_some_iff.mp ht
      simp
    · intro _ t ht
      obtain ⟨_, _, rfl⟩ := Option.map_eq_some_iff.mp ht
      simp

theorem Chained.expire (H : Chained s) : Chained s.expire := by
  have hpending : ∀ t : Timer, (t.expire s.now).pending ≤ t.pending := by
    intro t
    obtain h | ⟨_, h, _, _⟩ := t.expire_cases s.now
    · rw [h]
    · omega
  refine ⟨?_, ?_, ?_⟩
  · intro t' ht'
    obtain ⟨t, ht, rfl⟩ := Option.map_eq_some_iff.mp ht'
    exact (hpending t).trans (H.once t ht)
  · intro hactive t' ht'
    obtain ⟨t, ht, rfl⟩ := Option.map_eq_some_iff.mp ht'
    have hzero := H.rests hactive t ht
    have hle := hpending t
    omega
  · intro hactive
    obtain ⟨t, ht, halive⟩ := H.alive hactive
    refine ⟨t.expire s.now, by simp [AutoReload.expire, ht], ?_⟩
    show 0 < (t.expire s.now).pending + (t.expire s.now).succeeded + s.reloading
    rw [t.pending_add_succeeded_expire]
    exact halive

theorem Chained.timer (H : Chained s) (order : List Str) (vaults : Str → Vault) :
    Chained (s.onTimer accepts order vaults) := by
  rw [AutoReload.onTimer]
  split
  · exact H
  · rename_i t ht
    split
    · exact H
    · rename_i hsucceeded
      split
      · rename_i hactive
        simp only [Bool.not_eq_true'] at hactive
        refine ⟨?_, ?_, ?_⟩
        · rintro _ ⟨⟩
          exact H.once t ht
        · rintro _ _ ⟨⟩
          exact H.rests hactive t ht
        · simp [hactive]
      · rename_i hactive
        simp only [Bool.not_eq_true', Bool.not_eq_false] at hactive
        refine ⟨?_, ?_, fun _ => ⟨_, rfl, ?_⟩⟩
        · rintro _ ⟨⟩
          exact H.once t ht
        · simp [hactive]
        · dsimp only
          omega

theorem Chained.reloaded (H : Chained s) : Chained s.reloaded := by
  rw [AutoReload.reloaded]
  split
  · exact H
  · by_cases hactive : s.active = true
    · obtain ⟨t, ht, _⟩ := H.alive hactive
      exact chained_scheduleReload (t := t) hactive ht
    · rw [Bool.not_eq_true] at hactive
      simp only [AutoReload.scheduleReload, hactive, Bool.not_false, if_true]
      exact ⟨H.once, fun _ => H.rests hactive, by simp⟩

theorem Chained.aborted (H : Chained s) : Chained s.onAborted := by
  refine ⟨?_, ?_, ?_⟩
  · intro t' ht'
    obtain ⟨t, ht, rfl⟩ := Option.map_eq_some_iff.mp ht'
    exact H.once t ht
  · intro hactive t' ht'
    obtain ⟨t, ht, rfl⟩ := Option.map_eq_some_iff.mp ht'
    exact H.rests hactive t ht
  · intro hactive
    obtain ⟨t, ht, halive⟩ := H.alive hactive
    exact ⟨t.takeAborted, by simp [AutoReload.onAborted, ht], halive⟩

theorem chained_step (s : AutoReload) (e : ReloadEvent) (H : Chained s) :
    Chained (reloadStep accepts s e) := by
  have hwait := chained_wait H e.elapsed
  rw [reloadStep]
  cases e.action with
  | start n => exact hwait.start n
  | stop => exact hwait.stop
  | expire => exact hwait.expire
  | timer order vaults => exact hwait.timer order vaults
  | reloaded => exact hwait.reloaded
  | aborted => exact hwait.aborted
  | call c => exact ⟨hwait.once, hwait.rests, hwait.alive⟩

end

/-- **The reload neither dies nor doubles**, however it is stopped and started again while its
handlers are queued or at work. -/
theorem auto_reload_chained (accepts : Str → Str → Bool) (manager : TlsManager) (ioContext : Bool)
    (now : ℤ) (evs : List ReloadEvent) :
    Always (reloadStep accepts) Chained (.init manager ioContext now) evs :=
  always_of_invariant (C := fun _ _ => True) _ (fun s e H _ => chained_step s e H)
    (chained_init manager ioContext now) (along_const_iff.mpr fun _ _ => trivial)

/-! ## Reloads are apart -/

/-- The clock counts as far as to this time and so many nanoseconds more, and these fit too. -/
def Reaches (now duration : ℤ) : Prop := IsInt64 duration ∧ IsInt64 (now + duration)

instance (now duration : ℤ) : Decidable (Reaches now duration) := inferInstanceAs (Decidable (_ ∧ _))

/-- The reload is not started with a shorter interval, and the clock counts as far as each interval
reaches. -/
def AtLeast (gap : ℕ) (s : AutoReload) (e : ReloadEvent) : Prop :=
  match e.action with
  | .start n => gap ≤ n ∧ Reaches (s.wait e.elapsed).now (exactMinutes n)
  | .reloaded => Reaches (s.wait e.elapsed).now (exactMinutes s.intervalMinutes)
  | _ => True

instance (gap : ℕ) (s : AutoReload) (e : ReloadEvent) : Decidable (AtLeast gap s e) := by
  unfold AtLeast
  split <;> infer_instance

/-- Each reload comes from an expiration of its own, and these are apart. -/
structure Spaced (origin : ℤ) (gap : ℕ) (s : AutoReload) : Prop where
  started : origin ≤ s.now
  interval : s.active = true → gap ≤ s.intervalMinutes
  timer : ∀ t, s.reloadTimer = some t →
    t.Paced origin (exactMinutes gap) s.now ∧ s.reloads + t.succeeded ≤ t.expirations
  first : s.reloadTimer = none → s.reloads = 0

section
variable {accepts : Str → Str → Bool} {s : AutoReload} {origin : ℤ} {gap : ℕ}

/-- An interval that the clock can count is waited for. -/
theorem exactMinutes_le_capped {n : ℕ} {now : ℤ} (h : gap ≤ n) (hreaches : Reaches now (exactMinutes n)) :
    exactMinutes gap ≤ capped now (minutes n) := by
  obtain ⟨hfits, _, hhigh⟩ := hreaches
  have hle : exactMinutes gap ≤ exactMinutes n := by
    rw [exactMinutes, exactMinutes]
    omega
  rw [capped, minutes, int64_of_isInt64 hfits, le_min_iff]
  exact ⟨hle, by omega⟩

theorem Spaced.wait (H : Spaced origin gap s) (elapsed : ℕ) : Spaced origin gap (s.wait elapsed) where
  started := by
    have := H.started
    simp only [AutoReload.wait]
    omega
  interval := H.interval
  timer := by
    intro t ht
    obtain ⟨hpaced, hcount⟩ := H.timer t ht
    exact ⟨hpaced.later (by simp [AutoReload.wait]), hcount⟩
  first := H.first

/-- What is done to the timer without calling a handler keeps them apart. -/
theorem Spaced.map (H : Spaced origin gap s) {f : Timer → Timer}
    (hpaced : ∀ t, t.Paced origin (exactMinutes gap) s.now → (f t).Paced origin (exactMinutes gap) s.now)
    (hcount : ∀ t : Timer, s.reloads + t.succeeded ≤ t.expirations →
      s.reloads + (f t).succeeded ≤ (f t).expirations) :
    Spaced origin gap { s with reloadTimer := s.reloadTimer.map f } where
  started := H.started
  interval := H.interval
  timer := by
    intro t' ht'
    obtain ⟨t, ht, rfl⟩ := Option.map_eq_some_iff.mp ht'
    exact ⟨hpaced t (H.timer t ht).1, hcount t (H.timer t ht).2⟩
  first := fun hnone => H.first (Option.map_eq_none_iff.mp hnone)

theorem Spaced.scheduleReload (H : Spaced origin gap s)
    (hreaches : s.active = true → Reaches s.now (exactMinutes s.intervalMinutes)) :
    Spaced origin gap s.scheduleReload := by
  rw [AutoReload.scheduleReload]
  split
  · exact H
  · rename_i hactive
    simp only [Bool.not_eq_true', Bool.not_eq_false] at hactive
    have hcapped := exactMinutes_le_capped (H.interval hactive) (hreaches hactive)
    exact H.map (fun t ht => ht.rearm hcapped) fun t ht => by simpa using ht

theorem Spaced.start (H : Spaced origin gap s) {n : ℕ} (hn : gap ≤ n)
    (hreaches : Reaches s.now (exactMinutes n)) : Spaced origin gap (s.startAutoReload n) := by
  rw [AutoReload.startAutoReload]
  split
  · exact H
  · split
    · exact H
    · refine Spaced.scheduleReload ?_ fun _ => hreaches
      refine ⟨H.started, fun _ => hn, ?_, by simp⟩
      rintro _ ⟨⟩
      cases ht : s.reloadTimer with
      | none =>
          refine ⟨Timer.Paced.new H.started, ?_⟩
          simp [H.first ht, Timer.new]
      | some t => exact H.timer t ht

theorem Spaced.stop (H : Spaced origin gap s) : Spaced origin gap s.stopAutoReload := by
  rw [AutoReload.stopAutoReload]
  split
  · exact H
  · have hcancelled := H.map (fun t ht => ht.cancel) fun t ht => by simpa using ht
    exact ⟨hcancelled.started, by simp, hcancelled.timer, hcancelled.first⟩

theorem Spaced.expire (H : Spaced origin gap s) : Spaced origin gap s.expire := by
  refine H.map (fun t ht => ht.expire) fun t ht => ?_
  obtain h | ⟨_, _, hsucceeded, hexpirations⟩ := t.expire_cases s.now
  · rw [h]
    exact ht
  · omega

theorem Spaced.onTimer (H : Spaced origin gap s) (order : List Str) (vaults : Str → Vault) :
    Spaced origin gap (s.onTimer accepts order vaults) := by
  rw [AutoReload.onTimer]
  split
  · exact H
  · rename_i t ht
    obtain ⟨hpaced, hcount⟩ := H.timer t ht
    split
    · exact H
    · split
      · refine ⟨H.started, H.interval, ?_, by simp⟩
        rintro _ ⟨⟩
        refine ⟨hpaced.takeSuccess, ?_⟩
        simp only [Timer.succeeded_takeSuccess, Timer.expirations_takeSuccess]
        omega
      · refine ⟨H.started, H.interval, ?_, by simp⟩
        rintro _ ⟨⟩
        refine ⟨hpaced.takeSuccess, ?_⟩
        simp only [Timer.succeeded_takeSuccess, Timer.expirations_takeSuccess]
        omega

theorem spaced_step (s : AutoReload) (e : ReloadEvent) (H : Spaced origin gap s) (he : AtLeast gap s e) :
    Spaced origin gap (reloadStep accepts s e) := by
  have hwait := H.wait e.elapsed
  rw [AtLeast] at he
  rw [reloadStep]
  cases haction : e.action with
  | start n =>
      rw [haction] at he
      exact hwait.start he.1 he.2
  | stop => exact hwait.stop
  | expire => exact hwait.expire
  | timer order vaults => exact hwait.onTimer order vaults
  | reloaded =>
      rw [haction] at he
      simp only [AutoReload.perform, AutoReload.reloaded]
      split
      · exact hwait
      · exact Spaced.scheduleReload ⟨hwait.started, hwait.interval, hwait.timer, hwait.first⟩ fun _ => he
  | aborted => exact hwait.map (fun t ht => ht.takeAborted) fun t ht => by simpa using ht
  | call c => exact ⟨hwait.started, hwait.interval, hwait.timer, hwait.first⟩

theorem Spaced.reloads_le (H : Spaced origin gap s) : s.reloads * exactMinutes gap ≤ s.now - origin := by
  cases ht : s.reloadTimer with
  | none =>
      have hstarted := H.started
      simp only [H.first ht, Nat.cast_zero, zero_mul]
      omega
  | some t =>
      obtain ⟨hpaced, hcount⟩ := H.timer t ht
      have hgap : 0 ≤ exactMinutes gap := by simp [exactMinutes]
      have hle : (s.reloads : ℤ) * exactMinutes gap ≤ t.expirations * exactMinutes gap :=
        mul_le_mul_of_nonneg_right (by omega) hgap
      have hpast := hpaced.apart
      omega

end

/-- **Certificates are not reloaded more often than once in each interval**, however often the
reload is stopped and started again, as long as the clock counts that far. -/
theorem reloads_spaced (accepts : Str → Str → Bool) (manager : TlsManager) (ioContext : Bool)
    (origin : ℤ) (gap : ℕ) (evs : List ReloadEvent)
    (H : Along (reloadStep accepts) (AtLeast gap) (.init manager ioContext origin) evs) :
    Always (reloadStep accepts) (fun s => s.reloads * exactMinutes gap ≤ s.now - origin)
      (.init manager ioContext origin) evs := by
  have hinit : Spaced origin gap (.init manager ioContext origin) := by
    refine ⟨le_rfl, ?_, ?_, fun _ => rfl⟩ <;> simp [AutoReload.init]
  exact Always.imp (fun _ hs => hs.reloads_le) (always_of_invariant _ spaced_step hinit H)

/-- Reloads every minute, stopped and started again while the first is being made. -/
def sampleReloads : List ReloadEvent :=
  [⟨0, .start 1⟩, ⟨60000000000, .expire⟩, ⟨0, .timer [] fun _ _ => none⟩, ⟨1, .stop⟩, ⟨1, .start 1⟩,
    ⟨1, .reloaded⟩, ⟨60000000000, .expire⟩, ⟨0, .aborted⟩, ⟨0, .timer [] fun _ _ => none⟩]

theorem reloads_spaced_sample :
    Always (reloadStep fun _ _ => true) (fun s => s.reloads * exactMinutes 1 ≤ s.now - 0)
      (.init (TlsManager.new []) true 0) sampleReloads :=
  reloads_spaced (fun _ _ => true) (TlsManager.new []) true 0 1 sampleReloads (by decide)

end Protogate.Security
