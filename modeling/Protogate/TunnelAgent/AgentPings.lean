import Protogate.TunnelAgent.RunAgent
import Mathlib.Data.List.Chain

/-!
# The spacing of the agent's PINGs

`should_send_ping` compares the clock with `last_ping_time_`, which only `start` sets.
A check sends a PING exactly if the interval has passed since the start of the session:
no check is late for its PING, but after the first one every check sends another.

## Main definitions

* `PingsSpaced` — the PINGs of a session are an interval apart.
* `Prompt` — a check sends a PING when it is due.
* `Sparse` — a check does not follow too soon on one that was due.
* `pings_spaced_iff` — runs keep their PINGs apart exactly if their checks are sparse.
-/

namespace Protogate.TunnelAgent

open Protogate.Lib

/-- `heartbeat_interval_seconds`, in nanoseconds. -/
def CheckedConfig.interval (c : CheckedConfig) : ℕ :=
  c.config.health.heartbeatIntervalSeconds.toNat * 1000 * millisecond

/-- The `interval_ms` of the manager. -/
def CheckedConfig.intervalMs (c : CheckedConfig) : ℤ :=
  toInt (c.config.health.heartbeatIntervalSeconds * 1000)

variable (c : CheckedConfig)

/-- The interval has passed at `now` since the start of the session. -/
def Due (start now : ℕ) : Prop := elapsedMs start now ≥ c.intervalMs

instance (start now : ℕ) : Decidable (Due c start now) :=
  inferInstanceAs (Decidable (elapsedMs start now ≥ c.intervalMs))

/-- Consecutive PINGs of the session are an interval apart. -/
def PingsSpaced (a : RunAgent) : Prop := a.pings.IsChain fun p q => p + c.interval ≤ q

instance (a : RunAgent) : Decidable (PingsSpaced c a) :=
  inferInstanceAs (Decidable (a.pings.IsChain fun p q => p + c.interval ≤ q))

/-- A check at least an interval after the last PING, or the start, sends a PING. -/
def Prompt (a : RunAgent) (e : ℕ × RunEvent) : Prop :=
  match e.2 with
  | .check _ _ => (a.wait e.1).Checks →
      a.pings.getLast?.getD a.sessionStart + c.interval ≤ a.clock + e.1 →
        (runAgentStep a e).pings = a.pings ++ [a.clock + e.1]
  | _ => True

/-- No check that is due follows within an interval on another that was due. -/
def Sparse (a : RunAgent) (e : ℕ × RunEvent) : Prop :=
  match e.2 with
  | .check _ _ => (a.wait e.1).Checks → Due c a.sessionStart (a.clock + e.1) →
      ∀ t ∈ a.lastCheck, Due c a.sessionStart t → t + c.interval ≤ a.clock + e.1
  | _ => True

/-! ## When a PING is sent -/

/-- What a run knows of the heartbeat: in a session the interval counts from its start, and the
last PING is the last check if that was due. -/
structure PingInv (a : RunAgent) : Prop where
  interval : a.heartbeat.intervalMs = c.intervalMs
  session : a.phase = .session → a.heartbeat.started = true ∧ a.heartbeat.lastPingTime = a.sessionStart
  start_le : a.sessionStart ≤ a.clock
  lastCheck_le : ∀ t ∈ a.lastCheck, a.sessionStart ≤ t ∧ t ≤ a.clock
  lastPing : a.pings.getLast? = a.lastCheck.filter fun t => decide (Due c a.sessionStart t)

variable {c}

theorem Due.mono {start s t : ℕ} (h : Due c start s) (hst : s ≤ t) : Due c start t := by
  have hle : elapsedMs start s ≤ elapsedMs start t := by
    rw [elapsedMs, elapsedMs, Nat.cast_le]
    exact Nat.div_le_div_right (by omega)
  exact le_trans h hle

/-- An interval after the start, a PING is due. -/
theorem due_of_interval {start now : ℕ} (h : start + c.interval ≤ now) : Due c start now := by
  have hpos := c.heartbeat.1
  rw [CheckedConfig.interval] at h
  have hms : c.config.health.heartbeatIntervalSeconds.toNat * 1000 ≤ (now - start) / millisecond := by
    rw [Nat.le_div_iff_mul_le (by decide)]
    omega
  have hint : c.intervalMs ≤ c.config.health.heartbeatIntervalSeconds * 1000 := by
    rw [CheckedConfig.intervalMs, toInt, Int.bmod_def]
    split <;> omega
  have hcast : c.config.health.heartbeatIntervalSeconds * 1000 ≤ elapsedMs start now := by
    rw [elapsedMs]
    omega
  exact hint.trans hcast

variable {a : RunAgent}

theorem PingInv.shouldSendPing_iff (H : PingInv c a) (h : a.phase = .session) :
    a.heartbeat.shouldSendPing a.clock = true ↔ Due c a.sessionStart a.clock := by
  obtain ⟨hstarted, hlast⟩ := H.session h
  simp [HeartbeatManager.shouldSendPing, hstarted, hlast, H.interval, Due]

/-- A check sends a PING exactly if it is due. -/
theorem PingInv.pings_check (H : PingInv c a) (h : a.Checks) (pingSent eventsSent : Bool) :
    (a.heartbeatCheck pingSent eventsSent).pings
      = if Due c a.sessionStart a.clock then a.pings ++ [a.clock] else a.pings := by
  rw [RunAgent.heartbeatCheck, if_pos h]
  by_cases hdue : Due c a.sessionStart a.clock
  · have hsend := (H.shouldSendPing_iff h.1).mpr hdue
    simp only [hsend, if_true, if_pos hdue]
    split <;> rfl
  · have hsend : a.heartbeat.shouldSendPing a.clock = false := by
      rw [Bool.eq_false_iff]
      exact fun h' => hdue ((H.shouldSendPing_iff h.1).mp h')
    simp only [hsend, Bool.false_eq_true, if_false, if_neg hdue]
    split <;> rfl

/-- What a check does not change. -/
theorem heartbeatCheck_frame (h : a.Checks) (pingSent eventsSent : Bool) :
    let a' := a.heartbeatCheck pingSent eventsSent
    a'.heartbeat = a.heartbeat ∧ a'.phase = a.phase ∧ a'.sessionStart = a.sessionStart ∧
      a'.clock = a.clock ∧ a'.lastCheck = some a.clock := by
  simp only [RunAgent.heartbeatCheck, if_pos h, RunAgent.sendPing]
  split <;> split <;> exact ⟨rfl, rfl, rfl, rfl, rfl⟩

theorem PingInv.wait (H : PingInv c a) (delay : ℕ) : PingInv c (a.wait delay) where
  interval := H.interval
  session := H.session
  start_le := H.start_le.trans (Nat.le_add_right _ _)
  lastCheck_le := fun t ht => ⟨(H.lastCheck_le t ht).1, (H.lastCheck_le t ht).2.trans (Nat.le_add_right _ _)⟩
  lastPing := H.lastPing

theorem PingInv.check (H : PingInv c a) (h : a.Checks) (pingSent eventsSent : Bool) :
    PingInv c (a.heartbeatCheck pingSent eventsSent) := by
  obtain ⟨hheartbeat, hphase, hstart, hclock, hcheck⟩ := heartbeatCheck_frame h pingSent eventsSent
  constructor
  · rw [hheartbeat]
    exact H.interval
  · rw [hheartbeat, hphase, hstart]
    exact H.session
  · rw [hstart, hclock]
    exact H.start_le
  · rw [hcheck, hstart, hclock]
    intro t ht
    cases ht
    exact ⟨H.start_le, le_rfl⟩
  · rw [hcheck, hstart, H.pings_check h]
    by_cases hdue : Due c a.sessionStart a.clock
    · simp [hdue, Option.filter]
    · -- nothing before was due either
      rw [if_neg hdue, H.lastPing]
      have hnone : a.lastCheck.filter (fun t => decide (Due c a.sessionStart t)) = none := by
        rw [Option.filter_eq_none_iff]
        intro t ht hdue'
        exact hdue ((of_decide_eq_true hdue').mono (H.lastCheck_le t ht).2)
      rw [hnone]
      simp [hdue, Option.filter]

/-- The record of the session is kept. -/
structure SameRecord (a b : RunAgent) : Prop where
  intervalMs : b.heartbeat.intervalMs = a.heartbeat.intervalMs
  sessionStart : b.sessionStart = a.sessionStart
  clock : b.clock = a.clock
  lastCheck : b.lastCheck = a.lastCheck
  pings : b.pings = a.pings

theorem PingInv.congr (H : PingInv c a) {b : RunAgent} (h : SameRecord a b)
    (hsession : b.phase = .session →
      b.heartbeat.started = true ∧ b.heartbeat.lastPingTime = b.sessionStart) : PingInv c b where
  interval := h.intervalMs.trans H.interval
  session := hsession
  start_le := by
    rw [h.sessionStart, h.clock]
    exact H.start_le
  lastCheck_le := by
    rw [h.sessionStart, h.clock, h.lastCheck]
    exact H.lastCheck_le
  lastPing := by
    rw [h.pings, h.lastCheck, h.sessionStart]
    exact H.lastPing

theorem PingInv.started (H : PingInv c a) : PingInv c a.started where
  interval := H.interval
  session := fun _ => ⟨rfl, rfl⟩
  start_le := le_rfl
  lastCheck_le := fun t ht => by cases ht
  lastPing := rfl

/-- After an attempt the main thread is not in a session. -/
theorem loopHead_record (a : RunAgent) : SameRecord a a.loopHead ∧ a.loopHead.phase ≠ .session := by
  rw [RunAgent.loopHead]
  split
  · exact ⟨⟨rfl, rfl, rfl, rfl, rfl⟩, by simp⟩
  · exact ⟨⟨rfl, rfl, rfl, rfl, rfl⟩, by simp⟩

theorem afterAttempt_record (a : RunAgent) :
    SameRecord a a.afterAttempt ∧ a.afterAttempt.phase ≠ .session := by
  rw [RunAgent.afterAttempt]
  split
  · exact ⟨⟨rfl, rfl, rfl, rfl, rfl⟩, by simp⟩
  · exact loopHead_record a

theorem terminated_record (a : RunAgent) : SameRecord a a.terminated ∧ a.terminated.phase ≠ .session :=
  ⟨⟨rfl, rfl, rfl, rfl, rfl⟩, by simp [RunAgent.terminated]⟩

theorem PingInv.handle (H : PingInv c a) (e : RunEvent) : PingInv c (a.handle e) := by
  have hkeep : ∀ b : RunAgent, SameRecord a b ∧ b.phase ≠ .session → PingInv c b :=
    fun b h => H.congr h.1 fun hphase => absurd hphase h.2
  cases e with
  | signal => exact H.congr ⟨rfl, rfl, rfl, rfl, rfl⟩ H.session
  | attemptFailed printed =>
      simp only [RunAgent.handle]
      split
      · split
        · have hafter := afterAttempt_record { a with failures := a.failures + 1 }
          exact hkeep _ ⟨⟨hafter.1.1, hafter.1.2, hafter.1.3, hafter.1.4, hafter.1.5⟩, hafter.2⟩
        · exact hkeep _ (terminated_record a)
      · exact H
  | attemptStarted =>
      simp only [RunAgent.handle]
      split
      · exact H.started
      · exact H
  | check pingSent eventsSent =>
      by_cases h : a.Checks
      · exact H.check h pingSent eventsSent
      · rw [RunAgent.handle, RunAgent.heartbeatCheck, if_neg h]
        exact H
  | pingAck =>
      simp only [RunAgent.handle]
      split
      · exact H.congr ⟨rfl, rfl, rfl, rfl, rfl⟩ H.session
      · exact H
  | sessionLost =>
      simp only [RunAgent.handle]
      split
      · exact H.congr ⟨rfl, rfl, rfl, rfl, rfl⟩ H.session
      · exact H
  | handlerThrew =>
      simp only [RunAgent.handle]
      split
      · exact hkeep _ (terminated_record a)
      · exact H
  | poll =>
      simp only [RunAgent.handle]
      split
      · have hafter := afterAttempt_record a.endSession
        exact hkeep _ ⟨⟨hafter.1.1, hafter.1.2, hafter.1.3, hafter.1.4, hafter.1.5⟩, hafter.2⟩
      · exact H
  | wake =>
      simp only [RunAgent.handle]
      split
      · split
        · exact hkeep _ (loopHead_record a)
        · exact H
      · exact H

theorem PingInv.step (H : PingInv c a) (e : ℕ × RunEvent) : PingInv c (runAgentStep a e) :=
  (H.wait e.1).handle e.2

theorem pingInv_init (c : CheckedConfig) : PingInv c (RunAgent.init c) where
  interval := rfl
  session := fun h => by cases h
  start_le := le_rfl
  lastCheck_le := fun t ht => by cases ht
  lastPing := rfl

/-! ## Spacing -/

/-- Other events leave the PINGs, or start a session without any. -/
theorem pings_handle (a : RunAgent) {e : RunEvent} (h : ∀ x y, e ≠ .check x y) :
    (a.handle e).pings = a.pings ∨ (a.handle e).pings = [] := by
  cases e with
  | signal => exact .inl rfl
  | attemptFailed printed =>
      simp only [RunAgent.handle]
      split
      · split
        · exact .inl (afterAttempt_record { a with failures := a.failures + 1 }).1.pings
        · exact .inl rfl
      · exact .inl rfl
  | attemptStarted =>
      simp only [RunAgent.handle]
      split
      · exact .inr rfl
      · exact .inl rfl
  | check x y => exact absurd rfl (h x y)
  | pingAck =>
      simp only [RunAgent.handle]
      split <;> exact .inl rfl
  | sessionLost =>
      simp only [RunAgent.handle]
      split <;> exact .inl rfl
  | handlerThrew =>
      simp only [RunAgent.handle]
      split <;> exact .inl rfl
  | poll =>
      simp only [RunAgent.handle]
      split
      · exact .inl (afterAttempt_record a.endSession).1.pings
      · exact .inl rfl
  | wake =>
      simp only [RunAgent.handle]
      split
      · split
        · exact .inl (loopHead_record a).1.pings
        · exact .inl rfl
      · exact .inl rfl

/-- One more PING is far enough from the last exactly if it is from the last check that was due. -/
theorem PingInv.spaced_append_iff (H : PingInv c a) (h : PingsSpaced c a) (now : ℕ) :
    (a.pings ++ [now]).IsChain (fun p q => p + c.interval ≤ q) ↔
      ∀ t ∈ a.lastCheck, Due c a.sessionStart t → t + c.interval ≤ now := by
  rw [List.isChain_append, H.lastPing]
  simp only [List.isChain_singleton, List.head?_cons, Option.mem_def, Option.some.injEq,
    Option.filter_eq_some_iff, decide_eq_true_eq, forall_eq', true_and, and_imp]
  exact and_iff_right h

/-- The PINGs after a check. -/
theorem PingInv.pings_step (H : PingInv c a) {delay : ℕ} (h : (a.wait delay).Checks)
    (pingSent eventsSent : Bool) :
    (runAgentStep a (delay, .check pingSent eventsSent)).pings
      = if Due c a.sessionStart (a.clock + delay) then a.pings ++ [a.clock + delay] else a.pings :=
  (H.wait delay).pings_check h pingSent eventsSent

/-- PINGs stay spaced exactly if the check is not too soon. -/
theorem PingInv.spaced_step_iff (H : PingInv c a) (e : ℕ × RunEvent) (h : PingsSpaced c a) :
    PingsSpaced c (runAgentStep a e) ↔ Sparse c a e := by
  obtain ⟨delay, e⟩ := e
  by_cases hcheck : ∃ x y, e = .check x y
  · obtain ⟨x, y, rfl⟩ := hcheck
    simp only [Sparse]
    by_cases hchecks : (a.wait delay).Checks
    · rw [PingsSpaced, H.pings_step hchecks]
      by_cases hdue : Due c a.sessionStart (a.clock + delay)
      · rw [if_pos hdue, H.spaced_append_iff h]
        simp only [hchecks, hdue, true_implies]
      · rw [if_neg hdue]
        simp only [hdue, false_implies, implies_true, iff_true]
        exact h
    · have hsame : runAgentStep a (delay, .check x y) = a.wait delay := by
        rw [runAgentStep, RunAgent.handle, RunAgent.heartbeatCheck, if_neg hchecks]
      rw [hsame]
      simp only [hchecks, false_implies, iff_true]
      exact h
  · have hother : ∀ x y, e ≠ .check x y := fun x y he => hcheck ⟨x, y, he⟩
    have hsparse : Sparse c a (delay, e) := by
      cases e with
      | check x y => exact absurd rfl (hother x y)
      | _ => trivial
    refine iff_of_true ?_ hsparse
    obtain hsame | hnil := pings_handle (a.wait delay) hother
    · rw [PingsSpaced, runAgentStep, hsame]
      exact h
    · rw [PingsSpaced, runAgentStep, hnil]
      exact List.isChain_nil

/-- A check an interval after the last PING is an interval after the start. -/
theorem PingInv.prompt (H : PingInv c a) (e : ℕ × RunEvent) : Prompt c a e := by
  obtain ⟨delay, e⟩ := e
  cases e with
  | check x y =>
      simp only [Prompt]
      intro hchecks hlate
      have hstart : a.sessionStart ≤ a.pings.getLast?.getD a.sessionStart := by
        rw [H.lastPing]
        cases hlast : a.lastCheck.filter fun t => decide (Due c a.sessionStart t) with
        | none => exact le_rfl
        | some t => exact (H.lastCheck_le t (Option.filter_eq_some_iff.mp hlast).1).1
      have hdue : Due c a.sessionStart (a.clock + delay) := due_of_interval (by omega)
      rw [H.pings_step hchecks, if_pos hdue]
  | _ => trivial

/-- **The spacing of PINGs.**  In every run of the agent a check sends a PING whenever the interval
has passed since the last one, and the PINGs of each session are an interval apart exactly if no
check that was due is followed within an interval by another check. -/
theorem pings_spaced_iff (c : CheckedConfig) (evs : List (ℕ × RunEvent)) :
    Along runAgentStep (Prompt c) (RunAgent.init c) evs ∧
      (Always runAgentStep (PingsSpaced c) (RunAgent.init c) evs ↔
        Along runAgentStep (Sparse c) (RunAgent.init c) evs) := by
  constructor
  · exact along_of_forall (PingInv c) (fun _ e H => H.step e) (fun _ e H => H.prompt e) (pingInv_init c)
  · exact always_iff_along (PingInv c) (fun _ e H => H.step e)
      (fun _ e H hs => H.spaced_step_iff e hs) (pingInv_init c) List.isChain_nil

/-- The defaults with a tunnel: an interval of 30 and a timeout of 60 seconds. -/
def sampleConfig : CheckedConfig where
  config := { AgentConfig.defaults with tunnel := ⟨"t1".toList, "secret".toList⟩ }
  valid := by decide +kernel

/-- The check 100 ms after the first PING sends another. -/
theorem pings_not_spaced :
    ¬ Always runAgentStep (PingsSpaced sampleConfig) (RunAgent.init sampleConfig)
      [(0, .attemptStarted), (30000 * millisecond, .check true true),
        (100 * millisecond, .check true true)] := by
  intro h
  have hlast := h.2.2.2
  revert hlast
  rw [Always]
  decide +kernel

end Protogate.TunnelAgent
