import Protogate.TunnelAgent.AgentPings

/-!
# The agent keeps reconnecting

After an attempt that failed and after the end of a session the outer loop waits and
tries again, and it stops when a signal has cleared `running`.  The check of the
heartbeat clears the same flag when a session times out, which ends the agent as if a
signal had arrived, and an exception that nobody catches ends the process.

## Main definitions

* `backoffMs` — the delay after some number of failures.
* `Reconnects` — what each step of the loop must do.
* `NoTimeout` — no check gives up the session.
* `Caught` — no exception ends the process before a signal.
* `reconnects_iff` — the loop goes on exactly if that is so.
-/

namespace Protogate.TunnelAgent

open Protogate.Lib

/-- The delay doubles with every failure, up to a minute. -/
def backoffMs (k : ℕ) : ℤ := min (1000 * 2 ^ k) 60000

/-- The delay of a wait: after `failures` failures since the last session, or before the first
session after as many attempts but one. -/
def RunAgent.waitMs (a : RunAgent) : ℤ :=
  if a.everStarted then backoffMs a.failures else backoffMs (a.failures - 1)

/-- The attempt fails, or the main thread finds that the session is over. -/
def AttemptEnds (a : RunAgent) (e : ℕ × RunEvent) : Prop :=
  (a.phase = .connecting ∧ ∃ printed, e.2 = .attemptFailed printed) ∨
    (a.phase = .session ∧ a.active = false ∧ e.2 = .poll)

/-- The loop stops after a signal only; without one, it waits for the delay after every failure
and every session, and makes another attempt after every wait. -/
structure Reconnects (a : RunAgent) (e : ℕ × RunEvent) : Prop where
  stops : (runAgentStep a e).phase = .stopped → (runAgentStep a e).signalled = true
  waits : AttemptEnds a e → a.signalled = false → (runAgentStep a e).phase =
    .waiting (a.clock + e.1 + (runAgentStep a e).waitMs.toNat * millisecond)
  retries : ∀ t, a.phase = .waiting t → t ≤ a.clock + e.1 → e.2 = .wake → a.signalled = false →
    (runAgentStep a e).phase = .connecting ∧ (runAgentStep a e).attempts = a.attempts + 1

/-- No check finds that the acknowledgement of a PING is overdue. -/
def NoTimeout (a : RunAgent) (e : ℕ × RunEvent) : Prop :=
  match e.2 with
  | .check _ _ => (a.wait e.1).Checks → a.heartbeat.isTimedOut (a.clock + e.1) = false
  | _ => True

/-- Until a signal arrives, the text of every failed attempt can be printed and no exception leaves
a handler. -/
def Caught (a : RunAgent) (e : ℕ × RunEvent) : Prop :=
  match e.2 with
  | .attemptFailed printed => a.phase = .connecting → a.signalled = false → printed = true
  | .handlerThrew => a.phase = .session → a.signalled = true
  | _ => True

/-- As long as no session times out, the flag says whether a signal has arrived. -/
structure LoopFlags (a : RunAgent) : Prop where
  running : a.running = !a.signalled
  initialDelayMs : a.reconnect.initialDelayMs = 1000
  maxDelayMs : a.reconnect.maxDelayMs = 60000
  canReconnect : a.reconnect.canReconnect = true

/-- And the next delay is known. -/
structure LoopInv (a : RunAgent) : Prop extends LoopFlags a where
  session : a.phase = .session → a.everStarted = true ∧ a.failures = 0 ∧
    a.reconnect.currentDelayMs = backoffMs 0
  outside : a.phase ≠ .session → a.phase ≠ .stopped → a.reconnect.currentDelayMs =
    backoffMs (if a.everStarted then a.failures + 1 else a.failures)
  stopped : a.phase = .stopped → a.signalled = true

/-! ## The delays -/

theorem backoffMs_succ (k : ℕ) : min (toInt (backoffMs k * 2)) 60000 = backoffMs (k + 1) := by
  have hpos : (0 : ℤ) < 2 ^ k := by positivity
  have hfits : toInt (backoffMs k * 2) = backoffMs k * 2 := by
    rw [toInt, Int.bmod_def, backoffMs]
    omega
  rw [hfits, backoffMs, backoffMs, pow_succ]
  omega

variable {a : RunAgent}

theorem LoopFlags.loopHead (H : LoopFlags a) : LoopFlags a.loopHead := by
  rw [RunAgent.loopHead]
  split <;> exact ⟨H.running, H.initialDelayMs, H.maxDelayMs, H.canReconnect⟩

/-- A signal ends the loop at its head, and nothing else does. -/
theorem LoopFlags.loopHead_phase (H : LoopFlags a) :
    (a.signalled = true → a.loopHead.phase = .stopped) ∧
      (a.signalled = false → a.loopHead.phase = .connecting ∧ a.loopHead.attempts = a.attempts + 1) := by
  rw [RunAgent.loopHead, ReconnectionManager.shouldReconnect, H.canReconnect, H.running]
  cases a.signalled <;> simp

@[simp] theorem signalled_loopHead (a : RunAgent) : a.loopHead.signalled = a.signalled := by
  rw [RunAgent.loopHead]
  split <;> rfl

@[simp] theorem signalled_afterAttempt (a : RunAgent) : a.afterAttempt.signalled = a.signalled := by
  rw [RunAgent.afterAttempt]
  split
  · rfl
  · exact signalled_loopHead a

/-- After an attempt the delay is the expected one, and is doubled for the next time. -/
theorem LoopFlags.afterAttempt (H : LoopFlags a) {k : ℕ}
    (hdelay : a.reconnect.currentDelayMs = backoffMs k)
    (hnext : k + 1 = if a.everStarted then a.failures + 1 else a.failures) :
    LoopInv a.afterAttempt ∧
      (a.signalled = false → a.afterAttempt.phase =
        .waiting (a.clock + a.afterAttempt.waitMs.toNat * millisecond)) := by
  cases hsignalled : a.signalled with
  | true =>
      have hrunning : a.running = false := by rw [H.running, hsignalled]; rfl
      have hstop : a.afterAttempt = a.loopHead := by
        rw [RunAgent.afterAttempt, hrunning]
        rfl
      have hphase := H.loopHead_phase.1 hsignalled
      rw [hstop]
      refine ⟨{ H.loopHead with session := ?_, outside := ?_, stopped := ?_ }, fun h => by cases h⟩
      · intro h
        rw [hphase] at h
        cases h
      · exact fun _ h => absurd hphase h
      · exact fun _ => by rw [signalled_loopHead, hsignalled]
  | false =>
      have hrunning : a.running = true := by rw [H.running, hsignalled]; rfl
      have hwait : a.waitMs = backoffMs k := by
        rw [RunAgent.waitMs]
        split at hnext
        · rename_i hstarted
          rw [if_pos hstarted, Nat.succ.inj hnext]
        · rename_i hstarted
          rw [if_neg hstarted, ← hnext, Nat.add_sub_cancel]
      have hafter : a.afterAttempt = { a with
          reconnect := { a.reconnect with currentDelayMs := backoffMs (k + 1) }
          phase := .waiting (a.clock + a.waitMs.toNat * millisecond) } := by
        rw [RunAgent.afterAttempt, hrunning, ReconnectionManager.shouldReconnect, H.canReconnect,
          hwait, ← backoffMs_succ]
        simp only [ReconnectionManager.getNextDelayMs, hdelay, H.maxDelayMs, Bool.and_self, if_true]
      rw [hafter]
      refine ⟨⟨⟨H.running, H.initialDelayMs, H.maxDelayMs, H.canReconnect⟩, ?_, ?_, ?_⟩, fun _ => rfl⟩
      · intro h
        cases h
      · intro _ _
        simp only [hnext]
      · intro h
        cases h

/-! ## The steps -/

/-- What the loop does not look at may change. -/
theorem LoopInv.congr (H : LoopInv a) {b : RunAgent} (hrunning : b.running = a.running)
    (hsignalled : b.signalled = a.signalled) (hreconnect : b.reconnect = a.reconnect)
    (hphase : b.phase = a.phase) (hstarted : b.everStarted = a.everStarted)
    (hfailures : b.failures = a.failures) : LoopInv b := by
  refine ⟨⟨?_, ?_, ?_, ?_⟩, ?_, ?_, ?_⟩
  · rw [hrunning, hsignalled]
    exact H.running
  · rw [hreconnect]
    exact H.initialDelayMs
  · rw [hreconnect]
    exact H.maxDelayMs
  · rw [hreconnect]
    exact H.canReconnect
  · rw [hphase, hstarted, hfailures, hreconnect]
    exact H.session
  · rw [hphase, hstarted, hfailures, hreconnect]
    exact H.outside
  · rw [hphase, hsignalled]
    exact H.stopped

theorem LoopInv.signal (H : LoopInv a) : LoopInv { a with running := false, signalled := true } where
  running := rfl
  initialDelayMs := H.initialDelayMs
  maxDelayMs := H.maxDelayMs
  canReconnect := H.canReconnect
  session := H.session
  outside := H.outside
  stopped := fun _ => rfl

/-- A process that ends after a signal. -/
theorem LoopInv.terminated (H : LoopInv a) (h : a.signalled = true) : LoopInv a.terminated where
  running := H.running
  initialDelayMs := H.initialDelayMs
  maxDelayMs := H.maxDelayMs
  canReconnect := H.canReconnect
  session := fun hphase => by cases hphase
  outside := fun _ hphase => absurd rfl hphase
  stopped := fun _ => h

/-- A failed attempt. -/
theorem LoopInv.attemptFailed (H : LoopInv a) (hphase : a.phase = .connecting) :
    let b := { a with failures := a.failures + 1 }.afterAttempt
    LoopInv b ∧ (a.signalled = false →
      b.phase = .waiting (a.clock + b.waitMs.toNat * millisecond)) := by
  have hflags : LoopFlags { a with failures := a.failures + 1 } :=
    ⟨H.running, H.initialDelayMs, H.maxDelayMs, H.canReconnect⟩
  have hdelay := H.outside (by simp [hphase]) (by simp [hphase])
  refine hflags.afterAttempt hdelay ?_
  simp only
  split <;> rfl

theorem LoopInv.started (H : LoopInv a) : LoopInv a.started where
  running := H.running
  initialDelayMs := H.initialDelayMs
  maxDelayMs := H.maxDelayMs
  canReconnect := rfl
  session := fun _ => ⟨rfl, rfl, H.initialDelayMs⟩
  outside := fun h => absurd rfl h
  stopped := fun h => by cases h

/-- The end of a session. -/
theorem LoopInv.endSession (H : LoopInv a) (hphase : a.phase = .session) :
    let b := a.endSession.afterAttempt
    LoopInv b ∧ (a.signalled = false →
      b.phase = .waiting (a.clock + b.waitMs.toNat * millisecond)) := by
  obtain ⟨hstarted, hfailures, hdelay⟩ := H.session hphase
  have hflags : LoopFlags a.endSession :=
    ⟨H.running, H.initialDelayMs, H.maxDelayMs, H.canReconnect⟩
  refine hflags.afterAttempt hdelay ?_
  simp [RunAgent.endSession, hstarted, hfailures]

/-- The head of the loop after a wait. -/
theorem LoopInv.loopHead (H : LoopInv a) {t : ℕ} (hphase : a.phase = .waiting t) :
    LoopInv a.loopHead := by
  have hdelay := H.outside (by simp [hphase]) (by simp [hphase])
  refine ⟨H.toLoopFlags.loopHead, ?_, ?_, ?_⟩
  · exact fun h => absurd h (loopHead_record a).2
  · intro _ _
    rw [RunAgent.loopHead]
    split <;> exact hdelay
  · intro hstopped
    rw [signalled_loopHead]
    by_contra hsignalled
    have hconnecting := (H.toLoopFlags.loopHead_phase.2 (by simpa using hsignalled)).1
    rw [hconnecting] at hstopped
    cases hstopped

theorem LoopInv.wait (H : LoopInv a) (delay : ℕ) : LoopInv (a.wait delay) :=
  H.congr rfl rfl rfl rfl rfl rfl

/-- Every event that gives up no session and no process. -/
theorem LoopInv.handle (H : LoopInv a) {e : RunEvent} (h : NoTimeout a (0, e)) (hc : Caught a (0, e)) :
    LoopInv (a.handle e) := by
  cases e with
  | signal => exact H.signal
  | attemptFailed printed =>
      simp only [RunAgent.handle]
      split
      · rename_i hphase
        split
        · exact (H.attemptFailed hphase).1
        · rename_i hprinted
          refine H.terminated ?_
          by_contra hsignalled
          exact hprinted (hc hphase (by simpa using hsignalled))
      · exact H
  | attemptStarted =>
      simp only [RunAgent.handle]
      split
      · exact H.started
      · exact H
  | check pingSent eventsSent =>
      rw [RunAgent.handle, RunAgent.heartbeatCheck]
      split
      · rename_i hchecks
        have hquiet : a.heartbeat.isTimedOut a.clock = false := h hchecks
        simp only [RunAgent.sendPing]
        split <;> simp only [hquiet, Bool.false_eq_true, if_false] <;>
          exact H.congr rfl rfl rfl rfl rfl rfl
      · exact H
  | pingAck =>
      simp only [RunAgent.handle]
      split
      · exact H.congr rfl rfl rfl rfl rfl rfl
      · exact H
  | sessionLost =>
      simp only [RunAgent.handle]
      split
      · exact H.congr rfl rfl rfl rfl rfl rfl
      · exact H
  | handlerThrew =>
      simp only [RunAgent.handle]
      split
      · rename_i hphase
        exact H.terminated (hc hphase)
      · exact H
  | poll =>
      simp only [RunAgent.handle]
      split
      · rename_i hends
        exact (H.endSession hends.1).1
      · exact H
  | wake =>
      simp only [RunAgent.handle]
      split
      · rename_i t hphase
        split
        · exact H.loopHead hphase
        · exact H
      · exact H

theorem LoopInv.step (H : LoopInv a) (e : ℕ × RunEvent) (h : NoTimeout a e) (hc : Caught a e) :
    LoopInv (runAgentStep a e) :=
  (H.wait e.1).handle h hc

theorem loopInv_init (c : CheckedConfig) : LoopInv (RunAgent.init c) where
  running := rfl
  initialDelayMs := rfl
  maxDelayMs := rfl
  canReconnect := rfl
  session := fun h => by cases h
  outside := fun _ _ => rfl
  stopped := fun h => by cases h

/-- The loop goes on with every step that gives up no session and no process. -/
theorem LoopInv.reconnects (H : LoopInv a) (e : ℕ × RunEvent) (h : NoTimeout a e) (hc : Caught a e) :
    Reconnects a e where
  stops := (H.step e h hc).stopped
  waits := by
    have Hw := H.wait e.1
    rintro (⟨hphase, printed, he⟩ | ⟨hphase, hactive, he⟩) hsignalled
    · have hprinted : printed = true := by
        rw [Caught, he] at hc
        exact hc hphase hsignalled
      have hstep : runAgentStep a e
          = { a.wait e.1 with failures := a.failures + 1 }.afterAttempt := by
        rw [runAgentStep, he, hprinted]
        exact if_pos hphase
      rw [hstep]
      exact (Hw.attemptFailed hphase).2 hsignalled
    · have hstep : runAgentStep a e = (a.wait e.1).endSession.afterAttempt := by
        rw [runAgentStep, he]
        refine if_pos ⟨hphase, ?_⟩
        simp [RunAgent.wait, hactive]
      rw [hstep]
      exact (Hw.endSession hphase).2 hsignalled
  retries := by
    intro t hphase htime he hsignalled
    have hstep : runAgentStep a e = (a.wait e.1).loopHead := by
      rw [runAgentStep, he]
      simp only [RunAgent.handle, RunAgent.wait, hphase, if_pos htime]
    rw [hstep]
    exact (H.wait e.1).toLoopFlags.loopHead_phase.2 hsignalled

/-- When the flag is cleared in a session, the main thread stops. -/
theorem poll_stops (hphase : a.phase = .session) (hrunning : a.running = false) :
    (runAgentStep a (0, .poll)).phase = .stopped ∧
      (runAgentStep a (0, .poll)).signalled = a.signalled := by
  have hstep : runAgentStep a (0, .poll) = (a.wait 0).endSession.afterAttempt := by
    refine if_pos ⟨hphase, ?_⟩
    simp [RunAgent.wait, hrunning]
  rw [hstep, signalled_afterAttempt]
  refine ⟨?_, rfl⟩
  simp [RunAgent.afterAttempt, RunAgent.loopHead, RunAgent.endSession, RunAgent.wait, hrunning]

/-- A check that gives up the session leaves the main thread to end the agent. -/
theorem LoopInv.timeout_stops (H : LoopInv a) {e : ℕ × RunEvent} (h : ¬ NoTimeout a e) :
    ¬ Reconnects (runAgentStep a e) (0, .poll) := by
  obtain ⟨delay, e⟩ := e
  cases e with
  | check pingSent eventsSent =>
      simp only [NoTimeout, Classical.not_imp, Bool.not_eq_false] at h
      obtain ⟨hchecks, htimeout⟩ := h
      have hgiven : (runAgentStep a (delay, .check pingSent eventsSent)).phase = .session ∧
          (runAgentStep a (delay, .check pingSent eventsSent)).running = false ∧
          (runAgentStep a (delay, .check pingSent eventsSent)).signalled = a.signalled := by
        have hphase : (a.wait delay).phase = .session := hchecks.1
        have hkept : (a.wait delay).signalled = a.signalled := rfl
        have htimeout : (a.wait delay).heartbeat.isTimedOut (a.wait delay).clock = true := htimeout
        rw [runAgentStep, RunAgent.handle, RunAgent.heartbeatCheck, if_pos hchecks]
        simp only [RunAgent.sendPing]
        split <;> simpa [htimeout, hkept] using hphase
      obtain ⟨hphase, hrunning, hsignalled⟩ := hgiven
      -- no signal had arrived, for the check looked at the flag
      have hnone : a.signalled = false := by
        have hflag := H.running.symm.trans (show a.running = true from hchecks.2.2.1)
        simpa using hflag
      obtain ⟨hstopped, hkept⟩ := poll_stops hphase hrunning
      intro hreconnects
      have hsignal := hreconnects.stops hstopped
      rw [hkept, hsignalled, hnone] at hsignal
      cases hsignal
  | _ => exact absurd trivial h

/-- An exception that nobody catches ends the agent without a signal. -/
theorem not_reconnects_of_not_caught {e : ℕ × RunEvent} (h : ¬ Caught a e) : ¬ Reconnects a e := by
  obtain ⟨delay, e⟩ := e
  have hends : runAgentStep a (delay, e) = (a.wait delay).terminated ∧ a.signalled = false := by
    cases e with
    | attemptFailed printed =>
        simp only [Caught, Classical.not_imp, Bool.not_eq_true] at h
        obtain ⟨hphase, hsignalled, rfl⟩ := h
        exact ⟨if_pos hphase, hsignalled⟩
    | handlerThrew =>
        simp only [Caught, Classical.not_imp, Bool.not_eq_true] at h
        exact ⟨if_pos h.1, h.2⟩
    | _ => exact absurd trivial h
  obtain ⟨hstep, hsignalled⟩ := hends
  intro hreconnects
  have hsignal := hreconnects.stops
  rw [hstep] at hsignal
  exact absurd ((hsignal rfl).symm.trans hsignalled) (by decide)

/-- **The agent keeps reconnecting.**  Wherever the main thread looks at the flags in a run, the
loop has stopped after a signal only, has waited for the delay after every failure and every
session, and has made another attempt after every wait, exactly if no check of the run gave up a
session that timed out and every exception before a signal was caught and logged. -/
theorem reconnects_iff (c : CheckedConfig) (evs : List (ℕ × RunEvent)) :
    (∀ pre, pre <+: evs → Along runAgentStep Reconnects (RunAgent.init c) (pre ++ [(0, .poll)])) ↔
      Along runAgentStep (fun a e => NoTimeout a e ∧ Caught a e) (RunAgent.init c) evs := by
  generalize RunAgent.init c = a, loopInv_init c = H
  constructor
  · intro h
    induction evs generalizing a with
    | nil => exact along_nil a
    | cons e evs ih =>
        have hone := h [e] (List.cons_prefix_cons.mpr ⟨rfl, List.nil_prefix⟩)
        have hcaught : Caught a e := by
          by_contra hthrown
          exact not_reconnects_of_not_caught hthrown hone.1
        have hquiet : NoTimeout a e := by
          by_contra htimeout
          exact H.timeout_stops htimeout hone.2.1
        refine ⟨⟨hquiet, hcaught⟩, ih (runAgentStep a e) (H.step e hquiet hcaught) fun pre hpre => ?_⟩
        exact (h (e :: pre) (List.cons_prefix_cons.mpr ⟨rfl, hpre⟩)).2
  · rintro h pre ⟨post, rfl⟩
    have hpre := (along_append.mp h).1
    have hall : Along runAgentStep (fun a e => NoTimeout a e ∧ Caught a e) a (pre ++ [(0, .poll)]) :=
      along_append.mpr ⟨hpre, ⟨trivial, trivial⟩, trivial⟩
    exact along_of_invariant LoopInv (fun _ e H hstep => H.step e hstep.1 hstep.2)
      (fun _ e H hstep => H.reconnects e hstep.1 hstep.2) H hall

/-- A session whose PINGs are not acknowledged for a minute ends the agent without a signal. -/
theorem timeout_ends_agent :
    ¬ Along runAgentStep Reconnects (RunAgent.init sampleConfig)
      [(0, .attemptStarted), (60000 * millisecond, .check true true), (0, .poll)] := by
  intro h
  have hstops := h.2.2.1.stops
  revert hstops
  decide +kernel

end Protogate.TunnelAgent
