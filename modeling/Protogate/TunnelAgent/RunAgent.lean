import Protogate.Lib.Run
import Protogate.TunnelAgent.AgentConfig

/-!
# The main loop of the agent

`run_agent` connects, starts a session, looks every 100 ms whether it is still active,
and starts again after a delay.  A timer on the thread of the `io_context` sends PINGs
and gives up a session whose PINGs are not acknowledged.  Both threads, the signal
handler and the outer loop share the flag `running`.

An exception that leaves an attempt is caught and logged; the log call throws on a text
that it cannot print, and then the process ends, as it does when an exception leaves a
handler on the thread of the `io_context`.  The handlers are taken to come to their end,
since the main thread joins that thread.

Time is in nanoseconds and every event says how long after the one before it happens.
The state also records the number of attempts, the failed ones since the last session,
when a signal arrived, and of a session its checks and its PINGs.

## Main definitions

* `HeartbeatManager`, `ReconnectionManager` — the two helpers and their functions.
* `CheckedConfig` — a configuration that `validate` accepts.
* `RunAgent`, `RunEvent`, `runAgentStep` — the loop, from `RunAgent.init`.
-/

namespace Protogate.TunnelAgent

open Protogate.Lib

/-- A millisecond, in nanoseconds. -/
def millisecond : ℕ := 1000000

/-- An `int` product; where it does not fit it wraps around. -/
def toInt (n : ℤ) : ℤ := n.bmod (2 ^ 32)

/-! ## Heartbeats -/

/-- `HeartbeatManager`. -/
structure HeartbeatManager where
  intervalMs : ℤ
  timeoutMs : ℤ
  lastPingTime : ℕ
  lastAckTime : ℕ
  started : Bool
  deriving DecidableEq

/-- `duration_cast<milliseconds>(now - since).count()`. -/
def elapsedMs (since now : ℕ) : ℤ := ((now - since) / millisecond : ℕ)

namespace HeartbeatManager

def create (intervalMs timeoutMs : ℤ) : HeartbeatManager := ⟨intervalMs, timeoutMs, 0, 0, false⟩

def start (h : HeartbeatManager) (now : ℕ) : HeartbeatManager :=
  { h with lastPingTime := now, lastAckTime := now, started := true }

def stop (h : HeartbeatManager) : HeartbeatManager := { h with started := false }

def shouldSendPing (h : HeartbeatManager) (now : ℕ) : Bool :=
  h.started && decide (elapsedMs h.lastPingTime now ≥ h.intervalMs)

def isTimedOut (h : HeartbeatManager) (now : ℕ) : Bool :=
  h.started && decide (elapsedMs h.lastAckTime now ≥ h.timeoutMs)

def recordPingAck (h : HeartbeatManager) (now : ℕ) : HeartbeatManager := { h with lastAckTime := now }

end HeartbeatManager

/-! ## Reconnection -/

/-- `ReconnectionManager`; `last_attempt_` is never used. -/
structure ReconnectionManager where
  initialDelayMs : ℤ
  maxDelayMs : ℤ
  currentDelayMs : ℤ
  canReconnect : Bool
  deriving DecidableEq

namespace ReconnectionManager

def create (initialDelayMs maxDelayMs : ℤ) : ReconnectionManager :=
  ⟨initialDelayMs, maxDelayMs, initialDelayMs, true⟩

def reset (r : ReconnectionManager) : ReconnectionManager :=
  { r with currentDelayMs := r.initialDelayMs, canReconnect := true }

/-- The delay, and the manager with the next one. -/
def getNextDelayMs (r : ReconnectionManager) : ℤ × ReconnectionManager :=
  (r.currentDelayMs, { r with currentDelayMs := min (toInt (r.currentDelayMs * 2)) r.maxDelayMs })

def shouldReconnect (r : ReconnectionManager) : Bool := r.canReconnect

end ReconnectionManager

/-! ## The state -/

/-- A configuration that `validate` accepts, as `main` runs the agent with. -/
structure CheckedConfig where
  config : AgentConfig
  valid : config.validate = none

/-- Where the main thread is: in an attempt to connect, in the loop that watches a session, in
the sleep until some time, or at the end. -/
inductive RunPhase
  | connecting
  | session
  | waiting (wakeTime : ℕ)
  | stopped
  deriving DecidableEq

/-- The state of `run_agent`. -/
structure RunAgent where
  running : Bool
  reconnect : ReconnectionManager
  phase : RunPhase
  active : Bool
  heartbeat : HeartbeatManager
  heartbeatTimer : Option ℕ
  clock : ℕ
  /-- What the run recorded. -/
  signalled : Bool
  attempts : ℕ
  everStarted : Bool
  failures : ℕ
  sessionStart : ℕ
  lastCheck : Option ℕ
  pings : List ℕ
  deriving DecidableEq

inductive RunEvent
  /-- SIGINT or SIGTERM. -/
  | signal
  /-- An exception leaves the attempt: from the connection, from the URL, from authentication.  Its
  text can be printed or not. -/
  | attemptFailed (printed : Bool)
  | attemptStarted
  /-- The handler of the heartbeat timer; the sends of the PING and of what is pending succeed or
  not. -/
  | check (pingSent eventsSent : Bool)
  | pingAck
  /-- A read error or the end of the stream, or a failed send elsewhere. -/
  | sessionLost
  /-- An exception leaves a handler, such as that of a log call. -/
  | handlerThrew
  /-- The main thread looks at the flags. -/
  | poll
  /-- The sleep is over. -/
  | wake
  deriving DecidableEq

namespace RunAgent

/-- The condition of the outer loop, and the attempt that follows. -/
def loopHead (a : RunAgent) : RunAgent :=
  if a.running && a.reconnect.shouldReconnect then
    { a with phase := .connecting, attempts := a.attempts + 1 }
  else { a with phase := .stopped }

/-- What follows the `try` block: the delay, or the condition of the loop again. -/
def afterAttempt (a : RunAgent) : RunAgent :=
  if a.running && a.reconnect.shouldReconnect then
    let (delayMs, reconnect) := a.reconnect.getNextDelayMs
    { a with reconnect, phase := .waiting (a.clock + delayMs.toNat * millisecond) }
  else a.loopHead

/-- The start of `run_agent`, with `initialDelay` of 1 s and `maxDelay` of 60 s. -/
def init (c : CheckedConfig) : RunAgent :=
  loopHead
    { running := true
      reconnect := .create 1000 60000
      phase := .connecting
      active := false
      heartbeat := .create (toInt (c.config.health.heartbeatIntervalSeconds * 1000))
        (toInt (c.config.health.heartbeatTimeoutSeconds * 1000))
      heartbeatTimer := none
      clock := 0
      signalled := false
      attempts := 0
      everStarted := false
      failures := 0
      sessionStart := 0
      lastCheck := none
      pings := [] }

/-- `http2_session.start` returned: the heartbeat starts, the delay is reset and the timer set. -/
def started (a : RunAgent) : RunAgent :=
  { a with
    phase := .session
    active := true
    heartbeat := a.heartbeat.start a.clock
    reconnect := a.reconnect.reset
    heartbeatTimer := some (a.clock + 100 * millisecond)
    everStarted := true
    failures := 0
    sessionStart := a.clock
    lastCheck := none
    pings := [] }

/-- `send_ping`; a failed send ends the session. -/
def sendPing (a : RunAgent) (sent : Bool) : RunAgent :=
  { a with pings := a.pings ++ [a.clock], active := a.active && sent }

/-- The timer is set and has expired, and the handler does not return at once. -/
def Checks (a : RunAgent) : Prop :=
  a.phase = .session ∧ (∃ t ∈ a.heartbeatTimer, t ≤ a.clock) ∧ a.running = true ∧ a.active = true

instance (a : RunAgent) : Decidable a.Checks :=
  inferInstanceAs (Decidable (_ ∧ (∃ t ∈ a.heartbeatTimer, t ≤ a.clock) ∧ _ ∧ _))

/-- `heartbeat_check`; where the handler returns at once, no check follows. -/
def heartbeatCheck (a : RunAgent) (pingSent eventsSent : Bool) : RunAgent :=
  if a.Checks then
    let a := { a with lastCheck := some a.clock }
    let a := if a.heartbeat.shouldSendPing a.clock then a.sendPing pingSent else a
    if a.heartbeat.isTimedOut a.clock then
      { a with running := false, active := false, heartbeatTimer := none }
    else
      { a with active := a.active && eventsSent, heartbeatTimer := some (a.clock + 100 * millisecond) }
  else a

/-- The end of the session: the event loop stops, and so do its helpers. -/
def endSession (a : RunAgent) : RunAgent :=
  { a with active := false, heartbeat := a.heartbeat.stop, heartbeatTimer := none }

/-- The process ends, with what `main` returns or in `std::terminate`. -/
def terminated (a : RunAgent) : RunAgent := { a with phase := .stopped }

/-- What happens, at the time it happens. -/
def handle (a : RunAgent) : RunEvent → RunAgent
  | .signal => { a with running := false, signalled := true }
  | .attemptFailed printed =>
      if a.phase = .connecting then
        if printed then { a with failures := a.failures + 1 }.afterAttempt else a.terminated
      else a
  | .attemptStarted => if a.phase = .connecting then a.started else a
  | .check pingSent eventsSent => a.heartbeatCheck pingSent eventsSent
  | .pingAck =>
      if a.phase = .session ∧ a.active = true then
        { a with heartbeat := a.heartbeat.recordPingAck a.clock }
      else a
  | .sessionLost => if a.phase = .session then { a with active := false } else a
  | .handlerThrew => if a.phase = .session then a.terminated else a
  | .poll =>
      if a.phase = .session ∧ (a.running && a.active) = false then a.endSession.afterAttempt else a
  | .wake =>
      match a.phase with
      | .waiting wakeTime => if wakeTime ≤ a.clock then a.loopHead else a
      | _ => a

/-- Time passes. -/
def wait (a : RunAgent) (delay : ℕ) : RunAgent := { a with clock := a.clock + delay }

end RunAgent

/-- An event, and how long after the one before it happens. -/
def runAgentStep (a : RunAgent) (e : ℕ × RunEvent) : RunAgent := (a.wait e.1).handle e.2

/-- The checked values of the heartbeat. -/
theorem CheckedConfig.heartbeat (c : CheckedConfig) :
    0 < c.config.health.heartbeatIntervalSeconds ∧
      c.config.health.heartbeatIntervalSeconds < c.config.health.heartbeatTimeoutSeconds := by
  have h := c.valid
  simp only [AgentConfig.validate] at h
  split_ifs at h with _ _ _ _ _ _ hinterval htimeout
  omega

end Protogate.TunnelAgent
