import Protogate.Agent.SessionLifecycle

/-!
# Detection of dead agents

Every 30 seconds the handler of the heartbeat timer compares the clock with
`last_heartbeat_` and closes the connection after more than 60 seconds.  The time is
set when the session starts and when a PING is acknowledged, but also by `update_stats`,
which runs after every TCP frame that was written to the socket.

Time is in nanoseconds, and every event says how long after the one before it happens.
Next to `last_heartbeat_` the state keeps the last sign of the agent (the start of the
session or an acknowledgement) and the last TCP frame written.

## Main definitions

* `TimedConnection`, `timedStep` — the connection with its clock.
* `Detects` — a handler that runs late after the last sign closes the connection.
* `TcpQuiet` — no TCP frame was written meanwhile.
* `dead_agents_detected_iff` — the handlers of a run detect exactly if it was quiet for them.
-/

namespace Protogate.Agent

open Protogate.Lib

/-! ## Time -/

/-- A second, in nanoseconds. -/
def second : ℕ := 1000000000

/-- The connection, the clock, `last_heartbeat_`, when the heartbeat timer expires, the last
sign of the agent and the last TCP frame written. -/
structure TimedConnection (κ : Type) where
  run : SessionRun κ
  clock : ℕ
  lastHeartbeat : ℕ
  heartbeatTimer : Option ℕ
  sign : ℕ
  tcpWritten : Option ℕ

variable {κ : Type}

namespace TimedConnection

/-- `heartbeat_timer_.expires_after` and the wait, in `send_heartbeat`. -/
def sendHeartbeat (s : TimedConnection κ) : TimedConnection κ :=
  { s with heartbeatTimer := some (s.clock + 30 * second) }

/-- `start_heartbeat`. -/
def startHeartbeat (s : TimedConnection κ) : TimedConnection κ :=
  sendHeartbeat { s with lastHeartbeat := s.clock, sign := s.clock }

/-- The PING case of `on_frame_recv_callback`, some time into the read. -/
def pingAck (s : TimedConnection κ) (delay : ℕ) : TimedConnection κ :=
  { s with clock := s.clock + delay, lastHeartbeat := s.clock + delay, sign := s.clock + delay }

/-- `start`. -/
def start (s : TimedConnection κ) (sent : Bool) : TimedConnection κ :=
  let s' := if s.run.agent.state = .connected then s.startHeartbeat else s
  { s' with run := s.run.start sent }

/-- The completion of the handshake. -/
def handshakeDone (s : TimedConnection κ) (ok sent : Bool) : TimedConnection κ :=
  let s' := if s.run.handshaking && ok then s.startHeartbeat else s
  { s' with run := s.run.handshakeDone ok sent }

/-- The seconds since `last_heartbeat_`. -/
def elapsed (s : TimedConnection κ) : ℕ := (s.clock - s.lastHeartbeat) / second

/-- The timer was started and has expired. -/
def Fires (s : TimedConnection κ) : Prop := ∃ t ∈ s.heartbeatTimer, t ≤ s.clock

instance (s : TimedConnection κ) : Decidable s.Fires :=
  inferInstanceAs (Decidable (∃ t ∈ s.heartbeatTimer, t ≤ s.clock))

/-- The handler in `send_heartbeat`. -/
def heartbeat (s : TimedConnection κ) (sent : Bool) : TimedConnection κ :=
  if s.Fires then
    let s' := if s.elapsed > 60 then { s with heartbeatTimer := none } else s.sendHeartbeat
    { s' with run := s.run.heartbeat s.elapsed sent }
  else s

/-- The completion of a read, with the PING ACKs among the frames nghttp2 finds in it. -/
def readDone (s : TimedConnection κ) (result : ReadResult) (acks : List ℕ) : TimedConnection κ :=
  let s' :=
    match result with
    | .data data _ _ _ => if s.run.reading && feeds data then acks.foldl pingAck s else s
    | .error => s
  { s' with run := s.run.readDone result }

/-- `update_stats`. -/
def updateStats (s : TimedConnection κ) : TimedConnection κ :=
  { s with lastHeartbeat := s.clock, tcpWritten := some s.clock }

/-- `send_tcp_data`; `written` is whether `write_some` succeeds. -/
def sendTcpData (s : TimedConnection κ) (written : Bool) : TimedConnection κ :=
  if s.run.agent.state ≠ .connected then s
  else if written then s.updateStats
  else s

end TimedConnection

/-! ## Runs -/

inductive TimedEvent (κ : Type)
  | handshake (ok sent : Bool)
  | heartbeat (sent : Bool)
  | read (result : ReadResult) (acks : List ℕ)
  | send (requestId httpRequest : Str) (callback : κ) (streamId : StreamId) (sent : Bool)
  | sendTcp (written : Bool)
  | timer (i : ℕ)
  | close

/-- The handlers; none of them takes time but the reading of a frame. -/
def handle (s : TimedConnection κ) : TimedEvent κ → TimedConnection κ
  | .handshake ok sent => s.handshakeDone ok sent
  | .heartbeat sent => s.heartbeat sent
  | .read result acks => s.readDone result acks
  | .send requestId httpRequest callback streamId sent =>
      { s with run := s.run.sendHttpRequest requestId httpRequest callback streamId sent }
  | .sendTcp written => s.sendTcpData written
  | .timer i => { s with run := { s.run with agent := (timerExpired s.run.agent i).1 } }
  | .close => { s with run := s.run.close false }

/-- Time passes. -/
def TimedConnection.wait (s : TimedConnection κ) (delay : ℕ) : TimedConnection κ :=
  { s with clock := s.clock + delay }

/-- An event, and how long after the one before it happens. -/
def timedStep (s : TimedConnection κ) (e : ℕ × TimedEvent κ) : TimedConnection κ :=
  handle (s.wait e.1) e.2

/-- A connection that has just been created and started, with the socket authenticated or not. -/
def TimedConnection.init (κ : Type) (authenticated sent : Bool) : TimedConnection κ :=
  TimedConnection.start
    { run := ⟨.created κ (if authenticated then .connected else .connecting), false, false, []⟩
      clock := 0, lastHeartbeat := 0, heartbeatTimer := none, sign := 0, tcpWritten := none } sent

/-- The last sign of the agent is at least 61 seconds back. -/
def TimedConnection.Overdue (s : TimedConnection κ) : Prop := s.sign + 61 * second ≤ s.clock

instance (s : TimedConnection κ) : Decidable s.Overdue :=
  inferInstanceAs (Decidable (s.sign + 61 * second ≤ s.clock))

/-- When the handler of the heartbeat timer runs late after the last sign, the connection is
closed. -/
def Detects (s : TimedConnection κ) (e : ℕ × TimedEvent κ) : Prop :=
  match e.2 with
  | .heartbeat _ => (s.wait e.1).Fires → (s.wait e.1).Overdue →
      (timedStep s e).run.agent.state = .disconnected
  | _ => True

/-- When the handler runs late after the last sign, no TCP frame was written for as long, unless
the connection is already closed or is lost on sending the PING. -/
def TcpQuiet (s : TimedConnection κ) (e : ℕ × TimedEvent κ) : Prop :=
  match e.2 with
  | .heartbeat sent => (s.wait e.1).Fires → (s.wait e.1).Overdue →
      s.run.agent.state = .disconnected ∨
      (∀ t ∈ s.tcpWritten, t + 61 * second ≤ s.clock + e.1) ∨
      (s.run.agent.session = true ∧ sent = false)
  | _ => True

/-! ## No connection is left half closed -/

/-- The state `DISCONNECTING` does not outlast `close`. -/
def Settled (a : AgentConnection κ) : Prop := a.state ≠ .disconnecting

theorem SameSession.settled {a b : AgentConnection κ} (h : SameSession a b) (ha : Settled a) :
    Settled b := by
  rw [Settled, h.1]
  exact ha

theorem Settled.state_close {a : AgentConnection κ} (ha : Settled a) :
    (close a).1.state = .disconnected := by
  rw [close]
  split
  · rename_i hclosed
    exact hclosed.resolve_right ha
  · rfl

theorem Settled.close {a : AgentConnection κ} (ha : Settled a) : Settled (close a).1 := by
  rw [Settled, ha.state_close]
  decide

section
variable {s : SessionRun κ}

theorem settled_sendPendingData (h : Settled s.agent) (sent : Bool) :
    Settled (s.sendPendingData sent).agent := by
  rw [agent_sendPendingData]
  cases sent with
  | true => exact h
  | false => exact h.close

theorem settled_startSession (h : Settled s.agent) (sent : Bool) :
    Settled (s.startSession sent).agent := by
  rw [agent_startSession, initializeNghttp2]
  cases sent with
  | true => exact h
  | false => exact Settled.close (a := { s.agent with session := true }) h

theorem settled_handshakeDone (h : Settled s.agent) (ok sent : Bool) :
    Settled (s.handshakeDone ok sent).agent := by
  rw [SessionRun.handshakeDone]
  split
  · exact h
  · cases ok with
    | true =>
        exact settled_startSession (s := { s with
          handshaking := false
          agent := { s.agent with state := .connected } }) (by simp [Settled]) sent
    | false => simp [Settled, handleDisconnect]

theorem settled_heartbeat (h : Settled s.agent) (elapsed : ℕ) (sent : Bool) :
    Settled (s.heartbeat elapsed sent).agent := by
  rw [SessionRun.heartbeat]
  split
  · rw [agent_close]
    exact h.close
  · split
    · exact settled_sendPendingData (s := s.call .submitPing false) h sent
    · exact h

theorem settled_callback (h : Settled s.agent) (c : Callback) : Settled (s.callback c).agent := by
  cases c with
  | header streamId name value => exact (sameSession_onHeader s.agent streamId name value).settled h
  | dataChunk streamId data => exact h
  | frame f =>
      rw [agent_callback_frame]
      by_cases hgoaway : f = .goaway
      · subst hgoaway
        exact h.close
      · exact (sameSession_onFrameRecv s.agent hgoaway).settled h

theorem settled_callbacks (h : Settled s.agent) (cs : List Callback) :
    Settled (cs.foldl SessionRun.callback s).agent := by
  induction cs generalizing s with
  | nil => exact h
  | cons c cs ih => exact ih (settled_callback h c)

theorem settled_finishRead (h : Settled s.agent) (sent : Bool) : Settled (s.finishRead sent).agent := by
  cases sent with
  | true => exact h
  | false =>
      change Settled ((s.call .sessionSend false).close false).agent
      rw [agent_close]
      exact h.close

theorem settled_readDone (h : Settled s.agent) (result : ReadResult) :
    Settled (s.readDone result).agent := by
  rw [SessionRun.readDone]
  split
  · exact h
  cases result with
  | error =>
      rw [agent_close]
      exact h.close
  | data data callbacks received sent =>
      have hrecv : Settled (if feeds data then
          SessionRun.memRecv { s with reading := false } callbacks
          else { s with reading := false }).agent := by
        split
        · exact settled_callbacks (s := SessionRun.call { s with reading := false } .sessionMemRecv false)
            h callbacks
        · exact h
      simp only
      split
      · rw [agent_close]
        exact hrecv.close
      · exact settled_finishRead hrecv sent

theorem settled_sendHttpRequest (h : Settled s.agent) (requestId httpRequest : Str) (callback : κ)
    (streamId : StreamId) (sent : Bool) :
    Settled (s.sendHttpRequest requestId httpRequest callback streamId sent).agent := by
  rw [agent_sendHttpRequest]
  by_cases haccepts : s.agent.Accepts streamId
  · rw [sendHttpRequest_of_accepts haccepts]
    have hstored : Settled (s.agent.register requestId httpRequest callback streamId) := h
    cases sent with
    | true => exact hstored
    | false => exact hstored.close
  · rw [sendHttpRequest_of_not_accepts haccepts]
    exact h

theorem settled_sessionStep (h : Settled s.agent) (e : SessionEvent κ) :
    Settled (sessionStep s e).agent := by
  cases e with
  | handshake ok sent => exact settled_handshakeDone h ok sent
  | heartbeat elapsed sent => exact settled_heartbeat h elapsed sent
  | read result => exact settled_readDone h result
  | send requestId httpRequest callback streamId sent =>
      exact settled_sendHttpRequest h requestId httpRequest callback streamId sent
  | timer i => exact (sameSession_timerExpired s.agent i).settled h
  | close =>
      rw [sessionStep, agent_close]
      exact h.close

end

/-! ## The times -/

/-- `last_heartbeat_` is the later of the last sign and the last TCP frame written. -/
structure TimedInv (s : TimedConnection κ) : Prop where
  session : SessionInv s.run
  settled : Settled s.run.agent
  sign_le : s.sign ≤ s.clock
  tcpWritten_le : ∀ t ∈ s.tcpWritten, t ≤ s.clock
  lastHeartbeat : s.lastHeartbeat = max s.sign (s.tcpWritten.getD s.sign)

section
variable {s : TimedConnection κ}

theorem TimedInv.wait (H : TimedInv s) (delay : ℕ) : TimedInv (s.wait delay) where
  session := H.session
  settled := H.settled
  sign_le := H.sign_le.trans (Nat.le_add_right _ _)
  tcpWritten_le := fun t ht => (H.tcpWritten_le t ht).trans (Nat.le_add_right _ _)
  lastHeartbeat := H.lastHeartbeat

/-- A sign of the agent now. -/
theorem TimedInv.sign (H : TimedInv s) {s' : TimedConnection κ} (hrun : s'.run = s.run)
    (hclock : s.clock ≤ s'.clock) (hheartbeat : s'.lastHeartbeat = s'.clock)
    (hsign : s'.sign = s'.clock) (htcp : s'.tcpWritten = s.tcpWritten) : TimedInv s' where
  session := hrun ▸ H.session
  settled := hrun ▸ H.settled
  sign_le := hsign.le
  tcpWritten_le := by
    rw [htcp]
    exact fun t ht => (H.tcpWritten_le t ht).trans hclock
  lastHeartbeat := by
    have hle : s.tcpWritten.getD s'.sign ≤ s'.sign := by
      cases h : s.tcpWritten with
      | none => exact le_rfl
      | some t => exact hsign ▸ (H.tcpWritten_le t h).trans hclock
    rw [htcp, max_eq_left hle, hheartbeat, hsign]

/-- A TCP frame written now. -/
theorem TimedInv.updateStats (H : TimedInv s) : TimedInv s.updateStats where
  session := H.session
  settled := H.settled
  sign_le := H.sign_le
  tcpWritten_le := by
    intro t ht
    cases ht
    exact le_rfl
  lastHeartbeat := (max_eq_right H.sign_le).symm

/-- What only changes the connection underneath, by a step of it, and the timer. -/
theorem TimedInv.step (H : TimedInv s) (e : SessionEvent κ) (timer : Option ℕ) :
    TimedInv { s with run := sessionStep s.run e, heartbeatTimer := timer } where
  session := (sessionStep_spec e H.session).1
  settled := settled_sessionStep H.settled e
  sign_le := H.sign_le
  tcpWritten_le := H.tcpWritten_le
  lastHeartbeat := H.lastHeartbeat

theorem TimedInv.pingAcks (H : TimedInv s) (acks : List ℕ) :
    TimedInv (acks.foldl TimedConnection.pingAck s) ∧
      (acks.foldl TimedConnection.pingAck s).run = s.run := by
  induction acks generalizing s with
  | nil => exact ⟨H, rfl⟩
  | cons delay acks ih =>
      have Hack : TimedInv (s.pingAck delay) := H.sign rfl (Nat.le_add_right _ _) rfl rfl rfl
      exact ih Hack

theorem TimedInv.handle (H : TimedInv s) (e : TimedEvent κ) : TimedInv (handle s e) := by
  cases e with
  | handshake ok sent =>
      have hstep : ∀ s' : TimedConnection κ, s'.run = s.run → TimedInv s' →
          TimedInv { s' with run := s.run.handshakeDone ok sent } := by
        intro s' hrun H'
        rw [← hrun]
        exact H'.step (.handshake ok sent) s'.heartbeatTimer
      simp only [Agent.handle, TimedConnection.handshakeDone]
      split
      · exact hstep s.startHeartbeat rfl (H.sign rfl le_rfl rfl rfl rfl)
      · exact hstep s rfl H
  | heartbeat sent =>
      simp only [Agent.handle, TimedConnection.heartbeat]
      split
      · split
        · exact H.step (.heartbeat s.elapsed sent) none
        · exact H.step (.heartbeat s.elapsed sent) (some (s.clock + 30 * second))
      · exact H
  | read result acks =>
      have hstep : ∀ s' : TimedConnection κ, s'.run = s.run → TimedInv s' →
          TimedInv { s' with run := s.run.readDone result } := by
        intro s' hrun H'
        rw [← hrun]
        exact H'.step (.read result) s'.heartbeatTimer
      simp only [Agent.handle, TimedConnection.readDone]
      obtain ⟨Hacks, hrun⟩ := H.pingAcks acks
      cases result with
      | error => exact hstep s rfl H
      | data data callbacks received sent =>
          simp only
          split
          · exact hstep _ hrun Hacks
          · exact hstep s rfl H
  | send requestId httpRequest callback streamId sent =>
      exact H.step (.send requestId httpRequest callback streamId sent) s.heartbeatTimer
  | sendTcp written =>
      simp only [Agent.handle, TimedConnection.sendTcpData]
      split
      · exact H
      · split
        · exact H.updateStats
        · exact H
  | timer i => exact H.step (.timer i) s.heartbeatTimer
  | close => exact H.step .close s.heartbeatTimer

theorem TimedInv.timedStep (H : TimedInv s) (e : ℕ × TimedEvent κ) : TimedInv (timedStep s e) :=
  (H.wait e.1).handle e.2

/-! ## The handler of the timer -/

/-- After the last sign was late, `last_heartbeat_` is as late exactly if the last TCP frame was. -/
theorem TimedInv.elapsed_gt_iff (H : TimedInv s) (hoverdue : s.Overdue) :
    s.elapsed > 60 ↔ ∀ t ∈ s.tcpWritten, t + 61 * second ≤ s.clock := by
  rw [TimedConnection.Overdue] at hoverdue
  have helapsed : s.elapsed > 60 ↔ s.lastHeartbeat + 61 * second ≤ s.clock := by
    rw [TimedConnection.elapsed, gt_iff_lt, ← Nat.succ_le_iff, Nat.le_div_iff_mul_le (by decide)]
    rw [second]
    omega
  rw [helapsed, H.lastHeartbeat]
  cases htcp : s.tcpWritten with
  | none => simpa using hoverdue
  | some t =>
      simp only [Option.getD_some, Option.mem_some_iff, forall_eq']
      omega

/-- After the handler the connection is closed if it was, if too much time has elapsed, or if the
PING is lost. -/
theorem TimedInv.state_heartbeat (H : TimedInv s) (hfires : s.Fires) (sent : Bool) :
    (s.heartbeat sent).run.agent.state = .disconnected ↔
      s.run.agent.state = .disconnected ∨ s.elapsed > 60 ∨
        (s.run.agent.session = true ∧ sent = false) := by
  have hrun : (s.heartbeat sent).run = s.run.heartbeat s.elapsed sent := by
    rw [TimedConnection.heartbeat, if_pos hfires]
  rw [hrun, SessionRun.heartbeat]
  by_cases helapsed : s.elapsed > 60
  · rw [if_pos helapsed, agent_close, H.settled.state_close]
    simp [helapsed]
  rw [if_neg helapsed]
  by_cases hsession : s.run.agent.session = true
  · have hconnected := H.session.connected hsession
    rw [if_pos hsession, agent_sendPendingData, agent_call]
    cases sent with
    | true => simp [hconnected, helapsed]
    | false => simp [H.settled.state_close, hsession]
  · simp [hsession, helapsed]

/-- A handler detects exactly if it was quiet for it. -/
theorem TimedInv.detects_iff (H : TimedInv s) (e : ℕ × TimedEvent κ) :
    Detects s e ↔ TcpQuiet s e := by
  obtain ⟨delay, ev⟩ := e
  cases ev with
  | heartbeat sent =>
      have Hw := H.wait delay
      simp only [Detects, TcpQuiet]
      refine forall_congr' fun hfires => forall_congr' fun hoverdue => ?_
      have hclosed := Hw.state_heartbeat hfires sent
      rw [Hw.elapsed_gt_iff hoverdue] at hclosed
      exact hclosed
  | _ => exact Iff.rfl

end

theorem timedInv_init (authenticated sent : Bool) :
    TimedInv (TimedConnection.init κ authenticated sent) where
  session := by
    cases authenticated with
    | true => exact (startSession_spec rfl rfl sent).1
    | false => exact .of_none rfl
  settled := by
    cases authenticated with
    | true => exact settled_startSession (by simp [Settled, AgentConnection.created]) sent
    | false => simp [Settled, TimedConnection.init, TimedConnection.start, SessionRun.start,
        AgentConnection.created]
  sign_le := by cases authenticated <;> exact le_rfl
  tcpWritten_le := by cases authenticated <;> intro t ht <;> cases ht
  lastHeartbeat := by cases authenticated <;> rfl

/-- **Detection of dead agents.**  In every run of a connection, the handlers of the heartbeat
timer that run at least 61 seconds after the last sign of the agent leave the connection closed
exactly if at each of them no TCP frame was written in these 61 seconds, unless the connection
was already closed or is lost on sending the PING. -/
theorem dead_agents_detected_iff (κ : Type) (authenticated sent : Bool)
    (evs : List (ℕ × TimedEvent κ)) :
    Along timedStep Detects (TimedConnection.init κ authenticated sent) evs ↔
      Along timedStep TcpQuiet (TimedConnection.init κ authenticated sent) evs :=
  along_congr TimedInv (fun _ e H => H.timedStep e) (fun _ e H => H.detects_iff e)
    (timedInv_init authenticated sent)

/-- A TCP frame written after 59 seconds keeps the connection open at the check after 90. -/
theorem tcp_frame_postpones :
    ¬ Along timedStep Detects (TimedConnection.init Unit true true)
      [(30 * second, .heartbeat true), (29 * second, .sendTcp true), (second, .heartbeat true),
        (30 * second, .heartbeat true)] := by
  intro h
  have hlast := h.2.2.2.1 (by decide) (by decide)
  revert hlast
  decide

end Protogate.Agent
