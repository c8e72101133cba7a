import Protogate.Lib.Run

/-!
# The nghttp2 sessions of the agent

`run_agent` makes an `HTTP2Session` for each attempt.  `start` allocates an nghttp2 session and
`stop` deletes it, but only while `active_` is true; a failed read or send sets it to false.  The
heartbeat calls `stop` on the thread of the `io_context`, where a read may still complete; the
main thread calls it after this thread has ended, and the destructor calls it once more.

An attempt starts only while `running` is true: a signal that comes while the agent connects,
after which the session would still be started, is left out.

## Main definitions

* `SessionMemory`, `memoryStep` — one attempt after the other, with what is left of their sessions.
* `Freeable`, `sessions_freed_iff` — when every session is deleted.
* `Untouched`, `sessions_live_iff` — when nghttp2 is never called without a session.
-/

namespace Protogate.TunnelAgent

open Protogate.Lib

/-! ## Sessions -/

/-- Where the main thread is with an attempt. -/
inductive AttemptPhase
  /-- There is no started session. -/
  | between
  /-- The `io_context` runs. -/
  | events
  /-- Its thread has been joined. -/
  | joined
  deriving DecidableEq, Repr

structure SessionMemory where
  running : Bool
  phase : AttemptPhase
  /-- `session_` is not null. -/
  session : Bool
  active : Bool
  reading : Bool
  heartbeatTimer : Bool
  /-- The sessions that were not deleted before their object was. -/
  leaked : ℕ
  /-- An nghttp2 function was called with null. -/
  nullCall : Bool
  deriving DecidableEq, Repr

/-- How a read ends, and what nghttp2 does with the bytes that are left for it. -/
inductive ReadCompletion
  | failed
  /-- TCP frames, or nothing. -/
  | tcpFrames
  /-- Whether the sends of the callbacks, `nghttp2_session_mem_recv` and `nghttp2_session_send`
  succeed. -/
  | http2 (answered received sent : Bool)
  deriving DecidableEq, Repr

inductive MemoryEvent
  /-- `http2_session.start` returns. -/
  | started
  | read (result : ReadCompletion)
  /-- `heartbeat_check`: whether a PING is due and is sent, whether the last one timed out, and
  whether what is pending is sent. -/
  | check (due pingSent timedOut eventsSent : Bool)
  | signal
  /-- The main thread has seen the flags and joined the other one. -/
  | join
  /-- It stops the session and leaves the block. -/
  | finish
  deriving DecidableEq, Repr

namespace SessionMemory

def init : SessionMemory := ⟨true, .between, false, false, false, false, 0, false⟩

/-- `stop`. -/
def stop (s : SessionMemory) : SessionMemory :=
  if ! s.active then s else { s with session := false, active := false }

/-- `start_async_read`. -/
def startAsyncRead (s : SessionMemory) : SessionMemory :=
  if ! s.active then s else { s with reading := true }

/-- `send_data`. -/
def sendData (s : SessionMemory) (sent : Bool) : SessionMemory :=
  if ! s.session then { s with nullCall := true } else { s with active := s.active && sent }

/-- `handle_read`, which does not look at `active_` before it hands the bytes on. -/
def handleRead (s : SessionMemory) : ReadCompletion → SessionMemory
  | .failed => { s with active := false }
  | .tcpFrames => s.startAsyncRead
  | .http2 answered received sent =>
      if ! s.session then { s with nullCall := true }
      else if received && sent then { s with active := s.active && answered }.startAsyncRead
      else { s with active := false }

/-- `heartbeat_check`; where it returns early, the timer is not set again. -/
def heartbeatCheck (s : SessionMemory) (due pingSent timedOut eventsSent : Bool) : SessionMemory :=
  if ! s.running || ! s.active then s
  else
    let s := if due then s.sendData pingSent else s
    if timedOut then { s with running := false }.stop
    else { s.sendData eventsSent with heartbeatTimer := true }

/-- The read of the session that runs is pending. -/
def Reads (s : SessionMemory) : Prop := s.phase = .events ∧ s.reading = true

/-- The timer of the session that runs is set. -/
def Ticks (s : SessionMemory) : Prop := s.phase = .events ∧ s.heartbeatTimer = true

instance (s : SessionMemory) : Decidable s.Reads := inferInstanceAs (Decidable (_ ∧ _))

instance (s : SessionMemory) : Decidable s.Ticks := inferInstanceAs (Decidable (_ ∧ _))

/-- An event that happens while no nghttp2 function has been called with null. -/
def handle (s : SessionMemory) : MemoryEvent → SessionMemory
  | .started =>
      if s.phase = .between ∧ s.running = true then
        { s with phase := .events, session := true, active := true, reading := true, heartbeatTimer := true }
      else s
  | .read result => if s.Reads then { s with reading := false }.handleRead result else s
  | .check due pingSent timedOut eventsSent =>
      if s.Ticks then
        { s with heartbeatTimer := false }.heartbeatCheck due pingSent timedOut eventsSent
      else s
  | .signal => { s with running := false }
  | .join => if s.phase = .events ∧ (s.running && s.active) = false then { s with phase := .joined } else s
  | .finish =>
      if s.phase = .joined then
        let s := s.stop.stop
        { s with
          phase := .between
          session := false
          reading := false
          heartbeatTimer := false
          leaked := if s.session then s.leaked + 1 else s.leaked }
      else s

end SessionMemory

def memoryStep (s : SessionMemory) (e : MemoryEvent) : SessionMemory :=
  if s.nullCall then s else s.handle e

/-! ## Deleting sessions -/

/-- No session was lost, and the one there is can still be deleted. -/
structure Freeable (s : SessionMemory) : Prop where
  leaked : s.leaked = 0
  stops : s.stop.session = false

/-- The event does not end the session by a failed read or send. -/
def KeepsActive (s : SessionMemory) : MemoryEvent → Prop
  | .read .failed => s.Reads → s.active = false
  | .read (.http2 answered received sent) =>
      s.Reads → s.active = true → (answered && received && sent) = true
  | .check due pingSent timedOut eventsSent =>
      s.Ticks → s.running = true → s.active = true →
        (due = true → pingSent = true) ∧ (timedOut = true ∨ eventsSent = true)
  | _ => True

/-- An active object has a session, and outside an attempt there is none; a call with null was
made without one. -/
structure SessionHeld (s : SessionMemory) : Prop where
  active : s.active = true → s.session = true
  between : s.phase = .between → s.session = false
  nullCall : s.nullCall = true → s.session = false

section
variable {s : SessionMemory}

@[simp] theorem active_stop (s : SessionMemory) : s.stop.active = false := by
  rw [SessionMemory.stop]
  cases h : s.active <;> simp [h]

@[simp] theorem leaked_stop (s : SessionMemory) : s.stop.leaked = s.leaked := by
  rw [SessionMemory.stop]
  split <;> rfl

@[simp] theorem nullCall_stop (s : SessionMemory) : s.stop.nullCall = s.nullCall := by
  rw [SessionMemory.stop]
  split <;> rfl

/-- The destructor finds the session as `stop` has left it. -/
@[simp] theorem stop_stop (s : SessionMemory) : s.stop.stop = s.stop := by
  rw [SessionMemory.stop, active_stop]
  rfl

theorem session_stop_iff (s : SessionMemory) :
    s.stop.session = false ↔ (s.session = true → s.active = true) := by
  rw [SessionMemory.stop]
  cases hactive : s.active <;> simp

/-- What an operation of the running attempt leaves: the phase and the leaks are the same, an active
object has a session, and a session that could be deleted still can exactly under this condition. -/
structure Leaves (s s' : SessionMemory) (C : Prop) : Prop where
  phase : s'.phase = s.phase
  leaked : s'.leaked = s.leaked
  active : s'.active = true → s'.session = true
  nullCall : s'.nullCall = true → s'.session = false
  freeable : (s.session = true → s.active = true) → ((s'.session = true → s'.active = true) ↔ C)

theorem leaves_read (H : SessionHeld s) (result : ReadCompletion) :
    Leaves s ({ s with reading := false }.handleRead result)
      (match result with
        | .failed => s.active = false
        | .tcpFrames => True
        | .http2 answered received sent => s.active = true → (answered && received && sent) = true) := by
  obtain ⟨hactive, _, hnull⟩ := H
  cases result with
  | failed =>
      refine ⟨rfl, rfl, by simp [SessionMemory.handleRead], hnull, fun hfree => ?_⟩
      cases hs : s.active <;> simp_all [SessionMemory.handleRead]
  | tcpFrames =>
      have hsame : ∀ s' : SessionMemory, s'.startAsyncRead = s' ∨
          s'.startAsyncRead = { s' with reading := true } := by
        intro s'
        rw [SessionMemory.startAsyncRead]
        split <;> simp
      rcases hsame { s with reading := false } with heq | heq <;> rw [SessionMemory.handleRead, heq] <;>
        exact ⟨rfl, rfl, hactive, hnull, fun hfree => iff_of_true hfree trivial⟩
  | http2 answered received sent =>
      cases hsession : s.session with
      | false => constructor <;> simp_all [SessionMemory.handleRead]
      | true =>
          cases hact : s.active <;> cases answered <;> cases received <;> cases sent <;>
            constructor <;> simp_all [SessionMemory.handleRead, SessionMemory.startAsyncRead]

theorem leaves_check (H : SessionHeld s) (due pingSent timedOut eventsSent : Bool) :
    Leaves s ({ s with heartbeatTimer := false }.heartbeatCheck due pingSent timedOut eventsSent)
      (s.running = true → s.active = true →
        (due = true → pingSent = true) ∧ (timedOut = true ∨ eventsSent = true)) := by
  obtain ⟨hactive, _, hnull⟩ := H
  cases hrunning : s.running with
  | false => constructor <;> simp_all [SessionMemory.heartbeatCheck]
  | true =>
      cases hact : s.active with
      | false => constructor <;> simp_all [SessionMemory.heartbeatCheck]
      | true =>
          have hsession := hactive hact
          cases due <;> cases pingSent <;> cases timedOut <;> cases eventsSent <;> constructor <;>
            simp_all [SessionMemory.heartbeatCheck, SessionMemory.sendData, SessionMemory.stop]

theorem sessionHeld_init : SessionHeld .init := by constructor <;> simp [SessionMemory.init]

theorem SessionHeld.of_leaves {s' : SessionMemory} {C : Prop} (h : Leaves s s' C)
    (hphase : s.phase = .events) : SessionHeld s' :=
  ⟨h.active, fun hb => by simp [h.phase, hphase] at hb, h.nullCall⟩

theorem sessionHeld_step (s : SessionMemory) (e : MemoryEvent) (H : SessionHeld s) :
    SessionHeld (memoryStep s e) := by
  rw [memoryStep]
  split
  · exact H
  · rename_i hcalled
    cases e with
    | started =>
        rw [SessionMemory.handle]
        split
        · exact ⟨fun _ => rfl, by simp, fun hnull => absurd hnull hcalled⟩
        · exact H
    | read result =>
        rw [SessionMemory.handle]
        split
        · rename_i hreads
          exact .of_leaves (leaves_read H result) hreads.1
        · exact H
    | check due pingSent timedOut eventsSent =>
        rw [SessionMemory.handle]
        split
        · rename_i hticks
          exact .of_leaves (leaves_check H due pingSent timedOut eventsSent) hticks.1
        · exact H
    | signal => exact ⟨H.active, H.between, H.nullCall⟩
    | join =>
        rw [SessionMemory.handle]
        split
        · exact ⟨H.active, by simp, H.nullCall⟩
        · exact H
    | finish =>
        rw [SessionMemory.handle]
        split
        · exact ⟨by simp, fun _ => rfl, fun _ => rfl⟩
        · exact H

theorem freeable_iff : Freeable s ↔ s.leaked = 0 ∧ (s.session = true → s.active = true) :=
  ⟨fun H => ⟨H.leaked, (session_stop_iff s).mp H.stops⟩, fun H => ⟨H.1, (session_stop_iff s).mpr H.2⟩⟩

theorem Leaves.freeable_iff {s' : SessionMemory} {C : Prop} (h : Leaves s s' C) (H : Freeable s) :
    Freeable s' ↔ C := by
  obtain ⟨hleaked, hfree⟩ := TunnelAgent.freeable_iff.mp H
  rw [TunnelAgent.freeable_iff, h.leaked, h.freeable hfree]
  exact and_iff_right hleaked

theorem keepsActive_of_inactive (h : s.active = false) (e : MemoryEvent) : KeepsActive s e := by
  cases e with
  | read result => cases result <;> simp [KeepsActive, h]
  | check due pingSent timedOut eventsSent => simp [KeepsActive, h]
  | started | signal | join | finish => trivial

theorem freeable_step_iff (s : SessionMemory) (e : MemoryEvent) (H : SessionHeld s) (hfree : Freeable s) :
    Freeable (memoryStep s e) ↔ KeepsActive s e := by
  obtain ⟨hleaked, hdeletable⟩ := freeable_iff.mp hfree
  rw [memoryStep]
  split
  · rename_i hnull
    have hinactive : s.active = false := by
      rw [Bool.eq_false_iff]
      intro hactive
      have hsession := H.active hactive
      rw [H.nullCall hnull] at hsession
      cases hsession
    exact iff_of_true hfree (keepsActive_of_inactive hinactive e)
  · cases e with
    | started =>
        rw [SessionMemory.handle]
        split
        · exact iff_of_true (freeable_iff.mpr ⟨hleaked, fun _ => rfl⟩) trivial
        · exact iff_of_true hfree trivial
    | read result =>
        by_cases hreads : s.Reads
        · rw [SessionMemory.handle, if_pos hreads, (leaves_read H result).freeable_iff hfree]
          cases result <;> simp [KeepsActive, hreads]
        · rw [SessionMemory.handle, if_neg hreads]
          refine iff_of_true hfree ?_
          cases result <;> simp [KeepsActive, hreads]
    | check due pingSent timedOut eventsSent =>
        by_cases hticks : s.Ticks
        · have hleaves := leaves_check H due pingSent timedOut eventsSent
          rw [SessionMemory.handle, if_pos hticks, hleaves.freeable_iff hfree]
          simp only [KeepsActive, hticks, true_imp_iff]
        · rw [SessionMemory.handle, if_neg hticks]
          exact iff_of_true hfree fun h => absurd h hticks
    | signal => exact iff_of_true (freeable_iff.mpr ⟨hleaked, hdeletable⟩) trivial
    | join =>
        rw [SessionMemory.handle]
        split
        · exact iff_of_true (freeable_iff.mpr ⟨hleaked, hdeletable⟩) trivial
        · exact iff_of_true hfree trivial
    | finish =>
        rw [SessionMemory.handle]
        split
        · refine iff_of_true (freeable_iff.mpr ⟨?_, by simp⟩) trivial
          simp [hfree.stops, hleaked]
        · exact iff_of_true hfree trivial

/-- **When the agent deletes its sessions**: every session there is or was can be or was deleted,
at every point of a run, exactly if no session ended by a failed read or send. -/
theorem sessions_freed_iff (evs : List MemoryEvent) :
    Always memoryStep Freeable .init evs ↔ Along memoryStep KeepsActive .init evs :=
  always_iff_along SessionHeld sessionHeld_step freeable_step_iff sessionHeld_init ⟨rfl, rfl⟩

/-! ## Calls without a session -/

/-- No nghttp2 function has been called with null. -/
def Untouched (s : SessionMemory) : Prop := s.nullCall = false

/-- A read with bytes for nghttp2 finds a session. -/
def FindsSession (s : SessionMemory) : MemoryEvent → Prop
  | .read (.http2 _ _ _) => s.Reads → s.session = true
  | _ => True

theorem nullCall_check (hactive : s.active = true → s.session = true)
    (due pingSent timedOut eventsSent : Bool) :
    (s.heartbeatCheck due pingSent timedOut eventsSent).nullCall = s.nullCall := by
  cases hact : s.active with
  | false => simp [SessionMemory.heartbeatCheck, hact]
  | true =>
      have hsession := hactive hact
      cases hrunning : s.running <;> cases due <;> cases timedOut <;>
        simp [SessionMemory.heartbeatCheck, SessionMemory.sendData, SessionMemory.stop, hact, hsession, hrunning]
      split <;> rfl

theorem untouched_read_iff (h : s.nullCall = false) (result : ReadCompletion) :
    (s.handleRead result).nullCall = false ↔
      ∀ answered received sent, result = .http2 answered received sent → s.session = true := by
  cases result with
  | failed => simp [SessionMemory.handleRead, h]
  | tcpFrames =>
      simp only [SessionMemory.handleRead, SessionMemory.startAsyncRead]
      split <;> simp [h]
  | http2 answered received sent =>
      cases hsession : s.session <;>
        simp [SessionMemory.handleRead, SessionMemory.startAsyncRead, hsession]
      split
      · split <;> exact h
      · exact h

theorem untouched_step_iff (s : SessionMemory) (e : MemoryEvent) (H : SessionHeld s) (hnull : Untouched s) :
    Untouched (memoryStep s e) ↔ FindsSession s e := by
  rw [memoryStep, if_neg (by simp [show s.nullCall = false from hnull])]
  cases e with
  | read result =>
      by_cases hreads : s.Reads
      · rw [SessionMemory.handle, if_pos hreads, Untouched,
          untouched_read_iff (s := { s with reading := false }) hnull]
        cases result <;> simp [FindsSession, hreads]
      · rw [SessionMemory.handle, if_neg hreads]
        refine iff_of_true hnull ?_
        cases result <;> simp [FindsSession, hreads]
  | check due pingSent timedOut eventsSent =>
      rw [SessionMemory.handle]
      refine iff_of_true ?_ trivial
      split
      · exact (nullCall_check (s := { s with heartbeatTimer := false }) H.active due pingSent timedOut
          eventsSent).trans hnull
      · exact hnull
  | started | join =>
      rw [SessionMemory.handle]
      refine iff_of_true ?_ trivial
      split <;> exact hnull
  | signal => exact iff_of_true hnull trivial
  | finish =>
      rw [SessionMemory.handle]
      refine iff_of_true ?_ trivial
      split
      · simpa [Untouched] using hnull
      · exact hnull

/-- **When nghttp2 is called without a session**: never, exactly if no read with bytes for it
completes between the `stop` of a heartbeat that timed out and the end of the thread. -/
theorem sessions_live_iff (evs : List MemoryEvent) :
    Always memoryStep Untouched .init evs ↔ Along memoryStep FindsSession .init evs :=
  always_iff_along SessionHeld sessionHeld_step untouched_step_iff sessionHeld_init rfl

end

end Protogate.TunnelAgent
