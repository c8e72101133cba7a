import Protogate.Agent.AgentConnection
import Protogate.Agent.StartRead

/-!
# The HTTP/2 session of an agent connection

`close` deletes the session and sets `http2_session_` to null.  It is called from the
heartbeat, from failed sends, when a read fails, and from the callback for a GOAWAY,
which nghttp2 invokes while `nghttp2_session_mem_recv` is running.  `send_http_request`
and the heartbeat look whether there is a session; the completion of a read does not.

Every call of an nghttp2 function with `http2_session_` is recorded, with whether the
session was live and whether it was made from inside one of its callbacks.  What nghttp2
and the socket do is in the events: the callbacks of one `mem_recv`, and what succeeds.

## Main definitions

* `SessionRun`, `sessionStep` — the connection with the calls made.
* `SessionSafe` — no call with a dead session, and no deletion from inside a callback.
* `Usable` — what must hold of a read.
* `session_safe_iff` — runs are safe exactly when every read meets it.
-/

namespace Protogate.Agent

open Protogate.Lib Protogate.Wire Protogate.Proxy

/-! ## Calls -/

/-- The functions that are called with `http2_session_`. -/
inductive Nghttp2
  | submitSettings
  | submitPing
  | submitHeaders
  | submitData
  | sessionSend
  | sessionMemRecv
  | sessionDel
  deriving DecidableEq, Repr

/-- A call with `http2_session_`: whether the session was live, and whether one of its
callbacks was running. -/
structure SessionCall where
  function : Nghttp2
  live : Bool
  inCallback : Bool
  deriving DecidableEq, Repr

/-- The session is live, and not deleted from inside a callback. -/
def SessionCall.Valid (c : SessionCall) : Prop :=
  c.live = true ∧ ¬ (c.function = .sessionDel ∧ c.inCallback = true)

instance (c : SessionCall) : Decidable c.Valid := inferInstanceAs (Decidable (_ ∧ ¬ (_ ∧ _)))

/-- The connection, whether a handshake and a read are under way, and the calls made. -/
structure SessionRun (κ : Type) where
  agent : AgentConnection κ
  handshaking : Bool
  reading : Bool
  calls : List SessionCall

variable {κ : Type}

namespace SessionRun

def call (s : SessionRun κ) (function : Nghttp2) (inCallback : Bool) : SessionRun κ :=
  { s with calls := s.calls ++ [⟨function, s.agent.session, inCallback⟩] }

/-- `close`. -/
def close (s : SessionRun κ) (inCallback : Bool) : SessionRun κ :=
  if s.agent.state = .disconnected ∨ s.agent.state = .disconnecting then s
  else
    let deleted := if s.agent.session then s.call .sessionDel inCallback else s
    { deleted with agent := (Agent.close s.agent).1 }

/-- `send_pending_data`. -/
def sendPendingData (s : SessionRun κ) (sent : Bool) : SessionRun κ :=
  let s := s.call .sessionSend false
  if sent then s else s.close false

/-- `initialize_nghttp2`. -/
def initializeNghttp2 (s : SessionRun κ) (sent : Bool) : SessionRun κ :=
  let s := { s with agent := { s.agent with session := true } }
  (s.call .submitSettings false).sendPendingData sent

/-- The part of `start` for an authenticated connection, also after the handshake; it
ends with `start_read`. -/
def startSession (s : SessionRun κ) (sent : Bool) : SessionRun κ :=
  { s.initializeNghttp2 sent with reading := true }

def start (s : SessionRun κ) (sent : Bool) : SessionRun κ :=
  if s.agent.state = .connected then s.startSession sent else { s with handshaking := true }

/-- The completion of the handshake. -/
def handshakeDone (s : SessionRun κ) (ok sent : Bool) : SessionRun κ :=
  if !s.handshaking then s
  else
    let s := { s with handshaking := false }
    if ok then { s with agent := { s.agent with state := .connected } }.startSession sent
    else { s with agent := (handleDisconnect { s.agent with state := .disconnected }).1 }

/-- The handler of the heartbeat timer; `elapsed` is the time in seconds since the last
sign of the agent. -/
def heartbeat (s : SessionRun κ) (elapsed : ℕ) (sent : Bool) : SessionRun κ :=
  if elapsed > 60 then s.close false
  else if s.agent.session then (s.call .submitPing false).sendPendingData sent
  else s

/-- `send_http_request`. -/
def sendHttpRequest (s : SessionRun κ) (requestId httpRequest : Str) (callback : κ)
    (streamId : StreamId) (sent : Bool) : SessionRun κ :=
  if s.agent.state ≠ .connected then s
  else if !s.agent.session then s
  else
    let s := s.call .submitHeaders false
    if streamId < 0 then s
    else
      let body := (parseHttpRequest requestId httpRequest).2
      let s := s.call (if body.isEmpty then .submitHeaders else .submitData) false
      let s := { s with agent := s.agent.register requestId httpRequest callback streamId }
      let s := s.sendPendingData sent
      { s with agent := s.agent.startTimer requestId streamId }

end SessionRun

/-! ## Reads -/

/-- A callback nghttp2 invokes while `nghttp2_session_mem_recv` is running. -/
inductive Callback
  | header (streamId : StreamId) (name value : Str)
  | dataChunk (streamId : StreamId) (data : Str)
  | frame (f : RecvFrame)
  deriving DecidableEq, Repr

namespace SessionRun

def callback (s : SessionRun κ) : Callback → SessionRun κ
  | .header streamId name value => { s with agent := onHeader s.agent streamId name value }
  | .dataChunk streamId data => { s with agent := onDataChunk s.agent streamId data }
  | .frame .goaway => s.close true
  | .frame f => { s with agent := (onFrameRecv s.agent f).1 }

/-- `nghttp2_session_mem_recv` with the callbacks it invokes. -/
def memRecv (s : SessionRun κ) (callbacks : List Callback) : SessionRun κ :=
  callbacks.foldl callback (s.call .sessionMemRecv false)

end SessionRun

/-- The bytes of a read go to nghttp2. -/
def feeds (data : Bytes) : Bool := !(isTcpRead data || data.isEmpty)

/-- The completion of the read that is under way. -/
inductive ReadResult
  | error
  | data (data : Bytes) (callbacks : List Callback) (received sent : Bool)
  deriving DecidableEq, Repr

namespace SessionRun

/-- The end of the handler in `start_read`: what there is to send, and the next read. -/
def finishRead (s : SessionRun κ) (sent : Bool) : SessionRun κ :=
  let s := s.call .sessionSend false
  if sent then { s with reading := true } else s.close false

/-- The handler in `start_read`. -/
def readDone (s : SessionRun κ) (result : ReadResult) : SessionRun κ :=
  if !s.reading then s
  else
    let s := { s with reading := false }
    match result with
    | .error => s.close false
    | .data data callbacks received sent =>
        let s := if feeds data then s.memRecv callbacks else s
        if feeds data && !received then s.close false else s.finishRead sent

end SessionRun

/-! ## Runs -/

inductive SessionEvent (κ : Type)
  | handshake (ok sent : Bool)
  | heartbeat (elapsed : ℕ) (sent : Bool)
  | read (result : ReadResult)
  | send (requestId httpRequest : Str) (callback : κ) (streamId : StreamId) (sent : Bool)
  | timer (i : ℕ)
  | close

def sessionStep (s : SessionRun κ) : SessionEvent κ → SessionRun κ
  | .handshake ok sent => s.handshakeDone ok sent
  | .heartbeat elapsed sent => s.heartbeat elapsed sent
  | .read result => s.readDone result
  | .send requestId httpRequest callback streamId sent =>
      s.sendHttpRequest requestId httpRequest callback streamId sent
  | .timer i => { s with agent := (timerExpired s.agent i).1 }
  | .close => s.close false

/-- A connection that has just been created and started. -/
def SessionRun.init (κ : Type) (state : State) (sent : Bool) : SessionRun κ :=
  SessionRun.start ⟨.created κ state, false, false, []⟩ sent

/-- Every call so far was valid. -/
def SessionSafe (s : SessionRun κ) : Prop := ∀ c ∈ s.calls, c.Valid

/-- When a read completes without error there is a session, and if its bytes go to
nghttp2 they hold no GOAWAY. -/
def Usable (s : SessionRun κ) : SessionEvent κ → Prop
  | .read (.data data callbacks _ _) => s.reading = true →
      s.agent.session = true ∧ (feeds data = true → .frame .goaway ∉ callbacks)
  | _ => True

/-! ## The connection underneath -/

section
variable (s : SessionRun κ)

@[simp] theorem agent_call (f : Nghttp2) (inCallback : Bool) : (s.call f inCallback).agent = s.agent :=
  rfl

@[simp] theorem agent_close (inCallback : Bool) : (s.close inCallback).agent = (close s.agent).1 := by
  rw [SessionRun.close]
  split
  · rename_i hclosed
    rw [close, if_pos hclosed]
  · rfl

theorem agent_sendPendingData (sent : Bool) :
    (s.sendPendingData sent).agent = if sent then s.agent else (close s.agent).1 := by
  cases sent with
  | true => rfl
  | false => exact agent_close _ false

theorem agent_startSession (sent : Bool) :
    (s.startSession sent).agent = (initializeNghttp2 s.agent sent).1 := by
  cases sent with
  | true => rfl
  | false => exact agent_close _ false

@[simp] theorem agent_sendHttpRequest (requestId httpRequest : Str) (callback : κ)
    (streamId : StreamId) (sent : Bool) :
    (s.sendHttpRequest requestId httpRequest callback streamId sent).agent =
      (sendHttpRequest s.agent requestId httpRequest callback streamId sent).1 := by
  simp only [SessionRun.sendHttpRequest, sendHttpRequest]
  split
  · rfl
  · split
    · rfl
    · split
      · rfl
      · simp only [agent_sendPendingData, agent_call]
        cases sent <;> rfl

@[simp] theorem agent_callback_frame (f : RecvFrame) :
    (s.callback (.frame f)).agent = (onFrameRecv s.agent f).1 := by
  cases f with
  | goaway => exact agent_close s true
  | headers streamId response endStream => rfl
  | data streamId endStream => rfl
  | other => rfl

end

/-! ## The invariant -/

/-- A connection with a session is connected; during the handshake there is none. -/
structure SessionInv (s : SessionRun κ) : Prop where
  connected : s.agent.session = true → s.agent.state = .connected
  handshake : s.handshaking = true → s.agent.session = false

/-- What is not done to the state or the session of a connection. -/
def SameSession (s t : AgentConnection κ) : Prop := t.state = s.state ∧ t.session = s.session

theorem sameSession_onHeader (s : AgentConnection κ) (streamId : StreamId) (name value : Str) :
    SameSession s (onHeader s streamId name value) := by
  rw [onHeader]
  split
  · exact ⟨rfl, rfl⟩
  · exact ⟨rfl, rfl⟩

theorem sameSession_completeRequest (s : AgentConnection κ) (streamId : StreamId) :
    SameSession s (completeRequest s streamId).1 := by
  obtain ⟨_, _, _, _, heq⟩ | ⟨_, heq⟩ := completeRequest_cases s streamId
  · rw [heq]
    exact ⟨rfl, rfl⟩
  · rw [heq]
    exact ⟨rfl, rfl⟩

theorem sameSession_onFrameRecv (s : AgentConnection κ) {f : RecvFrame} (h : f ≠ .goaway) :
    SameSession s (onFrameRecv s f).1 := by
  obtain ⟨streamId, _, heq⟩ | ⟨hgoaway, _⟩ | ⟨_, heq⟩ := onFrameRecv_cases s f
  · rw [heq]
    exact sameSession_completeRequest s streamId
  · exact absurd hgoaway h
  · rw [heq]
    exact ⟨rfl, rfl⟩

theorem sameSession_timerExpired (s : AgentConnection κ) (i : ℕ) :
    SameSession s (timerExpired s i).1 := by
  obtain ⟨_, _, _, _, _, heq⟩ | ⟨_, _, _, heq⟩ := timerExpired_cases s i
  · rw [heq]
    exact ⟨rfl, rfl⟩
  · rw [heq]
    exact ⟨rfl, rfl⟩

theorem close_session {s : AgentConnection κ} (h : s.session = true → s.state = .connected) :
    (close s).1.session = false := by
  rw [close]
  split
  · rename_i hclosed
    rw [Bool.eq_false_iff]
    intro hsession
    rw [h hsession] at hclosed
    simp at hclosed
  · rfl

theorem SessionInv.of_sameSession {s t : SessionRun κ} (H : SessionInv s)
    (h : SameSession s.agent t.agent) (hhandshaking : t.handshaking = s.handshaking) :
    SessionInv t := by
  obtain ⟨hstate, hsession⟩ := h
  constructor
  · rw [hstate, hsession]
    exact H.connected
  · rw [hhandshaking, hsession]
    exact H.handshake

theorem SessionInv.of_none {s : SessionRun κ} (h : s.agent.session = false) : SessionInv s := by
  constructor
  · rw [h]
    exact fun hsession => by cases hsession
  · exact fun _ => h

/-! ## What each operation calls -/

section
variable {s : SessionRun κ}

theorem safe_congr {t : SessionRun κ} (h : t.calls = s.calls) : SessionSafe t ↔ SessionSafe s := by
  rw [SessionSafe, h, SessionSafe]

theorem safe_call (f : Nghttp2) (inCallback : Bool) :
    SessionSafe (s.call f inCallback) ↔
      SessionSafe s ∧ (⟨f, s.agent.session, inCallback⟩ : SessionCall).Valid := by
  simp [SessionSafe, SessionRun.call, or_imp, forall_and]

/-- Outside callbacks a call needs a live session. -/
theorem safe_call_outside (f : Nghttp2) :
    SessionSafe (s.call f false) ↔ SessionSafe s ∧ s.agent.session = true := by
  rw [safe_call, SessionCall.Valid]
  simp

theorem SessionInv.close (H : SessionInv s) (inCallback : Bool) : SessionInv (s.close inCallback) := by
  apply SessionInv.of_none
  rw [agent_close]
  exact close_session H.connected

/-- `close` deletes the session if there is one. -/
theorem SessionInv.safe_close (H : SessionInv s) (inCallback : Bool) :
    SessionSafe (s.close inCallback) ↔
      SessionSafe s ∧ (s.agent.session = true → inCallback = false) := by
  rw [SessionRun.close]
  by_cases hsession : s.agent.session = true
  · have hopen : ¬ (s.agent.state = .disconnected ∨ s.agent.state = .disconnecting) := by
      rw [H.connected hsession]
      simp
    rw [if_neg hopen, if_pos hsession]
    apply (safe_call .sessionDel inCallback).trans
    simp [SessionCall.Valid, hsession]
  · have hsame : SessionSafe s ↔
        SessionSafe s ∧ (s.agent.session = true → inCallback = false) := by
      simp [hsession]
    rw [if_neg hsession]
    split
    · exact hsame
    · exact (safe_congr rfl).trans hsame

theorem SessionInv.safe_close_outside (H : SessionInv s) :
    SessionSafe (s.close false) ↔ SessionSafe s := by
  rw [H.safe_close]
  simp

theorem SessionInv.call (H : SessionInv s) (f : Nghttp2) (inCallback : Bool) :
    SessionInv (s.call f inCallback) := H.of_sameSession ⟨rfl, rfl⟩ rfl

theorem SessionInv.sendPendingData (H : SessionInv s) (sent : Bool) :
    SessionInv (s.sendPendingData sent) := by
  cases sent with
  | true => exact H.call .sessionSend false
  | false => exact (H.call .sessionSend false).close false

theorem SessionInv.safe_sendPendingData (H : SessionInv s) (sent : Bool) :
    SessionSafe (s.sendPendingData sent) ↔ SessionSafe s ∧ s.agent.session = true := by
  cases sent with
  | true => exact safe_call_outside .sessionSend
  | false =>
      exact (H.call .sessionSend false).safe_close_outside.trans (safe_call_outside .sessionSend)

/-- A new session is live. -/
theorem startSession_spec (hstate : s.agent.state = .connected) (hhandshake : s.handshaking = false)
    (sent : Bool) :
    SessionInv (s.startSession sent) ∧ (SessionSafe (s.startSession sent) ↔ SessionSafe s) := by
  have Hnew : SessionInv { s with agent := { s.agent with session := true } } := by
    refine ⟨fun _ => hstate, fun h => ?_⟩
    have h : s.handshaking = true := h
    rw [hhandshake] at h
    cases h
  have Hcall := Hnew.call .submitSettings false
  constructor
  · exact (Hcall.sendPendingData sent).of_sameSession ⟨rfl, rfl⟩ rfl
  · apply (Hcall.safe_sendPendingData sent).trans
    rw [safe_call_outside]
    exact ⟨fun h => h.1.1, fun h => ⟨⟨h, rfl⟩, rfl⟩⟩

theorem SessionInv.handshakeDone (H : SessionInv s) (ok sent : Bool) :
    SessionInv (s.handshakeDone ok sent) ∧
      (SessionSafe (s.handshakeDone ok sent) ↔ SessionSafe s) := by
  rw [SessionRun.handshakeDone]
  split
  · exact ⟨H, Iff.rfl⟩
  · rename_i hhandshake
    cases ok with
    | true =>
        obtain ⟨hinv, hsafe⟩ := startSession_spec (s := { s with
          handshaking := false
          agent := { s.agent with state := .connected } }) rfl rfl sent
        exact ⟨hinv, hsafe.trans (safe_congr rfl)⟩
    | false =>
        have hnone : s.agent.session = false := H.handshake (by simpa using hhandshake)
        exact ⟨.of_none hnone, safe_congr rfl⟩

theorem SessionInv.heartbeat (H : SessionInv s) (elapsed : ℕ) (sent : Bool) :
    SessionInv (s.heartbeat elapsed sent) ∧
      (SessionSafe (s.heartbeat elapsed sent) ↔ SessionSafe s) := by
  rw [SessionRun.heartbeat]
  split
  · exact ⟨H.close false, H.safe_close_outside⟩
  · split
    · rename_i hsession
      have Hping := H.call .submitPing false
      refine ⟨Hping.sendPendingData sent, (Hping.safe_sendPendingData sent).trans ?_⟩
      rw [safe_call_outside]
      simp [hsession]
    · exact ⟨H, Iff.rfl⟩

theorem SessionInv.sendHttpRequest (H : SessionInv s) (requestId httpRequest : Str) (callback : κ)
    (streamId : StreamId) (sent : Bool) :
    SessionInv (s.sendHttpRequest requestId httpRequest callback streamId sent) ∧
      (SessionSafe (s.sendHttpRequest requestId httpRequest callback streamId sent) ↔
        SessionSafe s) := by
  simp only [SessionRun.sendHttpRequest]
  split
  · exact ⟨H, Iff.rfl⟩
  · split
    · exact ⟨H, Iff.rfl⟩
    · rename_i _ hsession
      replace hsession : s.agent.session = true := by simpa using hsession
      have hheaders : SessionSafe (s.call .submitHeaders false) ↔ SessionSafe s := by
        rw [safe_call_outside]
        simp [hsession]
      split
      · exact ⟨H.call .submitHeaders false, hheaders⟩
      · generalize (if (parseHttpRequest requestId httpRequest).2.isEmpty then Nghttp2.submitHeaders
          else Nghttp2.submitData) = f
        have Hbody := (H.call .submitHeaders false).call f false
        have Hstored : SessionInv { (s.call .submitHeaders false).call f false with
            agent := s.agent.register requestId httpRequest callback streamId } :=
          Hbody.of_sameSession ⟨rfl, rfl⟩ rfl
        constructor
        · exact (Hstored.sendPendingData sent).of_sameSession ⟨rfl, rfl⟩ rfl
        · apply (safe_congr rfl).trans
          apply (Hstored.safe_sendPendingData sent).trans
          have hbody : SessionSafe ((s.call .submitHeaders false).call f false) ↔ SessionSafe s := by
            rw [safe_call_outside, hheaders]
            simp [hsession]
          exact ⟨fun h => hbody.mp ((safe_congr rfl).mp h.1),
            fun h => ⟨(safe_congr rfl).mpr (hbody.mpr h), hsession⟩⟩

/-! ## Reads -/

/-- A GOAWAY deletes the session from inside the callback; the other callbacks leave it. -/
theorem SessionInv.callback (H : SessionInv s) (c : Callback) :
    SessionInv (s.callback c) ∧
      (SessionSafe (s.callback c) ↔
        SessionSafe s ∧ (s.agent.session = true → c ≠ .frame .goaway)) ∧
      (c ≠ .frame .goaway → (s.callback c).agent.session = s.agent.session) ∧
      (s.agent.session = false → (s.callback c).agent.session = false) := by
  by_cases hgoaway : c = .frame .goaway
  · subst hgoaway
    have hnone : (s.close true).agent.session = false := by
      rw [agent_close]
      exact close_session H.connected
    refine ⟨H.close true, ?_, fun h => absurd rfl h, fun _ => hnone⟩
    apply (H.safe_close true).trans
    simp
  · have hsame : SameSession s.agent (s.callback c).agent ∧
        (s.callback c).handshaking = s.handshaking ∧ (s.callback c).calls = s.calls := by
      cases c with
      | header streamId name value => exact ⟨sameSession_onHeader s.agent streamId name value, rfl, rfl⟩
      | dataChunk streamId data => exact ⟨⟨rfl, rfl⟩, rfl, rfl⟩
      | frame f =>
          have hf : f ≠ .goaway := fun h => hgoaway (by rw [h])
          refine ⟨?_, ?_⟩
          · rw [agent_callback_frame]
            exact sameSession_onFrameRecv s.agent hf
          · cases f with
            | goaway => exact absurd rfl hf
            | headers streamId response endStream => exact ⟨rfl, rfl⟩
            | data streamId endStream => exact ⟨rfl, rfl⟩
            | other => exact ⟨rfl, rfl⟩
    obtain ⟨hagent, hhandshaking, hcalls⟩ := hsame
    refine ⟨H.of_sameSession hagent hhandshaking, ?_, fun _ => hagent.2, fun h => hagent.2.trans h⟩
    rw [safe_congr hcalls]
    simp [hgoaway]

theorem SessionInv.callbacks (H : SessionInv s) (cs : List Callback) :
    SessionInv (cs.foldl SessionRun.callback s) ∧
      (SessionSafe (cs.foldl SessionRun.callback s) ↔
        SessionSafe s ∧ (s.agent.session = true → .frame .goaway ∉ cs)) ∧
      (.frame .goaway ∉ cs →
        (cs.foldl SessionRun.callback s).agent.session = s.agent.session) := by
  induction cs generalizing s with
  | nil => exact ⟨H, by simp, fun _ => rfl⟩
  | cons c cs ih =>
      obtain ⟨Hc, hsafe, hkept, hdead⟩ := H.callback c
      obtain ⟨Hcs, hsafes, hkepts⟩ := ih Hc
      refine ⟨Hcs, ?_, ?_⟩
      · rw [List.foldl_cons, hsafes, hsafe, List.mem_cons, not_or]
        by_cases hsession : s.agent.session = true
        · by_cases hgoaway : c = .frame .goaway
          · simp [hsession, hgoaway]
          · rw [hkept hgoaway]
            simp [hsession, hgoaway, eq_comm]
        · simp [hsession, hdead (by simpa using hsession)]
      · intro hgoaway
        rw [List.mem_cons, not_or] at hgoaway
        rw [List.foldl_cons, hkepts hgoaway.2, hkept (Ne.symm hgoaway.1)]

theorem SessionInv.memRecv (H : SessionInv s) (cs : List Callback) :
    SessionInv (s.memRecv cs) ∧
      (SessionSafe (s.memRecv cs) ↔
        SessionSafe s ∧ s.agent.session = true ∧ .frame .goaway ∉ cs) ∧
      (.frame .goaway ∉ cs → (s.memRecv cs).agent.session = s.agent.session) := by
  obtain ⟨Hcs, hsafe, hkept⟩ := (H.call .sessionMemRecv false).callbacks cs
  refine ⟨Hcs, ?_, hkept⟩
  apply hsafe.trans
  rw [safe_call_outside, agent_call]
  tauto

theorem SessionInv.finishRead (H : SessionInv s) (sent : Bool) :
    SessionInv (s.finishRead sent) ∧
      (SessionSafe (s.finishRead sent) ↔ SessionSafe s ∧ s.agent.session = true) := by
  have Hsend := H.call .sessionSend false
  cases sent with
  | true => exact ⟨Hsend.of_sameSession ⟨rfl, rfl⟩ rfl, (safe_congr rfl).trans (safe_call_outside _)⟩
  | false => exact ⟨Hsend.close false, Hsend.safe_close_outside.trans (safe_call_outside _)⟩

theorem SessionInv.readDone (H : SessionInv s) (result : ReadResult) :
    SessionInv (s.readDone result) ∧
      (SessionSafe (s.readDone result) ↔ SessionSafe s ∧ Usable s (.read result)) := by
  rw [SessionRun.readDone]
  by_cases hreading : s.reading = true
  · have Hs : SessionInv { s with reading := false } := H.of_sameSession ⟨rfl, rfl⟩ rfl
    have hs : SessionSafe { s with reading := false } ↔ SessionSafe s := safe_congr rfl
    rw [hreading]
    cases result with
    | error =>
        refine ⟨Hs.close false, Hs.safe_close_outside.trans (hs.trans ?_)⟩
        simp [Usable]
    | data data callbacks received sent =>
        cases hfeeds : feeds data with
        | false =>
            obtain ⟨hinv, hsafe⟩ := Hs.finishRead sent
            simp only [hfeeds, Bool.not_true, Bool.false_eq_true, if_false, Bool.false_and]
            refine ⟨hinv, hsafe.trans ?_⟩
            rw [hs, Usable]
            simp [hreading, hfeeds]
        | true =>
            obtain ⟨Hrecv, hrecv, hkept⟩ := Hs.memRecv callbacks
            rw [hs] at hrecv
            cases received with
            | false =>
                simp only [hfeeds, Bool.not_true, Bool.false_eq_true, if_false, if_true,
                  Bool.not_false, Bool.and_self]
                refine ⟨Hrecv.close false, Hrecv.safe_close_outside.trans (hrecv.trans ?_)⟩
                rw [Usable]
                simp [hreading, hfeeds]
            | true =>
                obtain ⟨hinv, hsafe⟩ := Hrecv.finishRead sent
                simp only [hfeeds, Bool.not_true, Bool.false_eq_true, if_false, if_true,
                  Bool.and_false]
                refine ⟨hinv, hsafe.trans ?_⟩
                rw [hrecv, Usable]
                constructor
                · rintro ⟨⟨h, hsession, hgoaway⟩, _⟩
                  exact ⟨h, fun _ => ⟨hsession, fun _ => hgoaway⟩⟩
                · rintro ⟨h, husable⟩
                  obtain ⟨hsession, hgoaway⟩ := husable hreading
                  refine ⟨⟨h, hsession, hgoaway hfeeds⟩, ?_⟩
                  rw [hkept (hgoaway hfeeds)]
                  exact hsession
  · have hreading : s.reading = false := by simpa using hreading
    rw [hreading]
    refine ⟨H, ?_⟩
    cases result with
    | error => simp [Usable]
    | data data callbacks received sent => simp [Usable, hreading]

/-! ## Runs -/

theorem sessionStep_spec (e : SessionEvent κ) (H : SessionInv s) :
    SessionInv (sessionStep s e) ∧ (SessionSafe (sessionStep s e) ↔ SessionSafe s ∧ Usable s e) := by
  cases e with
  | handshake ok sent => simpa [sessionStep, Usable] using H.handshakeDone ok sent
  | heartbeat elapsed sent => simpa [sessionStep, Usable] using H.heartbeat elapsed sent
  | read result => exact H.readDone result
  | send requestId httpRequest callback streamId sent =>
      simpa [sessionStep, Usable] using H.sendHttpRequest requestId httpRequest callback streamId sent
  | timer i =>
      refine ⟨H.of_sameSession (sameSession_timerExpired s.agent i) rfl, ?_⟩
      simp only [Usable, and_true]
      exact safe_congr rfl
  | close =>
      refine ⟨H.close false, ?_⟩
      simp only [Usable, and_true]
      exact H.safe_close_outside

end

theorem init_spec (state : State) (sent : Bool) :
    SessionInv (SessionRun.init κ state sent) ∧ SessionSafe (SessionRun.init κ state sent) := by
  have hnew : SessionSafe (⟨.created κ state, false, false, []⟩ : SessionRun κ) := by
    simp [SessionSafe]
  rw [SessionRun.init, SessionRun.start]
  split
  · rename_i hstate
    obtain ⟨hinv, hsafe⟩ := startSession_spec hstate rfl sent
    exact ⟨hinv, hsafe.mpr hnew⟩
  · exact ⟨.of_none rfl, hnew⟩

/-- **A dead session is not used** in a run, nor a session deleted from inside one of its
callbacks, if and only if every read that completes without error finds a session and
does not bring a GOAWAY. -/
theorem session_safe_iff (state : State) (sent : Bool) (evs : List (SessionEvent κ)) :
    Always sessionStep SessionSafe (SessionRun.init κ state sent) evs ↔
      Along sessionStep Usable (SessionRun.init κ state sent) evs := by
  refine always_iff_along SessionInv (fun s e H => (sessionStep_spec e H).1) ?_
    (init_spec state sent).1 (init_spec state sent).2
  intro s e H hs
  rw [(sessionStep_spec e H).2]
  exact and_iff_right hs

/-- A read with a GOAWAY: the session is deleted from inside the callback, and
`nghttp2_session_send` is called with null. -/
theorem not_session_safe_goaway :
    ¬ ∀ evs : List (SessionEvent Unit),
      Always sessionStep SessionSafe (SessionRun.init Unit .connected true) evs := by
  intro H
  have hrun := always_iff_run.mp (H [.read (.data [0, 0, 8, 7, 0, 0, 0, 0, 0] [.frame .goaway] true false)])
    _ (List.prefix_refl _)
  have hcall := hrun ⟨.sessionSend, false, false⟩ (by decide)
  exact absurd hcall (by decide)

end Protogate.Agent
