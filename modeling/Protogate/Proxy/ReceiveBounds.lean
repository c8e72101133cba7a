import Protogate.Lib.Access
import Protogate.Proxy.Downstream

/-!
# Frames from the agent and the end of their buffer

`handle_agent_tcp_frame` once more, by single accesses to the frame.  Its own length
check is in 32 bits and passes for lengths from 2³² - 25 on; `receive_data` refuses
them, because they do not fit into the receive window, before it copies a byte.

## Main definitions

* `Call`, `call` — a step, or a direct call of `send_data` or `receive_data`.
* `handleAgentTcpFrameFrom` — `none` where a byte outside the frame is read.
* `WithinWindow` — no receive buffer exceeds its window.
* `agentFrame_inBounds` — in every reachable state no access is outside.
-/

namespace Protogate.Proxy

open Protogate.Lib Protogate.Wire

/-! ## Calls -/

/-- A step of the proxy or a direct call of `send_data` or `receive_data`. -/
inductive Call
  | event (e : Event)
  | sendData (connectionId : Str) (data : Bytes) (agent : Option Bool)
  | receiveData (connectionId : Str) (data : Bytes)

def call (allows : List Str → Str → Bool) (p : TcpProxy) : Call → TcpProxy
  | .event e => step allows p e
  | .sendData id data agent => (sendData p id data agent).2
  | .receiveData id data => receiveData p id data data.length

/-! ## Frames by accesses -/

/-- `receive_data` on `length` bytes of a frame, copied only after the check. -/
def receiveDataFrom (p : TcpProxy) (id : Str) (frame : Bytes) (off length : ℕ) : Option TcpProxy :=
  match p.getConnection id with
  | none => some p
  | some (ref, c) =>
      if recvWindowSize < (c.recvBuffer.length + length) % 2 ^ 64 then some p
      else do
        let data ← copyAt frame off length
        return p.update ref (·.accept data length)

/-- Start a write to the client of a connection, if there is one. -/
def writeToClient (p : TcpProxy) (id : Str) : TcpProxy :=
  match p.getConnection id with
  | none => p
  | some (ref, _) => p.update ref Connection.startWrite

/-- `handle_agent_tcp_frame` by accesses. -/
def handleAgentTcpFrameFrom (p : TcpProxy) (frame : Bytes) (agent : Bool) : Option TcpProxy :=
  if frame.length < 1 then some p
  else do
    let type ← frame[0]?
    if frame.length < 17 then return p
    else do
      let uuid ← (copyAt frame 1 16).bind connectionIdOfBytes
      let id := connectionIdToString uuid
      if type = 0x11 then
        if 25 ≤ frame.length then do
          let dataLen ← numberAt frame 21 4
          if (25 + dataLen) % 2 ^ 32 ≤ frame.length then do
            let p ← receiveDataFrom p id frame 25 dataLen
            return writeToClient p id
          else return p
        else return p
      else if type = 0x12 then return closeConnection p id true agent
      else if type = 0x13 then
        if 21 ≤ frame.length then do
          let _errorCode ← numberAt frame 17 2
          return handleError p id agent
        else return p
      else return p

/-! ## The window -/

/-- The receive buffer fits into the window. -/
def WithinWindow (c : Connection) : Prop := c.recvBuffer.length ≤ recvWindowSize

theorem withinWindow_startWrite {c : Connection} (h : WithinWindow c) :
    WithinWindow c.startWrite := by
  rw [Connection.startWrite]
  split <;> exact h

theorem withinWindow_accept {c : Connection} {data : Bytes} {length : ℕ}
    (hlen : data.length ≤ length) (hfits : c.recvBuffer.length + length ≤ recvWindowSize) :
    WithinWindow (c.accept data length) := by
  simp only [WithinWindow, Connection.accept, List.length_append]
  omega

theorem withinWindow_finishWrite {c : Connection} (h : WithinWindow c) (n : ℕ) :
    WithinWindow (c.finishWrite n) := by
  refine withinWindow_startWrite ?_
  simp only [WithinWindow, List.length_drop] at h ⊢
  omega

/-- The payload of a frame is at most as long as the frame says. -/
theorem length_le_of_decodeAgentFrame {frame : Bytes} {id : Str} {data : Bytes} {length : ℕ}
    (h : decodeAgentFrame frame = some (.data id data length)) : data.length ≤ length := by
  simp only [decodeAgentFrame] at h
  split at h
  · cases h
  · split at h
    · cases h
    · split at h
      · split at h
        · split at h
          · injection h with h
            injection h with _ hdata hlength
            rw [← hdata, ← hlength]
            exact List.length_take_le _ _
          · cases h
        · cases h
      · split at h
        · injection h with h
          cases h
        · split at h
          · split at h
            · injection h with h
              cases h
            · cases h
          · cases h

section
variable {p : TcpProxy}

theorem withinWindow_receiveData (H : AllObjects WithinWindow p) (id : Str) {data : Bytes}
    {length : ℕ} (hlen : data.length ≤ length) :
    AllObjects WithinWindow (receiveData p id data length) := by
  refine receiveData_rule (P := AllObjects WithinWindow) H fun ref c hget hfits => ?_
  have hobj := (getConnection_eq_some_iff.mp hget).2
  refine allObjects_update H ref fun d hd _ => ?_
  obtain rfl := Option.some.inj (hobj.symm.trans hd)
  exact withinWindow_accept hlen hfits

theorem withinWindow_agentFrame (H : AllObjects WithinWindow p) (frame : Bytes) (agent : Bool) :
    AllObjects WithinWindow (handleAgentTcpFrame p frame agent) := by
  simp only [handleAgentTcpFrame]
  split
  · exact H
  · rename_i id data length hframe
    have hlen := length_le_of_decodeAgentFrame hframe
    have hreceived := withinWindow_receiveData H id hlen
    split
    · exact hreceived
    · exact allObjects_update hreceived _ fun c _ hc => withinWindow_startWrite hc
  · exact allObjects_closeConnection H (fun c s hc => hc) _ true agent
  · exact allObjects_closeConnection H (fun c s hc => hc) _ false agent

/-- Every call keeps the receive buffers within their windows. -/
theorem withinWindow_call (allows : List Str → Str → Bool) (p : TcpProxy) (c : Call)
    (H : AllObjects WithinWindow p) : AllObjects WithinWindow (call allows p c) := by
  have hnew : ∀ id tunnelId ip port state, state = .connecting ∨ state = .established →
      WithinWindow (newConnection id tunnelId ip port state) :=
    fun _ _ _ _ _ _ => Nat.zero_le _
  cases c with
  | sendData id data agent => exact allObjects_sendData H (fun c data hc => hc) id data agent
  | receiveData id data => exact withinWindow_receiveData H id (Nat.le_refl _)
  | event e =>
      cases e with
      | create env tunnelId => exact allObjects_create H hnew allows env tunnelId
      | createByPort env order port digits =>
          exact allObjects_createByPort H hnew allows env order port digits
      | clientRead ref data agent =>
          refine clientRead_rule (P := AllObjects WithinWindow) H fun c _ _ => ?_
          refine allObjects_update ?_ _ fun c _ hc => hc
          refine allObjects_sendData ?_ (fun c data hc => hc) _ _ _
          exact allObjects_update H _ fun c _ hc => hc
      | clientEnd ref eof agent =>
          refine clientEnd_rule (P := AllObjects WithinWindow) H fun c _ _ => ?_
          refine allObjects_closeConnection ?_ (fun c s hc => hc) _ _ _
          exact allObjects_update H _ fun c _ hc => hc
      | writeDone ref i =>
          refine allObjects_update H _ fun c _ hc => ?_
          split
          · exact hc
          · exact withinWindow_finishWrite (by exact hc) _
      | agentFrame frame agent => exact withinWindow_agentFrame H frame agent
      | updateWindow id n =>
          refine updateWindow_rule (P := AllObjects WithinWindow) H fun ref c _ _ => ?_
          exact allObjects_update H _ fun c _ hc => hc
      | close id graceful agent =>
          exact allObjects_closeConnection H (fun c s hc => hc) id graceful agent

/-! ## Inside the frame -/

/-- What the window admits lies inside the frame, because the length did not wrap. -/
theorem receiveDataFrom_eq (H : AllObjects WithinWindow p) (id : Str) {frame : Bytes} {n : ℕ}
    (hn : n < 2 ^ 32) (hpass : (25 + n) % 2 ^ 32 ≤ frame.length) :
    receiveDataFrom p id frame 25 n = some (receiveData p id ((frame.drop 25).take n) n) := by
  simp only [receiveDataFrom, receiveData]
  cases hget : p.getConnection id with
  | none => rfl
  | some found =>
      obtain ⟨ref, c⟩ := found
      have hwindow : c.recvBuffer.length ≤ 65536 := H ref c (getConnection_eq_some_iff.mp hget).2
      have hsum : (c.recvBuffer.length + n) % 2 ^ 64 = c.recvBuffer.length + n := by omega
      simp only [hsum]
      by_cases hfull : recvWindowSize < c.recvBuffer.length + n
      · simp only [hfull, if_true]
      · have hinside : 25 + n ≤ frame.length := by
          simp only [recvWindowSize] at hfull
          omega
        simp only [hfull, if_false, copyAt_eq hinside]
        rfl

theorem handleAgentTcpFrameFrom_eq (H : AllObjects WithinWindow p) (frame : Bytes) (agent : Bool) :
    handleAgentTcpFrameFrom p frame agent = some (handleAgentTcpFrame p frame agent) := by
  simp only [handleAgentTcpFrameFrom, handleAgentTcpFrame, decodeAgentFrame]
  by_cases hempty : frame.length < 1
  · have hshort : frame.length < 17 := by omega
    simp only [hempty, hshort, if_true]
  · have htype := getElem?_zero_eq_headD (not_lt.mp hempty)
    simp only [hempty, if_false, htype, Option.bind_eq_bind, Option.bind_some]
    by_cases hshort : frame.length < 17
    · simp only [hshort, if_true]
      rfl
    · have hcopy : copyAt frame 1 16 = some ((frame.drop 1).take 16) := copyAt_eq (by omega)
      obtain ⟨uuid, huuid⟩ := connectionIdOfBytes_of_length (not_lt.mp hshort)
      simp only [hshort, if_false, hcopy, huuid, Option.bind_some]
      by_cases hdata : frame.headD 0 = 0x11
      · simp only [hdata, if_true]
        by_cases hhead : 25 ≤ frame.length
        · have hnum : numberAt frame 21 4 = some (field 21 4 frame) := numberAt_eq (by omega)
          simp only [hhead, if_true, hnum, Option.bind_some]
          by_cases hpass : (25 + field 21 4 frame) % 2 ^ 32 ≤ frame.length
          · have hreceived := receiveDataFrom_eq H (connectionIdToString uuid)
              (field_lt 21 4 frame) hpass
            simp only [hpass, if_true, hreceived, Option.bind_some]
            rfl
          · simp only [hpass, if_false]
            rfl
        · simp only [hhead, if_false]
          rfl
      · by_cases hclose : frame.headD 0 = 0x12
        · simp only [hclose, if_true]
          rfl
        · by_cases herror : frame.headD 0 = 0x13
          · by_cases hhead : 21 ≤ frame.length
            · have hnum : numberAt frame 17 2 = some (field 17 2 frame) := numberAt_eq (by omega)
              simp only [herror, hhead, if_true, hnum, Option.bind_some]
              rfl
            · simp only [herror, hhead, if_false, if_true]
              rfl
          · simp only [hdata, hclose, herror, if_false]
            rfl

end

/-- **The server never reads behind a frame.**  In every reachable state all bytes read of a
frame from the agent lie inside it, and the receive buffers stay within their windows. -/
theorem agentFrame_inBounds (allows : List Str → Str → Bool) (calls : List Call) (frame : Bytes)
    (agent : Bool) :
    handleAgentTcpFrameFrom (run (call allows) .init calls) frame agent =
        some (handleAgentTcpFrame (run (call allows) .init calls) frame agent) ∧
      AllObjects WithinWindow (handleAgentTcpFrame (run (call allows) .init calls) frame agent) := by
  have hinit : AllObjects WithinWindow TcpProxy.init := by
    intro ref c hc
    simp [TcpProxy.init] at hc
  have hreached : AllObjects WithinWindow (run (call allows) .init calls) :=
    run_invariant (AllObjects WithinWindow) (withinWindow_call allows) hinit
  exact ⟨handleAgentTcpFrameFrom_eq hreached frame agent,
    withinWindow_agentFrame hreached frame agent⟩

end Protogate.Proxy
