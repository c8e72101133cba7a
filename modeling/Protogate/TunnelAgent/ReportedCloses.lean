import Protogate.TunnelAgent.Forwarding

/-!
# Closes the forwarder reports

Three handlers send a TCP_CLOSE: that of a resolve and that of a connect when they get an
error, and that of a read at its end.  The last one removes the entry of the connection; the
other two return at once, and the entry stays, without a socket, for later data to queue at.

## Main definitions

* `ReportedClosed` — a TCP_CLOSE was sent for the id since it was opened.
* `ClosesFinal` — such an id has no entry, and nothing was sent or queued for it.
* `FailsWithoutEntry` — a resolve or connect fails only when the entry is gone.
* `reported_closes_final_iff` — then exactly are all reported closes final.
-/

namespace Protogate.TunnelAgent

open Protogate.Lib Protogate.Wire Protogate.Proxy

/-! ## The property -/

/-- A TCP_CLOSE has been sent for the id since the last TCP_OPEN with it. -/
def ReportedClosed (id : ConnectionId) : List Happening → Prop
  | [] => False
  | .opened v :: history => v ≠ id ∧ ReportedClosed id history
  | .sentClose v _ :: history => v = id ∨ ReportedClosed id history
  | .queued _ _ :: history => ReportedClosed id history
  | .sentData _ _ _ :: history => ReportedClosed id history

/-- Data is sent or queued only for ids that are not reported closed. -/
def QuietWhenReported : List Happening → Prop
  | [] => True
  | .opened _ :: history => QuietWhenReported history
  | .sentClose _ _ :: history => QuietWhenReported history
  | .queued id _ :: history => ¬ ReportedClosed id history ∧ QuietWhenReported history
  | .sentData id _ _ :: history => ¬ ReportedClosed id history ∧ QuietWhenReported history

/-- A reported close is final. -/
structure ClosesFinal (f : Forwarder) : Prop where
  entry : ∀ id, ReportedClosed id f.history → f.connections.lookup id = none
  quiet : QuietWhenReported f.history

/-- When the handler of a resolve or connect sends a TCP_CLOSE, the map has no entry for
the id. -/
def FailsWithoutEntry (f : Forwarder) : ForwarderEvent → Prop
  | .resolved k none => ∀ c, f.objects[k]? = some c → c.stage = .resolving →
      f.sendCallback = true → f.connections.lookup c.connectionId = none
  | .connectDone k ok => ∀ c, f.objects[k]? = some c → c.stage = .connecting →
      ¬ (ok = true ∧ c.socketOpen = true) →
      f.sendCallback = true → f.connections.lookup c.connectionId = none
  | _ => True

/-! ## One operation -/

namespace ClosesFinal
variable {f : Forwarder}

theorem initial (targetPort : UInt16) : ClosesFinal (.initial targetPort) :=
  ⟨fun _ h => h.elim, trivial⟩

/-- Entries may go. -/
theorem of_history {f' : Forwarder} (H : ClosesFinal f) (hhistory : f'.history = f.history)
    (hlookup : ∀ id, f.connections.lookup id = none → f'.connections.lookup id = none) :
    ClosesFinal f' := by
  refine ⟨?_, ?_⟩
  · intro id hreported
    rw [hhistory] at hreported
    exact hlookup id (H.entry id hreported)
  · rw [hhistory]
    exact H.quiet

theorem update (H : ClosesFinal f) (k : ℕ) (g : TcpConnection → TcpConnection) :
    ClosesFinal (f.update k g) :=
  H.of_history rfl fun _ h => h

theorem closeConnection (H : ClosesFinal f) (id : ConnectionId) : ClosesFinal (f.closeConnection id) := by
  refine H.of_history (f.history_closeConnection id) fun v hv => ?_
  rw [Forwarder.lookup_closeConnection, hv, ite_self]

/-- An id that has an entry is not reported closed. -/
theorem not_reported (H : ClosesFinal f) {id : ConnectionId} {k : ℕ}
    (hentry : f.connections.lookup id = some k) : ¬ ReportedClosed id f.history := by
  intro hreported
  rw [H.entry id hreported] at hentry
  cases hentry

theorem handleTcpOpen (H : ClosesFinal f) (id : ConnectionId) (port : UInt16) :
    ClosesFinal (f.handleTcpOpen id port) := by
  refine ⟨?_, H.quiet⟩
  rintro v ⟨hne, hreported⟩
  have hlookup : (f.handleTcpOpen id port).connections.lookup v = f.connections.lookup v := by
    rw [Forwarder.handleTcpOpen, Assoc.lookup_insert_ite, if_neg (Ne.symm hne)]
  rw [hlookup, H.entry v hreported]

theorem handleTcpData (H : ClosesFinal f) (id : ConnectionId) (data : Bytes) :
    ClosesFinal (f.handleTcpData id data) := by
  obtain h | ⟨k, hentry, h | h⟩ := f.handleTcpData_cases id data
  · rwa [h]
  · rw [h]
    exact H.update k _
  · rw [h]
    exact ⟨(H.update k _).entry, H.not_reported hentry, H.quiet⟩

theorem sendTcpDataFrame (H : ClosesFinal f) {id : ConnectionId} {k : ℕ}
    (hentry : f.connections.lookup id = some k) (data : Bytes) (seq : UInt32) :
    ClosesFinal (f.sendTcpDataFrame id data seq) := by
  rw [Forwarder.sendTcpDataFrame]
  split
  · exact ⟨H.entry, H.not_reported hentry, H.quiet⟩
  · exact H

/-- **A TCP_CLOSE** that is sent is final exactly if the map has no entry for the id. -/
theorem sendTcpCloseFrame_iff (H : ClosesFinal f) (id : ConnectionId) (reason : UInt16) :
    ClosesFinal (f.sendTcpCloseFrame id reason) ↔
      (f.sendCallback = true → f.connections.lookup id = none) := by
  rw [Forwarder.sendTcpCloseFrame]
  split
  · rename_i hcallback
    constructor
    · intro hfinal _
      exact hfinal.entry id (.inl rfl)
    · intro hnone
      refine ⟨?_, H.quiet⟩
      rintro v (rfl | hreported)
      · exact hnone hcallback
      · exact H.entry v hreported
  · rename_i hcallback
    exact ⟨fun _ h => absurd h hcallback, fun _ => H⟩

/-- The handler of a read removes the entry after its TCP_CLOSE. -/
theorem sendTcpCloseFrame_closeConnection (H : ClosesFinal f) (id : ConnectionId) (reason : UInt16) :
    ClosesFinal ((f.sendTcpCloseFrame id reason).closeConnection id) := by
  rw [Forwarder.sendTcpCloseFrame]
  split
  · refine ⟨?_, ?_⟩
    · intro v hreported
      rw [Forwarder.history_closeConnection] at hreported
      rw [Forwarder.lookup_closeConnection]
      split
      · rfl
      · rename_i hne
        obtain rfl | hreported := hreported
        · exact absurd rfl hne
        · exact H.entry v hreported
    · rw [Forwarder.history_closeConnection]
      exact H.quiet
  · exact H.closeConnection id

end ClosesFinal

/-! ## One step -/

theorem closesFinal_resolved_iff {f : Forwarder} (H : ClosesFinal f) (k : ℕ) (endpoints : Option Bool) :
    ClosesFinal (f.resolved k endpoints) ↔ FailsWithoutEntry f (.resolved k endpoints) := by
  rw [Forwarder.resolved]
  cases hobject : f.objects[k]? with
  | none => cases endpoints <;> simp [FailsWithoutEntry, hobject, H]
  | some c =>
      by_cases hstage : c.stage = .resolving
      · cases endpoints with
        | none =>
            simp only [hstage, if_pos, (H.update k _).sendTcpCloseFrame_iff]
            simp [FailsWithoutEntry, hobject, hstage, Forwarder.update]
        | some opened =>
            simp only [hstage, if_pos]
            exact iff_of_true (H.update k _) trivial
      · cases endpoints <;> simp [FailsWithoutEntry, hobject, hstage, H]

theorem closesFinal_connectDone_iff {f : Forwarder} (H : ClosesFinal f) (k : ℕ) (ok : Bool) :
    ClosesFinal (f.connectDone k ok) ↔ FailsWithoutEntry f (.connectDone k ok) := by
  rw [Forwarder.connectDone]
  cases hobject : f.objects[k]? with
  | none => simp [FailsWithoutEntry, hobject, H]
  | some c =>
      by_cases hstage : c.stage = .connecting
      · simp only [hstage, if_pos]
        split
        · rename_i hsuccess
          refine iff_of_true (H.update k _) ?_
          intro d hd _ hfailure
          rw [hobject] at hd
          cases hd
          exact absurd hsuccess hfailure
        · rename_i hfailure
          rw [(H.update k _).sendTcpCloseFrame_iff]
          constructor
          · intro hnone d hd _ _
            rw [hobject] at hd
            cases hd
            exact hnone
          · intro hnone
            exact hnone c hobject hstage hfailure
      · simp [FailsWithoutEntry, hobject, hstage, H]

theorem closesFinal_readDone {f : Forwarder} (hsound : f.Sound) (H : ClosesFinal f) (k : ℕ)
    (result : Option Bytes) : ClosesFinal (f.readDone k result) := by
  obtain h | ⟨c, hobject, hreading, halive, h | ⟨data, -, h⟩⟩ := f.readDone_cases k result
  · rwa [h]
  · rw [h]
    exact (H.update k _).sendTcpCloseFrame_closeConnection _ 0
  · rw [h]
    have hentry := hsound.lookup_of_reading hobject hreading halive
    exact ((H.update k _).sendTcpDataFrame hentry _ _).update k _

/-- **One step** leaves reported closes final exactly if no handler fails with the entry there. -/
theorem closesFinal_step_iff (f : Forwarder) (e : ForwarderEvent) (hsound : f.Sound)
    (H : ClosesFinal f) : ClosesFinal (forwarderStep f e) ↔ FailsWithoutEntry f e := by
  cases e with
  | setSendCallback callback => exact iff_of_true (H.of_history rfl fun _ h => h) trivial
  | call c =>
      refine iff_of_true ?_ trivial
      cases c with
      | tcpOpen id port => exact H.handleTcpOpen id port
      | tcpData id data => exact H.handleTcpData id data
      | tcpClose id => exact (H.closeConnection id).of_history rfl fun _ h => h
      | tcpError id code message => exact H.closeConnection id
  | resolved k endpoints => exact closesFinal_resolved_iff H k endpoints
  | nextEndpoint k opened =>
      refine iff_of_true ?_ trivial
      obtain h | h := f.nextEndpoint_cases k opened
      · rwa [forwarderStep, h]
      · rw [forwarderStep, h]
        exact H.update k _
  | connectDone k ok => exact closesFinal_connectDone_iff H k ok
  | readDone k result => exact iff_of_true (closesFinal_readDone hsound H k result) trivial
  | wrote k i n =>
      refine iff_of_true ?_ trivial
      obtain h | h := f.wrote_cases k i n
      · rwa [forwarderStep, h]
      · rw [forwarderStep, h]
        exact H.update k _
  | writeFailed k i =>
      refine iff_of_true ?_ trivial
      obtain h | h | ⟨id, h⟩ := f.writeFailed_cases k i
      · rwa [forwarderStep, h]
      · rw [forwarderStep, h]
        exact H.update k _
      · rw [forwarderStep, h]
        exact (H.update k _).closeConnection id

/-- **Reported closes.**  They are final in every state of a run exactly if, whenever a resolve
or a connect fails, the connection has no entry any more. -/
theorem reported_closes_final_iff (targetPort : UInt16) (evs : List ForwarderEvent) :
    Always forwarderStep ClosesFinal (.initial targetPort) evs ↔
      Along forwarderStep FailsWithoutEntry (.initial targetPort) evs :=
  always_iff_along Forwarder.Sound sound_step closesFinal_step_iff
    (Forwarder.sound_initial targetPort) (.initial targetPort)

/-- The target cannot be resolved: the TCP_CLOSE is sent, the entry stays, and the data that
comes later is queued there. -/
theorem failed_open_keeps_entry :
    ¬ ∀ targetPort evs, Always forwarderStep ClosesFinal (.initial targetPort) evs := by
  intro H
  have halways := always_iff_run.mp (H 22 [.setSendCallback true,
    .call (.tcpOpen (.replicate 16 7) 0), .resolved 0 none,
    .call (.tcpData (.replicate 16 7) [1, 2])]) _ (List.prefix_refl _)
  have hqueued := halways.quiet.1
  exact hqueued (.inl rfl)

end Protogate.TunnelAgent
