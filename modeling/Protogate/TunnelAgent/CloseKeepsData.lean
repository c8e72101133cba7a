import Protogate.TunnelAgent.Forwarding

/-!
# Closing a connection that still has data

`handle_tcp_close` shuts the socket down whatever the connection still has to write.  The data
may be queued, while the connect is under way, or in writes that are not complete.  A connection
that is still being resolved has no open socket: only its entry goes, and the handlers, which
hold the connection, connect it and write its queue after the close.  The buffers of the writes
are taken to stay valid until they have completed.

## Main definitions

* `KeepsData` — a close finds all data written, and nothing starts after it.
* `DrainedAtClose` — it finds nothing queued or being written, and no connect succeeds later.
* `TcpConnection.Sound.written_iff` — all received data is written when nothing is left.
* `close_keeps_data_iff` — the data is kept along exactly the runs of such steps.
-/

namespace Protogate.TunnelAgent

open Protogate.Lib Protogate.Wire Protogate.Proxy

/-! ## The property -/

/-- The number of reads and writes begun on the `k`-th connection. -/
def Forwarder.starts (f : Forwarder) (k : ℕ) : Option ℕ := f.objects[k]?.map (·.started)

/-- On no connection for which a TCP_CLOSE came a read or write begins. -/
def StartsNothing (f f' : Forwarder) : Prop :=
  ∀ k c, f.objects[k]? = some c → c.closeSeen = true → f'.starts k = some c.started

/-- A TCP_CLOSE that shuts a socket down finds all data received written to it, and nothing
is started on a connection after its TCP_CLOSE. -/
structure KeepsData (f : Forwarder) (e : ForwarderEvent) : Prop where
  written : ∀ id k c, e = .call (.tcpClose id) → f.connections.lookup id = some k →
    f.objects[k]? = some c → c.socketOpen = true → c.writes.out.Perm c.received
  quiet : StartsNothing f (forwarderStep f e)

/-- A TCP_CLOSE finds the socket not open, or nothing in the writes or the queue; a connect
that succeeds is one of a connection not closed yet. -/
def DrainedAtClose (f : Forwarder) : ForwarderEvent → Prop
  | .call (.tcpClose id) => ∀ k c, f.connections.lookup id = some k → f.objects[k]? = some c →
      c.socketOpen = true → ∀ items ∈ c.writes.remaining ++ c.pendingData, items = []
  | .connectDone k ok => ∀ c, f.objects[k]? = some c → c.stage = .connecting →
      ok = true ∧ c.socketOpen = true → c.closeSeen = false
  | _ => True

/-! ## What is written -/

/-- The payloads received are all on the socket when none is left. -/
theorem TcpConnection.Sound.written_iff {c : TcpConnection} (H : c.Sound) :
    c.writes.out.Perm c.received ↔ ∀ items ∈ c.writes.remaining ++ c.pendingData, items = [] := by
  have haccount := H.account
  rw [Writes.total, List.append_assoc, ← List.flatten_append] at haccount
  rw [← List.flatten_eq_nil_iff]
  constructor
  · intro hwritten
    have hlength := (haccount.trans hwritten.symm).length_eq
    rw [List.length_append] at hlength
    exact List.length_eq_zero_iff.mp (by omega)
  · intro hnothing
    rwa [hnothing, List.append_nil] at haccount

/-! ## What is started -/

namespace Forwarder
variable (f : Forwarder)

theorem starts_update (k : ℕ) {g : TcpConnection → TcpConnection}
    (hkeep : ∀ c, (g c).started = c.started) (j : ℕ) : (f.update k g).starts j = f.starts j := by
  rw [starts, starts, objects_update]
  split
  · simp [Function.comp_def, hkeep]
  · rfl

theorem starts_update_ne {k j : ℕ} (hne : j ≠ k) (g : TcpConnection → TcpConnection) :
    (f.update k g).starts j = f.starts j := by
  rw [starts, starts, objects_update, if_neg (Ne.symm hne)]

@[simp] theorem starts_sendTcpDataFrame (id : ConnectionId) (data : Bytes) (seq : UInt32) (j : ℕ) :
    (f.sendTcpDataFrame id data seq).starts j = f.starts j := by
  rw [starts, starts, objects_sendTcpDataFrame]

@[simp] theorem starts_sendTcpCloseFrame (id : ConnectionId) (reason : UInt16) (j : ℕ) :
    (f.sendTcpCloseFrame id reason).starts j = f.starts j := by
  rw [starts, starts, objects_sendTcpCloseFrame]

@[simp] theorem starts_closeConnection (id : ConnectionId) (j : ℕ) :
    (f.closeConnection id).starts j = f.starts j := by
  rw [closeConnection]
  split
  · rfl
  · rename_i k _
    exact f.starts_update k (g := fun c => { c with socketOpen := false }) (fun _ => rfl) j

@[simp] theorem starts_markClosed (id : ConnectionId) (j : ℕ) :
    (f.markClosed id).starts j = f.starts j := by
  have hkeep : ∀ c : TcpConnection,
      (if c.connectionId = id then { c with closeSeen := true } else c).started = c.started := by
    intro c
    split <;> rfl
  simp [starts, markClosed, Function.comp_def, hkeep]

end Forwarder

variable {f f' : Forwarder}

theorem startsNothing_of_starts (h : ∀ k, f'.starts k = f.starts k) : StartsNothing f f' := by
  intro k c hobject _
  rw [h k, Forwarder.starts, hobject, Option.map_some]

/-- What starts on the connection of an entry starts on one that is not closed. -/
theorem startsNothing_of_entry (hsound : f.Sound) {id : ConnectionId} {k : ℕ}
    (hentry : f.connections.lookup id = some k) (h : ∀ j, j ≠ k → f'.starts j = f.starts j) :
    StartsNothing f f' := by
  intro j c hobject hclosed
  obtain ⟨d, hd, -, hopen⟩ := hsound.entry id k hentry
  have hne : j ≠ k := by
    rintro rfl
    rw [hobject] at hd
    cases hd
    rw [hopen] at hclosed
    cases hclosed
  rw [h j hne, Forwarder.starts, hobject, Option.map_some]

theorem startsNothing_handleTcpOpen (id : ConnectionId) (port : UInt16) :
    StartsNothing f (f.handleTcpOpen id port) := by
  intro k c hobject _
  have hk : k < f.objects.length := (List.getElem?_eq_some_iff.mp hobject).1
  simp [Forwarder.starts, Forwarder.handleTcpOpen, List.getElem?_append_left hk, hobject]

theorem startsNothing_handleTcpData (hsound : f.Sound) (id : ConnectionId) (data : Bytes) :
    StartsNothing f (f.handleTcpData id data) := by
  obtain h | ⟨k, hentry, h | h⟩ := f.handleTcpData_cases id data
  · rw [h]
    exact startsNothing_of_starts fun _ => rfl
  · rw [h]
    exact startsNothing_of_entry hsound hentry fun j hne => f.starts_update_ne hne _
  · rw [h]
    exact startsNothing_of_entry hsound hentry fun j hne => f.starts_update_ne hne _

theorem startsNothing_resolved (k : ℕ) (endpoints : Option Bool) :
    StartsNothing f (f.resolved k endpoints) := by
  apply startsNothing_of_starts
  intro j
  obtain h | ⟨c, _, _, h | ⟨opened, h⟩⟩ := f.resolved_cases k endpoints
  · rw [h]
  · rw [h, Forwarder.starts_sendTcpCloseFrame]
    exact f.starts_update k (by intro _; rfl) j
  · rw [h]
    exact f.starts_update k (by intro _; rfl) j

theorem startsNothing_readDone (hsound : f.Sound) (k : ℕ) (result : Option Bytes) :
    StartsNothing f (f.readDone k result) := by
  obtain h | ⟨c, hobject, hreading, halive, h | ⟨data, -, h⟩⟩ := f.readDone_cases k result
  · rw [h]
    exact startsNothing_of_starts fun _ => rfl
  · refine startsNothing_of_starts fun j => ?_
    rw [h, Forwarder.starts_closeConnection, Forwarder.starts_sendTcpCloseFrame]
    exact f.starts_update k (by intro _; rfl) j
  · have hentry := hsound.lookup_of_reading hobject hreading halive
    refine startsNothing_of_entry hsound hentry fun j hne => ?_
    rw [h, Forwarder.starts_update_ne _ hne, Forwarder.starts_sendTcpDataFrame]
    exact f.starts_update_ne hne _

/-- **The handler of a connect** that succeeds starts a read, after the close or not. -/
theorem startsNothing_connectDone_iff (k : ℕ) (ok : Bool) :
    StartsNothing f (f.connectDone k ok) ↔ DrainedAtClose f (.connectDone k ok) := by
  rw [Forwarder.connectDone]
  cases hobject : f.objects[k]? with
  | none => exact iff_of_true (startsNothing_of_starts fun _ => rfl) (by simp [DrainedAtClose, hobject])
  | some c =>
      by_cases hstage : c.stage = .connecting
      · simp only [hstage, if_pos]
        split
        · rename_i hsuccess
          constructor
          · intro hnothing d hd _ _
            rw [hobject] at hd
            cases hd
            -- the read counts as one more start
            by_contra hclosed
            have hstarts := hnothing k c hobject (by simpa using hclosed)
            simp only [Forwarder.starts, Forwarder.objects_update, hobject, if_pos, Option.map_some,
              TcpConnection.flush, TcpConnection.startLocalRead, hsuccess.2, Option.some.injEq] at hstarts
            omega
          · intro hdrained j d hd hclosed
            have hne : j ≠ k := by
              rintro rfl
              rw [hobject] at hd
              cases hd
              rw [hdrained c hobject hstage hsuccess] at hclosed
              cases hclosed
            rw [Forwarder.starts_update_ne f hne, Forwarder.starts, hd, Option.map_some]
        · rename_i hfailure
          refine iff_of_true (startsNothing_of_starts fun j => ?_) ?_
          · rw [Forwarder.starts_sendTcpCloseFrame]
            exact f.starts_update k (by intro _; rfl) j
          · intro d hd _ hsuccess
            rw [hobject] at hd
            cases hd
            exact absurd hsuccess hfailure
      · simp only [if_neg hstage]
        refine iff_of_true (startsNothing_of_starts fun _ => rfl) fun d hd hconnecting _ => ?_
        rw [hobject] at hd
        cases hd
        exact absurd hconnecting hstage

/-! ## One step -/

/-- Only a TCP_CLOSE is asked what it finds. -/
theorem keepsData_iff_startsNothing {e : ForwarderEvent} (he : ∀ id, e ≠ .call (.tcpClose id)) :
    KeepsData f e ↔ StartsNothing f (forwarderStep f e) :=
  ⟨KeepsData.quiet, fun h => ⟨fun id _ _ hclose => absurd hclose (he id), h⟩⟩

theorem keepsData_tcpClose_iff (hsound : f.Sound) (id : ConnectionId) :
    KeepsData f (.call (.tcpClose id)) ↔ DrainedAtClose f (.call (.tcpClose id)) := by
  constructor
  · intro H k c hentry hobject hopen
    have hc := hsound.objects c (List.mem_of_getElem? hobject)
    exact hc.written_iff.mp (H.written id k c rfl hentry hobject hopen)
  · intro hdrained
    refine ⟨?_, startsNothing_of_starts fun k => ?_⟩
    · rintro v k c hv hentry hobject hopen
      cases hv
      have hc := hsound.objects c (List.mem_of_getElem? hobject)
      exact hc.written_iff.mpr (hdrained k c hentry hobject hopen)
    · simp [forwarderStep, Forwarder.call, Forwarder.handleTcpClose]

/-- **One step** keeps the data exactly if it closes a connection that has none left and
connects none that is closed. -/
theorem keepsData_iff (f : Forwarder) (e : ForwarderEvent) (hsound : f.Sound) :
    KeepsData f e ↔ DrainedAtClose f e := by
  cases e with
  | setSendCallback callback =>
      rw [keepsData_iff_startsNothing (by simp)]
      exact iff_of_true (startsNothing_of_starts fun _ => rfl) trivial
  | call c =>
      cases c with
      | tcpOpen id port =>
          rw [keepsData_iff_startsNothing (by simp)]
          exact iff_of_true (startsNothing_handleTcpOpen id port) trivial
      | tcpData id data =>
          rw [keepsData_iff_startsNothing (by simp)]
          exact iff_of_true (startsNothing_handleTcpData hsound id data) trivial
      | tcpClose id => exact keepsData_tcpClose_iff hsound id
      | tcpError id code message =>
          rw [keepsData_iff_startsNothing (by simp)]
          exact iff_of_true (startsNothing_of_starts (f.starts_closeConnection id)) trivial
  | resolved k endpoints =>
      rw [keepsData_iff_startsNothing (by simp)]
      exact iff_of_true (startsNothing_resolved k endpoints) trivial
  | nextEndpoint k opened =>
      rw [keepsData_iff_startsNothing (by simp), forwarderStep]
      refine iff_of_true (startsNothing_of_starts fun j => ?_) trivial
      obtain h | h := f.nextEndpoint_cases k opened
      · rw [h]
      · rw [h]
        exact f.starts_update k (by intro _; rfl) j
  | connectDone k ok =>
      rw [keepsData_iff_startsNothing (by simp)]
      exact startsNothing_connectDone_iff k ok
  | readDone k result =>
      rw [keepsData_iff_startsNothing (by simp)]
      exact iff_of_true (startsNothing_readDone hsound k result) trivial
  | wrote k i n =>
      rw [keepsData_iff_startsNothing (by simp), forwarderStep]
      refine iff_of_true (startsNothing_of_starts fun j => ?_) trivial
      obtain h | h := f.wrote_cases k i n
      · rw [h]
      · rw [h]
        exact f.starts_update k (by intro _; rfl) j
  | writeFailed k i =>
      rw [keepsData_iff_startsNothing (by simp), forwarderStep]
      refine iff_of_true (startsNothing_of_starts fun j => ?_) trivial
      obtain h | h | ⟨id, h⟩ := f.writeFailed_cases k i
      · rw [h]
      · rw [h]
        exact f.starts_update k (by intro _; rfl) j
      · rw [h, Forwarder.starts_closeConnection]
        exact f.starts_update k (by intro _; rfl) j

/-- **Close.**  Along a run no TCP_CLOSE drops data, and nothing is started after it, exactly
if each finds nothing left to write and no connect succeeds after it. -/
theorem close_keeps_data_iff (targetPort : UInt16) (evs : List ForwarderEvent) :
    Along forwarderStep KeepsData (.initial targetPort) evs ↔
      Along forwarderStep DrainedAtClose (.initial targetPort) evs :=
  along_congr Forwarder.Sound sound_step keepsData_iff (Forwarder.sound_initial targetPort)

/-- The payload is queued while the connect is under way, and the TCP_CLOSE comes before the
connect has completed. -/
theorem close_drops_data :
    ¬ ∀ targetPort evs, Along forwarderStep KeepsData (.initial targetPort) evs := by
  intro H
  have hrun := H 22 [.call (.tcpOpen (.replicate 16 7) 0), .resolved 0 (some true),
    .call (.tcpData (.replicate 16 7) [1, 2]), .call (.tcpClose (.replicate 16 7))]
  have hclose := hrun.2.2.2.1.written _ 0 _ rfl rfl rfl rfl
  exact absurd hclose.length_eq (by decide)

end Protogate.TunnelAgent
