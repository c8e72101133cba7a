import Protogate.Proxy.SendWindow

/-!
# Temporary connection ids

`create_connection` by port generates an id `tcp-…`, stores the connection under it, and
then gives the connection the id of its TCP_OPEN frame.  The key stays: what looks the
connection up under its own id does not find it, and `send_data` under the key cannot parse
it, which it notices after the bytes are queued.  `create_connection` for a tunnel stores
the connection after it has its id.

## Main definitions

* `SendAtomic` — a call of `send_data` does all or nothing.
* `sendData_atomic_iff` — when it does.
* `OwnIds` — connections are stored, and found, under their own ids.
* `StoresOwn` — the condition on a call.
* `ownIds_iff` — runs store connections under their own ids exactly if every call meets it.
-/

namespace Protogate.Proxy

open Protogate.Lib Protogate.Models Protogate.Wire

/-! ## Sending -/

/-- The send buffer, the counter and the state of a connection. -/
def sendState (c : Connection) : Bytes × ℕ × ConnectionState := (c.sendBuffer, c.bytesSent, c.state)

/-- The send state of the object `ref`. -/
def sendStateAt (p : TcpProxy) (ref : ℕ) : Option (Bytes × ℕ × ConnectionState) :=
  (p.objects.lookup ref).map sendState

/-- A call of `send_data` that returns 0 changes no connection and sends no frame; one that
returns `n` appends the first `n` bytes to the buffer of its connection, counts them, and
changes no other. -/
structure SendAtomic (p : TcpProxy) (id : Str) (data : Bytes) (agent : Option Bool) : Prop where
  refused : (sendData p id data agent).1 = 0 → (sendData p id data agent).2.sent = p.sent ∧
    ∀ r, sendStateAt (sendData p id data agent).2 r = sendStateAt p r
  accepted : ∀ n, (sendData p id data agent).1 = n → 0 < n → n ≤ data.length ∧
    ∃ ref c, p.getConnection id = some (ref, c) ∧
      ∀ r, sendStateAt (sendData p id data agent).2 r =
        if r = ref then some (c.sendBuffer ++ data.take n, c.bytesSent + n, c.state)
        else sendStateAt p r

/-- With the agent registered, an id that cannot be parsed is no established connection
with room for a byte of the data. -/
def NoRoomUnlessParsable (p : TcpProxy) (id : Str) (data : Bytes) (agent : Option Bool) : Prop :=
  agent.isSome → stringToConnectionId id = none → ∀ ref c, p.getConnection id = some (ref, c) →
    c.state = .established → data = [] ∨ available c = 0

theorem sendStateAt_queue {p : TcpProxy} {ref : ℕ} {c : Connection}
    (hobj : p.objects.lookup ref = some c) (data : Bytes) (r : ℕ) :
    sendStateAt (p.update ref (·.queue data)) r =
      if r = ref then some (c.sendBuffer ++ data, c.bytesSent + data.length, c.state)
      else sendStateAt p r := by
  rw [sendStateAt, lookup_update]
  by_cases hr : r = ref
  · subst hr
    simp [hobj, sendState, Connection.queue]
  · simp [hr, sendStateAt]

/-- **When `send_data` is atomic**, in every state and for every id and data: exactly if it
does not queue bytes under an id that it then cannot parse. -/
theorem sendData_atomic_iff (p : TcpProxy) (id : Str) (data : Bytes) (agent : Option Bool) :
    SendAtomic p id data agent ↔ NoRoomUnlessParsable p id data agent := by
  obtain ⟨hsame, hfull⟩ | ⟨ref, c, n, hget, hstate, hn, hpos, hcase⟩ := sendData_cases p id data agent
  · -- nothing is queued
    refine iff_of_true ⟨?_, ?_⟩ ?_
    · rw [hsame]
      exact fun _ => ⟨rfl, fun _ => rfl⟩
    · rw [hsame]
      intro n hn hpos
      omega
    · intro _ _ ref c hget hstate
      have hzero := hfull ref c hget hstate
      rw [← List.length_eq_zero_iff]
      omega
  have hobj := (getConnection_eq_some_iff.mp hget).2
  have hqueue := sendStateAt_queue hobj (data.take n)
  have hlength : (data.take n).length = n := by
    rw [List.length_take]
    omega
  rw [hlength] at hqueue
  obtain ⟨hagent, hsend⟩ | ⟨hagent, hparse, hsend⟩ | ⟨ok, uuid, hagent, hparse, hsend⟩ := hcase
  · refine iff_of_true ⟨?_, ?_⟩ ?_
    · rw [hsend]
      intro hzero
      omega
    · rw [hsend]
      rintro _ rfl _
      exact ⟨by omega, ref, c, hget, hqueue⟩
    · intro hsome
      rw [hagent] at hsome
      cases hsome
  · -- the bytes are queued but 0 is returned
    refine iff_of_false ?_ ?_
    · intro H
      have hchanged := (H.refused (by rw [hsend])).2 ref
      rw [hsend, hqueue, if_pos rfl, sendStateAt, hobj] at hchanged
      simp only [Option.map_some, sendState, Option.some.injEq, Prod.mk.injEq] at hchanged
      omega
    · intro H
      obtain hdata | hroom := H hagent hparse ref c hget hstate
      · simp only [hdata, List.length_nil] at hn
        omega
      · omega
  · refine iff_of_true ⟨?_, ?_⟩ ?_
    · rw [hsend]
      intro hzero
      omega
    · rw [hsend]
      rintro _ rfl _
      exact ⟨by omega, ref, c, hget, hqueue⟩
    · intro _ hnone
      rw [hparse] at hnone
      cases hnone

/-- A client that comes by port to `db`, which gets the temporary id `tcp-00000000`. -/
def samplePortEvent : Event :=
  .createByPort sampleEnv [("db".toList, sampleTunnel)] 5432 (Vector.replicate 8 0)

/-- Its key. -/
def sampleTempId : Str := "tcp-00000000".toList

/-- A byte sent under the temporary id is queued and counted, but 0 is returned. -/
theorem not_sendData_atomic_temporary :
    ¬ ∀ (allows : List Str → Str → Bool) (calls : List Call) (id : Str) (data : Bytes)
      (agent : Option Bool), SendAtomic (run (call allows) .init calls) id data agent := by
  intro H
  have hatomic := H (fun _ _ => false) [.event samplePortEvent] sampleTempId [65] (some true)
  have hbuffer := (hatomic.refused (by decide +kernel)).2 0
  exact absurd hbuffer (by decide +kernel)

/-! ## Keys -/

/-- Every connection in the map has its key for its id, which is the text of the 16 bytes
sent in its TCP_OPEN frame; and a connection that was given such an id and is not closed is
found under it. -/
structure OwnIds (p : TcpProxy) : Prop where
  key : ∀ id ref c, p.getConnection id = some (ref, c) → c.connectionId = id ∧
    ∃ uuid port ok, connectionIdToString uuid = id ∧
      .tcpOpen c.tunnelId id ⟨uuid, port⟩ ok ∈ p.sent
  found : ∀ ref c, p.objects.lookup ref = some c → c.connectionId ≠ [] → c.state ≠ .closed →
    p.getConnection c.connectionId = some (ref, c)

/-- No connection is made by port, and one that is made for a tunnel does not get the id of
a connection that is not closed. -/
def StoresOwn (allows : List Str → Str → Bool) (p : TcpProxy) : Call → Prop
  | .event (.create env _) => (admitClient allows env).isSome → env.agent.isSome →
      ∀ ref c, p.objects.lookup ref = some c → c.connectionId = connectionIdToString env.uuid →
        c.state = .closed
  | .event (.createByPort env order port _) =>
      matchTunnelByPort order port = [] ∨ admitClient allows env = none
  | _ => True

/-! ## Calls that keep the keys -/

section
variable {p q : TcpProxy}

theorem ownIds_init : OwnIds .init where
  key := by simp [TcpProxy.getConnection, TcpProxy.init]
  found := by simp [TcpProxy.init]

theorem OwnIds.send (H : OwnIds p) {sent : List AgentSend} (hsub : p.sent ⊆ sent) :
    OwnIds { p with sent } where
  key := by
    intro id ref c hget
    obtain ⟨hid, uuid, port, ok, htext, hopen⟩ := H.key id ref c hget
    exact ⟨hid, uuid, port, ok, htext, hsub hopen⟩
  found := H.found

/-- An object is changed, but not its id, and it is not reopened unless it is in the map. -/
theorem OwnIds.update (H : OwnIds p) (ref : ℕ) {f : Connection → Connection}
    (hf : ∀ c, p.objects.lookup ref = some c → (f c).connectionId = c.connectionId ∧
      (f c).tunnelId = c.tunnelId ∧ ((f c).state ≠ .closed →
        c.state ≠ .closed ∨ p.connections.lookup c.connectionId = some ref)) :
    OwnIds (p.update ref f) where
  key := by
    intro id r c hget
    obtain ⟨hkey, hobj⟩ := getConnection_eq_some_iff.mp hget
    rw [connections_update] at hkey
    rw [lookup_update] at hobj
    rw [sent_update]
    split at hobj
    · rename_i heq
      obtain ⟨d, hd, rfl⟩ := Option.map_eq_some_iff.mp hobj
      obtain ⟨hid, htunnel, _⟩ := hf d (heq ▸ hd)
      rw [hid, htunnel]
      exact H.key id r d (getConnection_eq_some_iff.mpr ⟨hkey, hd⟩)
    · exact H.key id r c (getConnection_eq_some_iff.mpr ⟨hkey, hobj⟩)
  found := by
    intro r c hobj hne hopen
    have hafter := hobj
    rw [lookup_update] at hobj
    apply getConnection_eq_some_iff.mpr
    rw [connections_update]
    refine ⟨?_, hafter⟩
    split at hobj
    · rename_i heq
      obtain ⟨d, hd, rfl⟩ := Option.map_eq_some_iff.mp hobj
      obtain ⟨hid, _, hstate⟩ := hf d (heq ▸ hd)
      rw [hid] at hne ⊢
      obtain hopen | hkey := hstate hopen
      · exact (getConnection_eq_some_iff.mp (H.found r d hd hne hopen)).1
      · rwa [heq]
    · exact (getConnection_eq_some_iff.mp (H.found r c hobj hne hopen)).1

/-- The connection found under an id is closed and removed. -/
theorem OwnIds.close (H : OwnIds p) {id : Str} {ref : ℕ} {c : Connection}
    (hget : p.getConnection id = some (ref, c)) :
    OwnIds { p.update ref fun c => { c with state := .closed } with
      connections := p.connections.erase id } where
  key := by
    intro id' r d hget'
    obtain ⟨hkey, hobj⟩ := getConnection_eq_some_iff.mp hget'
    have Hupdate : OwnIds (p.update ref fun c => { c with state := .closed }) :=
      H.update ref fun c _ => ⟨rfl, rfl, fun h => absurd rfl h⟩
    refine Hupdate.key id' r d (getConnection_eq_some_iff.mpr ⟨?_, hobj⟩)
    rw [connections_update]
    exact (Assoc.lookup_of_lookup_erase hkey).2
  found := by
    intro r d hobj hne hopen
    refine getConnection_eq_some_iff.mpr ⟨?_, hobj⟩
    have hd := hobj
    dsimp only at hd ⊢
    rw [lookup_update] at hd
    split at hd
    · obtain ⟨e, _, rfl⟩ := Option.map_eq_some_iff.mp hd
      exact absurd rfl hopen
    · rename_i hr
      have hkey := (getConnection_eq_some_iff.mp (H.found r d hd hne hopen)).1
      have hother : d.connectionId ≠ id := by
        intro heq
        rw [heq, (getConnection_eq_some_iff.mp hget).1] at hkey
        exact hr (Option.some.inj hkey).symm
      rw [AList.lookup_erase_ne hother, hkey]

theorem OwnIds.closeConnection (H : OwnIds p) (id : Str) (graceful agent : Bool) :
    OwnIds (closeConnection p id graceful agent) := by
  obtain ⟨_, hsame⟩ | ⟨ref, c, extra, hget, _, ⟨_, _, hclosing⟩ | ⟨_, hclosed⟩⟩ :=
    closeConnection_cases p id graceful agent
  · rw [hsame]
    exact H
  · have Hclosing : OwnIds (p.update ref fun c => { c with state := .closing }) := by
      refine H.update ref fun d hd => ⟨rfl, rfl, fun _ => .inr ?_⟩
      obtain ⟨hkey, hobj⟩ := getConnection_eq_some_iff.mp hget
      obtain rfl := Option.some.inj (hd.symm.trans hobj)
      rw [(H.key id ref d hget).1, hkey]
    rw [hclosing]
    exact Hclosing.send (by simp)
  · rw [hclosed]
    exact (H.close hget).send (by simp)

theorem OwnIds.sendData (H : OwnIds p) (id : Str) (data : Bytes) (agent : Option Bool) :
    OwnIds (sendData p id data agent).2 := by
  have hqueue : ∀ ref data, OwnIds (p.update ref (·.queue data)) :=
    fun ref data => H.update ref fun c _ => ⟨rfl, rfl, .inl⟩
  refine sendData_rule H (fun ref c data _ => hqueue ref data) ?_ data agent
  exact fun ref c data frame ok _ _ => (hqueue ref data).send (by simp)

/-- A write is started on an object after it was changed. -/
theorem OwnIds.startWrite (H : OwnIds p) (ref : ℕ) {f : Connection → Connection}
    (hf : ∀ c, (f c).connectionId = c.connectionId ∧ (f c).tunnelId = c.tunnelId ∧
      (f c).state = c.state) : OwnIds (p.update ref fun c => (f c).startWrite) := by
  refine H.update ref fun c _ => ?_
  rw [connectionId_startWrite, tunnelId_startWrite, state_startWrite, (hf c).1, (hf c).2.1,
    (hf c).2.2]
  exact ⟨rfl, rfl, .inl⟩

theorem OwnIds.agentFrame (H : OwnIds p) (frame : Bytes) (agent : Bool) :
    OwnIds (handleAgentTcpFrame p frame agent) := by
  refine handleAgentTcpFrame_rule H ?_ ?_ ?_
  · exact fun _ ref _ _ => H.startWrite ref (f := fun c => c) fun c => ⟨rfl, rfl, rfl⟩
  · exact fun _ ref _ data length _ =>
      H.startWrite ref (f := (·.accept data length)) fun c => ⟨rfl, rfl, rfl⟩
  · exact fun id graceful => H.closeConnection id graceful agent

/-- Calls that make no connection keep connections under their ids. -/
theorem OwnIds.call (H : OwnIds p) (allows : List Str → Str → Bool) {c : Call}
    (hc : ∀ e, c = .event e → e.creates = false) : OwnIds (call allows p c) := by
  cases c with
  | sendData id data agent => exact H.sendData id data agent
  | receiveData id data =>
      exact receiveData_rule H fun ref c _ _ => H.update ref fun c _ => ⟨rfl, rfl, .inl⟩
  | event e =>
      have he := hc e rfl
      cases e with
      | create _ _ => cases he
      | createByPort _ _ _ _ => cases he
      | clientRead ref data agent =>
          refine clientRead_rule H fun c _ _ => ?_
          have Hread : OwnIds (p.update ref (·.finishRead data)) :=
            H.update ref fun c _ => ⟨rfl, rfl, .inl⟩
          exact (Hread.sendData c.connectionId data agent).update ref fun c _ => ⟨rfl, rfl, .inl⟩
      | clientEnd ref eof agent =>
          refine clientEnd_rule H fun c _ _ => ?_
          have Hend : OwnIds (p.update ref fun c => { c with reading := false }) :=
            H.update ref fun c _ => ⟨rfl, rfl, .inl⟩
          exact Hend.closeConnection c.connectionId eof agent
      | writeDone ref i =>
          refine H.update ref fun c _ => ?_
          split
          · exact ⟨rfl, rfl, .inl⟩
          · rw [Connection.finishWrite, connectionId_startWrite, tunnelId_startWrite,
              state_startWrite]
            exact ⟨rfl, rfl, .inl⟩
      | agentFrame frame agent => exact H.agentFrame frame agent
      | updateWindow id n =>
          exact updateWindow_rule H fun ref c _ _ => H.update ref fun c _ => ⟨rfl, rfl, .inl⟩
      | close id graceful agent => exact H.closeConnection id graceful agent

/-! ## Calls that make connections -/

/-- A connection without an id and without a key. -/
theorem OwnIds.addObject (H : OwnIds p) (hp : Numbered p) {c : Connection}
    (hid : c.connectionId = []) : OwnIds (p.addObject c) where
  key := by
    intro id ref d hget
    obtain ⟨hkey, hobj⟩ := getConnection_eq_some_iff.mp hget
    have hlt : ref < p.created := hp.keys id ref hkey
    rw [lookup_addObject, if_neg (Nat.ne_of_lt hlt)] at hobj
    exact H.key id ref d (getConnection_eq_some_iff.mpr ⟨hkey, hobj⟩)
  found := by
    intro ref d hobj hne hopen
    refine getConnection_eq_some_iff.mpr ⟨?_, hobj⟩
    rw [lookup_addObject] at hobj
    split at hobj
    · rw [← Option.some.inj hobj] at hne
      exact absurd hid hne
    · exact (getConnection_eq_some_iff.mp (H.found ref d hobj hne hopen)).1

/-- A connection stored under the id of its TCP_OPEN frame, which no open connection has. -/
theorem OwnIds.addKeyed (H : OwnIds p) (hp : Numbered p) {c : Connection} {uuid : ConnectionId}
    (hid : c.connectionId = connectionIdToString uuid) (port : UInt16) (ok : Bool)
    (hfresh : ∀ ref d, p.objects.lookup ref = some d →
      d.connectionId = connectionIdToString uuid → d.state = .closed) :
    OwnIds { p.addObject c with
      connections := p.connections.insert (connectionIdToString uuid) p.created
      sent := p.sent ++ [.tcpOpen c.tunnelId (connectionIdToString uuid) ⟨uuid, port⟩ ok] } where
  key := by
    intro id ref d hget
    obtain ⟨hkey, hobj⟩ := getConnection_eq_some_iff.mp hget
    replace hobj := (lookup_addObject p c ref).symm.trans hobj
    rw [Assoc.lookup_insert_ite] at hkey
    split at hkey
    · rename_i heq
      rw [if_pos (Option.some.inj hkey).symm] at hobj
      obtain rfl := Option.some.inj hobj
      subst heq
      exact ⟨hid, uuid, port, ok, rfl, by simp⟩
    · rw [if_neg (Nat.ne_of_lt (hp.keys id ref hkey))] at hobj
      obtain ⟨hid', uuid', port', ok', htext, hopen⟩ :=
        H.key id ref d (getConnection_eq_some_iff.mpr ⟨hkey, hobj⟩)
      exact ⟨hid', uuid', port', ok', htext, List.mem_append_left _ hopen⟩
  found := by
    intro ref d hobj hne hopen
    refine getConnection_eq_some_iff.mpr ⟨?_, hobj⟩
    replace hobj := (lookup_addObject p c ref).symm.trans hobj
    split at hobj
    · rename_i heq
      rw [← Option.some.inj hobj, hid, heq]
      exact AList.lookup_insert _
    · have hother : d.connectionId ≠ connectionIdToString uuid :=
        fun heq => hopen (hfresh ref d hobj heq)
      have hkey := (getConnection_eq_some_iff.mp (H.found ref d hobj hne hopen)).1
      dsimp only
      rw [AList.lookup_insert_ne hother, hkey]

theorem OwnIds.create_iff (H : OwnIds p) (hp : Numbered p) (allows : List Str → Str → Bool)
    (env : CreateEnv) (t : Str) :
    OwnIds (createConnection allows p env t) ↔ StoresOwn allows p (.event (.create env t)) := by
  simp only [createConnection, StoresOwn]
  cases hadmitted : admitClient allows env with
  | none => exact iff_of_true H fun hsome => by cases hsome
  | some ip =>
      cases hagent : env.agent with
      | none =>
          refine iff_of_true (H.addObject hp rfl) fun _ hsome => by cases hsome
      | some ok =>
          refine ⟨fun Hafter _ _ ref d hobj heq => ?_, fun hfresh => ?_⟩
          · -- an open connection with the id would not be found any more
            by_contra hopen
            have hlt := hp.objects ref d hobj
            have hobj' := (lookup_addObject p (newConnection (connectionIdToString env.uuid) t ip 0
              (openState ok)) ref).trans (if_neg (Nat.ne_of_lt hlt))
            have hne : d.connectionId ≠ [] := heq ▸ connectionIdToString_ne_nil env.uuid
            have hkey := (getConnection_eq_some_iff.mp
              (Hafter.found ref d (hobj'.trans hobj) hne hopen)).1
            rw [heq, AList.lookup_insert] at hkey
            exact absurd (Option.some.inj hkey) (Nat.ne_of_gt hlt)
          · exact H.addKeyed hp rfl 0 ok (hfresh rfl rfl)

theorem OwnIds.createByPort_iff (H : OwnIds p) (allows : List Str → Str → Bool) (env : CreateEnv)
    (order : List (Str × Tunnel)) (port : ℕ) (digits : Vector (Fin 16) 8) :
    OwnIds (createConnectionByPort allows p env order port digits) ↔
      StoresOwn allows p (.event (.createByPort env order port digits)) := by
  by_cases hstop : matchTunnelByPort order port = [] ∨ admitClient allows env = none
  · rw [createConnectionByPort_of_none hstop]
    exact iff_of_true H hstop
  · refine iff_of_false (fun Hafter => ?_) hstop
    rw [not_or] at hstop
    obtain ⟨ip, hip⟩ := Option.ne_none_iff_exists'.mp hstop.2
    -- the key of the new object is a temporary id
    have hkey : (createConnectionByPort allows p env order port digits).connections.lookup
        (generateConnectionId digits) = some p.created := by
      simp only [createConnectionByPort, hip, List.isEmpty_iff, hstop.1, if_false]
      split <;> exact AList.lookup_insert _
    obtain ⟨c, hadds, _⟩ := adds_createConnectionByPort p digits hstop.1 hip
    have hobj : (createConnectionByPort allows p env order port digits).objects.lookup p.created =
        some c := by rw [hadds.objects, if_pos rfl]
    obtain ⟨_, uuid, _, _, htext, _⟩ :=
      Hafter.key _ _ _ (getConnection_eq_some_iff.mpr ⟨hkey, hobj⟩)
    exact generateConnectionId_ne digits uuid htext.symm

/-- One call keeps connections under their own ids exactly if it meets the condition. -/
theorem OwnIds.call_iff (H : OwnIds p) (hp : Numbered p) (allows : List Str → Str → Bool) (c : Call) :
    OwnIds (Proxy.call allows p c) ↔ StoresOwn allows p c := by
  cases c with
  | sendData id data agent => exact iff_of_true (H.call allows (by simp)) trivial
  | receiveData id data => exact iff_of_true (H.call allows (by simp)) trivial
  | event e =>
      cases e with
      | create env t => exact H.create_iff hp allows env t
      | createByPort env order port digits => exact H.createByPort_iff allows env order port digits
      | _ => exact iff_of_true (H.call allows (by rintro _ ⟨⟩; rfl)) trivial

end

/-- **Connections are stored, and found, under their own ids** in every state of a run exactly
if no call of it makes a connection by port or gives a connection the id of an open one. -/
theorem ownIds_iff (allows : List Str → Str → Bool) (calls : List Call) :
    Always (call allows) OwnIds .init calls ↔ Along (call allows) (StoresOwn allows) .init calls :=
  always_iff_along Numbered (fun _ c hp => numbered_call allows c hp)
    (fun _ c hp H => H.call_iff hp allows c) numbered_init ownIds_init

/-- The connection of a client that comes by port has another id than its key. -/
theorem not_ownIds_port :
    ¬ ∀ (allows : List Str → Str → Bool) (calls : List Call),
      Always (call allows) OwnIds .init calls := by
  intro H
  have hall := H (fun _ _ => false) [.event samplePortEvent]
  have hkey := hall.2.key sampleTempId 0 (newConnection (connectionIdToString sampleEnv.uuid)
    "db".toList "10.0.0.1".toList 5432 .established) (by decide +kernel)
  exact absurd hkey.1 (by decide +kernel)

/-- Where connections have their own ids for keys, `send_data` is atomic. -/
theorem OwnIds.noRoomUnlessParsable {p : TcpProxy} (H : OwnIds p) (id : Str) (data : Bytes)
    (agent : Option Bool) : NoRoomUnlessParsable p id data agent := by
  intro _ hparse ref c hget _
  obtain ⟨_, uuid, _, _, htext, _⟩ := H.key id ref c hget
  rw [← htext, stringToConnectionId_connectionIdToString] at hparse
  cases hparse

end Protogate.Proxy
