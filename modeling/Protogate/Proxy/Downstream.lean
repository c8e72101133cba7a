import Protogate.Proxy.TcpProxy

/-!
# From the agent to the client

Every TCP_DATA frame is appended to the receive buffer and starts a write of the
whole buffer; the completion of a write erases as many bytes as it wrote.  While
one write is outstanding at a time the buffer holds exactly what that write was
given, and the client gets every accepted byte once.  A frame that arrives during
a write makes the next write repeat the buffer.

## Main definitions

* `WriteIntact` — what the client gets is what was accepted.
* `NoWriteOutstanding` — the condition on the frames.
* `downstream_intact` — the streams are intact in runs that meet it.
-/

namespace Protogate.Proxy

open Protogate.Lib Protogate.Models Protogate.Wire

/-- The bytes given to writes are the accepted bytes, each once and in order; all
of them once no write is outstanding; and no completion erases more than there is. -/
structure WriteIntact (c : Connection) : Prop where
  inOrder : c.written <+: c.accepted
  complete : c.writes = [] → c.written = c.accepted
  inRange : c.overErased = false

/-- No write is outstanding to the client of a decoded TCP_DATA frame. -/
def TargetIdle (p : TcpProxy) : Option AgentFrame → Prop
  | some (.data id _ _) => ∀ r ∈ p.getConnection id, r.2.writes = []
  | _ => True

instance (p : TcpProxy) : (frame : Option AgentFrame) → Decidable (TargetIdle p frame)
  | some (.data id _ _) => inferInstanceAs (Decidable (∀ r ∈ p.getConnection id, r.2.writes = []))
  | some (.close _) | some (.error _) | none => inferInstanceAs (Decidable True)

/-- A TCP_DATA frame arrives for its connection only while no write to the client
is outstanding. -/
def NoWriteOutstanding (p : TcpProxy) : Event → Prop
  | .agentFrame frame _ => TargetIdle p (decodeAgentFrame frame)
  | _ => True

instance (p : TcpProxy) : (e : Event) → Decidable (NoWriteOutstanding p e)
  | .agentFrame frame _ => inferInstanceAs (Decidable (TargetIdle p (decodeAgentFrame frame)))
  | .create _ _ | .createByPort _ _ _ _ | .clientRead _ _ _ | .clientEnd _ _ _ | .writeDone _ _
  | .updateWindow _ _ | .close _ _ _ => inferInstanceAs (Decidable True)

/-! ## The invariant -/

/-- The one outstanding write, if the buffer is not empty, was given the buffer;
everything accepted has been given to a write. -/
structure OneWrite (c : Connection) : Prop where
  writes_eq : c.writes = if c.recvBuffer = [] then [] else [c.recvBuffer]
  written_eq : c.written = c.accepted
  inRange : c.overErased = false

theorem OneWrite.writeIntact {c : Connection} (H : OneWrite c) : WriteIntact c where
  inOrder := by rw [H.written_eq]
  complete := fun _ => H.written_eq
  inRange := H.inRange

theorem oneWrite_newConnection (id tunnelId ip : Str) (port : ℕ) (state : ConnectionState)
    (_ : state = .connecting ∨ state = .established) :
    OneWrite (newConnection id tunnelId ip port state) := ⟨rfl, rfl, rfl⟩

/-- With no write outstanding the buffer is empty. -/
theorem OneWrite.recvBuffer_eq_nil {c : Connection} (H : OneWrite c) (hidle : c.writes = []) :
    c.recvBuffer = [] := by
  have hwrites := H.writes_eq
  by_contra hne
  rw [if_neg hne, hidle] at hwrites
  cases hwrites

/-- Then a frame is accepted and written at once. -/
theorem OneWrite.accept {c : Connection} (H : OneWrite c) (hidle : c.writes = []) (data : Bytes)
    (length : ℕ) : OneWrite (c.accept data length).startWrite := by
  have hempty := H.recvBuffer_eq_nil hidle
  cases data with
  | nil =>
      simp only [Connection.accept, Connection.startWrite, hempty, List.append_nil,
        List.isEmpty_nil, if_true]
      exact ⟨by simpa using hidle, H.written_eq, H.inRange⟩
  | cons b data =>
      simp only [Connection.accept, Connection.startWrite, hempty, List.nil_append,
        List.isEmpty_cons, Bool.false_eq_true, if_false]
      exact ⟨by simp [hidle], by simp [H.written_eq], H.inRange⟩

/-- And writing from the empty buffer does nothing. -/
theorem OneWrite.startWrite {c : Connection} (H : OneWrite c) (hidle : c.writes = []) :
    OneWrite c.startWrite := by
  have hempty := H.recvBuffer_eq_nil hidle
  have hsame : c.startWrite = c := by simp [Connection.startWrite, hempty]
  rwa [hsame]

/-- The completion of the one write empties the buffer. -/
theorem OneWrite.finishWrite {c : Connection} (H : OneWrite c) {i : ℕ} {contents : Bytes}
    (hi : c.writes[i]? = some contents) :
    OneWrite (Connection.finishWrite { c with writes := c.writes.eraseIdx i } contents.length) := by
  have hwrites := H.writes_eq
  by_cases hempty : c.recvBuffer = []
  · rw [if_pos hempty] at hwrites
    rw [hwrites] at hi
    cases hi
  · rw [if_neg hempty] at hwrites
    rw [hwrites] at hi
    have hzero : i = 0 := by
      by_contra hne
      obtain ⟨j, rfl⟩ := Nat.exists_eq_succ_of_ne_zero hne
      simp at hi
    subst hzero
    have hcontents : contents = c.recvBuffer := by simpa using hi.symm
    simp only [Connection.finishWrite, Connection.startWrite, hwrites, hcontents,
      List.drop_length, List.isEmpty_nil, if_true, List.eraseIdx_cons_zero]
    exact ⟨by simp, H.written_eq, by simp [H.inRange]⟩

/-! ## Every step keeps it -/

section
variable {p : TcpProxy} {Q : Connection → Prop}

theorem allObjects_closeConnection (H : AllObjects Q p)
    (hstate : ∀ (c : Connection) s, Q c → Q { c with state := s }) (id : Str)
    (graceful agent : Bool) : AllObjects Q (closeConnection p id graceful agent) := by
  refine closeConnection_rule (P := AllObjects Q) H ?_ ?_ ?_ graceful agent
  · exact fun ref => allObjects_update H ref fun c _ hQ => hstate c .closing hQ
  · exact fun ref => allObjects_update H ref fun c _ hQ => hstate c .closed hQ
  · exact fun q t hq => hq

theorem allObjects_sendData (H : AllObjects Q p)
    (hqueue : ∀ (c : Connection) data, Q c → Q (c.queue data)) (id : Str) (data : Bytes)
    (agent : Option Bool) : AllObjects Q (sendData p id data agent).2 := by
  have hqueued : ∀ ref data, AllObjects Q (p.update ref (·.queue data)) :=
    fun ref data => allObjects_update H ref fun d _ hQ => hqueue d data hQ
  refine sendData_rule (P := AllObjects Q) H ?_ ?_ data agent
  · exact fun ref c data _ => hqueued ref data
  · exact fun ref c data frame ok _ _ => hqueued ref data

theorem openState_eq (ok : Bool) : openState ok = .connecting ∨ openState ok = .established := by
  cases ok with
  | false => exact .inl rfl
  | true => exact .inr rfl

/-- A new connection is connecting or established. -/
theorem allObjects_create (H : AllObjects Q p)
    (hnew : ∀ id tunnelId ip port state, state = .connecting ∨ state = .established →
      Q (newConnection id tunnelId ip port state))
    (allows : List Str → Str → Bool) (env : CreateEnv) (tunnelId : Str) :
    AllObjects Q (createConnection allows p env tunnelId) := by
  refine createConnection_rule (P := AllObjects Q) H (fun ip ok => ?_) (fun ip => ?_) allows
  · exact allObjects_addObject H (hnew _ _ _ _ _ (openState_eq ok))
  · exact allObjects_addObject H (hnew _ _ _ _ _ (.inr rfl))

theorem allObjects_createByPort (H : AllObjects Q p)
    (hnew : ∀ id tunnelId ip port state, state = .connecting ∨ state = .established →
      Q (newConnection id tunnelId ip port state))
    (allows : List Str → Str → Bool) (env : CreateEnv) (order : List (Str × Tunnel)) (port : ℕ)
    (digits : Vector (Fin 16) 8) :
    AllObjects Q (createConnectionByPort allows p env order port digits) := by
  refine createConnectionByPort_rule (P := AllObjects Q) H (fun ip ok => ?_) (fun ip => ?_) allows
  · exact allObjects_addObject H (hnew _ _ _ _ _ (openState_eq ok))
  · exact allObjects_addObject H (hnew _ _ _ _ _ (.inr rfl))

end

theorem oneWrite_agentFrame {p : TcpProxy} (H : AllObjects OneWrite p) {frame : Bytes}
    (hidle : TargetIdle p (decodeAgentFrame frame)) (agent : Bool) :
    AllObjects OneWrite (handleAgentTcpFrame p frame agent) := by
  rcases handleAgentTcpFrame_cases p frame agent with
    hsame | ⟨id, data, length, ref, c, hframe, hget, hstep⟩ | ⟨id, graceful, hstep⟩
  · rwa [hsame]
  · rw [hframe] at hidle
    have hwrites : c.writes = [] := hidle (ref, c) hget
    have hobj := (getConnection_eq_some_iff.mp hget).2
    have hsame : ∀ d, p.objects.lookup ref = some d → d = c := by
      intro d hd
      exact Option.some.inj (hd.symm.trans hobj)
    rw [hstep]
    split
    · exact allObjects_update H _ fun d hd hQ =>
        hQ.startWrite (by rw [hsame d hd, hwrites])
    · exact allObjects_update H _ fun d hd hQ =>
        hQ.accept (by rw [hsame d hd, hwrites]) data length
  · rw [hstep]
    exact allObjects_closeConnection H (fun c s hQ => ⟨hQ.1, hQ.2, hQ.3⟩) id graceful agent

theorem oneWrite_step (allows : List Str → Str → Bool) (p : TcpProxy) (e : Event)
    (H : AllObjects OneWrite p) (he : NoWriteOutstanding p e) :
    AllObjects OneWrite (step allows p e) := by
  cases e with
  | create env tunnelId => exact allObjects_create H oneWrite_newConnection allows env tunnelId
  | createByPort env order port digits =>
      exact allObjects_createByPort H oneWrite_newConnection allows env order port digits
  | clientRead ref data agent =>
      refine clientRead_rule (P := AllObjects OneWrite) H fun c _ _ => ?_
      refine allObjects_update ?_ _ fun c _ hQ => ⟨hQ.1, hQ.2, hQ.3⟩
      refine allObjects_sendData ?_ (fun c data hQ => ⟨hQ.1, hQ.2, hQ.3⟩) _ _ _
      exact allObjects_update H _ fun c _ hQ => ⟨hQ.1, hQ.2, hQ.3⟩
  | clientEnd ref eof agent =>
      refine clientEnd_rule (P := AllObjects OneWrite) H fun c _ _ => ?_
      refine allObjects_closeConnection ?_ (fun c s hQ => ⟨hQ.1, hQ.2, hQ.3⟩) _ _ _
      exact allObjects_update H _ fun c _ hQ => ⟨hQ.1, hQ.2, hQ.3⟩
  | writeDone ref i =>
      refine allObjects_update H _ fun c _ hQ => ?_
      split
      · exact hQ
      · exact hQ.finishWrite ‹_›
  | agentFrame frame agent => exact oneWrite_agentFrame H he agent
  | updateWindow id n =>
      refine updateWindow_rule (P := AllObjects OneWrite) H fun ref c _ _ => ?_
      exact allObjects_update H _ fun c _ hQ => ⟨hQ.1, hQ.2, hQ.3⟩
  | close id graceful agent =>
      exact allObjects_closeConnection H (fun c s hQ => ⟨hQ.1, hQ.2, hQ.3⟩) id graceful agent

/-- **Every client gets the accepted bytes**, each once and in order, in every run
in which TCP_DATA frames for a connection arrive only while no write to its client
is outstanding. -/
theorem downstream_intact (allows : List Str → Str → Bool) (evs : List Event)
    (H : Along (step allows) NoWriteOutstanding TcpProxy.init evs) :
    Always (step allows) (AllObjects WriteIntact) TcpProxy.init evs := by
  have hinit : AllObjects OneWrite TcpProxy.init := by
    intro ref c hc
    simp [TcpProxy.init] at hc
  have hall := always_of_invariant (AllObjects OneWrite) (oneWrite_step allows) hinit H
  exact Always.imp (fun p hp ref c hc => (hp ref c hc).writeIntact) hall

/-! ## Runs -/

/-- Two frames, the second after the write of the first has completed. -/
theorem downstream_intact_two :
    Always (step fun _ _ => false) (AllObjects WriteIntact) TcpProxy.init
      [.create sampleEnv "db".toList, .agentFrame (sampleFrame 0x41) true, .writeDone 0 0,
        .agentFrame (sampleFrame 0x42) true] :=
  downstream_intact (fun _ _ => false) _ (by decide)

/-- Two frames back to back: the client is sent `AAB`. -/
theorem not_downstreamIntact_backToBack :
    ¬ ∀ evs, Always (step fun _ _ => false) (AllObjects WriteIntact) TcpProxy.init evs := by
  intro H
  let p := run (step fun _ _ => false) TcpProxy.init
    [.create sampleEnv "db".toList, .agentFrame (sampleFrame 0x41) true,
      .agentFrame (sampleFrame 0x42) true]
  have hp : AllObjects WriteIntact p := always_iff_run.mp (H _) _ (List.prefix_refl _)
  have hread : ((p.objects.lookup 0).map fun c => (c.accepted, c.written)) =
      some ([0x41, 0x42], [0x41, 0x41, 0x42]) := by decide
  obtain ⟨c, hc, hpair⟩ := Option.map_eq_some_iff.mp hread
  have horder := (hp 0 c hc).inOrder
  rw [(Prod.mk.inj hpair).1, (Prod.mk.inj hpair).2] at horder
  exact absurd horder (by decide)

end Protogate.Proxy
