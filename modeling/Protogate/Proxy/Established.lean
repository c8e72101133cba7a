import Protogate.Proxy.HandleRequest

/-!
# How connections become established

A connection object is established when it is made, if at all.  The other operations change
the objects there are and take keys away; so a connection that is established and can be
found was so before.

## Main definitions

* `Narrows` — no object, key or established connection is new.
* `Adds` — one object is new, and perhaps a key for it.
* `narrows_step`, `adds_createConnection`, `adds_createConnectionByPort`.
* `narrows_or_adds_step` — a step does one or the other.
* `Numbered` — numbers are given out in order.
-/

namespace Protogate.Proxy

open Protogate.Lib Protogate.Models Protogate.Wire

/-- The objects of `q` are those of `p` for the same tunnels, established only if they were,
and the keys of `q` are keys of `p`. -/
structure Narrows (p q : TcpProxy) : Prop where
  created : q.created = p.created
  objects : ∀ ref c, q.objects.lookup ref = some c → ∃ d, p.objects.lookup ref = some d ∧
    d.tunnelId = c.tunnelId ∧ (c.state = .established → d.state = .established)
  keys : ∀ id ref, q.connections.lookup id = some ref → p.connections.lookup id = some ref

/-- `q` has the new object `c` besides those of `p`, and its keys are keys of `p` or keys of
the new object. -/
structure Adds (p q : TcpProxy) (c : Connection) : Prop where
  created : q.created = p.created + 1
  objects : ∀ ref, q.objects.lookup ref = if ref = p.created then some c else p.objects.lookup ref
  keys : ∀ id ref, q.connections.lookup id = some ref →
    ref = p.created ∨ p.connections.lookup id = some ref

/-! ## Operations on connections that exist -/

section
variable {p q r : TcpProxy}

theorem Narrows.refl (p : TcpProxy) : Narrows p p where
  created := rfl
  objects := fun _ c hc => ⟨c, hc, rfl, id⟩
  keys := fun _ _ hkey => hkey

theorem Narrows.trans (h : Narrows p q) (h' : Narrows q r) : Narrows p r where
  created := h'.created.trans h.created
  objects := by
    intro ref c hc
    obtain ⟨d, hd, htunnel, hstate⟩ := h'.objects ref c hc
    obtain ⟨e, he, htunnel', hstate'⟩ := h.objects ref d hd
    exact ⟨e, he, htunnel'.trans htunnel, fun hc => hstate' (hstate hc)⟩
  keys := fun id ref hkey => h.keys id ref (h'.keys id ref hkey)

/-- What was sent does not matter. -/
theorem Narrows.send (h : Narrows p q) (sent : List AgentSend) : Narrows p { q with sent := sent } :=
  ⟨h.created, h.objects, h.keys⟩

/-- An established connection that is found was found before. -/
theorem Narrows.getConnection (h : Narrows p q) {id : Str} {ref : ℕ} {c : Connection}
    (hget : q.getConnection id = some (ref, c)) (hstate : c.state = .established) :
    ∃ d, p.getConnection id = some (ref, d) ∧ d.tunnelId = c.tunnelId ∧ d.state = .established := by
  obtain ⟨hkey, hobj⟩ := getConnection_eq_some_iff.mp hget
  obtain ⟨d, hd, htunnel, hestablished⟩ := h.objects ref c hobj
  exact ⟨d, getConnection_eq_some_iff.mpr ⟨h.keys id ref hkey, hd⟩, htunnel, hestablished hstate⟩

theorem narrows_update (p : TcpProxy) (ref : ℕ) {f : Connection → Connection}
    (hf : ∀ c, (f c).tunnelId = c.tunnelId ∧ ((f c).state = .established → c.state = .established)) :
    Narrows p (p.update ref f) where
  created := created_update p ref f
  objects := by
    intro r c hc
    rw [lookup_update] at hc
    split at hc
    · obtain ⟨d, hd, rfl⟩ := Option.map_eq_some_iff.mp hc
      exact ⟨d, hd, (hf d).1.symm, (hf d).2⟩
    · exact ⟨c, hc, rfl, id⟩
  keys := by
    intro id r hkey
    rwa [connections_update] at hkey

theorem narrows_erase (p : TcpProxy) (id : Str) :
    Narrows p { p with connections := p.connections.erase id } where
  created := rfl
  objects := (Narrows.refl p).objects
  keys := fun _ _ hkey => (Assoc.lookup_of_lookup_erase hkey).2

theorem narrows_closeConnection (p : TcpProxy) (id : Str) (graceful agent : Bool) :
    Narrows p (closeConnection p id graceful agent) := by
  refine closeConnection_rule (.refl p) ?_ ?_ ?_ graceful agent
  · exact fun ref => narrows_update p ref fun c => ⟨rfl, fun h => by cases h⟩
  · intro ref
    have hclosed : Narrows p (p.update ref fun c => { c with state := .closed }) :=
      narrows_update p ref fun c => ⟨rfl, fun h => by cases h⟩
    have herased := hclosed.trans (narrows_erase _ id)
    rwa [connections_update] at herased
  · exact fun q t hq => hq.send _

theorem narrows_sendData (p : TcpProxy) (id : Str) (data : Bytes) (agent : Option Bool) :
    Narrows p (sendData p id data agent).2 := by
  have hqueued : ∀ ref data, Narrows p (p.update ref (·.queue data)) :=
    fun ref data => narrows_update p ref fun c => ⟨rfl, fun h => h⟩
  refine sendData_rule (.refl p) ?_ ?_ data agent
  · exact fun ref c data _ => hqueued ref data
  · exact fun ref c data frame ok _ _ => (hqueued ref data).send _

/-- Bytes are accepted on an established connection only. -/
theorem established_of_sendData {id : Str} {ref : ℕ} {c : Connection} {data : Bytes}
    {agent : Option Bool} (hget : p.getConnection id = some (ref, c))
    (hsent : 0 < (sendData p id data agent).1) : c.state = .established := by
  by_contra hstate
  simp [sendData, hget, hstate] at hsent

theorem tunnelId_startWrite (c : Connection) : c.startWrite.tunnelId = c.tunnelId := by
  rw [Connection.startWrite]
  split <;> rfl

theorem state_startWrite (c : Connection) : c.startWrite.state = c.state := by
  rw [Connection.startWrite]
  split <;> rfl

theorem narrows_agentFrame (p : TcpProxy) (frame : Bytes) (agent : Bool) :
    Narrows p (handleAgentTcpFrame p frame agent) := by
  have hwrite : ∀ f : Connection → Connection,
      (∀ c, (f c).tunnelId = c.tunnelId ∧ (f c).state = c.state) → ∀ ref,
        Narrows p (p.update ref fun c => (f c).startWrite) := by
    intro f hf ref
    refine narrows_update p ref fun c => ?_
    rw [tunnelId_startWrite, state_startWrite, (hf c).1, (hf c).2]
    exact ⟨rfl, id⟩
  refine handleAgentTcpFrame_rule (.refl p) ?_ ?_ ?_
  · exact fun _ ref _ _ => hwrite (fun c => c) (fun c => ⟨rfl, rfl⟩) ref
  · exact fun _ ref _ data length _ => hwrite (·.accept data length) (fun c => ⟨rfl, rfl⟩) ref
  · exact fun id graceful => narrows_closeConnection p id graceful agent

/-- **Only creation adds** an object, a key or an established connection. -/
theorem narrows_step {allows : List Str → Str → Bool} {p : TcpProxy} {e : Event}
    (h : e.creates = false) : Narrows p (step allows p e) := by
  cases e with
  | create _ _ => cases h
  | createByPort _ _ _ _ => cases h
  | clientRead ref data agent =>
      refine clientRead_rule (.refl p) fun c _ _ => ?_
      have hread : Narrows p (p.update ref (·.finishRead data)) :=
        narrows_update p ref fun c => ⟨rfl, id⟩
      have hsend := hread.trans (narrows_sendData _ c.connectionId data agent)
      exact hsend.trans (narrows_update _ ref fun c => ⟨rfl, id⟩)
  | clientEnd ref eof agent =>
      refine clientEnd_rule (.refl p) fun c _ _ => ?_
      have hend : Narrows p (p.update ref fun c => { c with reading := false }) :=
        narrows_update p ref fun c => ⟨rfl, fun h => h⟩
      exact hend.trans (narrows_closeConnection _ c.connectionId eof agent)
  | writeDone ref i =>
      refine narrows_update p ref fun c => ?_
      split
      · exact ⟨rfl, id⟩
      · rw [Connection.finishWrite, tunnelId_startWrite, state_startWrite]
        exact ⟨rfl, id⟩
  | agentFrame frame agent => exact narrows_agentFrame p frame agent
  | updateWindow id n =>
      exact updateWindow_rule (.refl p) fun ref c _ _ => narrows_update p ref fun c => ⟨rfl, fun h => h⟩
  | close id graceful agent => exact narrows_closeConnection p id graceful agent

end

/-! ## Creation -/

section
variable {allows : List Str → Str → Bool} {env : CreateEnv} {ip : Str}
  {order : List (Str × Tunnel)} {port : ℕ}

theorem adds_insert (p : TcpProxy) (c : Connection) (id : Str) (sent : List AgentSend) :
    Adds p { p.addObject c with
      connections := p.connections.insert id p.created
      sent := sent } c where
  created := rfl
  objects := lookup_addObject p c
  keys := by
    intro id' ref hkey
    rw [Assoc.lookup_insert_ite] at hkey
    split at hkey
    · cases hkey
      exact .inl rfl
    · exact .inr hkey

/-- A client that gets through has a new object; without an agent it has no key. -/
theorem adds_createConnection (p : TcpProxy) (t : Str) (h : admitClient allows env = some ip) :
    ∃ c, Adds p (createConnection allows p env t) c ∧ c.tunnelId = t ∧
      (env.agent = none → (createConnection allows p env t).connections = p.connections) := by
  simp only [createConnection, h]
  cases hagent : env.agent with
  | some ok => exact ⟨_, adds_insert p _ _ _, rfl, by simp⟩
  | none => exact ⟨_, ⟨rfl, lookup_addObject p _, fun _ _ hkey => .inr hkey⟩, rfl, fun _ => rfl⟩

/-- One that comes by port has a key for it; without an agent it is established all the
same. -/
theorem adds_createConnectionByPort (p : TcpProxy) (digits : Vector (Fin 16) 8)
    (hne : matchTunnelByPort order port ≠ []) (h : admitClient allows env = some ip) :
    ∃ c, Adds p (createConnectionByPort allows p env order port digits) c ∧
      c.tunnelId = matchTunnelByPort order port ∧
      (env.agent = none → c.state = .established ∧
        (createConnectionByPort allows p env order port digits).connections.lookup
          (generateConnectionId digits) = some p.created) := by
  simp only [createConnectionByPort, h, List.isEmpty_iff, hne, if_false]
  cases hagent : env.agent with
  | some ok => exact ⟨_, adds_insert p _ _ _, rfl, by simp⟩
  | none =>
      refine ⟨_, adds_insert p _ _ p.sent, rfl, fun _ => ⟨rfl, ?_⟩⟩
      rw [Assoc.lookup_insert_ite, if_pos rfl]

end

/-- A `create_connection` makes a connection or does nothing. -/
theorem same_or_adds {ev : Event} (h : ev.creates = true) (allows : List Str → Str → Bool)
    (p : TcpProxy) : step allows p ev = p ∨ ∃ c, Adds p (step allows p ev) c := by
  cases ev with
  | create env t =>
      cases hip : admitClient allows env with
      | none => exact .inl (createConnection_of_none hip)
      | some ip =>
          obtain ⟨c, hadds, _⟩ := adds_createConnection p t hip
          exact .inr ⟨c, hadds⟩
  | createByPort env order port digits =>
      by_cases hstop : matchTunnelByPort order port = [] ∨ admitClient allows env = none
      · exact .inl (createConnectionByPort_of_none hstop)
      · rw [not_or] at hstop
        obtain ⟨ip, hip⟩ := Option.ne_none_iff_exists'.mp hstop.2
        obtain ⟨c, hadds, _⟩ := adds_createConnectionByPort p digits hstop.1 hip
        exact .inr ⟨c, hadds⟩
  | _ => cases h

/-- A step adds nothing, or one object. -/
theorem narrows_or_adds_step (allows : List Str → Str → Bool) (p : TcpProxy) (ev : Event) :
    Narrows p (step allows p ev) ∨ ∃ c, Adds p (step allows p ev) c := by
  by_cases hcreates : ev.creates = true
  · obtain hsame | hadds := same_or_adds hcreates allows p
    · rw [hsame]
      exact .inl (.refl p)
    · exact .inr hadds
  · exact .inl (narrows_step (Bool.eq_false_iff.mpr hcreates))

/-! ## Numbers -/

/-- Objects and keys have numbers that were given out. -/
structure Numbered (p : TcpProxy) : Prop where
  objects : ∀ ref c, p.objects.lookup ref = some c → ref < p.created
  keys : ∀ id ref, p.connections.lookup id = some ref → ref < p.created

theorem numbered_init : Numbered TcpProxy.init where
  objects := by simp [TcpProxy.init]
  keys := by simp [TcpProxy.init]

section
variable {p q : TcpProxy}

theorem Numbered.narrows (H : Numbered p) (h : Narrows p q) : Numbered q where
  objects := by
    intro ref c hc
    obtain ⟨d, hd, _, _⟩ := h.objects ref c hc
    rw [h.created]
    exact H.objects ref d hd
  keys := by
    intro id ref hkey
    rw [h.created]
    exact H.keys id ref (h.keys id ref hkey)

theorem Numbered.adds (H : Numbered p) {c : Connection} (h : Adds p q c) : Numbered q where
  objects := by
    intro ref d hd
    rw [h.objects] at hd
    rw [h.created]
    split at hd
    · omega
    · have hlt := H.objects ref d hd
      omega
  keys := by
    intro id ref hkey
    rw [h.created]
    rcases h.keys id ref hkey with rfl | hkey
    · omega
    · have hlt := H.keys id ref hkey
      omega

/-- Numbers stay in order when nothing is added, or one object. -/
theorem Numbered.next (H : Numbered p) (h : Narrows p q ∨ ∃ c, Adds p q c) : Numbered q := by
  obtain hnarrows | ⟨c, hadds⟩ := h
  · exact H.narrows hnarrows
  · exact H.adds hadds

theorem created_le_next (h : Narrows p q ∨ ∃ c, Adds p q c) : p.created ≤ q.created := by
  obtain hnarrows | ⟨c, hadds⟩ := h
  · exact Nat.le_of_eq hnarrows.created.symm
  · rw [hadds.created]
    exact Nat.le_succ _

theorem numbered_step (allows : List Str → Str → Bool) (p : TcpProxy) (e : Event)
    (H : Numbered p) : Numbered (step allows p e) :=
  H.next (narrows_or_adds_step allows p e)

end

end Protogate.Proxy
