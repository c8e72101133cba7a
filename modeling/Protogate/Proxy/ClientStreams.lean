import Protogate.Proxy.Upstream

/-!
# One client for each connection id

Generated ids are new, so a connection id belongs to one client connection for ever: frames
under an id are sent for that connection and to its tunnel, the TCP_OPEN frame once, and what
is handed over under the id is read from that client, in order, though perhaps not all of it.
Nothing is asked of the reads, the windows or the agents.

## Main definitions

* `AgentSend.uuid`, `AgentSend.tunnelId` — the id in a frame, and where it goes.
* `NewIds` — the condition on a run: generated ids are new.
* `ClientsInv`, `clientsInv_step` — what belongs to whom.
* `Evolves`, `evolves_step` — what a step without a frame from an agent leaves as it is.
* `agentFrame_data`, `evolves_agentFrame` — what a frame from an agent changes.
-/

namespace Protogate.Proxy

open Protogate.Lib Protogate.Models Protogate.Wire

/-! ## Frames -/

/-- The id in a TCP_OPEN or TCP_DATA frame. -/
def AgentSend.uuid : AgentSend → Option ConnectionId
  | .tcpOpen _ _ frame _ => some frame.connectionId
  | .tcpData _ _ frame _ => some frame.connectionId
  | .tcpClose _ _ => none

/-- The id that a TCP_OPEN frame opens. -/
def AgentSend.opens : AgentSend → Option ConnectionId
  | .tcpOpen _ _ frame _ => some frame.connectionId
  | _ => none

/-- The tunnel whose agent gets the frame. -/
def AgentSend.tunnelId : AgentSend → Str
  | .tcpOpen t _ _ _ | .tcpData t _ _ _ | .tcpClose t _ => t

/-- The text of the id that is given next to the frame. -/
def AgentSend.connectionId : AgentSend → Str
  | .tcpOpen _ id _ _ | .tcpData _ id _ _ | .tcpClose _ id => id

/-- The payload of a TCP_DATA frame. -/
def AgentSend.data : AgentSend → Bytes
  | .tcpData _ _ frame _ => frame.data
  | _ => []

/-- The buffers that sockets are read into. -/
def readBufferSize : ℕ := 8192

theorem connectionIdToString_inj {u v : ConnectionId}
    (h : connectionIdToString u = connectionIdToString v) : u = v := by
  apply Option.some.inj
  rw [← stringToConnectionId_connectionIdToString u, h, stringToConnectionId_connectionIdToString]

/-! ## What belongs to whom -/

/-- Generated ids are new, and a read fills its buffer at most. -/
def NewIds (p : TcpProxy) : Event → Prop
  | .create env _ => FreshId p (connectionIdToString env.uuid)
  | .createByPort env _ _ digits =>
      FreshId p (connectionIdToString env.uuid) ∧ FreshId p (generateConnectionId digits)
  | .clientRead _ data _ => data.length ≤ readBufferSize
  | _ => True

/-- No two objects have one id; what is found under the text of an id has this id; a frame goes
out under the id and to the tunnel of an object; none opens an id twice, or carries more than a
read; and what is handed over was read. -/
structure ClientsInv (p : TcpProxy) : Prop where
  ids : IdInv p
  known : ∀ id r, p.connections.lookup id = some r → r < p.created
  one : ∀ r r' c c', p.objects.lookup r = some c → p.objects.lookup r' = some c' →
    c.connectionId = c'.connectionId → c.connectionId ≠ [] → r = r'
  keyed : ∀ u r c, p.connections.lookup (connectionIdToString u) = some r →
    p.objects.lookup r = some c → c.connectionId = connectionIdToString u
  texts : ∀ r c u, p.objects.lookup r = some c → stringToConnectionId c.connectionId = some u →
    c.connectionId = connectionIdToString u
  senders : ∀ a ∈ p.sent, ∀ u, a.uuid = some u → a.connectionId = connectionIdToString u ∧
    ∃ r c, p.objects.lookup r = some c ∧ c.connectionId = connectionIdToString u ∧
      c.tunnelId = a.tunnelId
  opens : (p.sent.filterMap AgentSend.opens).Nodup
  small : ∀ a ∈ p.sent, a.data.length ≤ readBufferSize
  read : ∀ r c, p.objects.lookup r = some c → (handed p c.connectionId).Sublist c.read

theorem clientsInv_init : ClientsInv TcpProxy.init := by
  refine ⟨idInv_init, ?_, ?_, ?_, ?_, ?_, ?_, ?_, ?_⟩ <;> simp [TcpProxy.init]

section
variable {p : TcpProxy}

/-- A change that keeps the id and the tunnel, and forgets nothing that was read. -/
structure Keeps (f : Connection → Connection) : Prop where
  connectionId : ∀ c, (f c).connectionId = c.connectionId
  tunnelId : ∀ c, (f c).tunnelId = c.tunnelId
  read : ∀ c, c.read <+: (f c).read

theorem keeps_startWrite : Keeps Connection.startWrite := by
  refine ⟨connectionId_startWrite, ?_, ?_⟩ <;> intro c <;> simp only [Connection.startWrite] <;>
    split <;> simp

theorem Keeps.comp {f g : Connection → Connection} (hf : Keeps f) (hg : Keeps g) :
    Keeps fun c => g (f c) where
  connectionId := fun c => (hg.connectionId _).trans (hf.connectionId c)
  tunnelId := fun c => (hg.tunnelId _).trans (hf.tunnelId c)
  read := fun c => (hf.read c).trans (hg.read _)

theorem keeps_finishWrite (n : ℕ) : Keeps (·.finishWrite n) :=
  Keeps.comp (f := fun c => { c with
    recvBuffer := c.recvBuffer.drop n
    overErased := c.overErased || decide (c.recvBuffer.length < n) })
    ⟨fun _ => rfl, fun _ => rfl, fun _ => List.prefix_refl _⟩ keeps_startWrite

/-- The end of a write. -/
theorem keeps_writeDone (i : ℕ) : Keeps fun c => match c.writes[i]? with
    | none => c
    | some contents => Connection.finishWrite { c with writes := c.writes.eraseIdx i } contents.length := by
  have hdone : ∀ n, Keeps fun c => Connection.finishWrite { c with writes := c.writes.eraseIdx i } n :=
    fun n => Keeps.comp (f := fun c => { c with writes := c.writes.eraseIdx i })
      ⟨fun _ => rfl, fun _ => rfl, fun _ => List.prefix_refl _⟩ (keeps_finishWrite n)
  refine ⟨fun c => ?_, fun c => ?_, fun c => ?_⟩ <;> split
  · rfl
  · exact (hdone _).connectionId c
  · rfl
  · exact (hdone _).tunnelId c
  · exact List.prefix_refl _
  · exact (hdone _).read c

/-- An object after a change. -/
theorem lookup_update_eq_some {ref r : ℕ} {f : Connection → Connection} {c : Connection}
    (h : (p.update ref f).objects.lookup r = some c) :
    ∃ d, p.objects.lookup r = some d ∧ c = if r = ref then f d else d := by
  rw [lookup_update] at h
  split at h
  · rename_i href
    obtain ⟨d, hd, rfl⟩ := Option.map_eq_some_iff.mp h
    exact ⟨d, hd, (if_pos href).symm⟩
  · rename_i href
    exact ⟨c, h, (if_neg href).symm⟩

theorem ClientsInv.update (H : ClientsInv p) {f : Connection → Connection} (hf : Keeps f) (ref : ℕ) :
    ClientsInv (p.update ref f) := by
  have hback : ∀ r c, (p.update ref f).objects.lookup r = some c → ∃ d, p.objects.lookup r = some d ∧
      c.connectionId = d.connectionId ∧ d.read <+: c.read := by
    intro r c hc
    obtain ⟨d, hd, rfl⟩ := lookup_update_eq_some hc
    refine ⟨d, hd, ?_⟩
    split
    · exact ⟨hf.connectionId d, hf.read d⟩
    · exact ⟨rfl, List.prefix_refl _⟩
  refine ⟨H.ids.update hf.connectionId ref, ?_, ?_, ?_, ?_, ?_, ?_, ?_, ?_⟩
  · rw [connections_update, created_update]
    exact H.known
  · intro r r' c c' hc hc' hid hne
    obtain ⟨d, hd, hcd, _⟩ := hback r c hc
    obtain ⟨d', hd', hcd', _⟩ := hback r' c' hc'
    exact H.one r r' d d' hd hd' (by rw [← hcd, hid, hcd']) (by rwa [← hcd])
  · intro u r c hkey hc
    obtain ⟨d, hd, hcd, _⟩ := hback r c hc
    rw [connections_update] at hkey
    rw [hcd, H.keyed u r d hkey hd]
  · intro r c u hc hparse
    obtain ⟨d, hd, hcd, _⟩ := hback r c hc
    rw [hcd] at hparse ⊢
    exact H.texts r d u hd hparse
  · intro a ha u hu
    rw [sent_update] at ha
    obtain ⟨htext, r, c, hc, hid, htunnel⟩ := H.senders a ha u hu
    refine ⟨htext, r, if r = ref then f c else c, ?_, ?_, ?_⟩
    · rw [lookup_update, hc]
      split <;> rfl
    · split
      · rw [hf.connectionId, hid]
      · exact hid
    · split
      · rw [hf.tunnelId, htunnel]
      · exact htunnel
  · rw [sent_update]
    exact H.opens
  · rw [sent_update]
    exact H.small
  · intro r c hc
    obtain ⟨d, hd, hcd, hread⟩ := hback r c hc
    rw [handed_update, hcd]
    exact (H.read r d hd).trans hread.sublist

theorem ClientsInv.erase (H : ClientsInv p) (id : Str) :
    ClientsInv { p with connections := p.connections.erase id } where
  ids := H.ids.erase id
  known := fun id' r hkey => H.known id' r (Assoc.lookup_of_lookup_erase hkey).2
  one := H.one
  keyed := fun u r c hkey => H.keyed u r c (Assoc.lookup_of_lookup_erase hkey).2
  texts := H.texts
  senders := H.senders
  opens := H.opens
  small := H.small
  read := H.read

theorem ClientsInv.sendClose (H : ClientsInv p) (t id : Str) :
    ClientsInv { p with sent := p.sent ++ [.tcpClose t id] } where
  ids := H.ids.send _ (by simp)
  known := H.known
  one := H.one
  keyed := H.keyed
  texts := H.texts
  senders := by
    intro a ha u hu
    obtain ha | ha := List.mem_append.mp ha
    · exact H.senders a ha u hu
    · rw [List.mem_singleton.mp ha] at hu
      cases hu
  opens := by
    have hnone : [AgentSend.tcpClose t id].filterMap AgentSend.opens = [] := rfl
    rw [List.filterMap_append, hnone, List.append_nil]
    exact H.opens
  small := by
    intro a ha
    obtain ha | ha := List.mem_append.mp ha
    · exact H.small a ha
    · simp [List.mem_singleton.mp ha, AgentSend.data]
  read := by
    intro r c hc
    rw [handed_append]
    simpa [AgentSend.payload] using H.read r c hc

/-! ## New connections -/

/-- A new object: it has an id that is new, or none. -/
theorem ClientsInv.addObject (H : ClientsInv p) {c : Connection} {keys : Assoc Str ℕ}
    (hids : IdInv { p.addObject c with connections := keys })
    (hnew : FreshId p c.connectionId ∨ c.connectionId = [])
    (hkeys : ∀ id r, keys.lookup id = some r → p.connections.lookup id = some r ∨
      r = p.created ∧ ∀ u, id = connectionIdToString u → c.connectionId = id)
    (htext : ∀ u, stringToConnectionId c.connectionId = some u →
      c.connectionId = connectionIdToString u)
    (hread : c.read = []) : ClientsInv { p.addObject c with connections := keys } := by
  have hcases : ∀ r d, (p.addObject c).objects.lookup r = some d →
      (r = p.created ∧ d = c) ∨ (r ≠ p.created ∧ p.objects.lookup r = some d) := by
    intro r d hd
    rw [lookup_addObject] at hd
    split at hd
    · exact .inl ⟨‹_›, (Option.some.inj hd).symm⟩
    · exact .inr ⟨‹_›, hd⟩
  -- no other object has the id
  have hother : ∀ r d, p.objects.lookup r = some d → d.connectionId = c.connectionId →
      d.connectionId = [] := by
    intro r d hd hid
    obtain hfresh | hnil := hnew
    · exact absurd hid (hfresh.1 r d hd)
    · rw [hid, hnil]
  refine ⟨hids, ?_, ?_, ?_, ?_, ?_, H.opens, H.small, ?_⟩
  · intro id r hkey
    show r < p.created + 1
    obtain hold | ⟨rfl, _⟩ := hkeys id r hkey
    · have hlt := H.known id r hold
      omega
    · omega
  · intro r r' d d' hd hd' hid hne
    obtain ⟨hr, rfl⟩ | ⟨_, hold⟩ := hcases r d hd
    · obtain ⟨hr', _⟩ | ⟨_, hold'⟩ := hcases r' d' hd'
      · rw [hr, hr']
      · exact absurd (hid ▸ hother r' d' hold' hid.symm) hne
    · obtain ⟨_, rfl⟩ | ⟨_, hold'⟩ := hcases r' d' hd'
      · exact absurd (hother r d hold hid) hne
      · exact H.one r r' d d' hold hold' hid hne
  · intro u r d hkey hd
    obtain hold | ⟨rfl, hid⟩ := hkeys _ r hkey
    · have hlt := H.known _ r hold
      obtain ⟨hr, _⟩ | ⟨_, hd⟩ := hcases r d hd
      · omega
      · exact H.keyed u r d hold hd
    · obtain ⟨_, rfl⟩ | ⟨hne, _⟩ := hcases p.created d hd
      · exact hid u rfl
      · exact absurd rfl hne
  · intro r d u hd hparse
    obtain ⟨_, rfl⟩ | ⟨_, hold⟩ := hcases r d hd
    · exact htext u hparse
    · exact H.texts r d u hold hparse
  · intro a ha u hu
    obtain ⟨htext, r, d, hd, hid, htunnel⟩ := H.senders a ha u hu
    exact ⟨htext, r, d, H.ids.lookup_addObject_of_some c hd, hid, htunnel⟩
  · intro r d hd
    have hhanded : ∀ id, handed { p.addObject c with connections := keys } id = handed p id := fun _ => rfl
    rw [hhanded]
    obtain ⟨_, rfl⟩ | ⟨_, hold⟩ := hcases r d hd
    · have hnone : handed p d.connectionId = [] := by
        obtain hfresh | hnil := hnew
        · exact hfresh.handed_eq_nil H.ids
        · rw [hnil]
          exact H.ids.handed_unparsable (by decide)
      rw [hnone]
      exact List.nil_sublist _
    · exact H.read r d hold

/-- The TCP_OPEN frame for an object, the first for its id. -/
theorem ClientsInv.sendOpen (H : ClientsInv p) {t : Str} {u : ConnectionId} {port : UInt16} (ok : Bool)
    {r : ℕ} {c : Connection} (hc : p.objects.lookup r = some c)
    (hid : c.connectionId = connectionIdToString u) (htunnel : c.tunnelId = t)
    (hfirst : u ∉ p.sent.filterMap AgentSend.opens) :
    ClientsInv { p with sent := p.sent ++ [.tcpOpen t (connectionIdToString u) ⟨u, port⟩ ok] } where
  ids := H.ids.send _ (by simp)
  known := H.known
  one := H.one
  keyed := H.keyed
  texts := H.texts
  senders := by
    intro a ha v hv
    obtain ha | ha := List.mem_append.mp ha
    · exact H.senders a ha v hv
    · rw [List.mem_singleton.mp ha] at hv ⊢
      cases hv
      exact ⟨rfl, r, c, hc, hid, htunnel⟩
  opens := by
    have hnew : [AgentSend.tcpOpen t (connectionIdToString u) ⟨u, port⟩ ok].filterMap AgentSend.opens =
        [u] := rfl
    rw [List.filterMap_append, hnew]
    exact H.opens.append (List.nodup_singleton u) (by simpa using hfirst)
  small := by
    intro a ha
    obtain ha | ha := List.mem_append.mp ha
    · exact H.small a ha
    · simp [List.mem_singleton.mp ha, AgentSend.data]
  read := by
    intro r c hc
    rw [handed_append]
    simpa [AgentSend.payload] using H.read r c hc

/-- An id of which there is no object has not been opened. -/
theorem ClientsInv.not_opened (H : ClientsInv p) {u : ConnectionId}
    (hfresh : FreshId p (connectionIdToString u)) : u ∉ p.sent.filterMap AgentSend.opens := by
  intro hmem
  obtain ⟨a, ha, hopens⟩ := List.mem_filterMap.mp hmem
  have huuid : a.uuid = some u := by
    cases a with
    | tcpOpen t id frame ok => exact hopens
    | _ => cases hopens
  obtain ⟨_, r, c, hc, hid, _⟩ := H.senders a ha u huuid
  exact hfresh.1 r c hc hid

theorem clients_create (H : ClientsInv p) (allows : List Str → Str → Bool) (env : CreateEnv)
    (tunnelId : Str) (hfresh : FreshId p (connectionIdToString env.uuid)) :
    ClientsInv (createConnection allows p env tunnelId) := by
  refine createConnection_rule H (fun ip ok => ?_) (fun ip => ?_) allows
  · have hids := H.ids.addKeyed
      (c := newConnection (connectionIdToString env.uuid) tunnelId ip 0 (openState ok))
      hfresh hfresh (connectionIdToString_ne_nil env.uuid)
    refine (H.addObject hids (.inl hfresh) ?_ ?_ rfl).sendOpen ok (r := p.created)
      (c := newConnection (connectionIdToString env.uuid) tunnelId ip 0 (openState ok)) ?_ rfl rfl
      (H.not_opened hfresh)
    · intro id r hkey
      rw [Assoc.lookup_insert_ite] at hkey
      split at hkey
      · rename_i hid
        exact .inr ⟨(Option.some.inj hkey).symm, fun _ _ => hid.symm⟩
      · exact .inl hkey
    · intro u hparse
      rw [← Option.some.inj ((stringToConnectionId_connectionIdToString env.uuid).symm.trans hparse)]
      rfl
    · show (p.addObject _).objects.lookup p.created = _
      rw [lookup_addObject, if_pos rfl]
  · have hids := H.ids.addObject (c := newConnection [] tunnelId ip 0 .established) rfl
    exact H.addObject hids (.inr rfl) (fun id r hkey => .inl hkey)
      (fun u hparse => absurd hparse (by simp [newConnection, stringToConnectionId])) rfl

theorem clients_createByPort (H : ClientsInv p) (allows : List Str → Str → Bool) (env : CreateEnv)
    (order : List (Str × Tunnel)) (port : ℕ) (digits : Vector (Fin 16) 8)
    (hfresh : FreshId p (connectionIdToString env.uuid))
    (htemp : FreshId p (generateConnectionId digits)) :
    ClientsInv (createConnectionByPort allows p env order port digits) := by
  have hne : generateConnectionId digits ≠ [] := List.append_ne_nil_of_left_ne_nil (by decide) _
  -- the temporary id is a key that is not the text of an id
  have hkeys : ∀ (c : Connection) (id : Str) (r : ℕ),
      (p.connections.insert (generateConnectionId digits) p.created).lookup id = some r →
        p.connections.lookup id = some r ∨
          r = p.created ∧ ∀ u, id = connectionIdToString u → c.connectionId = id := by
    intro c id r hkey
    rw [Assoc.lookup_insert_ite] at hkey
    split at hkey
    · rename_i hid
      refine .inr ⟨(Option.some.inj hkey).symm, fun u hu => ?_⟩
      exact absurd (hid.symm.trans hu) (generateConnectionId_ne digits u)
    · exact .inl hkey
  refine createConnectionByPort_rule H (fun ip ok => ?_) (fun ip => ?_) allows
  · have hids := H.ids.addKeyed (c := newConnection (connectionIdToString env.uuid)
      (matchTunnelByPort order port) ip port (openState ok)) hfresh htemp hne
    refine (H.addObject hids (.inl hfresh) (hkeys _) ?_ rfl).sendOpen ok (r := p.created)
      (c := newConnection (connectionIdToString env.uuid) (matchTunnelByPort order port) ip port
        (openState ok)) ?_ rfl rfl (H.not_opened hfresh)
    · intro u hparse
      rw [← Option.some.inj ((stringToConnectionId_connectionIdToString env.uuid).symm.trans hparse)]
      rfl
    · show (p.addObject _).objects.lookup p.created = _
      rw [lookup_addObject, if_pos rfl]
  · have hids := H.ids.addKeyed (c := newConnection (generateConnectionId digits)
      (matchTunnelByPort order port) ip port .established) htemp htemp hne
    refine H.addObject hids (.inl htemp) (hkeys _) (fun u hparse => ?_) rfl
    have hnone := stringToConnectionId_generateConnectionId digits
    exact absurd (hnone.symm.trans hparse) (by simp)

theorem clients_closeConnection (H : ClientsInv p) (id : Str) (graceful agent : Bool) :
    ClientsInv (closeConnection p id graceful agent) := by
  refine closeConnection_rule (P := ClientsInv) H ?_ ?_ ?_ graceful agent
  · intro ref
    apply H.update
    exact ⟨fun _ => rfl, fun _ => rfl, fun _ => List.prefix_refl _⟩
  · intro ref
    have hclosed : ClientsInv (p.update ref fun c => { c with state := .closed }) := by
      apply H.update
      exact ⟨fun _ => rfl, fun _ => rfl, fun _ => List.prefix_refl _⟩
    have herased := hclosed.erase id
    rwa [connections_update] at herased
  · exact fun q t hq => hq.sendClose t id

theorem clients_agentFrame (H : ClientsInv p) (frame : Bytes) (agent : Bool) :
    ClientsInv (handleAgentTcpFrame p frame agent) := by
  refine handleAgentTcpFrame_rule H ?_ ?_ ?_
  · exact fun _ ref _ _ => H.update keeps_startWrite ref
  · intro _ ref _ data length _
    have haccept : Keeps fun c => c.accept data length :=
      ⟨fun _ => rfl, fun _ => rfl, fun _ => List.prefix_refl _⟩
    exact H.update (haccept.comp keeps_startWrite) ref
  · exact fun id graceful => clients_closeConnection H id graceful agent

/-! ## Reads -/

/-- A data frame under the id of an object, with data that were read. -/
theorem ClientsInv.sendFrame (H : ClientsInv p) {r : ℕ} {c : Connection}
    (hc : p.objects.lookup r = some c) {u : ConnectionId}
    (hparse : stringToConnectionId c.connectionId = some u) {d : Bytes} (n : UInt32) (ok : Bool)
    (hsmall : d.length ≤ readBufferSize) (hread : (handed p c.connectionId ++ d).Sublist c.read) :
    ClientsInv { p with sent := p.sent ++ [.tcpData c.tunnelId c.connectionId ⟨u, n, d⟩ ok] } where
  ids := by
    refine H.ids.send _ fun t id frame ok' heq => ?_
    injection heq with _ hid _ _
    rw [← hid]
    exact ⟨Option.isSome_of_eq_some hparse, r, c, hc, rfl⟩
  known := H.known
  one := H.one
  keyed := H.keyed
  texts := H.texts
  senders := by
    intro a ha v hv
    obtain ha | ha := List.mem_append.mp ha
    · exact H.senders a ha v hv
    · rw [List.mem_singleton.mp ha] at hv ⊢
      cases hv
      exact ⟨H.texts r c u hc hparse, r, c, hc, H.texts r c u hc hparse, rfl⟩
  opens := by
    have hnone : [AgentSend.tcpData c.tunnelId c.connectionId ⟨u, n, d⟩ ok].filterMap AgentSend.opens =
        [] := rfl
    rw [List.filterMap_append, hnone, List.append_nil]
    exact H.opens
  small := by
    intro a ha
    obtain ha | ha := List.mem_append.mp ha
    · exact H.small a ha
    · rw [List.mem_singleton.mp ha]
      exact hsmall
  read := by
    intro r' c' hc'
    rw [handed_append, List.flatMap_singleton]
    simp only [AgentSend.payload]
    split
    · rename_i hmine
      have hne : c.connectionId ≠ [] := by
        intro hnil
        rw [hnil] at hparse
        exact absurd hparse (by simp [stringToConnectionId])
      obtain rfl := H.one r r' c c' hc hc' hmine.1 hne
      obtain rfl := Option.some.inj (hc.symm.trans hc')
      exact hread
    · rw [List.append_nil]
      exact H.read r' c' hc'

theorem clients_clientRead (H : ClientsInv p) (ref : ℕ) {data : Bytes}
    (hdata : data.length ≤ readBufferSize) (agent : Option Bool) :
    ClientsInv (clientRead p ref data agent) := by
  refine clientRead_rule H fun c hc _ => ?_
  have hfinish : Keeps (·.finishRead data) :=
    ⟨fun _ => rfl, fun _ => rfl, fun _ => List.prefix_append _ _⟩
  have hqueue : ∀ d, Keeps (·.queue d) := fun _ => ⟨fun _ => rfl, fun _ => rfl, fun _ => List.prefix_refl _⟩
  have hstart : Keeps Connection.startRead := ⟨fun _ => rfl, fun _ => rfl, fun _ => List.prefix_refl _⟩
  have hq := H.update hfinish ref
  have hcq := lookup_update_self hc (·.finishRead data)
  refine ClientsInv.update ?_ hstart ref
  obtain ⟨heq, _⟩ | ⟨ref', c', n, hget, _, _, _, hsent⟩ :=
    sendData_cases (p.update ref (·.finishRead data)) c.connectionId data agent
  · rw [heq]
    exact hq
  · obtain ⟨rfl, rfl⟩ := hq.ids.found hget hcq rfl
    have hqueued := hq.update (hqueue (data.take n)) ref
    obtain ⟨_, heq⟩ | ⟨_, _, heq⟩ | ⟨ok, u, _, hparse, heq⟩ := hsent
    · rw [heq]
      exact hqueued
    · rw [heq]
      exact hqueued
    · rw [heq, ← sent_update _ ref (·.queue (data.take n))]
      have hsmall : (data.take n).length ≤ readBufferSize := (List.length_take_le' n data).trans hdata
      refine hqueued.sendFrame (lookup_update_self hcq _) hparse _ ok hsmall ?_
      -- what was handed over before was read before this read
      rw [handed_update, handed_update]
      exact (H.read ref c hc).append (List.take_sublist n data)

theorem clientsInv_step (allows : List Str → Str → Bool) (p : TcpProxy) (e : Event)
    (H : ClientsInv p) (he : NewIds p e) : ClientsInv (step allows p e) := by
  cases e with
  | create env tunnelId => exact clients_create H allows env tunnelId he
  | createByPort env order port digits => exact clients_createByPort H allows env order port digits he.1 he.2
  | clientRead ref data agent => exact clients_clientRead H ref he agent
  | clientEnd ref eof agent =>
      refine clientEnd_rule H fun c _ _ => ?_
      have hended : ClientsInv (p.update ref fun c => { c with reading := false }) := by
        apply H.update
        exact ⟨fun _ => rfl, fun _ => rfl, fun _ => List.prefix_refl _⟩
      exact clients_closeConnection hended c.connectionId eof agent
  | writeDone ref i =>
      exact H.update (keeps_writeDone i) ref
  | agentFrame frame agent => exact clients_agentFrame H frame agent
  | updateWindow id n =>
      refine updateWindow_rule H fun ref c _ _ => ?_
      apply H.update
      exact ⟨fun _ => rfl, fun _ => rfl, fun _ => List.prefix_refl _⟩
  | close id graceful agent => exact clients_closeConnection H id graceful agent

/-! ## What a step leaves as it is -/

/-- The objects are those of before, accepted bytes included, or new ones; and more frames may
have been sent. -/
structure Evolves (p q : TcpProxy) : Prop where
  back : ∀ r c, q.objects.lookup r = some c → c.accepted = [] ∨ ∃ d, p.objects.lookup r = some d ∧
    c.connectionId = d.connectionId ∧ c.tunnelId = d.tunnelId ∧ c.accepted = d.accepted
  sent : p.sent <+: q.sent

theorem Evolves.refl (p : TcpProxy) : Evolves p p :=
  ⟨fun _ c hc => .inr ⟨c, hc, rfl, rfl, rfl⟩, List.prefix_refl _⟩

/-- A change that accepts nothing. -/
structure Accepts (f : Connection → Connection) (data : Bytes) : Prop where
  connectionId : ∀ c, (f c).connectionId = c.connectionId
  tunnelId : ∀ c, (f c).tunnelId = c.tunnelId
  accepted : ∀ c, (f c).accepted = c.accepted ++ data

theorem Evolves.update {q : TcpProxy} (H : Evolves p q) {f : Connection → Connection}
    (hf : Accepts f []) (ref : ℕ) : Evolves p (q.update ref f) := by
  refine ⟨fun r c hc => ?_, ?_⟩
  · obtain ⟨d, hd, rfl⟩ := lookup_update_eq_some hc
    split
    · rw [hf.connectionId, hf.tunnelId, hf.accepted, List.append_nil]
      exact H.back r d hd
    · exact H.back r d hd
  · rw [sent_update]
    exact H.sent

theorem Evolves.send {q : TcpProxy} (H : Evolves p q) (a : AgentSend) :
    Evolves p { q with sent := q.sent ++ [a] } :=
  ⟨H.back, H.sent.trans (List.prefix_append _ _)⟩

theorem Evolves.erase {q : TcpProxy} (H : Evolves p q) (id : Str) :
    Evolves p { q with connections := q.connections.erase id } := ⟨H.back, H.sent⟩

theorem Evolves.addObject {c : Connection} (hc : c.accepted = []) (keys : Assoc Str ℕ)
    {sent : List AgentSend} (hsent : p.sent <+: sent) :
    Evolves p { p.addObject c with connections := keys, sent := sent } := by
  refine ⟨fun r d hd => ?_, hsent⟩
  replace hd : (p.addObject c).objects.lookup r = some d := hd
  rw [lookup_addObject] at hd
  split at hd
  · rw [← Option.some.inj hd]
    exact .inl hc
  · exact .inr ⟨d, hd, rfl, rfl, rfl⟩

theorem accepts_startWrite : Accepts Connection.startWrite [] := by
  refine ⟨connectionId_startWrite, ?_, ?_⟩ <;> intro c <;> simp only [Connection.startWrite] <;>
    split <;> simp

/-- Closing accepts nothing. -/
theorem Evolves.closeConnection {q : TcpProxy} (H : Evolves p q) (id : Str) (graceful agent : Bool) :
    Evolves p (closeConnection q id graceful agent) := by
  have hstate : ∀ state, Accepts (fun c => { c with state }) [] :=
    fun _ => ⟨fun _ => rfl, fun _ => rfl, fun _ => (List.append_nil _).symm⟩
  refine closeConnection_rule (P := Evolves p) H (fun ref => H.update (hstate _) ref) (fun ref => ?_)
    (fun q' t hq => hq.send _) graceful agent
  have hclosed := (H.update (hstate .closed) ref).erase id
  rwa [connections_update] at hclosed

/-- Only frames from agents carry bytes to accept. -/
theorem evolves_step (allows : List Str → Str → Bool) (p : TcpProxy) (e : Event)
    (he : ∀ frame agent, e ≠ .agentFrame frame agent) : Evolves p (step allows p e) := by
  cases e with
  | agentFrame frame agent => exact absurd rfl (he frame agent)
  | create env tunnelId =>
      refine createConnection_rule (.refl p) (fun ip ok => ?_) (fun ip => ?_) allows
      · exact Evolves.addObject
          (c := newConnection (connectionIdToString env.uuid) tunnelId ip 0 (openState ok)) rfl _
          (List.prefix_append _ _)
      · exact Evolves.addObject (c := newConnection [] tunnelId ip 0 .established) rfl p.connections
          (List.prefix_refl _)
  | createByPort env order port digits =>
      refine createConnectionByPort_rule (.refl p) (fun ip ok => ?_) (fun ip => ?_) allows
      · exact Evolves.addObject (c := newConnection (connectionIdToString env.uuid)
          (matchTunnelByPort order port) ip port (openState ok)) rfl _ (List.prefix_append _ _)
      · exact Evolves.addObject (c := newConnection (generateConnectionId digits)
          (matchTunnelByPort order port) ip port .established) rfl _ (List.prefix_refl _)
  | clientRead ref data agent =>
      refine clientRead_rule (.refl p) fun c hc _ => ?_
      have hfinished : Evolves p (p.update ref (·.finishRead data)) := by
        apply (Evolves.refl p).update
        exact ⟨fun _ => rfl, fun _ => rfl, fun _ => (List.append_nil _).symm⟩
      have hqueue : ∀ ref' d, Evolves p ((p.update ref (·.finishRead data)).update ref' (·.queue d)) := by
        intro ref' d
        apply hfinished.update
        exact ⟨fun _ => rfl, fun _ => rfl, fun _ => (List.append_nil _).symm⟩
      refine Evolves.update (f := Connection.startRead) ?_
        ⟨fun _ => rfl, fun _ => rfl, fun _ => (List.append_nil _).symm⟩ ref
      exact sendData_rule (P := Evolves p) hfinished (fun ref' _ d _ => hqueue ref' d)
        (fun ref' _ d frame ok _ _ => (hqueue ref' d).send _) data agent
  | clientEnd ref eof agent =>
      refine clientEnd_rule (.refl p) fun c _ _ => Evolves.closeConnection ?_ c.connectionId eof agent
      apply (Evolves.refl p).update
      exact ⟨fun _ => rfl, fun _ => rfl, fun _ => (List.append_nil _).symm⟩
  | writeDone ref i =>
      apply (Evolves.refl p).update
      refine ⟨fun c => ?_, fun c => ?_, fun c => ?_⟩ <;> split
      · rfl
      · exact accepts_startWrite.connectionId _
      · rfl
      · exact accepts_startWrite.tunnelId _
      · exact (List.append_nil _).symm
      · exact accepts_startWrite.accepted _
  | updateWindow id n =>
      refine updateWindow_rule (.refl p) fun ref c _ _ => ?_
      apply (Evolves.refl p).update
      exact ⟨fun _ => rfl, fun _ => rfl, fun _ => (List.append_nil _).symm⟩
  | close id graceful agent => exact (Evolves.refl p).closeConnection id graceful agent

/-- A data frame from an agent is accepted by the object with its id, or by none. -/
theorem agentFrame_data (H : ClientsInv p) {frame : Bytes} (agent : Bool) {u : ConnectionId}
    {data : Bytes} {length : ℕ}
    (hframe : decodeAgentFrame frame = some (.data (connectionIdToString u) data length)) {r : ℕ}
    {c : Connection} (hc : (handleAgentTcpFrame p frame agent).objects.lookup r = some c) :
    ∃ d, p.objects.lookup r = some d ∧ c.connectionId = d.connectionId ∧ c.tunnelId = d.tunnelId ∧
      (c.accepted = d.accepted ∨
        d.connectionId = connectionIdToString u ∧ c.accepted = d.accepted ++ data) := by
  cases hget : p.getConnection (connectionIdToString u) with
  | none =>
      rw [handle_data_none hframe hget] at hc
      exact ⟨c, hc, rfl, rfl, .inl rfl⟩
  | some found =>
      obtain ⟨ref, d⟩ := found
      obtain ⟨hkey, hd⟩ := getConnection_eq_some_iff.mp hget
      rw [handle_data_some hframe hget] at hc
      split at hc
      · obtain ⟨d', hd', rfl⟩ := lookup_update_eq_some hc
        refine ⟨d', hd', ?_⟩
        split
        · exact ⟨accepts_startWrite.connectionId d', accepts_startWrite.tunnelId d',
            .inl (by simpa using accepts_startWrite.accepted d')⟩
        · exact ⟨rfl, rfl, .inl rfl⟩
      · obtain ⟨d', hd', rfl⟩ := lookup_update_eq_some hc
        refine ⟨d', hd', ?_⟩
        split
        · rename_i href
          subst href
          have hid : d'.connectionId = connectionIdToString u := H.keyed u r d' hkey hd'
          exact ⟨accepts_startWrite.connectionId (d'.accept data length),
            accepts_startWrite.tunnelId (d'.accept data length),
            .inr ⟨hid, (accepts_startWrite.accepted (d'.accept data length)).trans (List.append_nil _)⟩⟩
        · exact ⟨rfl, rfl, .inl rfl⟩

/-- Other frames accept nothing. -/
theorem evolves_agentFrame (p : TcpProxy) {frame : Bytes} (agent : Bool)
    (hframe : ∀ id data length, decodeAgentFrame frame ≠ some (.data id data length)) :
    Evolves p (handleAgentTcpFrame p frame agent) := by
  obtain hsame | ⟨id, data, length, _, _, hdata, _, _⟩ | ⟨id, graceful, heq⟩ :=
    handleAgentTcpFrame_cases p frame agent
  · rw [hsame]
    exact .refl p
  · exact absurd hdata (hframe id data length)
  · rw [heq]
    exact (Evolves.refl p).closeConnection id graceful agent

/-- A frame from an agent only sends TCP_CLOSE frames. -/
theorem sent_agentFrame (frame : Bytes) (agent : Bool) :
    ∃ extra, (handleAgentTcpFrame p frame agent).sent = p.sent ++ extra ∧
      ∀ a ∈ extra, a.uuid = none := by
  obtain hsame | ⟨id, data, length, ref, c, _, hget, heq⟩ | ⟨id, graceful, heq⟩ :=
    handleAgentTcpFrame_cases p frame agent
  · exact ⟨[], by rw [hsame, List.append_nil], by simp⟩
  · refine ⟨[], ?_, by simp⟩
    rw [heq, List.append_nil]
    split <;> exact sent_update _ _ _
  · rw [heq]
    obtain ⟨_, heq⟩ | ⟨ref, c, extra, _, hextra, ⟨_, _, heq⟩ | ⟨_, heq⟩⟩ :=
      closeConnection_cases p id graceful agent
    · exact ⟨[], by rw [heq, List.append_nil], by simp⟩
    · refine ⟨extra, by rw [heq], fun a ha => ?_⟩
      rw [hextra a ha]
      rfl
    · refine ⟨extra, by rw [heq], fun a ha => ?_⟩
      rw [hextra a ha]
      rfl

end

end Protogate.Proxy
