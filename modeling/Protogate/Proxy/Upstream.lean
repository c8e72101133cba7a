import Protogate.Proxy.TcpProxy

/-!
# From the client to the agent

Every read of the client's socket goes to `send_data`, which accepts as much as the
64 KB window has room for and sends it in one TCP_DATA frame.  The rest of the read
is dropped, as is the whole read if the connection is not found under its id; and
the window is refilled by nobody but a caller of `update_window`.

## Main definitions

* `handed` — the payloads handed to the agent under a connection id.
* `UpstreamIntact` — what was read is what was handed over and what is held.
* `Forwardable` — the condition on the reads of one connection.
* `upstream_intact` — the stream is intact in runs that meet it.
-/

namespace Protogate.Proxy

open Protogate.Lib Protogate.Models Protogate.Wire

/-- The payload of a frame successfully sent under `id`. -/
def AgentSend.payload (id : Str) : AgentSend → Bytes
  | .tcpData _ id' frame ok => if id' = id ∧ ok = true then frame.data else []
  | _ => []

/-- The payloads of the TCP_DATA frames handed to the agent under `id`, in order. -/
def handed (p : TcpProxy) (id : Str) : Bytes := p.sent.flatMap (AgentSend.payload id)

/-- The accepted bytes that have not been handed over: the last of the send buffer. -/
def Connection.held (c : Connection) (handedLength : ℕ) : Bytes :=
  c.sendBuffer.drop (c.sendBuffer.length - (c.bytesSent - handedLength))

/-- If the connection `r` is established, the bytes read from its client are those
handed to the agent followed by those the proxy holds. -/
def UpstreamIntact (r : ℕ) (p : TcpProxy) : Prop :=
  ∀ c, p.objects.lookup r = some c → c.state = .established →
    c.read = handed p c.connectionId ++ c.held (handed p c.connectionId).length

/-- A generated id is new: no object has it and it is not a key. -/
def FreshId (p : TcpProxy) (id : Str) : Prop :=
  (∀ ref c, p.objects.lookup ref = some c → c.connectionId ≠ id) ∧
    p.connections.lookup id = none

/-- The data of a read of an established connection can all be forwarded: the
connection is found under its id, the id can be parsed, and the window has room. -/
def Accepting (p : TcpProxy) (r : ℕ) (c : Connection) (data : Bytes) : Prop :=
  p.connections.lookup c.connectionId = some r ∧ (stringToConnectionId c.connectionId).isSome ∧
    c.sendBuffer.length + data.length ≤ sendWindowSize

instance (p : TcpProxy) (r : ℕ) (c : Connection) (data : Bytes) : Decidable (Accepting p r c data) :=
  inferInstanceAs (Decidable (_ ∧ _ ∧ _))

/-- The condition on each step for connection `r`: generated ids are new, its agent
is registered and takes its frames, and each of its reads can be forwarded. -/
def Forwardable (r : ℕ) (p : TcpProxy) : Event → Prop
  | .create env _ => FreshId p (connectionIdToString env.uuid)
  | .createByPort env _ _ digits =>
      FreshId p (connectionIdToString env.uuid) ∧ FreshId p (generateConnectionId digits)
  | .clientRead ref data agent => ref = r → agent = some true ∧
      ∀ c ∈ p.objects.lookup r, c.state = .established → Accepting p r c data
  | _ => True

/-! ## Ids and objects -/

/-- How the ids, the objects and the frames belong together. -/
structure IdInv (p : TcpProxy) : Prop where
  /-- Numbers are given out in order. -/
  created : ∀ ref c, p.objects.lookup ref = some c → ref < p.created
  /-- What is found under an id is the only object that has it. -/
  unique : ∀ id ref, p.connections.lookup id = some ref →
    ∀ ref' c, p.objects.lookup ref' = some c → c.connectionId = id → ref' = ref
  /-- Data frames are sent under parsable ids of objects. -/
  owned : ∀ t id frame ok, .tcpData t id frame ok ∈ p.sent →
    (stringToConnectionId id).isSome ∧ ∃ ref c, p.objects.lookup ref = some c ∧ c.connectionId = id
  /-- No key is empty. -/
  named : p.connections.lookup [] = none

theorem idInv_init : IdInv TcpProxy.init where
  created := by simp [TcpProxy.init]
  unique := by simp [TcpProxy.init]
  owned := by simp [TcpProxy.init]
  named := rfl

theorem handed_append (p : TcpProxy) (extra : List AgentSend) (id : Str) :
    handed { p with sent := p.sent ++ extra } id =
      handed p id ++ extra.flatMap (AgentSend.payload id) := by
  simp only [handed, List.flatMap_append]

@[simp] theorem handed_update (p : TcpProxy) (ref : ℕ) (f : Connection → Connection) (id : Str) :
    handed (p.update ref f) id = handed p id := by
  simp only [handed, sent_update]

theorem handed_eq_nil {p : TcpProxy} {id : Str}
    (h : ∀ t frame ok, .tcpData t id frame ok ∉ p.sent) : handed p id = [] := by
  rw [handed, List.flatMap_eq_nil_iff]
  intro a ha
  cases a with
  | tcpOpen t id' frame ok => rfl
  | tcpClose t id' => rfl
  | tcpData t id' frame ok =>
      have hne : id' ≠ id := by
        intro heq
        exact h t frame ok (heq ▸ ha)
      simp [AgentSend.payload, hne]

section
variable {p : TcpProxy}

/-- Nothing has been handed over under a new id. -/
theorem FreshId.handed_eq_nil {id : Str} (h : FreshId p id) (H : IdInv p) : handed p id = [] := by
  apply Proxy.handed_eq_nil
  intro t frame ok hmem
  obtain ⟨_, ref, c, hc, hid⟩ := H.owned t id frame ok hmem
  exact h.1 ref c hc hid

/-- Nor under an id that cannot be parsed. -/
theorem IdInv.handed_unparsable (H : IdInv p) {id : Str} (h : stringToConnectionId id = none) :
    handed p id = [] := by
  apply Proxy.handed_eq_nil
  intro t frame ok hmem
  have hparse := (H.owned t id frame ok hmem).1
  rw [h] at hparse
  cases hparse

/-- An object found under the id of another is that other object. -/
theorem IdInv.found (H : IdInv p) {id : Str} {ref ref' : ℕ} {c c' : Connection}
    (hget : p.getConnection id = some (ref', c')) (hc : p.objects.lookup ref = some c)
    (hid : c.connectionId = id) : ref = ref' ∧ c = c' := by
  obtain ⟨hkey, hobj⟩ := getConnection_eq_some_iff.mp hget
  have href := H.unique id ref' hkey ref c hc hid
  subst href
  exact ⟨rfl, Option.some.inj (hc.symm.trans hobj)⟩

/-- A change of an object that keeps its id. -/
theorem IdInv.update (H : IdInv p) {f : Connection → Connection}
    (hf : ∀ c, (f c).connectionId = c.connectionId) (ref : ℕ) : IdInv (p.update ref f) := by
  have hback : ∀ ref' c, (p.update ref f).objects.lookup ref' = some c →
      ∃ d, p.objects.lookup ref' = some d ∧ c.connectionId = d.connectionId := by
    intro ref' c hc
    rw [lookup_update] at hc
    split at hc
    · obtain ⟨d, hd, rfl⟩ := Option.map_eq_some_iff.mp hc
      exact ⟨d, hd, hf d⟩
    · exact ⟨c, hc, rfl⟩
  refine ⟨?_, ?_, ?_, ?_⟩
  · intro ref' c hc
    obtain ⟨d, hd, _⟩ := hback ref' c hc
    rw [created_update]
    exact H.created ref' d hd
  · intro id ref' hkey ref'' c hc hcid
    rw [connections_update] at hkey
    obtain ⟨d, hd, hcd⟩ := hback ref'' c hc
    exact H.unique id ref' hkey ref'' d hd (hcd.symm.trans hcid)
  · intro t id frame ok hmem
    rw [sent_update] at hmem
    obtain ⟨hparse, ref', d, hd, hid⟩ := H.owned t id frame ok hmem
    refine ⟨hparse, ref', ?_⟩
    rw [lookup_update]
    by_cases href : ref' = ref
    · rw [if_pos href, hd]
      exact ⟨f d, rfl, (hf d).trans hid⟩
    · rw [if_neg href]
      exact ⟨d, hd, hid⟩
  · rw [connections_update]
    exact H.named

/-- Removing a key. -/
theorem IdInv.erase (H : IdInv p) (id : Str) :
    IdInv { p with connections := p.connections.erase id } where
  created := H.created
  unique := by
    intro id' ref hkey
    exact H.unique id' ref (Assoc.lookup_of_lookup_erase hkey).2
  owned := H.owned
  named := by
    show (p.connections.erase id).lookup [] = none
    rw [Assoc.lookup_erase_ite, H.named, ite_self]

/-- Sending a frame, if it is a data frame under the parsable id of an object. -/
theorem IdInv.send (H : IdInv p) (a : AgentSend)
    (ha : ∀ t id frame ok, a = .tcpData t id frame ok → (stringToConnectionId id).isSome ∧
      ∃ ref c, p.objects.lookup ref = some c ∧ c.connectionId = id) :
    IdInv { p with sent := p.sent ++ [a] } where
  created := H.created
  unique := H.unique
  owned := by
    intro t id frame ok hmem
    rcases List.mem_append.mp hmem with hmem | hmem
    · exact H.owned t id frame ok hmem
    · exact ha t id frame ok (List.mem_singleton.mp hmem).symm
  named := H.named

/-- A new object has the number that comes next. -/
theorem IdInv.created_addObject (H : IdInv p) (c : Connection) (ref : ℕ) (d : Connection)
    (hd : (p.addObject c).objects.lookup ref = some d) : ref < (p.addObject c).created := by
  rw [lookup_addObject] at hd
  show ref < p.created + 1
  split at hd
  · omega
  · have hlt := H.created ref d hd
    omega

/-- It does not replace another. -/
theorem IdInv.lookup_addObject_of_some (H : IdInv p) (c : Connection) {ref : ℕ} {d : Connection}
    (hd : p.objects.lookup ref = some d) : (p.addObject c).objects.lookup ref = some d := by
  have hlt := H.created ref d hd
  rw [lookup_addObject, if_neg (by omega)]
  exact hd

/-- A new object without a key has the empty id. -/
theorem IdInv.addObject (H : IdInv p) {c : Connection} (hid : c.connectionId = []) :
    IdInv (p.addObject c) := by
  refine ⟨?_, ?_, ?_, H.named⟩
  · exact H.created_addObject c
  · intro id ref hkey ref' d hd hdid
    rw [lookup_addObject] at hd
    split at hd
    · have hkey' : p.connections.lookup [] = some ref := by
        rw [← hid, Option.some.inj hd, hdid]
        exact hkey
      rw [H.named] at hkey'
      cases hkey'
    · exact H.unique id ref hkey ref' d hd hdid
  · intro t id frame ok hmem
    obtain ⟨hparse, ref, d, hd, hdid⟩ := H.owned t id frame ok hmem
    exact ⟨hparse, ref, d, H.lookup_addObject_of_some c hd, hdid⟩

/-- A new object under a new key, with a new id. -/
theorem IdInv.addKeyed (H : IdInv p) {c : Connection} {key : Str} (hid : FreshId p c.connectionId)
    (hkey : FreshId p key) (hne : key ≠ []) :
    IdInv { p.addObject c with connections := p.connections.insert key p.created } := by
  refine ⟨?_, ?_, ?_, ?_⟩
  · exact H.created_addObject c
  · intro id ref hlookup ref' d hd hdid
    replace hlookup : (p.connections.insert key p.created).lookup id = some ref := hlookup
    rw [Assoc.lookup_insert_ite] at hlookup
    rw [lookup_addObject] at hd
    split at hlookup
    · rename_i hidkey
      split at hd
      · rename_i href
        rw [href]
        exact Option.some.inj hlookup
      · exact absurd (hdid.trans hidkey) (hkey.1 ref' d hd)
    · split at hd
      · have hnone := hid.2
        rw [Option.some.inj hd, hdid, hlookup] at hnone
        cases hnone
      · exact H.unique id ref hlookup ref' d hd hdid
  · intro t id frame ok hmem
    obtain ⟨hparse, ref, d, hd, hdid⟩ := H.owned t id frame ok hmem
    exact ⟨hparse, ref, d, H.lookup_addObject_of_some c hd, hdid⟩
  · show (p.connections.insert key p.created).lookup [] = none
    rw [Assoc.lookup_insert_ite, if_neg (Ne.symm hne)]
    exact H.named

end

/-! ## The invariant -/

/-- The bookkeeping of a connection is exact: everything read has been handed over,
and the buffer is within the window. -/
structure Exact (p : TcpProxy) (c : Connection) : Prop where
  read_eq : c.read = handed p c.connectionId
  bytesSent_eq : c.bytesSent = c.read.length
  inWindow : c.sendBuffer.length ≤ sendWindowSize

structure UpstreamInv (r : ℕ) (p : TcpProxy) : Prop where
  ids : IdInv p
  exact : ∀ c, p.objects.lookup r = some c → c.state = .established → Exact p c

theorem upstreamInv_init (r : ℕ) : UpstreamInv r TcpProxy.init where
  ids := idInv_init
  exact := by simp [TcpProxy.init]

/-- With everything handed over nothing is held. -/
theorem Exact.held_eq_nil {p : TcpProxy} {c : Connection} (H : Exact p c) :
    c.held c.read.length = [] := by
  rw [Connection.held, H.bytesSent_eq, Nat.sub_self, Nat.sub_zero, List.drop_length]

theorem UpstreamInv.intact {r : ℕ} {p : TcpProxy} (H : UpstreamInv r p) : UpstreamIntact r p := by
  intro c hc hstate
  have hexact := H.exact c hc hstate
  rw [← hexact.read_eq, hexact.held_eq_nil, List.append_nil]

/-- A change that keeps what is counted, and does not establish a connection. -/
structure Benign (f : Connection → Connection) : Prop where
  state : ∀ c, (f c).state = .established → c.state = .established
  read_eq : ∀ c, (f c).read = c.read
  bytesSent_eq : ∀ c, (f c).bytesSent = c.bytesSent
  inWindow : ∀ c, (f c).sendBuffer.length ≤ c.sendBuffer.length

section
variable {r : ℕ} {p : TcpProxy}

/-- A change that keeps the id, and is benign if it is a change of `r`. -/
theorem UpstreamInv.update (H : UpstreamInv r p) {f : Connection → Connection} {ref : ℕ}
    (hid : ∀ c, (f c).connectionId = c.connectionId) (hf : ref = r → Benign f) :
    UpstreamInv r (p.update ref f) := by
  refine ⟨H.ids.update hid ref, fun c hc hstate => ?_⟩
  rw [lookup_update] at hc
  split at hc
  · rename_i href
    obtain ⟨d, hd, rfl⟩ := Option.map_eq_some_iff.mp hc
    have hbenign := hf href.symm
    have hexact := H.exact d hd (hbenign.state d hstate)
    refine ⟨?_, ?_, (hbenign.inWindow d).trans hexact.inWindow⟩
    · rw [handed_update, hid, hbenign.read_eq, hexact.read_eq]
    · rw [hbenign.bytesSent_eq, hbenign.read_eq, hexact.bytesSent_eq]
  · have hexact := H.exact c hc hstate
    exact ⟨by rw [handed_update, hexact.read_eq], hexact.bytesSent_eq, hexact.inWindow⟩

theorem UpstreamInv.erase (H : UpstreamInv r p) (id : Str) :
    UpstreamInv r { p with connections := p.connections.erase id } where
  ids := H.ids.erase id
  exact := fun c hc hstate =>
    have hexact := H.exact c hc hstate
    ⟨hexact.read_eq, hexact.bytesSent_eq, hexact.inWindow⟩

/-- Sending a frame that is not data of `r`. -/
theorem UpstreamInv.send (H : UpstreamInv r p) {a : AgentSend}
    (hids : IdInv { p with sent := p.sent ++ [a] })
    (ha : ∀ c, p.objects.lookup r = some c → a.payload c.connectionId = []) :
    UpstreamInv r { p with sent := p.sent ++ [a] } := by
  refine ⟨hids, fun c hc hstate => ?_⟩
  have hexact := H.exact c hc hstate
  refine ⟨?_, hexact.bytesSent_eq, hexact.inWindow⟩
  rw [handed_append, List.flatMap_singleton, ha c hc, List.append_nil, hexact.read_eq]

theorem UpstreamInv.close (H : UpstreamInv r p) (t id : Str) :
    UpstreamInv r { p with sent := p.sent ++ [.tcpClose t id] } :=
  H.send (H.ids.send _ (by simp)) fun _ _ => rfl

/-- A new connection has read nothing, and nothing has been handed over for it. -/
theorem UpstreamInv.addObject (H : UpstreamInv r p) {id tunnelId ip : Str} {port : ℕ}
    {state : ConnectionState} {keys : Assoc Str ℕ}
    (hids : IdInv { p.addObject (newConnection id tunnelId ip port state) with connections := keys })
    (hnew : handed p id = []) :
    UpstreamInv r
      { p.addObject (newConnection id tunnelId ip port state) with connections := keys } := by
  refine ⟨hids, fun c hc hstate => ?_⟩
  have hhanded : ∀ id', handed { p.addObject (newConnection id tunnelId ip port state) with
      connections := keys } id' = handed p id' := fun _ => rfl
  replace hc : (p.addObject (newConnection id tunnelId ip port state)).objects.lookup r = some c := hc
  rw [lookup_addObject] at hc
  split at hc
  · rw [← Option.some.inj hc]
    exact ⟨hnew.symm, rfl, Nat.zero_le _⟩
  · have hexact := H.exact c hc hstate
    exact ⟨by rw [hhanded, hexact.read_eq], hexact.bytesSent_eq, hexact.inWindow⟩

/-! ## The steps -/

theorem upstream_create (H : UpstreamInv r p) (allows : List Str → Str → Bool) (env : CreateEnv)
    (tunnelId : Str) (hfresh : FreshId p (connectionIdToString env.uuid)) :
    UpstreamInv r (createConnection allows p env tunnelId) := by
  refine createConnection_rule H (fun ip ok => ?_) (fun ip => ?_) allows
  · have hids := H.ids.addKeyed
      (c := newConnection (connectionIdToString env.uuid) tunnelId ip 0 (openState ok))
      hfresh hfresh (connectionIdToString_ne_nil env.uuid)
    have hadd := H.addObject hids (hfresh.handed_eq_nil H.ids)
    exact hadd.send (hadd.ids.send _ (by simp)) fun _ _ => rfl
  · exact H.addObject (H.ids.addObject rfl) (H.ids.handed_unparsable (by decide))

theorem upstream_createByPort (H : UpstreamInv r p) (allows : List Str → Str → Bool)
    (env : CreateEnv) (order : List (Str × Tunnel)) (port : ℕ) (digits : Vector (Fin 16) 8)
    (hid : FreshId p (connectionIdToString env.uuid))
    (htemp : FreshId p (generateConnectionId digits)) :
    UpstreamInv r (createConnectionByPort allows p env order port digits) := by
  have hne : generateConnectionId digits ≠ [] :=
    List.append_ne_nil_of_left_ne_nil (by decide) _
  refine createConnectionByPort_rule H (fun ip ok => ?_) (fun ip => ?_) allows
  · have hids := H.ids.addKeyed (c := newConnection (connectionIdToString env.uuid)
      (matchTunnelByPort order port) ip port (openState ok)) hid htemp hne
    have hadd := H.addObject hids (hid.handed_eq_nil H.ids)
    exact hadd.send (hadd.ids.send _ (by simp)) fun _ _ => rfl
  · exact H.addObject (H.ids.addKeyed htemp htemp hne) (htemp.handed_eq_nil H.ids)

theorem upstream_closeConnection (H : UpstreamInv r p) (id : Str) (graceful agent : Bool) :
    UpstreamInv r (closeConnection p id graceful agent) := by
  refine closeConnection_rule (P := UpstreamInv r) H ?_ ?_ ?_ graceful agent
  · exact fun ref => H.update (fun _ => rfl) fun _ => ⟨by simp, by simp, by simp, by simp⟩
  · intro ref
    have hclosed : UpstreamInv r (p.update ref fun c => { c with state := .closed }) :=
      H.update (fun _ => rfl) fun _ => ⟨by simp, by simp, by simp, by simp⟩
    have herased := hclosed.erase id
    rwa [connections_update] at herased
  · exact fun q t hq => hq.close t id

theorem benign_startWrite : Benign Connection.startWrite := by
  refine ⟨?_, ?_, ?_, ?_⟩ <;> intro c <;> simp only [Connection.startWrite] <;> split <;> simp

theorem upstream_agentFrame (H : UpstreamInv r p) (frame : Bytes) (agent : Bool) :
    UpstreamInv r (handleAgentTcpFrame p frame agent) := by
  refine handleAgentTcpFrame_rule H ?_ ?_ ?_
  · exact fun _ ref _ _ => H.update connectionId_startWrite fun _ => benign_startWrite
  · intro _ ref _ data length _
    refine H.update (fun c => connectionId_startWrite (c.accept data length)) fun _ => ?_
    exact ⟨fun c => benign_startWrite.state (c.accept data length),
      fun c => benign_startWrite.read_eq (c.accept data length),
      fun c => benign_startWrite.bytesSent_eq (c.accept data length),
      fun c => benign_startWrite.inWindow (c.accept data length)⟩
  · exact fun id graceful => upstream_closeConnection H id graceful agent

/-! ## Reads -/

/-- Sending for another connection queues and sends under another id. -/
theorem upstream_sendData_other (H : UpstreamInv r p) {ref : ℕ} {c : Connection}
    (hc : p.objects.lookup ref = some c) (href : ref ≠ r) (data : Bytes) (agent : Option Bool) :
    UpstreamInv r (sendData p c.connectionId data agent).2 := by
  have hqueued : ∀ d, UpstreamInv r (p.update ref (·.queue d)) := by
    intro d
    exact H.update (fun _ => rfl) fun heq => absurd heq href
  refine sendData_rule (P := UpstreamInv r) H ?_ ?_ data agent
  · intro ref' c' d hget
    obtain ⟨rfl, rfl⟩ := H.ids.found hget hc rfl
    exact hqueued d
  · intro ref' c' d frame ok hget hparse
    obtain ⟨rfl, rfl⟩ := H.ids.found hget hc rfl
    refine (hqueued d).send ((hqueued d).ids.send _ ?_) ?_
    · intro t id frame' ok' heq
      injection heq with _ hid _ _
      exact ⟨by rw [← hid]; exact hparse, ref, _, lookup_update_self hc _, hid⟩
    · intro e he
      rw [lookup_update, if_neg (Ne.symm href)] at he
      have hne : c.connectionId ≠ e.connectionId := by
        intro heq
        exact href (H.ids.found hget he heq.symm).1.symm
      simp [AgentSend.payload, hne]

/-- A read that can be forwarded is queued and sent whole. -/
theorem sendData_forward {c : Connection} {data : Bytes} (hc : p.objects.lookup r = some c)
    (hstate : c.state = .established) (hacc : Accepting p r c data) (hne : data ≠ []) :
    ∃ uuid, (sendData p c.connectionId data (some true)).2 =
      { p.update r (·.queue data) with
        sent := p.sent ++ [.tcpData c.tunnelId c.connectionId
          ⟨uuid, UInt32.ofNat c.bytesSent, data⟩ true] } := by
  obtain ⟨hkey, hparse, hroom⟩ := hacc
  obtain ⟨uuid, huuid⟩ := Option.isSome_iff_exists.mp hparse
  have hget := getConnection_eq_some_iff.mpr ⟨hkey, hc⟩
  have havailable : available c = sendWindowSize - c.sendBuffer.length := by
    simp only [available, sendWindowSize] at hroom ⊢
    omega
  have hall : min data.length (available c) = data.length := by
    rw [havailable]
    omega
  have hpos : data.length ≠ 0 := by
    intro hzero
    exact hne (List.length_eq_zero_iff.mp hzero)
  refine ⟨uuid, ?_⟩
  simp only [sendData, hget, hstate, ne_eq, not_true_eq_false, if_false, hall, hpos,
    List.take_length, huuid, sent_update]

/-- The object after a read that was forwarded. -/
def Connection.forward (c : Connection) (data : Bytes) : Connection :=
  ((c.finishRead data).queue data).startRead

theorem clientRead_forward {c : Connection} {data : Bytes} (hc : p.objects.lookup r = some c)
    (hreading : c.reading = true) (hstate : c.state = .established) (hacc : Accepting p r c data)
    (hne : data ≠ []) :
    ∃ uuid, clientRead p r data (some true) =
      { p.update r (·.forward data) with
        sent := p.sent ++ [.tcpData c.tunnelId c.connectionId
          ⟨uuid, UInt32.ofNat c.bytesSent, data⟩ true] } := by
  have hc' := lookup_update_self hc (·.finishRead data)
  have hacc' : Accepting (p.update r (·.finishRead data)) r (c.finishRead data) data :=
    ⟨by rw [connections_update]; exact hacc.1, hacc.2⟩
  obtain ⟨uuid, huuid⟩ := sendData_forward hc' hstate hacc' hne
  refine ⟨uuid, ?_⟩
  rw [clientRead_eq hc hreading, huuid, update_sent, update_update, update_update, sent_update]
  rfl

/-- Nothing is sent for a connection that is not established. -/
theorem sendData_not_established (H : IdInv p) {c : Connection} (hc : p.objects.lookup r = some c)
    (hstate : c.state ≠ .established) (data : Bytes) (agent : Option Bool) :
    (sendData p c.connectionId data agent).2 = p := by
  cases hget : p.getConnection c.connectionId with
  | none => simp only [sendData, hget]
  | some found =>
      obtain ⟨ref', c'⟩ := found
      obtain ⟨rfl, rfl⟩ := H.found hget hc rfl
      simp only [sendData, hget, hstate, ne_eq, not_false_eq_true, if_true]

/-- Nor for an empty read. -/
theorem sendData_nil (id : Str) (agent : Option Bool) : (sendData p id [] agent).2 = p := by
  simp only [sendData]
  split
  · rfl
  · split
    · rfl
    · simp

/-- Nor with the window full. -/
theorem sendData_full {id : Str} {ref : ℕ} {c : Connection} (hget : p.getConnection id = some (ref, c))
    (hfull : c.sendBuffer.length = sendWindowSize) (data : Bytes) (agent : Option Bool) :
    (sendData p id data agent).2 = p := by
  have havailable : available c = 0 := by
    rw [available, hfull]
    rfl
  simp only [sendData, hget, havailable, Nat.min_zero, if_true, ite_self]

theorem benign_startRead : Benign Connection.startRead where
  state := fun _ h => h
  read_eq := fun _ => rfl
  bytesSent_eq := fun _ => rfl
  inWindow := fun _ => le_refl _

/-- After a read that was forwarded, everything read has been handed over. -/
theorem Exact.forward {c : Connection} (H : Exact p c) {data : Bytes}
    (hroom : c.sendBuffer.length + data.length ≤ sendWindowSize) (t : Str) (uuid : ConnectionId)
    (n : UInt32) {p' : TcpProxy}
    (hsent : p'.sent = p.sent ++ [.tcpData t c.connectionId ⟨uuid, n, data⟩ true]) :
    Exact p' (c.forward data) where
  read_eq := by
    show c.read ++ data = handed p' c.connectionId
    rw [handed, hsent, List.flatMap_append, ← handed, ← H.read_eq]
    simp [AgentSend.payload]
  bytesSent_eq := by
    show c.bytesSent + data.length = (c.read ++ data).length
    rw [H.bytesSent_eq, List.length_append]
  inWindow := by
    show (c.sendBuffer ++ data).length ≤ sendWindowSize
    rwa [List.length_append]

theorem upstream_forward (H : UpstreamInv r p) {c : Connection} {data : Bytes}
    (hc : p.objects.lookup r = some c) (hreading : c.reading = true)
    (hstate : c.state = .established) (hacc : Accepting p r c data) (hne : data ≠ []) :
    UpstreamInv r (clientRead p r data (some true)) := by
  obtain ⟨uuid, huuid⟩ := clientRead_forward hc hreading hstate hacc hne
  have hc' := lookup_update_self hc (·.forward data)
  rw [huuid]
  refine ⟨?_, fun d hd _ => ?_⟩
  · have hids := H.ids.update (f := (·.forward data)) (fun _ => rfl) r
    rw [← sent_update p r (·.forward data)]
    refine hids.send _ fun t id frame ok heq => ?_
    injection heq with _ hid _ _
    exact ⟨hid ▸ hacc.2.1, r, c.forward data, hc', hid⟩
  · rw [← Option.some.inj (hc'.symm.trans hd)]
    exact (H.exact c hc hstate).forward hacc.2.2 c.tunnelId uuid (UInt32.ofNat c.bytesSent) rfl

theorem upstream_clientRead_self (H : UpstreamInv r p) {data : Bytes}
    (hfits : ∀ c, p.objects.lookup r = some c → c.state = .established → Accepting p r c data) :
    UpstreamInv r (clientRead p r data (some true)) := by
  cases hc : p.objects.lookup r with
  | none => simpa only [clientRead, hc] using H
  | some c =>
      by_cases hreading : c.reading = true
      · have hc' := lookup_update_self hc (·.finishRead data)
        have hids := H.ids.update (f := (·.finishRead data)) (fun _ => rfl) r
        rw [clientRead_eq hc hreading]
        by_cases hstate : c.state = .established
        · by_cases hne : data = []
          · subst hne
            rw [sendData_nil]
            refine UpstreamInv.update (f := Connection.startRead) ?_ (fun _ => rfl)
              fun _ => benign_startRead
            refine H.update (fun _ => rfl) fun _ => ?_
            exact ⟨fun _ h => h, fun _ => List.append_nil _, fun _ => rfl, fun _ => le_refl _⟩
          · rw [← clientRead_eq hc hreading]
            exact upstream_forward H hc hreading hstate (hfits c hc hstate) hne
        · rw [sendData_not_established hids hc' hstate]
          refine ⟨hids.update (f := Connection.startRead) (fun _ => rfl) r, fun d hd hd' => ?_⟩
          rw [lookup_update, if_pos rfl, hc'] at hd
          rw [← Option.some.inj hd] at hd'
          exact absurd hd' hstate
      · simpa only [clientRead, hc, hreading, Bool.not_false, if_true] using H

theorem upstream_clientRead_other (H : UpstreamInv r p) {ref : ℕ} (href : ref ≠ r) (data : Bytes)
    (agent : Option Bool) : UpstreamInv r (clientRead p ref data agent) := by
  refine clientRead_rule (P := UpstreamInv r) H fun c hc _ => ?_
  have hread : UpstreamInv r (p.update ref (·.finishRead data)) :=
    H.update (fun _ => rfl) fun heq => absurd heq href
  have hc' := lookup_update_self hc (·.finishRead data)
  refine UpstreamInv.update (f := Connection.startRead) ?_ (fun _ => rfl)
    fun _ => benign_startRead
  exact upstream_sendData_other hread hc' href data agent

theorem upstream_clientEnd (H : UpstreamInv r p) (ref : ℕ) (eof agent : Bool) :
    UpstreamInv r (clientEnd p ref eof agent) := by
  refine clientEnd_rule (P := UpstreamInv r) H fun c _ _ => ?_
  have hread : UpstreamInv r (p.update ref fun c => { c with reading := false }) :=
    H.update (fun _ => rfl) fun _ => ⟨fun _ h => h, fun _ => rfl, fun _ => rfl, fun _ => le_refl _⟩
  exact upstream_closeConnection hread c.connectionId eof agent

theorem upstream_writeDone (H : UpstreamInv r p) (ref i : ℕ) : UpstreamInv r (writeDone p ref i) := by
  refine H.update (fun c => ?_) fun _ => ⟨?_, ?_, ?_, ?_⟩
  · split
    · rfl
    · exact connectionId_startWrite _
  all_goals
    intro c
    split
    · simp
  · exact benign_startWrite.state _
  · exact benign_startWrite.read_eq _
  · exact benign_startWrite.bytesSent_eq _
  · exact benign_startWrite.inWindow _

theorem upstream_updateWindow (H : UpstreamInv r p) (id : Str) (n : ℕ) :
    UpstreamInv r (updateWindow p id n) := by
  refine updateWindow_rule (P := UpstreamInv r) H fun ref c _ _ => ?_
  refine H.update (fun _ => rfl) fun _ => ⟨fun _ h => h, fun _ => rfl, fun _ => rfl, fun c => ?_⟩
  rw [List.length_drop]
  omega

theorem upstream_step (allows : List Str → Str → Bool) (p : TcpProxy) (e : Event)
    (H : UpstreamInv r p) (he : Forwardable r p e) : UpstreamInv r (step allows p e) := by
  cases e with
  | create env tunnelId => exact upstream_create H allows env tunnelId he
  | createByPort env order port digits =>
      exact upstream_createByPort H allows env order port digits he.1 he.2
  | clientRead ref data agent =>
      by_cases href : ref = r
      · obtain ⟨hagent, hfits⟩ := he href
        subst href
        rw [hagent]
        exact upstream_clientRead_self H hfits
      · exact upstream_clientRead_other H href data agent
  | clientEnd ref eof agent => exact upstream_clientEnd H ref eof agent
  | writeDone ref i => exact upstream_writeDone H ref i
  | agentFrame frame agent => exact upstream_agentFrame H frame agent
  | updateWindow id n => exact upstream_updateWindow H id n
  | close id graceful agent => exact upstream_closeConnection H id graceful agent

end

/-- **What is read from a client goes to its agent**, each byte once and in order, in
every run in which each read of the established connection can be forwarded. -/
theorem upstream_intact (allows : List Str → Str → Bool) (r : ℕ) (evs : List Event)
    (H : Along (step allows) (Forwardable r) TcpProxy.init evs) :
    Always (step allows) (UpstreamIntact r) TcpProxy.init evs := by
  have hall := always_of_invariant (UpstreamInv r) (upstream_step allows) (upstreamInv_init r) H
  exact Always.imp (fun p hp => hp.intact) hall

/-- Two reads, the second after the window was refilled. -/
theorem upstream_intact_two :
    Always (step fun _ _ => false) (UpstreamIntact 0) TcpProxy.init
      [.create sampleEnv "db".toList, .clientRead 0 [0x41] (some true),
        .updateWindow (connectionIdToString sampleEnv.uuid) 1,
        .clientRead 0 [0x42, 0x43] (some true)] := by
  have hfresh : FreshId TcpProxy.init (connectionIdToString sampleEnv.uuid) :=
    ⟨by simp [TcpProxy.init], rfl⟩
  exact upstream_intact (fun _ _ => false) 0 _
    ⟨hfresh, fun _ => ⟨rfl, by decide⟩, trivial, fun _ => ⟨rfl, by decide⟩, trivial⟩

/-! ## A full window -/

/-- What connection `r` may count on: generated ids are new, its agent is registered
and takes its frames, and a read fills a buffer of 8192 bytes at most. -/
def Served (r : ℕ) (p : TcpProxy) : Event → Prop
  | .clientRead ref data agent =>
      ref = r → agent = some true ∧ 0 < data.length ∧ data.length ≤ 8192
  | e => Forwardable r p e

/-- Connection `r` is established and found under its id, a read is outstanding, and
`n` bytes are in its send buffer. -/
def Ready (r n : ℕ) (p : TcpProxy) : Prop :=
  ∃ c, p.objects.lookup r = some c ∧ p.connections.lookup c.connectionId = some r ∧
    (stringToConnectionId c.connectionId).isSome ∧ c.state = .established ∧ c.reading = true ∧
    c.sendBuffer.length = n

section
variable {r n : ℕ} {p : TcpProxy}

theorem Ready.forward (H : Ready r n p) {data : Bytes} (hne : data ≠ [])
    (hroom : n + data.length ≤ sendWindowSize) :
    Ready r (n + data.length) (clientRead p r data (some true)) := by
  obtain ⟨c, hc, hkey, hparse, hstate, hreading, hlen⟩ := H
  obtain ⟨uuid, huuid⟩ := clientRead_forward hc hreading hstate ⟨hkey, hparse, hlen ▸ hroom⟩ hne
  rw [huuid]
  refine ⟨c.forward data, lookup_update_self hc _, ?_, hparse, hstate, ?_, ?_⟩
  · rw [connections_update]
    exact hkey
  · simp [Connection.forward, Connection.startRead, Connection.queue, Connection.finishRead, hstate]
  · show (c.sendBuffer ++ data).length = n + data.length
    rw [List.length_append, hlen]

/-- With the window full a read is neither handed over nor held. -/
theorem Ready.not_intact (H : Ready r sendWindowSize p) (hp : UpstreamInv r p) {data : Bytes}
    (hne : data ≠ []) : ¬ UpstreamIntact r (clientRead p r data (some true)) := by
  obtain ⟨c, hc, hkey, _, hstate, hreading, hlen⟩ := H
  have hexact := hp.exact c hc hstate
  have hc' := lookup_update_self hc (·.finishRead data)
  have hget : (p.update r (·.finishRead data)).getConnection (c.finishRead data).connectionId =
      some (r, c.finishRead data) :=
    getConnection_eq_some_iff.mpr ⟨by rw [connections_update]; exact hkey, hc'⟩
  have hhanded : handed ((p.update r (·.finishRead data)).update r Connection.startRead)
      c.connectionId = c.read := by
    rw [handed_update, handed_update, hexact.read_eq]
  intro hintact
  rw [clientRead_eq hc hreading, sendData_full hget hlen] at hintact
  have hread := hintact _ (lookup_update_self hc' Connection.startRead) hstate
  replace hread : c.read ++ data =
      handed ((p.update r (·.finishRead data)).update r Connection.startRead) c.connectionId ++
        c.held (handed ((p.update r (·.finishRead data)).update r Connection.startRead)
          c.connectionId).length := hread
  rw [hhanded, hexact.held_eq_nil, List.append_nil] at hread
  exact hne (List.append_right_eq_self.mp hread)

variable {data : Bytes} (allows : List Str → Str → Bool)

theorem served_reads (hpos : 0 < data.length) (hbuffer : data.length ≤ 8192) (k : ℕ) (p : TcpProxy) :
    Along (step allows) (Served r) p (List.replicate k (.clientRead r data (some true))) := by
  induction k generalizing p with
  | zero => trivial
  | succ k ih => exact ⟨fun _ => ⟨rfl, hpos, hbuffer⟩, ih (step allows p _)⟩

/-- Reads fill the window. -/
theorem Ready.reads (hpos : 0 < data.length) (k : ℕ) (H : Ready r n p) (hp : UpstreamInv r p)
    (hroom : n + k * data.length ≤ sendWindowSize) :
    Ready r (n + k * data.length)
        (run (step allows) p (List.replicate k (.clientRead r data (some true)))) ∧
      UpstreamInv r (run (step allows) p (List.replicate k (.clientRead r data (some true)))) := by
  have hne : data ≠ [] := List.ne_nil_of_length_pos hpos
  induction k generalizing n p with
  | zero => exact ⟨by simpa using H, hp⟩
  | succ k ih =>
      rw [Nat.succ_mul] at hroom
      have hfirst : n + data.length ≤ sendWindowSize := by omega
      have hnext := H.forward hne hfirst
      obtain ⟨c, hc, hkey, hparse, hstate, hreading, hlen⟩ := H
      have hpnext := upstream_forward hp hc hreading hstate ⟨hkey, hparse, hlen ▸ hfirst⟩ hne
      have hrest := ih hnext hpnext (by omega)
      rw [Nat.succ_mul, Nat.add_comm (k * data.length), ← Nat.add_assoc]
      exact hrest

/-- Eight full reads and one more byte. -/
theorem Ready.not_intact_reads (H : Ready r 0 p) (hp : UpstreamInv r p)
    (hfull : data.length = 8192) (b : UInt8) :
    ¬ UpstreamIntact r (run (step allows) p
      (List.replicate 8 (.clientRead r data (some true)) ++ [.clientRead r [b] (some true)])) := by
  have hpos : 0 < data.length := by omega
  obtain ⟨hready, hinv⟩ := H.reads allows hpos 8 hp (by rw [hfull]; decide)
  have hwindow : 0 + 8 * data.length = sendWindowSize := by rw [hfull, sendWindowSize]
  rw [hwindow] at hready
  rw [run_append, run_cons, run_nil]
  have hlast : ∀ q, step allows q (.clientRead r [b] (some true)) =
      clientRead q r [b] (some true) := fun _ => rfl
  rw [hlast]
  exact hready.not_intact hinv (List.cons_ne_nil b [])

end

/-- Nine reads of a connection whose agent takes every frame: the last is lost. -/
theorem not_upstreamIntact_fullWindow :
    ¬ ∀ evs, Along (step fun _ _ => false) (Served 0) TcpProxy.init evs →
      Always (step fun _ _ => false) (UpstreamIntact 0) TcpProxy.init evs := by
  intro H
  obtain ⟨chunk, hchunk⟩ : ∃ chunk : Bytes, chunk.length = 8192 :=
    ⟨List.replicate 8192 0x41, List.length_replicate⟩
  have hfresh : FreshId TcpProxy.init (connectionIdToString sampleEnv.uuid) :=
    ⟨by simp [TcpProxy.init], rfl⟩
  have hp := upstream_create (upstreamInv_init 0) (fun _ _ => false) sampleEnv "db".toList hfresh
  have hready : Ready 0 0 (createConnection (fun _ _ => false) TcpProxy.init sampleEnv "db".toList) :=
    ⟨_, rfl, by decide, by decide, rfl, rfl, rfl⟩
  have hpos : 0 < chunk.length := by omega
  have hreads := served_reads (r := 0) (fun _ _ => false) hpos (le_of_eq hchunk) 8
    (createConnection (fun _ _ => false) TcpProxy.init sampleEnv "db".toList)
  have hall : Along (step fun _ _ => false) (Served 0) TcpProxy.init
      (.create sampleEnv "db".toList :: (List.replicate 8 (.clientRead 0 chunk (some true)) ++
        [.clientRead 0 [0x42] (some true)])) :=
    ⟨hfresh, along_append.mpr ⟨hreads, fun _ => ⟨rfl, by decide, by decide⟩, trivial⟩⟩
  apply hready.not_intact_reads (fun _ _ => false) hp hchunk 0x42
  have hrun := always_iff_run.mp (H _ hall) _ (List.prefix_refl _)
  rw [run_cons] at hrun
  exact hrun

end Protogate.Proxy
