import Protogate.Proxy.CloseConnection
import Protogate.Tunnel.TcpTunnel

/-!
# TCP connections through the tunnel

A client's connection and the agent's connection that was made for it form a pair, and each
side gets from the other a part of what was read there, in order: frames may be lost on the way
and bytes be refused, but nothing is added, nothing comes twice, nothing is out of turn, and
nothing comes from another connection, whatever the other tunnels do and however often agents
connect again, as long as each frame that arrives is read whole and alone.

## Main definitions

* `Forwarder.account`, `forwarder_local` — what a forwarder does by itself.
* `TcpTunnelInv` — what has arrived and what is on the way, in terms of what was read.
* `Upstream`, `tcp_upstream` — what the agents' connections get.
* `Downstream`, `tcp_downstream` — what the clients' connections get.
-/

namespace Protogate.Tunnel

open Protogate.Lib Protogate.Models Protogate.Wire Protogate.Proxy Protogate.TunnelAgent

/-! ## The forwarder by itself -/

/-- The id of a connection, and the payloads it has taken. -/
def Forwarder.account (f : Forwarder) (k : ℕ) : Option (ConnectionId × Bytes) :=
  f.objects[k]?.map fun c => (c.connectionId, c.received)

section
variable (f : Forwarder)

theorem account_update (k : ℕ) {g : TcpConnection → TcpConnection}
    (hg : ∀ c, (g c).connectionId = c.connectionId ∧ (g c).received = c.received) :
    Forwarder.account (f.update k g) = Forwarder.account f := by
  funext j
  simp only [Forwarder.account, Forwarder.objects_update]
  split
  · cases f.objects[j]? with
    | none => rfl
    | some c => simp [hg c]
  · rfl

theorem account_of_objects {f' : Forwarder} (h : f'.objects = f.objects) :
    Forwarder.account f' = Forwarder.account f := by
  funext j
  rw [Forwarder.account, h, Forwarder.account]

theorem account_closeConnection (id : ConnectionId) :
    Forwarder.account (f.closeConnection id) = Forwarder.account f := by
  rw [Forwarder.closeConnection]
  split
  · rfl
  · rename_i k _
    exact account_update f k fun _ => ⟨rfl, rfl⟩

theorem received_startLocalRead (c : TcpConnection) :
    c.startLocalRead.connectionId = c.connectionId ∧ c.startLocalRead.received = c.received := by
  rw [TcpConnection.startLocalRead]
  split <;> exact ⟨rfl, rfl⟩

/-- What a forwarder does by itself takes no payload. -/
theorem account_local {e : ForwarderEvent} (he : ∀ c, e ≠ .call c) :
    Forwarder.account (forwarderStep f e) = Forwarder.account f := by
  have hclose : ∀ (f' : Forwarder) id reason,
      Forwarder.account (f'.sendTcpCloseFrame id reason) = Forwarder.account f' :=
    fun f' id reason => account_of_objects f' (Forwarder.objects_sendTcpCloseFrame f' id reason)
  cases e with
  | setSendCallback callback => rfl
  | call c => exact absurd rfl (he c)
  | resolved k endpoints =>
      obtain heq | ⟨c, _, _, heq | ⟨opened, heq⟩⟩ := f.resolved_cases k endpoints
      · rw [forwarderStep, heq]
      · rw [forwarderStep, heq, hclose]
        exact account_update f k fun _ => ⟨rfl, rfl⟩
      · rw [forwarderStep, heq]
        exact account_update f k fun _ => ⟨rfl, rfl⟩
  | nextEndpoint k opened =>
      obtain heq | heq := f.nextEndpoint_cases k opened
      · rw [forwarderStep, heq]
      · rw [forwarderStep, heq]
        exact account_update f k fun _ => ⟨rfl, rfl⟩
  | connectDone k ok =>
      obtain heq | heq | ⟨id, heq⟩ := f.connectDone_cases k ok
      · rw [forwarderStep, heq]
      · rw [forwarderStep, heq]
        exact account_update f k fun c => received_startLocalRead _
      · rw [forwarderStep, heq, hclose]
        exact account_update f k fun _ => ⟨rfl, rfl⟩
  | readDone k result =>
      obtain heq | ⟨c, _, _, _, heq | ⟨data, _, heq⟩⟩ := f.readDone_cases k result
      · rw [forwarderStep, heq]
      · rw [forwarderStep, heq, account_closeConnection, hclose]
        exact account_update f k fun _ => ⟨rfl, rfl⟩
      · rw [forwarderStep, heq, account_update _ k received_startLocalRead,
          account_of_objects _ (Forwarder.objects_sendTcpDataFrame _ _ _ _)]
        exact account_update f k fun _ => ⟨rfl, rfl⟩
  | wrote k i n =>
      obtain heq | heq := f.wrote_cases k i n
      · rw [forwarderStep, heq]
      · rw [forwarderStep, heq]
        exact account_update f k fun _ => ⟨rfl, rfl⟩
  | writeFailed k i =>
      obtain heq | heq | ⟨id, heq⟩ := f.writeFailed_cases k i
      · rw [forwarderStep, heq]
      · rw [forwarderStep, heq]
        exact account_update f k fun _ => ⟨rfl, rfl⟩
      · rw [forwarderStep, heq, account_closeConnection]
        exact account_update f k fun _ => ⟨rfl, rfl⟩

theorem history_sendTcpCloseFrame (id : ConnectionId) (reason : UInt16) :
    (f.sendTcpCloseFrame id reason).history = f.history ∨
      (f.sendTcpCloseFrame id reason).history = [.sentClose id reason] ++ f.history := by
  rw [Forwarder.sendTcpCloseFrame]
  split
  · exact .inr rfl
  · exact .inl rfl

/-- What is sent by one step: nothing, a TCP_CLOSE frame, or what was just read. -/
def SendsAtMost (f : Forwarder) (e : ForwarderEvent) (happened : List Happening) : Prop :=
  happened = [] ∨ (∃ id reason, happened = [.sentClose id reason]) ∨
    ∃ k c data, e = .readDone k (some data) ∧ f.objects[k]? = some c ∧ c.reading = true ∧
      f.Alive k c ∧ happened = [.sentData c.connectionId data c.sequenceNumber]

theorem history_local {e : ForwarderEvent} (he : ∀ c, e ≠ .call c) :
    ∃ happened, (forwarderStep f e).history = happened ++ f.history ∧ SendsAtMost f e happened := by
  have hnone : ∀ {f' : Forwarder}, f'.history = f.history →
      ∃ happened, f'.history = happened ++ f.history ∧ SendsAtMost f e happened :=
    fun h => ⟨[], h, .inl rfl⟩
  have hclose : ∀ {f' : Forwarder} id reason, f'.history = f.history →
      ∃ happened, (f'.sendTcpCloseFrame id reason).history = happened ++ f.history ∧
        SendsAtMost f e happened := by
    intro f' id reason h
    obtain heq | heq := history_sendTcpCloseFrame f' id reason
    · exact hnone (heq.trans h)
    · exact ⟨[.sentClose id reason], heq.trans (by rw [h]), .inr (.inl ⟨id, reason, rfl⟩)⟩
  cases e with
  | setSendCallback callback => exact hnone rfl
  | call c => exact absurd rfl (he c)
  | resolved k endpoints =>
      obtain heq | ⟨c, _, _, heq | ⟨opened, heq⟩⟩ := f.resolved_cases k endpoints
      · rw [forwarderStep, heq]
        exact hnone rfl
      · rw [forwarderStep, heq]
        exact hclose _ _ rfl
      · rw [forwarderStep, heq]
        exact hnone rfl
  | nextEndpoint k opened =>
      obtain heq | heq := f.nextEndpoint_cases k opened
      · rw [forwarderStep, heq]
        exact hnone rfl
      · rw [forwarderStep, heq]
        exact hnone rfl
  | connectDone k ok =>
      obtain heq | heq | ⟨id, heq⟩ := f.connectDone_cases k ok
      · rw [forwarderStep, heq]
        exact hnone rfl
      · rw [forwarderStep, heq]
        exact hnone rfl
      · rw [forwarderStep, heq]
        exact hclose _ _ rfl
  | readDone k result =>
      obtain heq | ⟨c, hc, hreading, halive, heq | ⟨data, rfl, heq⟩⟩ := f.readDone_cases k result
      · rw [forwarderStep, heq]
        exact hnone rfl
      · rw [forwarderStep, heq, Forwarder.history_closeConnection]
        exact hclose _ _ rfl
      · rw [forwarderStep, heq]
        change ∃ happened, (Forwarder.sendTcpDataFrame _ _ _ _).history = _ ∧ _
        rw [Forwarder.sendTcpDataFrame]
        split
        · exact ⟨[.sentData c.connectionId data c.sequenceNumber], rfl,
            .inr (.inr ⟨k, c, data, rfl, hc, hreading, halive, rfl⟩)⟩
        · exact hnone rfl
  | wrote k i n =>
      obtain heq | heq := f.wrote_cases k i n
      · rw [forwarderStep, heq]
        exact hnone rfl
      · rw [forwarderStep, heq]
        exact hnone rfl
  | writeFailed k i =>
      obtain heq | heq | ⟨id, heq⟩ := f.writeFailed_cases k i
      · rw [forwarderStep, heq]
        exact hnone rfl
      · rw [forwarderStep, heq]
        exact hnone rfl
      · rw [forwarderStep, heq, Forwarder.history_closeConnection]
        exact hnone rfl

/-- A payload is taken by the connection of the entry, or by none. -/
theorem account_handleTcpData (H : f.Sound) (id : ConnectionId) (data : Bytes) (k : ℕ) :
    Forwarder.account (f.handleTcpData id data) k = Forwarder.account f k ∨
      ∃ received, Forwarder.account f k = some (id, received) ∧
        Forwarder.account (f.handleTcpData id data) k = some (id, received ++ data) := by
  have hcase : ∀ (j : ℕ) (g : TcpConnection → TcpConnection), f.connections.lookup id = some j →
      (∀ c, (g c).connectionId = c.connectionId ∧ (g c).received = c.received ++ data) →
        Forwarder.account (f.update j g) k = Forwarder.account f k ∨
          ∃ received, Forwarder.account f k = some (id, received) ∧
            Forwarder.account (f.update j g) k = some (id, received ++ data) := by
    intro j g hentry hg
    obtain ⟨c, hc, hid, _⟩ := H.entry id j hentry
    by_cases hj : j = k
    · subst hj
      exact .inr ⟨c.received, by simp [Forwarder.account, hc, hid],
        by simp [Forwarder.account, hc, hg c, hid]⟩
    · exact .inl (by simp [Forwarder.account, hj])
  obtain heq | ⟨j, hentry, heq | heq⟩ := f.handleTcpData_cases id data
  · exact .inl (by rw [heq])
  · rw [heq]
    exact hcase j _ hentry fun _ => ⟨rfl, rfl⟩
  · rw [heq]
    exact hcase j _ hentry fun _ => ⟨rfl, rfl⟩

theorem account_handleTcpOpen (id : ConnectionId) (port : UInt16) (k : ℕ) :
    Forwarder.account (f.handleTcpOpen id port) k =
      if k = f.objects.length then some (id, []) else Forwarder.account f k := by
  simp only [Forwarder.account, Forwarder.handleTcpOpen]
  by_cases hk : k = f.objects.length
  · simp [hk, TcpConnection.new]
  · rw [if_neg hk]
    by_cases hlt : k < f.objects.length
    · rw [List.getElem?_append_left hlt]
    · have hge : f.objects.length ≤ k := by omega
      have hnone : ∀ c : TcpConnection, [c][k - f.objects.length]? = none := fun c =>
        List.getElem?_eq_none (by simp; omega)
      rw [List.getElem?_append_right hge, hnone, List.getElem?_eq_none hge]

/-- Closing takes no payload. -/
theorem account_handleTcpClose (id : ConnectionId) :
    Forwarder.account (f.handleTcpClose id) = Forwarder.account f := by
  funext k
  rw [← account_closeConnection f id]
  simp only [Forwarder.account, Forwarder.handleTcpClose, Forwarder.markClosed, List.getElem?_map]
  cases (f.closeConnection id).objects[k]? with
  | none => rfl
  | some c =>
      simp only [Option.map_some]
      split <;> rfl

end

/-! ## What is on the way -/

/-- The payload of a frame from an agent under an id. -/
def Happening.payload (u : ConnectionId) : Happening → Bytes
  | .sentData id data _ => if id = u then data else []
  | _ => []

/-- The payloads under an id on their way to an agent. -/
def pendingTo (queue : List AgentSend) (tunnelId : Str) (u : ConnectionId) : Bytes :=
  (onChannel AgentSend.tunnelId tunnelId queue).flatMap (AgentSend.payload (connectionIdToString u))

/-- The payloads under an id on their way from an agent. -/
def backlog (queue : List (Str × Happening)) (tunnelId : Str) (u : ConnectionId) : Bytes :=
  (onChannel Prod.fst tunnelId queue).flatMap fun m => Happening.payload u m.2

/-- What was read on the connections with an id. -/
def readFrom (reads : List (LocalName × Bytes)) (u : ConnectionId) : Bytes :=
  reads.flatMap fun e => if e.1.connectionId = u then e.2 else []

/-- Nothing is on its way that was not sent.  An id is opened once, at one agent.  What has come
to one side, followed by what is on its way there, is a part of what was read on the other. -/
structure TcpTunnelInv (t : TcpTunnel) : Prop where
  clients : ClientsInv t.proxy
  sound : ∀ T, (t.agents T).forwarder.Sound
  queued : ∀ a ∈ t.toAgent, a ∈ t.proxy.sent ∧ AgentSend.ok a = true
  openIds : (t.opened.map LocalName.connectionId ++ t.toAgent.filterMap AgentSend.opens).Nodup
  openSent : ∀ n ∈ t.opened, ∃ a ∈ t.proxy.sent, a.opens = some n.connectionId ∧ a.tunnelId = n.tunnelId
  names : ∀ T k u received, Forwarder.account (t.agents T).forwarder k = some (u, received) →
    ⟨T, (t.agents T).session, k, u⟩ ∈ t.opened
  readers : ∀ e ∈ t.reads, e.1 ∈ t.opened
  replies : ∀ m ∈ t.toServer, ∀ u d n, m.2 = .sentData u d n → d.length ≤ readBufferSize ∧
    ∃ name ∈ t.opened, name.tunnelId = m.1 ∧ name.connectionId = u
  up : ∀ T u, (pendingTo t.toAgent T u).Sublist (handed t.proxy (connectionIdToString u))
  got : ∀ T k u received, Forwarder.account (t.agents T).forwarder k = some (u, received) →
    (received ++ pendingTo t.toAgent T u).Sublist (handed t.proxy (connectionIdToString u))
  back : ∀ T u, (backlog t.toServer T u).Sublist (readFrom t.reads u)
  down : ∀ r o u, t.proxy.objects.lookup r = some o → o.connectionId = connectionIdToString u →
    (o.accepted ++ backlog t.toServer o.tunnelId u).Sublist (readFrom t.reads u)
  accepted : ∀ r o, t.proxy.objects.lookup r = some o → o.accepted ≠ [] →
    ∃ u, o.connectionId = connectionIdToString u

theorem account_started (port : UInt16) (k : ℕ) : Forwarder.account (startedForwarder port) k = none := by
  simp [Forwarder.account, startedForwarder, Forwarder.initial]

theorem sound_started (port : UInt16) : (startedForwarder port).Sound :=
  (Forwarder.sound_initial port).of_eq rfl rfl

theorem tcpTunnelInv_init (port : Str → UInt16) : TcpTunnelInv (.init port) where
  clients := clientsInv_init
  sound := fun _ => sound_started _
  queued := by simp [TcpTunnel.init]
  openIds := by simp [TcpTunnel.init]
  openSent := by simp [TcpTunnel.init]
  names := by simp [TcpTunnel.init, account_started]
  readers := by simp [TcpTunnel.init]
  replies := by simp [TcpTunnel.init]
  up := by simp [TcpTunnel.init, pendingTo]
  got := by simp [TcpTunnel.init, account_started]
  back := by simp [TcpTunnel.init, backlog]
  down := by simp [TcpTunnel.init, TcpProxy.init]
  accepted := by simp [TcpTunnel.init, TcpProxy.init]

theorem pendingTo_append (queue more : List AgentSend) (T : Str) (u : ConnectionId) :
    pendingTo (queue ++ more) T u = pendingTo queue T u ++ pendingTo more T u := by
  simp [pendingTo]

theorem backlog_append (queue more : List (Str × Happening)) (T : Str) (u : ConnectionId) :
    backlog (queue ++ more) T u = backlog queue T u ++ backlog more T u := by
  simp [backlog]

theorem readFrom_append (reads more : List (LocalName × Bytes)) (u : ConnectionId) :
    readFrom (reads ++ more) u = readFrom reads u ++ readFrom more u := by
  simp [readFrom]

theorem pendingTo_sublist {queue queue' : List AgentSend} (h : queue.Sublist queue') (T : Str)
    (u : ConnectionId) : (pendingTo queue T u).Sublist (pendingTo queue' T u) :=
  (h.filter _).flatMap _

theorem backlog_sublist {queue queue' : List (Str × Happening)} (h : queue.Sublist queue') (T : Str)
    (u : ConnectionId) : (backlog queue T u).Sublist (backlog queue' T u) :=
  (h.filter _).flatMap _

section
variable {t : TcpTunnel}

/-! ## Losses -/

/-- Frames are lost. -/
theorem TcpTunnelInv.lose (H : TcpTunnelInv t) {toAgent : List AgentSend}
    {toServer : List (Str × Happening)} (hto : toAgent.Sublist t.toAgent)
    (hback : toServer.Sublist t.toServer) : TcpTunnelInv { t with toAgent, toServer } where
  clients := H.clients
  sound := H.sound
  queued := fun a ha => H.queued a (hto.subset ha)
  openIds := H.openIds.sublist ((List.Sublist.refl _).append (hto.filterMap _))
  openSent := H.openSent
  names := H.names
  readers := H.readers
  replies := fun m hm => H.replies m (hback.subset hm)
  up := fun T u => (pendingTo_sublist hto T u).trans (H.up T u)
  got := fun T k u received hk =>
    ((List.Sublist.refl _).append (pendingTo_sublist hto T u)).trans (H.got T k u received hk)
  back := fun T u => (backlog_sublist hback T u).trans (H.back T u)
  down := fun r o u ho hid =>
    ((List.Sublist.refl _).append (backlog_sublist hback _ u)).trans (H.down r o u ho hid)
  accepted := H.accepted

/-- Another forwarder, with connections that are accounted for. -/
theorem TcpTunnelInv.setAgent (H : TcpTunnelInv t) {T : Str} {a : AgentSide}
    (hsound : a.forwarder.Sound)
    (hnames : ∀ k u received, Forwarder.account a.forwarder k = some (u, received) →
      ⟨T, a.session, k, u⟩ ∈ t.opened)
    (hgot : ∀ k u received, Forwarder.account a.forwarder k = some (u, received) →
      (received ++ pendingTo t.toAgent T u).Sublist (handed t.proxy (connectionIdToString u))) :
    TcpTunnelInv (t.setAgent T a) := by
  have hagents : ∀ T', (t.setAgent T a).agents T' = if T' = T then a else t.agents T' := by
    intro T'
    simp [TcpTunnel.setAgent, Function.update_apply]
  refine ⟨H.clients, fun T' => ?_, H.queued, H.openIds, H.openSent, fun T' k u received hk => ?_,
    H.readers, H.replies, H.up, fun T' k u received hk => ?_, H.back, H.down, H.accepted⟩
  · rw [hagents]
    split
    · exact hsound
    · exact H.sound T'
  · rw [hagents] at hk ⊢
    split at hk
    · rename_i hT
      rw [if_pos hT, hT]
      exact hnames k u received hk
    · rename_i hT
      rw [if_neg hT]
      exact H.names T' k u received hk
  · rw [hagents] at hk
    split at hk
    · rename_i hT
      rw [hT]
      exact hgot k u received hk
    · exact H.got T' k u received hk

theorem TcpTunnelInv.restart (H : TcpTunnelInv t) (T : Str) (port : UInt16) :
    TcpTunnelInv (t.restart T port) := by
  have hlost := H.lose (List.filter_sublist (p := fun a => a.tunnelId ≠ T) (l := t.toAgent))
    (List.filter_sublist (p := fun m => m.1 ≠ T) (l := t.toServer))
  refine hlost.setAgent (T := T) (a := ⟨(t.agents T).session + 1, startedForwarder port⟩)
    (sound_started port) ?_ ?_
  · intro k u received hk
    rw [account_started] at hk
    cases hk
  · intro k u received hk
    rw [account_started] at hk
    cases hk

theorem TcpTunnelInv.loseToAgent (H : TcpTunnelInv t) (T : Str) : TcpTunnelInv (t.loseToAgent T) := by
  rw [TcpTunnel.loseToAgent]
  split
  · exact H
  · rename_i hreceive
    exact H.lose (sublist_of_receive hreceive) (List.Sublist.refl _)

theorem TcpTunnelInv.loseToServer (H : TcpTunnelInv t) (T : Str) : TcpTunnelInv (t.loseToServer T) := by
  rw [TcpTunnel.loseToServer]
  split
  · exact H
  · rename_i hreceive
    exact H.lose (List.Sublist.refl _) (sublist_of_receive hreceive)

/-! ## Steps of the proxy -/

/-- Of the frames that go out, the payloads on one channel are among those handed over. -/
theorem pendingTo_filter_sublist (extra : List AgentSend) (T : Str) (u : ConnectionId) :
    (pendingTo (extra.filter AgentSend.ok) T u).Sublist
      (extra.flatMap (AgentSend.payload (connectionIdToString u))) :=
  ((List.filter_sublist.trans List.filter_sublist).flatMap _)

/-- The ids that frames on their way open have been sent. -/
theorem TcpTunnelInv.opens_sent (H : TcpTunnelInv t) {u : ConnectionId}
    (hu : u ∈ t.opened.map LocalName.connectionId ++ t.toAgent.filterMap AgentSend.opens) :
    u ∈ t.proxy.sent.filterMap AgentSend.opens := by
  rw [List.mem_append] at hu
  rw [List.mem_filterMap]
  obtain hu | hu := hu
  · obtain ⟨n, hn, rfl⟩ := List.mem_map.mp hu
    obtain ⟨a, ha, hopens, _⟩ := H.openSent n hn
    exact ⟨a, ha, hopens⟩
  · obtain ⟨a, ha, hopens⟩ := List.mem_filterMap.mp hu
    exact ⟨a, (H.queued a ha).1, hopens⟩

/-- The proxy after a step, with the frames it has sent on their way. -/
def TcpTunnel.advance (t : TcpTunnel) (proxy : TcpProxy) : TcpTunnel :=
  { t with
    proxy
    toAgent := t.toAgent ++ (proxy.sent.drop t.proxy.sent.length).filter AgentSend.ok }

theorem TcpTunnelInv.advance (H : TcpTunnelInv t) {proxy : TcpProxy} (hclients : ClientsInv proxy)
    (hsent : t.proxy.sent <+: proxy.sent)
    (hdown : ∀ r o u, proxy.objects.lookup r = some o → o.connectionId = connectionIdToString u →
      (o.accepted ++ backlog t.toServer o.tunnelId u).Sublist (readFrom t.reads u))
    (haccepted : ∀ r o, proxy.objects.lookup r = some o → o.accepted ≠ [] →
      ∃ u, o.connectionId = connectionIdToString u) : TcpTunnelInv (t.advance proxy) := by
  obtain ⟨extra, hextra⟩ := hsent
  have hmore : proxy.sent.drop t.proxy.sent.length = extra := by rw [← hextra, List.drop_left]
  have hhanded : ∀ id, handed proxy id = handed t.proxy id ++ extra.flatMap (AgentSend.payload id) := by
    intro id
    rw [handed, handed, ← hextra, List.flatMap_append]
  have hold : ∀ a ∈ t.proxy.sent, a ∈ proxy.sent := fun a ha => hextra ▸ List.mem_append_left _ ha
  have hopens := hclients.opens
  rw [← hextra, List.filterMap_append, List.nodup_append] at hopens
  simp only [TcpTunnel.advance, hmore]
  refine ⟨hclients, H.sound, ?_, ?_, ?_, H.names, H.readers, H.replies, ?_, ?_, H.back, hdown, haccepted⟩
  · intro a ha
    obtain ha | ha := List.mem_append.mp ha
    · exact ⟨hold a (H.queued a ha).1, (H.queued a ha).2⟩
    · obtain ⟨ha, hok⟩ := List.mem_filter.mp ha
      exact ⟨hextra ▸ List.mem_append_right _ ha, hok⟩
  · rw [List.filterMap_append, ← List.append_assoc]
    refine List.Nodup.append H.openIds (hopens.2.1.sublist (List.filter_sublist.filterMap _)) ?_
    intro u hu hnew
    have hfirst := H.opens_sent hu
    exact hopens.2.2 u hfirst u ((List.filter_sublist.filterMap _).subset hnew) rfl
  · intro n hn
    obtain ⟨a, ha, hopen, htunnel⟩ := H.openSent n hn
    exact ⟨a, hold a ha, hopen, htunnel⟩
  · intro T u
    rw [pendingTo_append, hhanded]
    exact (H.up T u).append (pendingTo_filter_sublist extra T u)
  · intro T k u received hk
    rw [pendingTo_append, hhanded, ← List.append_assoc]
    exact (H.got T k u received hk).append (pendingTo_filter_sublist extra T u)

theorem TcpTunnelInv.serve (H : TcpTunnelInv t) (allows : List Str → Str → Bool) {e : Event}
    (he : NewIds t.proxy e) (hlocal : ∀ frame agent, e ≠ .agentFrame frame agent) :
    TcpTunnelInv (t.serve allows e) := by
  have hclients := clientsInv_step allows t.proxy e H.clients he
  have hevolves := evolves_step allows t.proxy e hlocal
  refine H.advance hclients hevolves.sent ?_ ?_
  · intro r o u ho hid
    obtain hnone | ⟨d, hd, hconnection, htunnel, haccepted⟩ := hevolves.back r o ho
    · rw [hnone]
      exact H.back o.tunnelId u
    · rw [haccepted, htunnel]
      exact H.down r d u hd (hconnection ▸ hid)
  · intro r o ho hne
    obtain hnone | ⟨d, hd, hconnection, _, haccepted⟩ := hevolves.back r o ho
    · exact absurd hnone hne
    · rw [hconnection]
      exact H.accepted r d hd (haccepted ▸ hne)

/-! ## Frames from an agent -/

/-- The connection with an id belongs to the tunnel whose agent opened the id. -/
theorem TcpTunnelInv.tunnelId_eq (H : TcpTunnelInv t) {n : LocalName} (hn : n ∈ t.opened) :
    ∃ r o, t.proxy.objects.lookup r = some o ∧ o.connectionId = connectionIdToString n.connectionId ∧
      o.tunnelId = n.tunnelId ∧ ∀ r' o', t.proxy.objects.lookup r' = some o' →
        o'.connectionId = o.connectionId → r' = r ∧ o' = o := by
  obtain ⟨a, ha, hopens, htunnel⟩ := H.openSent n hn
  have huuid : a.uuid = some n.connectionId := by
    cases a with
    | tcpOpen T id frame ok => exact hopens
    | _ => cases hopens
  obtain ⟨_, r, o, ho, hid, hsame⟩ := H.clients.senders a ha n.connectionId huuid
  refine ⟨r, o, ho, hid, hsame.trans htunnel, fun r' o' ho' hid' => ?_⟩
  have hne : o'.connectionId ≠ [] := by
    rw [hid', hid]
    exact connectionIdToString_ne_nil _
  obtain rfl := H.clients.one r' r o' o ho' ho hid' hne
  exact ⟨rfl, Option.some.inj (ho'.symm.trans ho)⟩

theorem decodeAgentFrame_close (order : ByteOrder) (id : ConnectionId) (reason : UInt16) (id' : Str)
    (data : Bytes) (length : ℕ) :
    decodeAgentFrame (sendTcpCloseFrame order id reason) ≠ some (.data id' data length) := by
  intro h
  have hhead : (sendTcpCloseFrame order id reason).headD 0 = 0x12 := rfl
  simp only [decodeAgentFrame, hhead] at h
  split at h
  · cases h
  · split at h
    · cases h
    · simp at h

/-- What a frame from an agent adds to the bytes accepted. -/
theorem accepted_agentFrame (H : TcpTunnelInv t) {T : Str} {h : Happening} (hmem : (T, h) ∈ t.toServer)
    {order : ByteOrder} {frame : Bytes} (hframe : Happening.bytes order h = some frame) (agent : Bool)
    {r : ℕ} {o : Connection} (ho : (handleAgentTcpFrame t.proxy frame agent).objects.lookup r = some o) :
    o.accepted = [] ∨ ∃ d, t.proxy.objects.lookup r = some d ∧ o.connectionId = d.connectionId ∧
      o.tunnelId = d.tunnelId ∧ (o.accepted = d.accepted ∨
        ∃ u n data, h = .sentData u data n ∧ d.connectionId = connectionIdToString u ∧
          o.accepted = d.accepted ++ data) := by
  cases h with
  | opened id => cases hframe
  | queued id data => cases hframe
  | sentClose id reason =>
      obtain rfl := Option.some.inj hframe
      have hevolves := evolves_agentFrame t.proxy agent (decodeAgentFrame_close order id reason)
      obtain hnone | ⟨d, hd, hid, htunnel, haccepted⟩ := hevolves.back r o ho
      · exact .inl hnone
      · exact .inr ⟨d, hd, hid, htunnel, .inl haccepted⟩
  | sentData u data n =>
      obtain rfl := Option.some.inj hframe
      have hsmall : data.length ≤ readBufferSize := (H.replies _ hmem u data n rfl).1
      have hdecode := (Agreement.tcpData_agrees order u n data (hsmall.trans (by decide))).2
      obtain ⟨d, hd, hid, htunnel, hsame | ⟨hu, hmore⟩⟩ := agentFrame_data H.clients agent hdecode ho
      · exact .inr ⟨d, hd, hid, htunnel, .inl hsame⟩
      · exact .inr ⟨d, hd, hid, htunnel, .inr ⟨u, n, data, rfl, hu, hmore⟩⟩

theorem backlog_receive {queue rest : List (Str × Happening)} {T T' : Str} {h : Happening}
    (hreceive : receive Prod.fst T queue = some ((T', h), rest)) (u : ConnectionId) :
    backlog queue T u = Happening.payload u h ++ backlog rest T u := by
  obtain ⟨hkey, hnext⟩ := onChannel_receive hreceive
  rw [backlog, hnext, List.flatMap_cons]
  rfl

/-- Every frame from an agent is taken for one by its first byte. -/
theorem isTcpRead_bytes {order : ByteOrder} {h : Happening} {frame : Bytes}
    (hframe : Happening.bytes order h = some frame) : Agent.isTcpRead frame = true := by
  cases h with
  | opened id => cases hframe
  | queued id data => cases hframe
  | sentData u data n =>
      obtain rfl := Option.some.inj hframe
      rfl
  | sentClose id reason =>
      obtain rfl := Option.some.inj hframe
      rfl

theorem TcpTunnelInv.toServerArrives (H : TcpTunnelInv t) (allows : List Str → Str → Bool)
    {order : ByteOrder} {T : Str} (agent : Bool) {data : Bytes}
    (hdata : t.nextToServer order T = some data) :
    TcpTunnelInv (t.toServerArrives allows T agent data) := by
  rw [TcpTunnel.toServerArrives]
  split
  · exact H
  · rename_i m toServer hreceive
    obtain ⟨T', h⟩ := m
    rw [TcpTunnel.nextToServer, hreceive, Option.bind_some] at hdata
    have hlost := H.lose (List.Sublist.refl t.toAgent) (sublist_of_receive hreceive)
    obtain ⟨hkey, _⟩ := onChannel_receive hreceive
    obtain rfl : T' = T := hkey
    have hmem : (T', h) ∈ t.toServer := (perm_of_receive hreceive).mem_iff.mpr List.mem_cons_self
    split
    · have hclients := clientsInv_step allows t.proxy (.agentFrame data agent) H.clients trivial
      obtain ⟨extra, hextra, _⟩ := sent_agentFrame (p := t.proxy) data agent
      have hsent : t.proxy.sent <+: (step allows t.proxy (.agentFrame data agent)).sent := ⟨extra, hextra.symm⟩
      refine hlost.advance hclients hsent ?_ ?_
      · intro r o u ho hid
        obtain hnone | ⟨d, hd, hconnection, htunnel, hsame | ⟨v, n, payload, rfl, hv, hmore⟩⟩ :=
          accepted_agentFrame H hmem hdata agent ho
        · rw [hnone]
          exact hlost.back o.tunnelId u
        · rw [hsame, htunnel]
          exact hlost.down r d u hd (hconnection ▸ hid)
        · -- the frame is from the agent of this connection's tunnel
          obtain rfl : u = v := connectionIdToString_inj (hid.symm.trans (hconnection.trans hv))
          obtain ⟨name, hname, hT, rfl⟩ := (H.replies _ hmem u payload n rfl).2
          obtain ⟨r', o', _, hid', htunnel', hone⟩ := H.tunnelId_eq hname
          obtain ⟨_, rfl⟩ := hone r d hd (hv.trans hid'.symm)
          have hdown := H.down r d name.connectionId hd hv
          rw [htunnel', hT] at hdown
          rw [hmore, htunnel, htunnel', hT, List.append_assoc]
          have hnext := backlog_receive hreceive name.connectionId
          rw [Happening.payload, if_pos rfl] at hnext
          rw [← hnext]
          exact hdown
      · intro r o ho hne
        obtain hnone | ⟨d, hd, hconnection, _, hsame | ⟨v, n, data, _, hv, _⟩⟩ :=
          accepted_agentFrame H hmem hdata agent ho
        · exact absurd hnone hne
        · rw [hconnection]
          exact H.accepted r d hd (hsame ▸ hne)
        · exact ⟨v, hconnection.trans hv⟩
    · rename_i hother
      exact absurd (isTcpRead_bytes hdata) hother

/-! ## Frames for an agent -/

theorem forwarderCall_open (order : ByteOrder) (T id : Str) (frame : TCPOpenFrame) (ok : Bool) :
    forwarderCall (AgentSend.bytes order (.tcpOpen T id frame ok)) =
      some (.tcpOpen frame.connectionId (TcpProtocol.hton16 order frame.targetPort)) :=
  (Agreement.delivers_open order
    { connectionId := frame.connectionId, targetPort := frame.targetPort } rfl).1

theorem forwarderCall_data (order : ByteOrder) (T id : Str) {frame : TCPDataFrame} (ok : Bool)
    (hsmall : frame.data.length ≤ readBufferSize) :
    forwarderCall (AgentSend.bytes order (.tcpData T id frame ok)) =
      some (.tcpData frame.connectionId frame.data) :=
  (Agreement.tcpData_agrees order frame.connectionId frame.sequenceNumber frame.data
    (hsmall.trans (by decide))).1.2

/-- `send_tcp_close` sends a TCP_CLOSE frame for some id. -/
theorem forwarderCall_close (order : ByteOrder) (T id : Str) :
    ∃ u, forwarderCall (AgentSend.bytes order (.tcpClose T id)) = some (.tcpClose u) := by
  have hfit : PayloadFits (.tcpClose (closedId id) 0) := by simp [PayloadFits, TcpFrame.payload]
  exact ⟨closedId id, Agreement.forwarderCall_bytes hfit⟩

/-- A frame of its own is taken as one. -/
theorem classify_delivers {frame : Bytes} {call : ForwarderCall} (h : Agreement.Delivers frame call) :
    classify frame = ([frame], []) := by
  have hall := h.2 [] (by simp)
  rw [List.flatten_nil, List.append_nil] at hall
  rw [classify_eq, hall]

theorem classify_bytes (order : ByteOrder) {a : AgentSend}
    (hsmall : ∀ T id frame ok, a = .tcpData T id frame ok → frame.data.length ≤ readBufferSize) :
    classify (AgentSend.bytes order a) = ([AgentSend.bytes order a], []) := by
  cases a with
  | tcpOpen T id frame ok =>
      exact classify_delivers (Agreement.delivers_open order
        { connectionId := frame.connectionId, targetPort := frame.targetPort } rfl)
  | tcpData T id frame ok =>
      rw [classify_eq]
      exact (Agreement.tcpData_agrees order frame.connectionId frame.sequenceNumber frame.data
        ((hsmall T id frame ok rfl).trans (by decide))).1.1
  | tcpClose T id =>
      have hfit : PayloadFits (.tcpClose (closedId id) 0) := by simp [PayloadFits, TcpFrame.payload]
      exact classify_delivers (Agreement.delivers_bytes hfit rfl)

theorem pendingTo_receive {queue rest : List AgentSend} {T : Str} {a : AgentSend}
    (hreceive : receive AgentSend.tunnelId T queue = some (a, rest)) (u : ConnectionId) :
    pendingTo queue T u = a.payload (connectionIdToString u) ++ pendingTo rest T u := by
  obtain ⟨_, hnext⟩ := onChannel_receive hreceive
  rw [pendingTo, hnext, List.flatMap_cons]
  rfl

/-- A connection that an agent makes. -/
theorem TcpTunnelInv.open (H : TcpTunnelInv t) {T T' id : Str} {frame : TCPOpenFrame} {ok : Bool}
    {rest : List AgentSend}
    (hreceive : receive AgentSend.tunnelId T t.toAgent = some (.tcpOpen T' id frame ok, rest)) :
    TcpTunnelInv { t with
      toAgent := rest
      opened := t.opened ++ [⟨T, (t.agents T).session, (t.agents T).forwarder.objects.length,
        frame.connectionId⟩] } := by
  have hlost := H.lose (sublist_of_receive hreceive) (List.Sublist.refl t.toServer)
  obtain ⟨hkey, _⟩ := onChannel_receive hreceive
  have hperm := perm_of_receive hreceive
  have hmem : AgentSend.tcpOpen T' id frame ok ∈ t.toAgent := hperm.mem_iff.mpr List.mem_cons_self
  refine ⟨hlost.clients, hlost.sound, hlost.queued, ?_, ?_, ?_, ?_, ?_, hlost.up, hlost.got, hlost.back,
    hlost.down, hlost.accepted⟩
  · have hids : (t.opened.map LocalName.connectionId ++ t.toAgent.filterMap AgentSend.opens).Perm
        (t.opened.map LocalName.connectionId ++ (frame.connectionId :: rest.filterMap AgentSend.opens)) :=
      (hperm.filterMap _).append_left _
    have hnodup := hids.nodup_iff.mp H.openIds
    simpa using hnodup
  · intro n hn
    obtain hn | hn := List.mem_append.mp hn
    · exact H.openSent n hn
    · rw [List.mem_singleton.mp hn]
      exact ⟨_, (H.queued _ hmem).1, rfl, hkey⟩
  · exact fun T k u received hk => List.mem_append_left _ (H.names T k u received hk)
  · exact fun e he => List.mem_append_left _ (H.readers e he)
  · intro m hm u d n heq
    obtain ⟨hsmall, name, hname, hsame⟩ := H.replies m hm u d n heq
    exact ⟨hsmall, name, List.mem_append_left _ hname, hsame⟩

theorem TcpTunnelInv.toAgentArrives (H : TcpTunnelInv t) {order : ByteOrder} {T : Str} {data : Bytes}
    (hdata : t.nextToAgent order T = some data) : TcpTunnelInv (t.toAgentArrives T data) := by
  rw [TcpTunnel.toAgentArrives]
  split
  · exact H
  · rename_i a rest hreceive
    rw [TcpTunnel.nextToAgent, hreceive, Option.map_some, Option.some.injEq] at hdata
    subst hdata
    have hlost := H.lose (sublist_of_receive hreceive) (List.Sublist.refl t.toServer)
    have hmem : a ∈ t.toAgent := (perm_of_receive hreceive).mem_iff.mpr List.mem_cons_self
    obtain ⟨hsent, hok⟩ := H.queued a hmem
    have hone : classify (AgentSend.bytes order a) = ([AgentSend.bytes order a], []) := by
      apply classify_bytes
      rintro T' id frame ok rfl
      exact H.clients.small _ hsent
    simp only [hone, List.foldl_cons, List.foldl_nil, TcpTunnel.handleFrame]
    cases a with
    | tcpOpen T' id frame ok =>
        simp only [forwarderCall_open]
        have hopen := H.open hreceive
        refine hopen.setAgent (T := T)
          ((H.sound T).handleTcpOpen frame.connectionId (TcpProtocol.hton16 order frame.targetPort)) ?_ ?_
        · intro k u received hk
          rw [account_handleTcpOpen] at hk
          split at hk
          · rename_i hnew
            obtain ⟨rfl, _⟩ := Prod.mk.inj (Option.some.inj hk)
            rw [hnew]
            exact List.mem_append_right _ List.mem_cons_self
          · exact hopen.names T k u received hk
        · intro k u received hk
          rw [account_handleTcpOpen] at hk
          split at hk
          · obtain ⟨rfl, rfl⟩ := Prod.mk.inj (Option.some.inj hk)
            exact hopen.up T _
          · exact hopen.got T k u received hk
    | tcpData T' id frame ok =>
        have hsmall : frame.data.length ≤ readBufferSize := H.clients.small _ hsent
        simp only [forwarderCall_data order T' id ok hsmall]
        obtain rfl : ok = true := hok
        have hid : id = connectionIdToString frame.connectionId :=
          (H.clients.senders _ hsent frame.connectionId rfl).1
        have hcases := account_handleTcpData (t.agents T).forwarder (H.sound T) frame.connectionId frame.data
        refine hlost.setAgent (T := T) ((H.sound T).call (.tcpData frame.connectionId frame.data)) ?_ ?_
        · intro k u received hk
          replace hk : Forwarder.account ((t.agents T).forwarder.handleTcpData frame.connectionId frame.data)
            k = some (u, received) := hk
          obtain hsame | ⟨before, hbefore, hafter⟩ := hcases k
          · exact H.names T k u received (hsame ▸ hk)
          · obtain ⟨rfl, _⟩ := Prod.mk.inj (Option.some.inj (hafter.symm.trans hk))
            exact H.names T k _ before hbefore
        · intro k u received hk
          replace hk : Forwarder.account ((t.agents T).forwarder.handleTcpData frame.connectionId frame.data)
            k = some (u, received) := hk
          obtain hsame | ⟨before, hbefore, hafter⟩ := hcases k
          · exact hlost.got T k u received (hsame ▸ hk)
          · -- the payload moves from the frames on their way to those taken
            obtain ⟨rfl, rfl⟩ := Prod.mk.inj (Option.some.inj (hafter.symm.trans hk))
            have hgot := H.got T k frame.connectionId before hbefore
            rw [pendingTo_receive hreceive] at hgot
            simpa [AgentSend.payload, hid, List.append_assoc] using hgot
    | tcpClose T' id =>
        obtain ⟨u, hcall⟩ := forwarderCall_close order T' id
        simp only [hcall]
        have hsame : Forwarder.account ((t.agents T).forwarder.call (.tcpClose u)) =
            Forwarder.account (t.agents T).forwarder := account_handleTcpClose _ u
        refine hlost.setAgent (T := T) ((H.sound T).call (.tcpClose u)) ?_ ?_
        · intro k v received hk
          exact H.names T k v received (hsame ▸ hk)
        · intro k v received hk
          exact hlost.got T k v received (hsame ▸ hk)

/-! ## Steps of an agent -/

/-- More is read, and some of it goes out. -/
theorem TcpTunnelInv.exchange (H : TcpTunnelInv t) {out : List (Str × Happening)}
    {more : List (LocalName × Bytes)} (hreaders : ∀ e ∈ more, e.1 ∈ t.opened)
    (hreplies : ∀ m ∈ out, ∀ u d n, m.2 = .sentData u d n → d.length ≤ readBufferSize ∧
      ∃ name ∈ t.opened, name.tunnelId = m.1 ∧ name.connectionId = u)
    (hflow : ∀ T u, (backlog out T u).Sublist (readFrom more u)) :
    TcpTunnelInv { t with toServer := t.toServer ++ out, reads := t.reads ++ more } where
  clients := H.clients
  sound := H.sound
  queued := H.queued
  openIds := H.openIds
  openSent := H.openSent
  names := H.names
  readers := by
    intro e he
    obtain he | he := List.mem_append.mp he
    · exact H.readers e he
    · exact hreaders e he
  replies := by
    intro m hm
    obtain hm | hm := List.mem_append.mp hm
    · exact H.replies m hm
    · exact hreplies m hm
  up := H.up
  got := H.got
  back := by
    intro T u
    rw [backlog_append, readFrom_append]
    exact (H.back T u).append (hflow T u)
  down := by
    intro r o u ho hid
    rw [backlog_append, readFrom_append, ← List.append_assoc]
    exact (H.down r o u ho hid).append (hflow o.tunnelId u)
  accepted := H.accepted

/-- What goes out is what is read, or nothing. -/
theorem backlog_sublist_readBy {T : Str} {side : AgentSide} {e : ForwarderEvent}
    {happened : List Happening} (h : SendsAtMost side.forwarder e happened) (T' : Str) (u : ConnectionId) :
    (backlog (happened.reverse.map fun h => (T, h)) T' u).Sublist
      (readFrom (TcpTunnel.readBy T side e) u) := by
  obtain rfl | ⟨id, reason, rfl⟩ | ⟨k, c, data, rfl, hc, hreading, halive, rfl⟩ := h
  · exact List.nil_sublist _
  · have hnone : backlog ([.sentClose id reason].reverse.map fun h => (T, h)) T' u = [] := by
      simp [backlog, onChannel, Happening.payload, List.filter_cons]
    rw [hnone]
    exact List.nil_sublist _
  · have hread : TcpTunnel.readBy T side (.readDone k (some data)) =
        [(⟨T, side.session, k, c.connectionId⟩, data)] := by
      simp [TcpTunnel.readBy, hc, hreading, halive]
    rw [hread]
    simp only [List.reverse_singleton, List.map_cons, List.map_nil, backlog, onChannel_cons, onChannel_nil,
      readFrom, List.flatMap_singleton]
    by_cases hT : T = T'
    · simp [hT, Happening.payload]
    · simp [hT]

theorem TcpTunnelInv.agentStep (H : TcpTunnelInv t) (T : Str) {e : ForwarderEvent}
    (hcall : ∀ c, e ≠ .call c)
    (hsmall : ∀ k data, e = .readDone k (some data) → data.length ≤ readBufferSize) :
    TcpTunnelInv (t.agentStep T e) := by
  obtain ⟨happened, hhistory, hsends⟩ := history_local (t.agents T).forwarder hcall
  have htake : (forwarderStep (t.agents T).forwarder e).history.take
      ((forwarderStep (t.agents T).forwarder e).history.length -
        (t.agents T).forwarder.history.length) = happened := by
    rw [hhistory, List.length_append, Nat.add_sub_cancel, List.take_left]
  have haccount := account_local (t.agents T).forwarder hcall
  have hset : TcpTunnelInv (t.setAgent T { t.agents T with
      forwarder := forwarderStep (t.agents T).forwarder e }) := by
    refine H.setAgent (sound_step _ e (H.sound T)) ?_ ?_
    · exact fun k u received hk => H.names T k u received (haccount ▸ hk)
    · exact fun k u received hk => H.got T k u received (haccount ▸ hk)
  have hname : ∀ k c, (t.agents T).forwarder.objects[k]? = some c →
      ⟨T, (t.agents T).session, k, c.connectionId⟩ ∈ t.opened := by
    intro k c hc
    exact H.names T k c.connectionId c.received (by simp [Forwarder.account, hc])
  simp only [TcpTunnel.agentStep, htake]
  refine hset.exchange ?_ ?_ (backlog_sublist_readBy hsends)
  · intro entry hentry
    cases e with
    | readDone k result =>
        cases result with
        | none => cases hentry
        | some data =>
            simp only [TcpTunnel.readBy] at hentry
            split at hentry
            · cases hentry
            · rename_i c hc
              split at hentry
              · rw [List.mem_singleton.mp hentry]
                exact hname k c hc
              · cases hentry
    | _ => cases hentry
  · intro m hm u d n heq
    obtain ⟨h, hh, rfl⟩ := List.mem_map.mp hm
    rw [List.mem_reverse] at hh
    obtain rfl | ⟨id, reason, rfl⟩ | ⟨k, c, data, rfl, hc, _, _, rfl⟩ := hsends
    · cases hh
    · rw [List.mem_singleton.mp hh] at heq
      cases heq
    · rw [List.mem_singleton.mp hh] at heq
      cases heq
      exact ⟨hsmall k _ rfl, _, hname k c hc, rfl, rfl⟩

/-! ## Runs -/

theorem tcpTunnelInv_step (allows : List Str → Str → Bool) (order : ByteOrder) (t : TcpTunnel)
    (e : TcpTunnelEvent) (H : TcpTunnelInv t) (he : Proper order t e) :
    TcpTunnelInv (tcpTunnelStep allows t e) := by
  cases e with
  | proxy e =>
      cases e with
      | agentFrame frame agent => exact he.elim
      | _ => exact H.serve allows he (by simp)
  | agent T e =>
      cases e with
      | call c => exact he.elim
      | readDone k result =>
          refine H.agentStep T (by simp) fun k' data heq => ?_
          cases heq
          exact he
      | _ => exact H.agentStep T (by simp) (by simp)
  | toAgent T data => exact H.toAgentArrives he.1
  | toServer T agent data => exact H.toServerArrives allows agent he.1
  | restart T port => exact H.restart T port
  | loseToAgent T => exact H.loseToAgent T
  | loseToServer T => exact H.loseToServer T

/-! ## The two directions -/

/-- A connection of an agent belongs to one client of its tunnel, and has taken a part of what
was read from this client, in order. -/
def Upstream (t : TcpTunnel) : Prop :=
  ∀ (T : Str) (k : ℕ) (c : TcpConnection), (t.agents T).forwarder.objects[k]? = some c →
    ∃ (r : ℕ) (o : Connection), t.proxy.objects.lookup r = some o ∧
    o.connectionId = connectionIdToString c.connectionId ∧ o.tunnelId = T ∧
      (∀ r' o', t.proxy.objects.lookup r' = some o' → o'.connectionId = o.connectionId → r' = r) ∧
      c.received.Sublist o.read

/-- A client's connection for which something was accepted belongs to one connection that an
agent of its tunnel made, and has been given a part of what was read on it, in order. -/
def Downstream (t : TcpTunnel) : Prop :=
  ∀ (r : ℕ) (o : Connection), t.proxy.objects.lookup r = some o → o.accepted ≠ [] → ∃ n ∈ t.opened,
    o.connectionId = connectionIdToString n.connectionId ∧ n.tunnelId = o.tunnelId ∧
      (∀ n' ∈ t.opened, n'.connectionId = n.connectionId → n' = n) ∧
      o.accepted.Sublist ((t.reads.filter fun e => e.1 = n).flatMap Prod.snd)

/-- Where an id belongs to one connection, what was read with the id was read on it. -/
theorem readFrom_eq {n : LocalName} {reads : List (LocalName × Bytes)}
    (h : ∀ e ∈ reads, e.1.connectionId = n.connectionId ↔ e.1 = n) :
    readFrom reads n.connectionId = (reads.filter fun e => e.1 = n).flatMap Prod.snd := by
  induction reads with
  | nil => rfl
  | cons e reads ih =>
      have hrest := ih fun e' he' => h e' (List.mem_cons_of_mem _ he')
      rw [readFrom] at hrest
      rw [readFrom, List.flatMap_cons, hrest]
      by_cases heq : e.1 = n
      · simp [heq]
      · have hother : e.1.connectionId ≠ n.connectionId := fun hid => heq ((h e List.mem_cons_self).mp hid)
        simp [heq, hother]

theorem TcpTunnelInv.upstream (H : TcpTunnelInv t) : Upstream t := by
  intro T k c hc
  have haccount : Forwarder.account (t.agents T).forwarder k = some (c.connectionId, c.received) := by
    simp [Forwarder.account, hc]
  obtain ⟨r, o, ho, hid, htunnel, hone⟩ := H.tunnelId_eq (H.names T k _ _ haccount)
  refine ⟨r, o, ho, hid, htunnel, fun r' o' ho' hid' => (hone r' o' ho' hid').1, ?_⟩
  have hgot : c.received.Sublist (handed t.proxy (connectionIdToString c.connectionId)) :=
    (List.sublist_append_left _ _).trans (H.got T k _ _ haccount)
  rw [← hid] at hgot
  exact hgot.trans (H.clients.read r o ho)

theorem TcpTunnelInv.downstream (H : TcpTunnelInv t) : Downstream t := by
  intro r o ho hne
  obtain ⟨u, hid⟩ := H.accepted r o ho hne
  have hpart : o.accepted.Sublist (readFrom t.reads u) :=
    (List.sublist_append_left _ _).trans (H.down r o u ho hid)
  -- something was read, so there is a connection with this id, and only one
  obtain ⟨b, hb⟩ := List.exists_mem_of_ne_nil _ hne
  obtain ⟨e, he, hmem⟩ := List.mem_flatMap.mp (hpart.subset hb)
  obtain rfl : e.1.connectionId = u := by
    by_contra hother
    simp [hother] at hmem
  have hunique : ∀ n ∈ t.opened, n.connectionId = e.1.connectionId → n = e.1 := by
    intro n hn hsame
    have hnodup := (List.nodup_append.mp H.openIds).1
    exact List.inj_on_of_nodup_map hnodup hn (H.readers e he) hsame
  obtain ⟨r', o', _, hid', htunnel, hone⟩ := H.tunnelId_eq (H.readers e he)
  obtain ⟨_, rfl⟩ := hone r o ho (hid.trans hid'.symm)
  refine ⟨e.1, H.readers e he, hid, htunnel.symm, hunique, ?_⟩
  have hsame : readFrom t.reads e.1.connectionId =
      (t.reads.filter fun e' => e'.1 = e.1).flatMap Prod.snd := by
    apply readFrom_eq
    intro e' he'
    exact ⟨hunique e'.1 (H.readers e' he'), fun h => by rw [h]⟩
  rw [← hsame]
  exact hpart

end

/-- The frames of a connection of `sampleEnv`. -/
def sampleOpened : Bytes :=
  TcpProtocol.TCPOpenFrame.serialize .little { connectionId := sampleEnv.uuid, targetPort := 0 }

def sampleSent : Bytes :=
  TcpProtocol.TCPDataFrame.serialize { connectionId := sampleEnv.uuid, sequenceNumber := 0, data := [0x41] }

def sampleReceived : Bytes := sendTcpDataFrame .little sampleEnv.uuid [0x42] 0

/-- A client connects and sends a byte, the agent answers with another one and connects again,
and a second byte of the client is lost. -/
def sampleTcpTunnel : List TcpTunnelEvent :=
  [.proxy (.create sampleEnv "db".toList), .toAgent "db".toList sampleOpened,
    .proxy (.clientRead 0 [0x41] (some true)), .toAgent "db".toList sampleSent,
    .agent "db".toList (.resolved 0 (some true)), .agent "db".toList (.connectDone 0 true),
    .agent "db".toList (.readDone 0 (some [0x42])), .toServer "db".toList true sampleReceived,
    .proxy (.clientRead 0 [0x43] (some true)), .restart "db".toList 22]

theorem proper_sampleTcpTunnel :
    Along (tcpTunnelStep fun _ _ => false) (Proper .little) (.init fun _ => 5432) sampleTcpTunnel := by
  have hfresh : FreshId TcpProxy.init (connectionIdToString sampleEnv.uuid) :=
    ⟨by simp [TcpProxy.init], rfl⟩
  have hbyte : ∀ b : UInt8, [b].length ≤ readBufferSize := fun _ => by simp [readBufferSize]
  exact ⟨hfresh, ⟨rfl, by decide⟩, hbyte _, ⟨rfl, by decide⟩, trivial, trivial, hbyte _,
    ⟨rfl, by decide⟩, hbyte _, trivial, trivial⟩

end Protogate.Tunnel
