import Protogate.Proxy.Established
import Protogate.Server.Gateway

/-!
# The agent session of a connection

A TCP connection is opened at the agent that is registered for its tunnel, and from then on
only the tunnel id links the two.  When the agent disconnects nobody tells the TCP proxy;
the connection stays established, and what its client sends goes to the next agent, which
knows nothing of the connection.

The steps are those of the agent server, of requests to agents and of the TCP proxy.  A
client may have passed its checks some steps before the proxy asks for the agent.

## Main definitions

* `BindingState`, `bindingStep` — the server, the proxy, and who was told of a connection.
* `Bound` — every established connection was opened at the agent registered now.
* `KeepsAgents` — the step takes no agent from an established connection.
* `bound_iff_keepsAgents` — when every state is bound.
-/

namespace Protogate.Server

open Protogate.Lib Protogate.Models Protogate.Security Protogate.Storage Protogate.Agent Protogate.Api
open Protogate.Proxy (TcpProxy CreateEnv Narrows Adds Numbered admitClient
  matchTunnelByPort createConnection sendData decodeAgentFrame getConnection_eq_some_iff
  established_of_sendData createConnection_of_none createConnectionByPort_of_none narrows_step
  adds_createConnection adds_createConnectionByPort numbered_init numbered_step)

/-! ## State -/

/-- The agent server, the TCP proxy, and for the number of a connection object that of the
agent connection on which its TCP_OPEN frame was sent. -/
structure BindingState where
  server : AgentServer
  tcp : TcpProxy
  opened : Assoc ℕ ℕ

/-- A step of the server, a request sent to an agent, or a step of the TCP proxy. -/
inductive BindingEvent
  | server (e : ServerEvent)
  | request (tunnelId requestId text : Str) (streamId : StreamId) (sent : Bool)
  | tcp (e : Proxy.Event)

namespace BindingState

def init (tunnelCache : Cache Str Tunnel) (tokenCache : TokenCache) (maxAgents : ℕ) :
    BindingState :=
  ⟨.init tunnelCache tokenCache maxAgents, .init, ∅⟩

/-- `get_agent`. -/
def getAgent (s : BindingState) (tunnelId : Str) : Option ℕ :=
  s.server.handler.agents.lookup tunnelId

/-- The agent that the proxy finds for the connection under an id. -/
def agentOf (s : BindingState) (id : Str) : Option ℕ :=
  (s.tcp.getConnection id).bind fun found => s.getAgent found.2.tunnelId

/-- The event finds an agent just if one is registered. -/
def fits (s : BindingState) : Proxy.Event → Bool
  | .create env tunnelId => env.agent.isSome == (s.getAgent tunnelId).isSome
  | .createByPort env order port _ =>
      env.agent.isSome == (s.getAgent (matchTunnelByPort order port)).isSome
  | .clientRead ref _ agent =>
      (s.tcp.objects.lookup ref).all fun c => agent.isSome == (s.agentOf c.connectionId).isSome
  | .clientEnd ref _ agent =>
      (s.tcp.objects.lookup ref).all fun c => agent == (s.agentOf c.connectionId).isSome
  | .agentFrame frame agent =>
      (decodeAgentFrame frame).all fun
        | .data _ _ _ => true
        | .close id | .error id => agent == (s.agentOf id).isSome
  | .close id _ agent => agent == (s.agentOf id).isSome
  | .writeDone _ _ | .updateWindow _ _ => true

/-- The proxy goes on; if there is a new connection object, the frame that opens it goes to
the agent registered for its tunnel. -/
def advanceTcp (s : BindingState) (tcp : TcpProxy) : BindingState :=
  { s with
    tcp := tcp
    opened :=
      match (tcp.objects.lookup s.tcp.created).bind fun c => s.getAgent c.tunnelId with
      | some i => s.opened.insert s.tcp.created i
      | none => s.opened }

end BindingState

section
variable (parse : Str → Option Json) (sha256 : Str → Digest) (pton : InetPton)

def bindingStep (s : BindingState) : BindingEvent → BindingState
  | .server e => { s with server := serverStep parse sha256 s.server e }
  | .request tunnelId requestId text streamId sent =>
      match s.getAgent tunnelId with
      | none => s
      | some i => { s with server := (s.server.sendHttpRequest i requestId text streamId sent).1 }
  | .tcp e => if s.fits e then s.advanceTcp (Proxy.step (allows pton) s.tcp e) else s

end

/-! ## The property and the condition -/

/-- Every established connection of the proxy was opened at the agent that is registered
for its tunnel; so bytes that `send_data` reports as sent go to that agent. -/
structure Bound (s : BindingState) : Prop where
  opened : ∀ id ref c, s.tcp.getConnection id = some (ref, c) → c.state = .established →
    ∃ i, s.getAgent c.tunnelId = some i ∧ s.opened.lookup ref = some i
  sends : ∀ id ref c data agent, s.tcp.getConnection id = some (ref, c) →
    0 < (sendData s.tcp id data agent).1 →
      ∃ i, s.getAgent c.tunnelId = some i ∧ s.opened.lookup ref = some i

/-- The proxy has an established connection of the tunnel. -/
def BindingState.Carries (s : BindingState) (t : Str) : Prop :=
  ∃ id ref c, s.tcp.getConnection id = some (ref, c) ∧ c.state = .established ∧ c.tunnelId = t

/-- The step unregisters the agent of the tunnel: a connection made for the tunnel is lost,
also at its start, or the tunnel is deleted. -/
def Unregisters (s : AgentServer) : ServerEvent → Str → Prop
  | .agent (.disconnect i), t => ∃ c, s.objects[i]? = some c ∧ c.Live ∧ c.tunnelId = t
  | .agent (.start i false), t => ∃ c, s.objects[i]? = some c ∧ c.onDisconnect = false ∧ c.tunnelId = t
  | .api ⟨env, .request (.delete id)⟩, t =>
      id = t ∧ (s.handler.tunnelCache.get env.clock.steady id).isSome
  | _, _ => False

/-- A request is submitted and cannot be sent, so the connection is lost. -/
def SendFails (s : AgentServer) (i : ℕ) (streamId : StreamId) (sent : Bool) : Prop :=
  sent = false ∧ ∃ c, s.objects[i]? = some c ∧ c.agent.Accepts streamId

/-- The tunnel whose agent is lost has no established connection, and a client that comes in
by port finds an agent. -/
def KeepsAgents (pton : InetPton) (s : BindingState) : BindingEvent → Prop
  | .server e => ∀ t, Unregisters s.server e t → ¬ s.Carries t
  | .request t _ _ streamId sent =>
      ∀ i, s.getAgent t = some i → SendFails s.server i streamId sent → ¬ s.Carries t
  | .tcp (.createByPort env order port digits) =>
      s.fits (.createByPort env order port digits) = true → matchTunnelByPort order port ≠ [] →
        (admitClient (allows pton) env).isSome → env.agent.isSome
  | .tcp _ => True

/-! ## The registry after a step of the server -/

/-- The entries of some tunnels are gone, and the others are still there. -/
structure LosesOnly (agents agents' : Assoc Str ℕ) (Lost : Str → Prop) : Prop where
  lost : ∀ t, Lost t → agents'.lookup t = none
  kept : ∀ t i, ¬ Lost t → agents.lookup t = some i → agents'.lookup t = some i

section
variable {agents : Assoc Str ℕ} {Lost : Str → Prop}

theorem losesOnly_self (h : ∀ t, ¬ Lost t) : LosesOnly agents agents Lost :=
  ⟨fun t ht => absurd ht (h t), fun _ _ _ hi => hi⟩

theorem losesOnly_erase {t : Str} (h : ∀ u, Lost u ↔ u = t) :
    LosesOnly agents (agents.erase t) Lost where
  lost := by
    intro u hu
    rw [Assoc.lookup_erase_ite, if_pos ((h u).mp hu)]
  kept := by
    intro u i hu hi
    rw [Assoc.lookup_erase_ite, if_neg (fun heq => hu ((h u).mpr heq)), hi]

/-- A new agent takes no entry away. -/
theorem losesOnly_registerAgent (h : ∀ t, ¬ Lost t) (maxAgents : ℕ) (t : Str) (i : ℕ) :
    LosesOnly agents (registerAgent maxAgents agents t i).2 Lost where
  lost := fun u hu => absurd hu (h u)
  kept := by
    intro u j _ hj
    rw [lookup_registerAgent, if_neg, hj]
    rintro ⟨hregistered, rfl⟩
    rw [lookup_of_registered hregistered] at hj
    cases hj

end

section
variable {parse : Str → Option Json} {sha256 : Str → Digest} {s : AgentServer}

theorem losesOnly_effect {e : AgentEvent} {objects : List AgentObject} {agents : Assoc Str ℕ}
    (h : Effect s e objects agents) :
    LosesOnly s.handler.agents agents (Unregisters s (.agent e)) := by
  cases h with
  | idle _ hstart hdisconnect =>
      apply losesOnly_self
      intro t ht
      cases e with
      | authenticate _ _ _ | advance _ _ => exact ht
      | disconnect i =>
          obtain ⟨c, hc, hlive, _⟩ := ht
          exact hdisconnect i rfl c hc hlive
      | start i sent =>
          cases sent with
          | true => exact ht
          | false =>
              obtain ⟨c, hc, hnew, _⟩ := ht
              rw [hstart i false rfl c hc] at hnew
              cases hnew
  | connected h clock t _ => exact losesOnly_registerAgent (fun _ ht => ht) _ _ _
  | started i c agent _ _ _ => exact losesOnly_self fun _ ht => ht
  | lost e i c agent hc he _ =>
      apply losesOnly_erase
      intro t
      rcases he with ⟨rfl, hlive⟩ | ⟨rfl, hnew⟩
      · exact exists_at_iff (Q := AgentObject.Live) hc hlive
      · exact exists_at_iff (Q := fun d => d.onDisconnect = false) hc hnew

theorem losesOnly_apiStep (e : Api.Event) :
    LosesOnly s.handler.agents (Api.step parse sha256 ⟨s.handler, []⟩ e).handler.agents
      (Unregisters s (.api e)) := by
  -- only a deletion takes an entry away
  have hother : (∀ id, e.op ≠ .request (.delete id)) →
      (Api.step parse sha256 ⟨s.handler, []⟩ e).handler.agents = s.handler.agents := by
    intro hop
    rcases agents_apiStep parse sha256 s.handler e with hsame | ⟨id, hdelete, _⟩
    · exact hsame
    · exact absurd hdelete (hop id)
  obtain ⟨env, op⟩ := e
  cases op with
  | validator call => exact losesOnly_self fun _ ht => ht
  | request r =>
      cases r with
      | create body =>
          rw [hother (by simp)]
          exact losesOnly_self fun _ ht => ht
      | rotateToken id =>
          rw [hother (by simp)]
          exact losesOnly_self fun _ ht => ht
      | delete id =>
          simp only [Api.step, Handler.handle, handleDeleteTunnel]
          split
          · rename_i hmissing
            apply losesOnly_self
            rintro t ⟨_, hfound⟩
            rw [Option.isNone_iff_eq_none.mp hmissing] at hfound
            cases hfound
          · rename_i hpresent
            have hfound : (s.handler.tunnelCache.get env.clock.steady id).isSome = true := by
              simpa [Option.isSome_iff_ne_none] using hpresent
            apply losesOnly_erase
            intro t
            constructor
            · rintro ⟨rfl, _⟩
              rfl
            · rintro rfl
              exact ⟨rfl, hfound⟩

theorem losesOnly_serverStep (H : ServerInv s) (e : ServerEvent) :
    LosesOnly s.handler.agents (serverStep parse sha256 s e).handler.agents (Unregisters s e) := by
  cases e with
  | agent e => exact losesOnly_effect (agentStep_effect H e)
  | api e => exact losesOnly_apiStep e

/-- A request that fails unregisters the agent it was sent to, and no other. -/
theorem losesOnly_sendHttpRequest (H : GatewayInv s) {t : Str} {i : ℕ}
    (hi : s.handler.agents.lookup t = some i) (requestId text : Str) (streamId : StreamId)
    (sent : Bool) :
    LosesOnly s.handler.agents
      (s.sendHttpRequest i requestId text streamId sent).1.handler.agents
      (fun u => u = t ∧ SendFails s i streamId sent) := by
  obtain ⟨c, hc, rfl⟩ := H.server.entries t i hi
  simp only [AgentServer.sendHttpRequest, hc]
  by_cases haccepts : c.agent.Accepts streamId
  · have hconnected : (c.agent.register requestId text () streamId).state = .connected := haccepts.1
    rw [sendHttpRequest_of_accepts haccepts]
    cases sent with
    | true =>
        have hstate : ((c.agent.register requestId text () streamId).startTimer requestId
          streamId).state ≠ .disconnected := by
          show (c.agent.register requestId text () streamId).state ≠ .disconnected
          rw [hconnected]
          decide
        simp only [if_true, hstate, false_and, and_false, if_false]
        exact losesOnly_self fun _ ht => by cases ht.2.1
    | false =>
        have hstate : ((Agent.close (c.agent.register requestId text () streamId)).1.startTimer
          requestId streamId).state = .disconnected := state_close _ hconnected
        simp only [Bool.false_eq_true, if_false, haccepts.1, hstate, H.started i c hc haccepts.2.1,
          and_self, if_true]
        exact losesOnly_erase fun u => ⟨fun hu => hu.1, fun hu => ⟨hu, rfl, c, hc, haccepts⟩⟩
  · rw [sendHttpRequest_of_not_accepts haccepts]
    have hsame : ¬ (c.agent.state = .connected ∧ c.agent.state = .disconnected ∧
        c.onDisconnect = true) := by
      rintro ⟨hup, hdown, _⟩
      rw [hup] at hdown
      cases hdown
    simp only [if_neg hsame]
    apply losesOnly_self
    rintro u ⟨_, _, d, hd, hd'⟩
    rw [hc] at hd
    cases hd
    exact haccepts hd'

end

/-! ## One step -/

/-- What the bytes go to follows from what the connections were opened at. -/
theorem bound_iff {s : BindingState} :
    Bound s ↔ ∀ id ref c, s.tcp.getConnection id = some (ref, c) → c.state = .established →
      ∃ i, s.getAgent c.tunnelId = some i ∧ s.opened.lookup ref = some i := by
  constructor
  · exact Bound.opened
  · intro hopened
    refine ⟨hopened, ?_⟩
    intro id ref c data agent hget hsent
    exact hopened id ref c hget (established_of_sendData hget hsent)

/-- What holds in every reachable state. -/
structure BindingInv (s : BindingState) : Prop where
  server : GatewayInv s.server
  numbered : Numbered s.tcp

section
variable {parse : Str → Option Json} {sha256 : Str → Digest} {pton : InetPton} {s : BindingState}

theorem bindingInv_step (s : BindingState) (e : BindingEvent) (H : BindingInv s) :
    BindingInv (bindingStep parse sha256 pton s e) := by
  cases e with
  | server e => exact ⟨H.server.serverStep e, H.numbered⟩
  | request t requestId text streamId sent =>
      rw [bindingStep]
      split
      · exact H
      · exact ⟨H.server.sendHttpRequest _ requestId text streamId sent, H.numbered⟩
  | tcp e =>
      rw [bindingStep]
      split
      · exact ⟨H.server, numbered_step _ s.tcp e H.numbered⟩
      · exact H

/-- The step of a server is good just if no tunnel with a connection loses its agent. -/
theorem Bound.server_iff (H : Bound s) {server : AgentServer} {Lost : Str → Prop}
    (h : LosesOnly s.server.handler.agents server.handler.agents Lost) :
    Bound { s with server := server } ↔ ∀ t, Lost t → ¬ s.Carries t := by
  constructor
  · rintro H' t ht ⟨id, ref, c, hget, hstate, rfl⟩
    obtain ⟨i, hi, _⟩ := H'.opened id ref c hget hstate
    rw [BindingState.getAgent, h.lost _ ht] at hi
    cases hi
  · intro hkeeps
    rw [bound_iff]
    intro id ref c hget hstate
    obtain ⟨i, hi, hopened⟩ := H.opened id ref c hget hstate
    have hnot : ¬ Lost c.tunnelId := fun ht => hkeeps _ ht ⟨id, ref, c, hget, hstate, rfl⟩
    exact ⟨i, h.kept _ i hnot hi, hopened⟩

/-- Who was told of an object does not change. -/
theorem opened_advanceTcp_of_ne {tcp : TcpProxy} {ref : ℕ} (h : ref ≠ s.tcp.created) :
    (s.advanceTcp tcp).opened.lookup ref = s.opened.lookup ref := by
  simp only [BindingState.advanceTcp]
  split
  · rw [Assoc.lookup_insert_ite, if_neg h]
  · rfl

/-- The agent of the tunnel is told of a new object. -/
theorem opened_advanceTcp_new {tcp : TcpProxy} {c : Proxy.Connection} {i : ℕ}
    (hc : tcp.objects.lookup s.tcp.created = some c) (hi : s.getAgent c.tunnelId = some i) :
    (s.advanceTcp tcp).opened.lookup s.tcp.created = some i := by
  simp only [BindingState.advanceTcp, hc, Option.bind_some, hi]
  rw [Assoc.lookup_insert_ite, if_pos rfl]

theorem Bound.narrows (H : Bound s) (hnumbered : Numbered s.tcp) {tcp : TcpProxy}
    (h : Narrows s.tcp tcp) : Bound (s.advanceTcp tcp) := by
  rw [bound_iff]
  intro id ref c hget hstate
  obtain ⟨d, hd, htunnel, hestablished⟩ := h.getConnection hget hstate
  obtain ⟨i, hi, hopened⟩ := H.opened id ref d hd hestablished
  have hlt := hnumbered.objects ref d (getConnection_eq_some_iff.mp hd).2
  refine ⟨i, htunnel ▸ hi, ?_⟩
  rw [opened_advanceTcp_of_ne (by omega), hopened]

/-- A new connection may be established if it cannot be found or its tunnel has an agent. -/
theorem Bound.adds (H : Bound s) {tcp : TcpProxy} {c : Proxy.Connection} (h : Adds s.tcp tcp c)
    (hc : ∀ id, tcp.connections.lookup id = some s.tcp.created →
      (s.getAgent c.tunnelId).isSome) : Bound (s.advanceTcp tcp) := by
  rw [bound_iff]
  intro id ref d hget hstate
  obtain ⟨hkey, hobj⟩ := getConnection_eq_some_iff.mp hget
  have hlookup : some d = if ref = s.tcp.created then some c else s.tcp.objects.lookup ref :=
    hobj.symm.trans (h.objects ref)
  split at hlookup
  · rename_i href
    cases hlookup
    subst href
    obtain ⟨i, hi⟩ := Option.isSome_iff_exists.mp (hc id hkey)
    exact ⟨i, hi, opened_advanceTcp_new hobj hi⟩
  · rename_i href
    have hold := (h.keys id ref hkey).resolve_left href
    obtain ⟨i, hi, hopened⟩ :=
      H.opened id ref d (getConnection_eq_some_iff.mpr ⟨hold, hlookup.symm⟩) hstate
    exact ⟨i, hi, by rw [opened_advanceTcp_of_ne href, hopened]⟩

/-- A client with a tunnel id finds an agent, or its connection is not found. -/
theorem Bound.create (H : Bound s) (hnumbered : Numbered s.tcp) {env : CreateEnv} {t : Str}
    (hfits : s.fits (.create env t) = true) :
    Bound (s.advanceTcp (createConnection (allows pton) s.tcp env t)) := by
  cases hadmit : admitClient (allows pton) env with
  | none =>
      rw [createConnection_of_none hadmit]
      exact H.narrows hnumbered (.refl s.tcp)
  | some ip =>
      obtain ⟨c, hadds, rfl, hnone⟩ := adds_createConnection s.tcp t hadmit
      apply H.adds hadds
      intro id hkey
      have hagent : env.agent.isSome = (s.getAgent c.tunnelId).isSome := by
        simpa [BindingState.fits] using hfits
      rw [← hagent]
      by_contra hno
      have hlt : s.tcp.created < s.tcp.created := by
        apply hnumbered.keys id
        rw [← hnone (by simpa using hno)]
        exact hkey
      omega

/-- One that comes in by port has to find an agent. -/
theorem Bound.createByPort_iff (H : Bound s) (hnumbered : Numbered s.tcp) {env : CreateEnv}
    {order : List (Str × Tunnel)} {port : ℕ} {digits : Vector (Fin 16) 8}
    (hfits : s.fits (.createByPort env order port digits) = true) :
    Bound (s.advanceTcp (Proxy.createConnectionByPort (allows pton) s.tcp env order port digits)) ↔
      (matchTunnelByPort order port ≠ [] → (admitClient (allows pton) env).isSome →
        env.agent.isSome) := by
  by_cases hne : matchTunnelByPort order port = []
  · rw [createConnectionByPort_of_none (.inl hne)]
    exact iff_of_true (H.narrows hnumbered (.refl s.tcp)) (fun h => absurd hne h)
  · cases hadmit : admitClient (allows pton) env with
    | none =>
        rw [createConnectionByPort_of_none (.inr hadmit)]
        exact iff_of_true (H.narrows hnumbered (.refl s.tcp)) (by simp)
    | some ip =>
        obtain ⟨c, hadds, htunnel, hnone⟩ := adds_createConnectionByPort s.tcp digits hne hadmit
        have hagent : env.agent.isSome = (s.getAgent c.tunnelId).isSome := by
          rw [htunnel]
          simpa [BindingState.fits] using hfits
        constructor
        · intro H' _ _
          rw [hagent]
          by_contra hno
          obtain ⟨hstate, hkey⟩ := hnone (by simpa [hno] using hagent)
          have hobj := hadds.objects s.tcp.created
          rw [if_pos rfl] at hobj
          obtain ⟨i, hi, _⟩ := H'.opened _ s.tcp.created c
            (getConnection_eq_some_iff.mpr ⟨hkey, hobj⟩) hstate
          exact hno (Option.isSome_of_eq_some hi)
        · intro hfinds
          apply H.adds hadds
          intro _ _
          rw [← hagent]
          exact hfinds hne rfl

theorem bound_step (hinv : BindingInv s) (H : Bound s) (e : BindingEvent) :
    Bound (bindingStep parse sha256 pton s e) ↔ KeepsAgents pton s e := by
  cases e with
  | server e => exact H.server_iff (losesOnly_serverStep hinv.server.server e)
  | request t requestId text streamId sent =>
      simp only [bindingStep, KeepsAgents]
      cases hi : s.getAgent t with
      | none => exact iff_of_true H (by simp)
      | some i =>
          dsimp only
          rw [H.server_iff (losesOnly_sendHttpRequest hinv.server hi requestId text streamId sent)]
          constructor
          · rintro h j ⟨⟩ hfails
            exact h t ⟨rfl, hfails⟩
          · rintro h u ⟨rfl, hfails⟩
            exact h i rfl hfails
  | tcp e =>
      rw [bindingStep]
      by_cases hfits : s.fits e = true
      · rw [if_pos hfits]
        cases e with
        | create env t => exact iff_of_true (H.create hinv.numbered hfits) trivial
        | createByPort env order port digits =>
            simp only [KeepsAgents, hfits, true_implies]
            exact H.createByPort_iff hinv.numbered hfits
        | _ => exact iff_of_true (H.narrows hinv.numbered (narrows_step rfl)) trivial
      · rw [if_neg hfits]
        refine iff_of_true H ?_
        cases e with
        | createByPort env order port digits => exact fun h => absurd h hfits
        | _ => trivial

/-! ## Runs -/

/-- **Every connection is bound to the agent it was opened at**, throughout a run, exactly
if no step of it takes the agent from a tunnel with established connections, or lets a
client in by port when the agent is gone. -/
theorem bound_iff_keepsAgents (parse : Str → Option Json) (sha256 : Str → Digest) (pton : InetPton)
    (tunnelCache : Cache Str Tunnel) (tokenCache : TokenCache) (maxAgents : ℕ)
    (evs : List BindingEvent) :
    Always (bindingStep parse sha256 pton) Bound (.init tunnelCache tokenCache maxAgents) evs ↔
      Along (bindingStep parse sha256 pton) (KeepsAgents pton)
        (.init tunnelCache tokenCache maxAgents) evs := by
  apply always_iff_along BindingInv bindingInv_step (fun s e hinv H => bound_step hinv H e)
  · exact ⟨gatewayInv_init tunnelCache tokenCache maxAgents, numbered_init⟩
  · rw [bound_iff]
    intro id ref c hget
    cases hget

end

/-! ## The gateway -/

/-- The gateway as a state of this system. -/
def Gateway.toBinding (g : Gateway) (opened : Assoc ℕ ℕ) : BindingState := ⟨g.server, g.tcp, opened⟩

/-- What happens to the proxy fits the registry. -/
def TrafficFits (g : Gateway) : GatewayEvent → Prop
  | .traffic e => (g.toBinding ∅).fits e = true
  | _ => True

section
variable {parse : Str → Option Json} {sha256 : Str → Digest} {pton : InetPton} {g : Gateway}

/-- What `create_connection` finds fits the registry. -/
theorem isSome_createEnv (H : GatewayInv g.server) (call : ClientCall) (t : Str)
    (uuid : Wire.ConnectionId) (ok : Bool) :
    (g.createEnv call t uuid ok).agent.isSome = (g.server.handler.agents.lookup t).isSome := by
  simp only [Gateway.createEnv, AgentServer.registered, Option.isSome_map]
  cases hi : g.server.handler.agents.lookup t with
  | none => rfl
  | some i =>
      obtain ⟨c, hc, _⟩ := H.server.entries t i hi
      simp [hc]

theorem gatewayStep_toBinding (parse : Str → Option Json) (sha256 : Str → Digest) (pton : InetPton)
    (H : GatewayInv g.server) (e : GatewayEvent) (hfits : TrafficFits g e) (opened : Assoc ℕ ℕ) :
    ∃ evs opened', run (bindingStep parse sha256 pton) (g.toBinding opened) evs =
      (gatewayStep parse sha256 pton g e).toBinding opened' := by
  have hone : ∀ e : Proxy.Event, (g.toBinding opened).fits e = true →
      ∃ evs opened', run (bindingStep parse sha256 pton) (g.toBinding opened) evs =
        (g.advanceTcp (Proxy.step (allows pton) g.tcp e)).toBinding opened' := by
    intro e he
    refine ⟨[.tcp e], ((g.toBinding opened).advanceTcp
      (Proxy.step (allows pton) g.tcp e)).opened, ?_⟩
    rw [run_cons, run_nil, bindingStep, if_pos he]
    rfl
  cases e with
  | server e => exact ⟨[.server e], opened, rfl⟩
  | traffic e =>
      rw [gatewayStep]
      split
      · exact ⟨[], opened, rfl⟩
      · exact hone e hfits
  | client call =>
      obtain ⟨now, clientIp, ingress⟩ := call
      cases ingress with
      | http order health request time streamId sent =>
          simp only [gatewayStep, clientStep]
          split
          · exact ⟨[], opened, rfl⟩
          · rename_i t hroute
            rw [Gateway.routeToAgent]
            split
            · exact ⟨[], opened, rfl⟩
            · cases hi : g.server.handler.agents.lookup t with
              | none => exact ⟨[], opened, rfl⟩
              | some i =>
                  refine ⟨[.request t ("req_".toList ++ decimal time)
                    (Proxy.HTTPRequest.toText { request with clientIp := clientIp.getD unknownIp })
                      streamId sent], opened, ?_⟩
                  have hagent : (g.toBinding opened).getAgent t = some i := hi
                  rw [run_cons, run_nil, bindingStep, hagent]
                  rfl
      | tcp t uuid ok =>
          apply hone (.create _ t)
          exact beq_iff_eq.mpr (isSome_createEnv H _ t uuid ok)
      | tcpByPort order port digits uuid ok =>
          apply hone (.createByPort _ order port digits)
          exact beq_iff_eq.mpr (isSome_createEnv H _ (matchTunnelByPort order port) uuid ok)

/-- **The runs of the gateway are runs of this system**, so what holds of connections here
holds of the gateway. -/
theorem run_gateway_toBinding (H : GatewayInv g.server) {evs : List GatewayEvent}
    (hfits : Along (gatewayStep parse sha256 pton) TrafficFits g evs) (opened : Assoc ℕ ℕ) :
    ∃ evs' opened', run (bindingStep parse sha256 pton) (g.toBinding opened) evs' =
      (run (gatewayStep parse sha256 pton) g evs).toBinding opened' := by
  induction evs generalizing g opened with
  | nil => exact ⟨[], opened, rfl⟩
  | cons e evs ih =>
      obtain ⟨first, opened₁, hfirst⟩ := gatewayStep_toBinding parse sha256 pton H e hfits.1 opened
      obtain ⟨rest, opened₂, hrest⟩ := ih (gatewayInv_step g e H) hfits.2 opened₁
      exact ⟨first ++ rest, opened₂, by rw [run_append, hfirst, hrest, run_cons]⟩

end

/-! ## An agent that comes back -/

/-- The agent of `api` connects, as the `i`-th object. -/
def apiConnects (i : ℕ) : List BindingEvent :=
  [.server (.agent sampleAuthenticate), .server (.agent (.advance 0 ⟨0, 0⟩)),
    .server (.agent (.advance 0 ⟨0, 0⟩)), .server (.agent (.start i true))]

/-- A client of `api` whose TCP_OPEN frame reaches the agent. -/
def apiClient : CreateEnv :=
  ⟨some ⟨"api".toList, .http, "localhost".toList, 3000, [], 0, 0, 0, .active⟩,
    some "10.0.0.1".toList, true, some true, Vector.replicate 16 0xab⟩

/-- The id of its connection. -/
def apiConnectionId : Str := Proxy.connectionIdToString apiClient.uuid

/-- The state after the agent has disconnected and connected again. -/
def afterReconnect : BindingState :=
  run (bindingStep sampleParse sampleSha256 samplePton) (.init sampleTunnelCache sampleTokenCache 50)
    (apiConnects 0 ++ [.tcp (.create apiClient "api".toList), .server (.agent (.disconnect 0))] ++
      apiConnects 1)

/-- The agent registered now is the second one, the connection was opened at the first, and
`send_data` reports a byte as sent. -/
theorem sent_to_next_agent :
    afterReconnect.getAgent "api".toList = some 1 ∧ afterReconnect.opened.lookup 0 = some 0 ∧
    (sendData afterReconnect.tcp apiConnectionId [0x41] (some true)).1 = 1 ∧
    ¬ ∀ evs, Always (bindingStep sampleParse sampleSha256 samplePton) Bound
      (.init sampleTunnelCache sampleTokenCache 50) evs := by
  have hagent : afterReconnect.getAgent "api".toList = some 1 := by decide +kernel
  have hopened : afterReconnect.opened.lookup 0 = some 0 := by decide +kernel
  have hsent : (sendData afterReconnect.tcp apiConnectionId [0x41] (some true)).1 = 1 := by
    decide +kernel
  have hfound : (afterReconnect.tcp.getConnection apiConnectionId).any
      (fun found => found.1 = 0 && found.2.tunnelId = "api".toList) = true := by decide +kernel
  refine ⟨hagent, hopened, hsent, ?_⟩
  intro hall
  have hbound : Bound afterReconnect := always_iff_run.mp (hall _) _ (List.prefix_refl _)
  obtain ⟨⟨ref, c⟩, hget, hc⟩ := (Option.any_eq_true _ _).mp hfound
  rw [Bool.and_eq_true, decide_eq_true_eq, decide_eq_true_eq] at hc
  obtain ⟨rfl, htunnel⟩ := hc
  obtain ⟨i, hi, htold⟩ := hbound.sends apiConnectionId 0 c [0x41] (some true) hget (by omega)
  rw [htunnel, hagent] at hi
  cases hi
  rw [hopened] at htold
  cases htold

end Protogate.Server
