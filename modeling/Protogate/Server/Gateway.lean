import Protogate.Proxy.HandleRequest
import Protogate.Server.LiveAgents

/-!
# Access control

A client comes in by HTTP, on a TCP port that is given a tunnel id, or on a TCP port for
which a tunnel is looked up.  All three find a key, check the client against the allowlist
cached under this key, and use the agent registered under it; so the entries that agents add
for their ports, which have no allowlist, let nobody in to the tunnel they are made from.

The caches and the registry are those of the agent server, with the management API and the
handshakes going on between the clients.

## Main definitions

* `Gateway`, `ClientCall`, `Ingress` — the state, and a client that comes in.
* `GatewayEvent`, `gatewayStep` — a step.
* `FailsClosed` — what may be sent to agents on behalf of a client.
-/

namespace Protogate.Server

open Protogate.Lib Protogate.Models Protogate.Security Protogate.Storage Protogate.Agent Protogate.Api
open Protogate.Proxy (HTTPRequest HTTPResponse TcpProxy TCPOpenFrame CreateEnv Decision Admits
  createConnection createConnectionByPort matchTunnel matchTunnelByPort handleRequest opens
  admitClient admitClient_eq_some_iff handleRequest_eq_route_iff createConnection_of_none
  opens_createConnection createConnectionByPort_of_none opens_createConnectionByPort opens_step
  not_admits_of_unparsable)
open Protogate.Wire (ConnectionId)

/-! ## State -/

/-- What is sent to the agent registered under a tunnel id. -/
inductive Forward
  | request (tunnelId requestId text : Str)
  | tcpOpen (tunnelId : Str) (frame : TCPOpenFrame)
  deriving DecidableEq

def Forward.tunnelId : Forward → Str
  | request tunnelId _ _ => tunnelId
  | tcpOpen tunnelId _ => tunnelId

/-- The agent server, the TCP proxy, what was forwarded, and the answers the HTTP proxy gave
by itself. -/
structure Gateway where
  server : AgentServer
  tcp : TcpProxy
  forwards : List Forward
  answers : List Str

def Gateway.init (tunnelCache : Cache Str Tunnel) (tokenCache : TokenCache) (maxAgents : ℕ) :
    Gateway :=
  ⟨.init tunnelCache tokenCache maxAgents, .init, [], []⟩

/-! ## Clients -/

/-- The ways in.  `order` is what a lookup visited, also if the cache has changed since; a
request goes with the wall-clock time in seconds and what nghttp2 does, a connection with a
random id and whether `send_tcp_data` succeeds. -/
inductive Ingress
  | http (order : List (Str × Tunnel)) (health : ℕ × Str) (request : HTTPRequest) (time : ℤ)
      (streamId : StreamId) (sent : Bool)
  | tcp (tunnelId : Str) (uuid : ConnectionId) (ok : Bool)
  | tcpByPort (order : List (Str × Tunnel)) (port : ℕ) (digits : Vector (Fin 16) 8)
      (uuid : ConnectionId) (ok : Bool)

/-- A client: the time, and its address unless `remote_endpoint` throws. -/
structure ClientCall where
  now : ℤ
  clientIp : Option Str
  ingress : Ingress

/-- The key under which the tunnel of a call is looked up. -/
def ClientCall.key (call : ClientCall) : Str :=
  match call.ingress with
  | .http order _ request _ _ _ => matchTunnel order request.host
  | .tcp tunnelId _ _ => tunnelId
  | .tcpByPort order port _ _ _ => matchTunnelByPort order port

/-- The address the HTTP servers put into a request if there is none. -/
def unknownIp : Str := "unknown".toList

/-! ## Sending to agents -/

/-- `send_http_request` on the `i`-th object; if sending fails, the connection is lost. -/
def AgentServer.sendHttpRequest (s : AgentServer) (i : ℕ) (requestId text : Str)
    (streamId : StreamId) (sent : Bool) : AgentServer × List (Invocation Unit) :=
  match s.objects[i]? with
  | none => (s, [])
  | some c =>
      let result := Agent.sendHttpRequest c.agent requestId text () streamId sent
      let after := s.setObject i { c with agent := result.1 }
      if c.agent.state = .connected ∧ result.1.state = .disconnected ∧ c.onDisconnect = true then
        (after.unregister c.tunnelId, result.2)
      else (after, result.2)

namespace Gateway

def answer (g : Gateway) (response : HTTPResponse) : Gateway :=
  { g with answers := g.answers ++ [response.toText] }

/-- `route_to_agent`. -/
def routeToAgent (g : Gateway) (tunnelId : Str) (request : HTTPRequest) (time : ℤ)
    (streamId : StreamId) (sent : Bool) : Gateway :=
  if !g.server.isConnected tunnelId then g.answer (.error 503 "Agent not connected".toList)
  else
    match g.server.handler.agents.lookup tunnelId with
    | none => g.answer (.error 500 "Agent connection error".toList)
    | some i =>
        let requestId := "req_".toList ++ decimal time
        let result := g.server.sendHttpRequest i requestId request.toText streamId sent
        { g with
          server := result.1
          forwards := g.forwards ++ [.request tunnelId requestId request.toText]
          -- the callbacks of the requests that fail at once
          answers := g.answers ++ result.2.map fun _ =>
            (HTTPResponse.error 502 "Bad Gateway".toList).toText }

/-- The TCP proxy goes on, and the frames that open connections are forwarded. -/
def advanceTcp (g : Gateway) (tcp : TcpProxy) : Gateway :=
  { g with
    tcp := tcp
    forwards := g.forwards ++
      ((opens tcp.sent).drop (opens g.tcp.sent).length).map fun o => .tcpOpen o.1 o.2 }

/-- What `create_connection` finds for a tunnel id. -/
def createEnv (g : Gateway) (call : ClientCall) (tunnelId : Str) (uuid : ConnectionId) (ok : Bool) :
    CreateEnv where
  tunnel := g.server.handler.tunnelCache.get call.now tunnelId
  clientIp := call.clientIp
  connected := g.server.isConnected tunnelId
  agent := (g.server.registered tunnelId).map fun _ => ok
  uuid := uuid

end Gateway

/-! ## Steps -/

/-- A step of the server, a client, or anything else that happens to the TCP proxy. -/
inductive GatewayEvent
  | server (e : ServerEvent)
  | client (call : ClientCall)
  | traffic (e : Proxy.Event)

section
variable (parse : Str → Option Json) (sha256 : Str → Digest) (pton : InetPton)

def clientStep (g : Gateway) (call : ClientCall) : Gateway :=
  match call.ingress with
  | .http order health request time streamId sent =>
      let request := { request with clientIp := call.clientIp.getD unknownIp }
      match handleRequest (allows pton) g.server.handler.tunnelCache call.now order health request with
      | .respond response => g.answer response
      | .route tunnelId => g.routeToAgent tunnelId request time streamId sent
  | .tcp tunnelId uuid ok =>
      g.advanceTcp (createConnection (allows pton) g.tcp (g.createEnv call tunnelId uuid ok) tunnelId)
  | .tcpByPort order port digits uuid ok =>
      let env := g.createEnv call (matchTunnelByPort order port) uuid ok
      g.advanceTcp (createConnectionByPort (allows pton) g.tcp env order port digits)

def gatewayStep (g : Gateway) : GatewayEvent → Gateway
  | .server e => { g with server := serverStep parse sha256 g.server e }
  | .client call => clientStep pton g call
  | .traffic e =>
      -- connections are created for clients only
      if e.creates then g else g.advanceTcp (Proxy.step (allows pton) g.tcp e)

end

/-! ## Failing closed -/

/-- The address is unknown or cannot be read. -/
def Unreadable (pton : InetPton) : Option Str → Prop
  | none => True
  | some ip => Unparsable pton ip

/-- What is forwarded for a client goes to the agent registered under the id of a tunnel whose
cached allowlist admits the client.  A client without a readable address gets an answer at
most if the tunnel has an allowlist.  Nothing else makes the gateway forward anything. -/
def FailsClosed (parse : Str → Option Json) (sha256 : Str → Digest) (pton : InetPton) (g : Gateway) :
    GatewayEvent → Prop
  | .client call =>
      (∀ f ∈ (clientStep pton g call).forwards.drop g.forwards.length,
        (∃ c, g.server.registered f.tunnelId = some c ∧ c.tunnelId = f.tunnelId) ∧
        ∃ tunnel, g.server.handler.tunnelCache.get call.now f.tunnelId = some tunnel ∧
          (tunnel.ipAllowlist = [] ∨ ∃ ip, call.clientIp = some ip ∧
            (∀ entry ∈ tunnel.ipAllowlist, Parses pton entry) ∧
            ∃ entry ∈ tunnel.ipAllowlist, Covers pton entry ip)) ∧
      (Unreadable pton call.clientIp → ∀ tunnel,
        g.server.handler.tunnelCache.get call.now call.key = some tunnel →
          tunnel.ipAllowlist ≠ [] →
            ∃ answers, clientStep pton g call = { g with answers := answers })
  | e => (gatewayStep parse sha256 pton g e).forwards = g.forwards

/-! ## What a step does to the server -/

/-- The objects and the registry fit, and a connection has a session only once it is
started. -/
structure GatewayInv (s : AgentServer) : Prop where
  server : ServerInv s
  started : ∀ (i : ℕ) (c : AgentObject), s.objects[i]? = some c → c.agent.session = true →
    c.onDisconnect = true

section
variable {parse : Str → Option Json} {sha256 : Str → Digest} {pton : InetPton} {s : AgentServer}

/-- The registry finds a connection of the tunnel it is asked for. -/
theorem GatewayInv.tunnelId_of_registered (H : GatewayInv s) {t : Str} {c : AgentObject}
    (h : s.registered t = some c) : c.tunnelId = t := by
  obtain ⟨i, hi, hc⟩ := Option.bind_eq_some_iff.mp h
  obtain ⟨c', hc', htunnel⟩ := H.server.entries t i hi
  rw [hc] at hc'
  cases hc'
  exact htunnel

theorem gatewayInv_init (tunnelCache : Cache Str Tunnel) (tokenCache : TokenCache) (maxAgents : ℕ) :
    GatewayInv (.init tunnelCache tokenCache maxAgents) where
  server := serverInv_init tunnelCache tokenCache maxAgents
  started := by
    intro i c hc
    simp [AgentServer.init] at hc

theorem GatewayInv.serverStep (H : GatewayInv s) (e : ServerEvent) :
    GatewayInv (serverStep parse sha256 s e) where
  server := serverInv_step s e H.server
  started := by
    cases e with
    | api e => exact H.started
    | agent e =>
        have heffect : Effect s e (agentStep sha256 s e).objects
            (agentStep sha256 s e).handler.agents := agentStep_effect H.server e
        rw [Server.serverStep]
        generalize (agentStep sha256 s e).objects = objects at heffect ⊢
        generalize (agentStep sha256 s e).handler.agents = agents at heffect
        intro i c hc hsession
        cases heffect with
        | idle _ _ _ => exact H.started i c hc hsession
        | connected h clock t _ =>
            rcases getElem?_concat_cases hc with hc | ⟨_, rfl⟩
            · exact H.started i c hc hsession
            · cases hsession
        | started j d agent hd _ _ =>
            rcases getElem?_set_cases hd hc with ⟨_, rfl⟩ | ⟨_, hc⟩
            · rfl
            · exact H.started i c hc hsession
        | lost e j d agent hd _ _ =>
            rcases getElem?_set_cases hd hc with ⟨_, rfl⟩ | ⟨_, hc⟩
            · rfl
            · exact H.started i c hc hsession

/-- Sending a request to a connection that takes it: the connection stays up or is lost. -/
theorem state_sendHttpRequest {agent : AgentConnection Unit} {streamId : StreamId}
    (h : agent.Accepts streamId) (requestId text : Str) (sent : Bool) :
    (Agent.sendHttpRequest agent requestId text () streamId sent).1.state = .connected ∨
      (Agent.sendHttpRequest agent requestId text () streamId sent).1.state = .disconnected := by
  have hstate : (agent.register requestId text () streamId).state = .connected := h.1
  rw [sendHttpRequest_of_accepts h]
  cases sent with
  | true => exact .inl hstate
  | false => exact .inr (state_close _ hstate)

/-- A started connection may change its state, and its tunnel may lose its entry. -/
theorem GatewayInv.set (H : GatewayInv s) {i : ℕ} {c : AgentObject} (hc : s.objects[i]? = some c)
    (hstarted : c.onDisconnect = true) {agent : AgentConnection Unit}
    (hstate : agent.state = .connected ∨ agent.state = .disconnected) {agents : Assoc Str ℕ}
    (hagents : ∀ t j, agents.lookup t = some j → s.handler.agents.lookup t = some j) :
    GatewayInv { s with
      objects := s.objects.set i { c with agent := agent }
      handler := { s.handler with agents := agents } } where
  server := by
    have hset := H.server.set hc hstate hagents
    rw [← hstarted] at hset
    exact hset
  started := by
    intro j d hd hsession
    rcases getElem?_set_cases hc hd with ⟨_, rfl⟩ | ⟨_, hd⟩
    · exact hstarted
    · exact H.started j d hd hsession

theorem GatewayInv.sendHttpRequest (H : GatewayInv s) (i : ℕ) (requestId text : Str)
    (streamId : StreamId) (sent : Bool) :
    GatewayInv (s.sendHttpRequest i requestId text streamId sent).1 := by
  rw [AgentServer.sendHttpRequest]
  cases hc : s.objects[i]? with
  | none => exact H
  | some c =>
      by_cases haccepts : c.agent.Accepts streamId
      · have hstarted := H.started i c hc haccepts.2.1
        have hstate := state_sendHttpRequest haccepts requestId text sent
        dsimp only
        split
        · exact H.set hc hstarted hstate fun t j hj => (Assoc.lookup_of_lookup_erase hj).2
        · exact H.set hc hstarted hstate fun t j hj => hj
      · have hsame : s.setObject i { c with agent := c.agent } = s := by
          obtain ⟨hlt, rfl⟩ := List.getElem?_eq_some_iff.mp hc
          rw [AgentServer.setObject, List.set_getElem_self]
        dsimp only
        rw [sendHttpRequest_of_not_accepts haccepts, hsame, if_neg]
        · exact H
        · rintro ⟨hup, hdown, _⟩
          rw [hup] at hdown
          cases hdown

end

/-! ## What a client can do -/

section
variable {pton : InetPton} {g : Gateway}

/-- The client gets an answer at most. -/
def KeptOut (pton : InetPton) (g : Gateway) (call : ClientCall) : Prop :=
  ∃ answers, clientStep pton g call = { g with answers := answers }

/-- The client is admitted, and something goes to the agent registered under the key. -/
structure GetsThrough (pton : InetPton) (g : Gateway) (call : ClientCall) : Prop where
  registered : ∃ c, g.server.registered call.key = some c
  admitted : ∃ tunnel, g.server.handler.tunnelCache.get call.now call.key = some tunnel ∧
    Admits pton tunnel.ipAllowlist (call.clientIp.getD unknownIp)
  forwards : ∃ f : Forward, f.tunnelId = call.key ∧
    (clientStep pton g call).forwards = g.forwards ++ [f]

theorem registered_of_isConnected {s : AgentServer} {t : Str} (h : s.isConnected t = true) :
    ∃ c, s.registered t = some c := by
  obtain ⟨c, hc, _⟩ := (Option.any_eq_true _ _).mp h
  exact ⟨c, hc⟩

theorem forwards_routeToAgent {t : Str} (h : g.server.isConnected t = true) (request : HTTPRequest)
    (time : ℤ) (streamId : StreamId) (sent : Bool) :
    ∃ f : Forward, f.tunnelId = t ∧
      (g.routeToAgent t request time streamId sent).forwards = g.forwards ++ [f] := by
  obtain ⟨c, hc⟩ := registered_of_isConnected h
  obtain ⟨i, hi, _⟩ := Option.bind_eq_some_iff.mp hc
  refine ⟨.request t ("req_".toList ++ decimal time) request.toText, rfl, ?_⟩
  simp only [Gateway.routeToAgent, h, hi, Bool.not_true, Bool.false_eq_true, if_false]

theorem advanceTcp_self : g.advanceTcp g.tcp = g := by
  simp [Gateway.advanceTcp]

theorem forwards_advanceTcp {tcp : TcpProxy} {t : Str} {frame : TCPOpenFrame}
    (h : opens tcp.sent = opens g.tcp.sent ++ [(t, frame)]) :
    (g.advanceTcp tcp).forwards = g.forwards ++ [.tcpOpen t frame] := by
  simp [Gateway.advanceTcp, h]

/-- What `create_connection` finds for a client that gets through. -/
theorem exists_of_admitClient {call : ClientCall} {t ip : Str} {uuid : ConnectionId} {ok : Bool}
    (h : admitClient (allows pton) (g.createEnv call t uuid ok) = some ip) :
    (∃ c, g.server.registered t = some c) ∧
      (g.createEnv call t uuid ok).agent = some ok ∧
      ∃ tunnel, g.server.handler.tunnelCache.get call.now t = some tunnel ∧
        Admits pton tunnel.ipAllowlist (call.clientIp.getD unknownIp) := by
  obtain ⟨hip, hconnected, tunnel, htunnel, hadmits⟩ := admitClient_eq_some_iff.mp h
  obtain ⟨c, hc⟩ := registered_of_isConnected hconnected
  have hip : call.clientIp = some ip := hip
  refine ⟨⟨c, hc⟩, ?_, tunnel, htunnel, ?_⟩
  · simp [Gateway.createEnv, hc]
  · rw [hip]
    exact hadmits

theorem http_cases (now : ℤ) (clientIp : Option Str) (order : List (Str × Tunnel)) (health : ℕ × Str)
    (request : HTTPRequest) (time : ℤ) (streamId : StreamId) (sent : Bool) :
    KeptOut pton g ⟨now, clientIp, .http order health request time streamId sent⟩ ∨
      GetsThrough pton g ⟨now, clientIp, .http order health request time streamId sent⟩ := by
  cases hdecision : handleRequest (allows pton) g.server.handler.tunnelCache now order health
      { request with clientIp := clientIp.getD unknownIp } with
  | respond response =>
      left
      refine ⟨g.answers ++ [response.toText], ?_⟩
      simp only [clientStep, hdecision]
      rfl
  | route t =>
      obtain ⟨_, rfl, _, tunnel, htunnel, hadmits⟩ := handleRequest_eq_route_iff.mp hdecision
      by_cases hconnected : g.server.isConnected (matchTunnel order request.host) = true
      · right
        refine ⟨registered_of_isConnected hconnected, ⟨tunnel, htunnel, hadmits⟩, ?_⟩
        simp only [clientStep, hdecision]
        exact forwards_routeToAgent hconnected _ time streamId sent
      · left
        refine ⟨g.answers ++ [(HTTPResponse.error 503 "Agent not connected".toList).toText], ?_⟩
        simp only [clientStep, hdecision]
        rw [Gateway.routeToAgent, if_pos (by simpa using hconnected)]
        rfl

theorem tcp_cases (now : ℤ) (clientIp : Option Str) (t : Str) (uuid : ConnectionId) (ok : Bool) :
    KeptOut pton g ⟨now, clientIp, .tcp t uuid ok⟩ ∨
      GetsThrough pton g ⟨now, clientIp, .tcp t uuid ok⟩ := by
  cases hadmit : admitClient (allows pton)
      (g.createEnv ⟨now, clientIp, .tcp t uuid ok⟩ t uuid ok) with
  | none =>
      left
      refine ⟨g.answers, ?_⟩
      simp only [clientStep]
      rw [createConnection_of_none hadmit, advanceTcp_self]
  | some ip =>
      right
      obtain ⟨hregistered, hagent, hadmitted⟩ := exists_of_admitClient hadmit
      refine ⟨hregistered, hadmitted, .tcpOpen t ⟨uuid, 0⟩, rfl, ?_⟩
      exact forwards_advanceTcp (opens_createConnection hadmit hagent)

theorem tcpByPort_cases (now : ℤ) (clientIp : Option Str) (order : List (Str × Tunnel)) (port : ℕ)
    (digits : Vector (Fin 16) 8) (uuid : ConnectionId) (ok : Bool) :
    KeptOut pton g ⟨now, clientIp, .tcpByPort order port digits uuid ok⟩ ∨
      GetsThrough pton g ⟨now, clientIp, .tcpByPort order port digits uuid ok⟩ := by
  have hkept : matchTunnelByPort order port = [] ∨ admitClient (allows pton)
      (g.createEnv ⟨now, clientIp, .tcpByPort order port digits uuid ok⟩
        (matchTunnelByPort order port) uuid ok) = none →
      KeptOut pton g ⟨now, clientIp, .tcpByPort order port digits uuid ok⟩ := by
    intro h
    refine ⟨g.answers, ?_⟩
    simp only [clientStep]
    rw [createConnectionByPort_of_none h, advanceTcp_self]
  cases hadmit : admitClient (allows pton)
      (g.createEnv ⟨now, clientIp, .tcpByPort order port digits uuid ok⟩
        (matchTunnelByPort order port) uuid ok) with
  | none => exact .inl (hkept (.inr hadmit))
  | some ip =>
      by_cases hempty : matchTunnelByPort order port = []
      · exact .inl (hkept (.inl hempty))
      · right
        obtain ⟨hregistered, hagent, hadmitted⟩ := exists_of_admitClient hadmit
        refine ⟨hregistered, hadmitted, .tcpOpen _ ⟨uuid, 0⟩, rfl, ?_⟩
        exact forwards_advanceTcp (opens_createConnectionByPort hempty hadmit hagent)

/-- **A client is kept out, or it gets through.** -/
theorem clientStep_cases (call : ClientCall) : KeptOut pton g call ∨ GetsThrough pton g call := by
  obtain ⟨now, clientIp, ingress⟩ := call
  cases ingress with
  | http order health request time streamId sent =>
      exact http_cases now clientIp order health request time streamId sent
  | tcp t uuid ok => exact tcp_cases now clientIp t uuid ok
  | tcpByPort order port digits uuid ok =>
      exact tcpByPort_cases now clientIp order port digits uuid ok

end

/-! ## Runs -/

section
variable {parse : Str → Option Json} {sha256 : Str → Digest} {pton : InetPton} {g : Gateway}

theorem GatewayInv.clientStep (H : GatewayInv g.server) (call : ClientCall) :
    GatewayInv (clientStep pton g call).server := by
  obtain ⟨now, clientIp, ingress⟩ := call
  cases ingress with
  | http order health request time streamId sent =>
      simp only [Server.clientStep]
      split
      · exact H
      · rw [Gateway.routeToAgent]
        split
        · exact H
        · split
          · exact H
          · exact H.sendHttpRequest _ _ _ streamId sent
  | tcp _ _ _ => exact H
  | tcpByPort _ _ _ _ _ => exact H

theorem gatewayInv_step (g : Gateway) (e : GatewayEvent) (H : GatewayInv g.server) :
    GatewayInv (gatewayStep parse sha256 pton g e).server := by
  cases e with
  | server e => exact H.serverStep e
  | client call => exact H.clientStep call
  | traffic e =>
      rw [gatewayStep]
      split
      · exact H
      · exact H

/-- A client without a readable address is kept out by every list that is not empty. -/
theorem not_admits_of_unreadable {clientIp : Option Str} (hunknown : Unparsable pton unknownIp)
    (h : Unreadable pton clientIp) {allowlist : List Str} (hne : allowlist ≠ []) :
    ¬ Admits pton allowlist (clientIp.getD unknownIp) := by
  cases clientIp with
  | none => exact not_admits_of_unparsable hunknown hne
  | some ip => exact not_admits_of_unparsable h hne

theorem failsClosed_client (hunknown : Unparsable pton unknownIp) (H : GatewayInv g.server)
    (call : ClientCall) : FailsClosed parse sha256 pton g (.client call) := by
  have hcases : KeptOut pton g call ∨ GetsThrough pton g call := clientStep_cases call
  rcases hcases with ⟨answers, hstep⟩ | hthrough
  · rw [FailsClosed, hstep]
    refine ⟨?_, fun _ _ _ _ => ⟨answers, rfl⟩⟩
    intro f hf
    rw [List.drop_length] at hf
    cases hf
  · obtain ⟨⟨c, hc⟩, ⟨tunnel, htunnel, hadmits⟩, f, hkey, hforwards⟩ := hthrough
    constructor
    · intro f' hf'
      rw [hforwards, List.drop_left] at hf'
      obtain rfl := List.mem_singleton.mp hf'
      rw [hkey]
      refine ⟨⟨c, hc, H.tunnelId_of_registered hc⟩, tunnel, htunnel, ?_⟩
      by_cases hempty : tunnel.ipAllowlist = []
      · exact .inl hempty
      · right
        obtain ⟨hparses, hcovers⟩ := hadmits.resolve_left hempty
        cases hip : call.clientIp with
        | none =>
            have hunreadable : Unreadable pton call.clientIp := by
              rw [hip]
              trivial
            exact absurd hadmits (not_admits_of_unreadable hunknown hunreadable hempty)
        | some ip =>
            rw [hip] at hcovers
            exact ⟨ip, rfl, hparses, hcovers⟩
    · intro hunreadable tunnel' htunnel' hne
      rw [htunnel] at htunnel'
      cases htunnel'
      exact absurd hadmits (not_admits_of_unreadable hunknown hunreadable hne)

theorem failsClosed_step (hunknown : Unparsable pton unknownIp) (H : GatewayInv g.server)
    (e : GatewayEvent) : FailsClosed parse sha256 pton g e := by
  cases e with
  | client call => exact failsClosed_client hunknown H call
  | server e => rfl
  | traffic e =>
      show (gatewayStep parse sha256 pton g (.traffic e)).forwards = g.forwards
      rw [gatewayStep]
      split
      · rfl
      · rename_i hcreates
        have hopens : opens (Proxy.step (allows pton) g.tcp e).sent = opens g.tcp.sent :=
          opens_step (Bool.eq_false_iff.mpr hcreates)
        simp [Gateway.advanceTcp, hopens]

/-- **Access control fails closed** in every run of the server, its agents and its clients,
if `inet_pton` does not take the text `unknown` for an address. -/
theorem access_fails_closed (parse : Str → Option Json) (sha256 : Str → Digest) (pton : InetPton)
    (hunknown : Unparsable pton unknownIp) (tunnelCache : Cache Str Tunnel) (tokenCache : TokenCache)
    (maxAgents : ℕ) (evs : List GatewayEvent) :
    Along (gatewayStep parse sha256 pton) (FailsClosed parse sha256 pton)
      (.init tunnelCache tokenCache maxAgents) evs :=
  along_of_forall (fun g => GatewayInv g.server) gatewayInv_step
    (fun _ e H => failsClosed_step hunknown H e)
    (gatewayInv_init tunnelCache tokenCache maxAgents)

end

/-! ## A tunnel with an allowlist -/

/-- One number of a dotted address: no leading zeros. -/
def octet (s : Str) : Option UInt8 :=
  if s ≠ [] ∧ s.all Char.isDigit ∧ (s.head? ≠ some '0' ∨ s.length = 1) ∧ digitsValue s ≤ 255 then
    some (UInt8.ofNat (digitsValue s))
  else none

/-- Dotted addresses only. -/
def samplePton : InetPton where
  ipv4 s :=
    match (s.splitOn '.').mapM octet with
    | some [a, b, c, d] => some #v[a, b, c, d]
    | _ => none
  ipv6 _ := none

/-- Tunnel `api` for clients of one network. -/
def sampleGuardedCache : Cache Str Tunnel :=
  Cache.empty.put 0 "api".toList
    ⟨"api".toList, .http, "localhost".toList, 3000, ["10.0.0.0/8".toList], 0, 0, 0, .active⟩ 86400

def sampleRequest (clientIp : Option Str) : GatewayEvent :=
  .client ⟨0, clientIp, .http (sampleGuardedCache.live 0) (200, [])
    ⟨"GET".toList, "/".toList, "HTTP/1.1".toList, "api.example.com".toList, [], [], []⟩ 0 1 true⟩

/-- An agent connects; then a client of the network sends a request, one without a known
address does, and one of another network opens a TCP connection. -/
def sampleClients : List GatewayEvent :=
  [.server (.agent sampleAuthenticate), .server (.agent (.advance 0 ⟨0, 0⟩)),
    .server (.agent (.advance 0 ⟨0, 0⟩)), .server (.agent (.start 0 true)),
    sampleRequest (some "10.1.2.3".toList), sampleRequest none,
    .client ⟨0, some "192.168.0.1".toList, .tcp "api".toList (Vector.replicate 16 0) true⟩]

/-- One request is forwarded. -/
theorem access_fails_closed_sample :
    (run (gatewayStep sampleParse sampleSha256 samplePton)
      (.init sampleGuardedCache sampleTokenCache 50) sampleClients).forwards.map Forward.tunnelId =
        ["api".toList] ∧
      Along (gatewayStep sampleParse sampleSha256 samplePton)
        (FailsClosed sampleParse sampleSha256 samplePton)
        (.init sampleGuardedCache sampleTokenCache 50) sampleClients :=
  ⟨by decide,
    access_fails_closed sampleParse sampleSha256 samplePton ⟨by decide, by decide⟩
      sampleGuardedCache sampleTokenCache 50 sampleClients⟩

end Protogate.Server
