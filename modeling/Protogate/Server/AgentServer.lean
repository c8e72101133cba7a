import Protogate.Agent.AgentConnection
import Protogate.Api.IssuedTokens
import Protogate.Lib.HeaderBlock
import Protogate.Lib.Run

/-!
# The agent server

An agent authenticates with a token; `authenticate` looks whether the tunnel has a
connected agent, adds the TCP ports the agent asks for to the tunnel cache, makes the
connection, registers it and starts it.  Many handshakes run at once on the threads of
the pool, so each of these is a step of its own, and the management API and other
handshakes may come in between.

A connection object lives on when the registry has dropped it or never took it; so
objects are numbered and the registry holds numbers.  `close` of an object whose
callback is set unregisters its tunnel id, whatever is registered under it by then.  The
callback names its handshake, which is taken to be alive whenever the callback runs.

## Main definitions

* `registerAgent` — the registry takes no more than a maximum, and no id twice.
* `AgentServer`, `Handshake` — the state.
* `authenticate`, `AgentServer.advance`, `AgentServer.start`, `AgentServer.close`.
* `agentStep`, `serverStep` — steps of agents, and of agents and the API.
* `Effect`, `agentStep_effect` — what a step does to the objects and the registry.
* `ServerInv`, `serverInv_run` — what holds of them in every reachable state.
-/

namespace Protogate.Server

open Protogate.Lib Protogate.Models Protogate.Security Protogate.Storage Protogate.Agent Protogate.Api

/-! ## The registry -/

/-- `register_agent`: whether the agent was taken, and the registry. -/
def registerAgent (maxAgents : ℕ) (agents : Assoc Str ℕ) (tunnelId : Str) (agent : ℕ) :
    Bool × Assoc Str ℕ :=
  if maxAgents ≤ agents.entries.length then (false, agents)
  else if (agents.lookup tunnelId).isSome then (false, agents)
  else (true, agents.insert tunnelId agent)

/-- A new entry, or none. -/
theorem lookup_registerAgent (maxAgents : ℕ) (agents : Assoc Str ℕ) (t k : Str) (i : ℕ) :
    (registerAgent maxAgents agents t i).2.lookup k =
      if (registerAgent maxAgents agents t i).1 = true ∧ k = t then some i else agents.lookup k := by
  simp only [registerAgent]
  split
  · simp
  · split
    · simp
    · simp only [true_and]
      exact Assoc.lookup_insert_ite agents t k i

/-- An agent that is taken had no predecessor. -/
theorem lookup_of_registered {maxAgents : ℕ} {agents : Assoc Str ℕ} {t : Str} {i : ℕ}
    (h : (registerAgent maxAgents agents t i).1 = true) : agents.lookup t = none := by
  simp only [registerAgent] at h
  split at h
  · cases h
  · split at h
    · cases h
    · rename_i hnone
      simpa using hnone

/-! ## State -/

/-- An `AgentConnection` object: its tunnel, its state, and whether `on_disconnect_` is set,
which `start` does. -/
structure AgentObject where
  tunnelId : Str
  agent : AgentConnection Unit
  onDisconnect : Bool

/-- Where a run of `authenticate` stands: it has found no connected agent, it adds the
ports, or it is about to make the connection. -/
inductive Handshake
  | checked (tunnelId tcpPorts : Str)
  | adding (tunnelId : Str) (existing : Tunnel) (ports : List Str)
  | ready (tunnelId : Str)
  deriving DecidableEq, Repr

/-- What the handlers share, the limit of the registry, the objects made so far, and the
handshakes under way. -/
structure AgentServer where
  handler : Handler
  maxAgents : ℕ
  objects : List AgentObject
  handshakes : List Handshake

/-- A server that starts with what is in its caches. -/
def AgentServer.init (tunnelCache : Cache Str Tunnel) (tokenCache : TokenCache) (maxAgents : ℕ) :
    AgentServer :=
  ⟨⟨tunnelCache, tokenCache, ∅⟩, maxAgents, [], []⟩

namespace AgentServer

/-- `get_agent`, and the object. -/
def registered (s : AgentServer) (tunnelId : Str) : Option AgentObject :=
  (s.handler.agents.lookup tunnelId).bind fun i => s.objects[i]?

/-- `is_connected`. -/
def isConnected (s : AgentServer) (tunnelId : Str) : Bool :=
  (s.registered tunnelId).any fun c => c.agent.state = .connected

/-- `unregister_agent`. -/
def unregister (s : AgentServer) (tunnelId : Str) : AgentServer :=
  { s with handler := { s.handler with agents := s.handler.agents.erase tunnelId } }

def setObject (s : AgentServer) (i : ℕ) (c : AgentObject) : AgentServer :=
  { s with objects := s.objects.set i c }

/-! ## Connections -/

/-- `close` of an object; `handle_disconnect` calls the callback with its tunnel id. -/
def close (s : AgentServer) (i : ℕ) : AgentServer :=
  match s.objects[i]? with
  | none => s
  | some c =>
      if c.agent.state = .disconnected ∨ c.agent.state = .disconnecting then s
      else
        let closed := s.setObject i { c with agent := (Agent.close c.agent).1 }
        if c.onDisconnect then closed.unregister c.tunnelId else closed

/-- `start` of a new object; `sent` is whether its first `nghttp2_session_send` succeeds. -/
def start (s : AgentServer) (i : ℕ) (sent : Bool) : AgentServer :=
  match s.objects[i]? with
  | none => s
  | some c =>
      if c.onDisconnect then s
      else
        let started := s.setObject i
          { c with onDisconnect := true, agent := (Agent.start c.agent true).1 }
        if sent then started else started.close i

/-- Make the object and register it; the answer of `register_agent` is not looked at. -/
def connect (s : AgentServer) (tunnelId : Str) : AgentServer :=
  { s with
    objects := s.objects ++ [⟨tunnelId, .created Unit .connected, false⟩]
    handler := { s.handler with
      agents := (registerAgent s.maxAgents s.handler.agents tunnelId s.objects.length).2 } }

end AgentServer

/-! ## Authentication -/

/-- The headers `authenticate` uses; it also reads `X-Tunnel-ID`, but not for anything. -/
structure AuthHeaders where
  authorization : Str
  tcpPorts : Str
  deriving DecidableEq, Repr

def readHeader (h : AuthHeaders) (line : Str) : AuthHeaders :=
  let line := popCr line
  if hasPrefix "Authorization: ".toList line then { h with authorization := line.drop 15 }
  else if hasPrefix "X-TCP-Ports: ".toList line then { h with tcpPorts := line.drop 13 }
  else h

/-- The headers up to the empty line; later ones replace earlier ones. -/
def authHeaders (authData : Str) : AuthHeaders :=
  (headerBlock authData.length authData).1.foldl readHeader ⟨[], []⟩

/-- The key of the entry for a port. -/
def tcpTunnelKey (tunnelId : Str) (port : ℕ) : Str := tunnelId ++ ":tcp:".toList ++ decimal port

/-- The entry for a port: the target of the tunnel, and an empty allowlist. -/
def tcpTunnel (clock : Clock) (tunnelId : Str) (existing : Tunnel) : Tunnel where
  tunnelId := tunnelId
  protocol := .tcp
  targetHost := existing.targetHost
  targetPort := existing.targetPort
  ipAllowlist := []
  rateLimitRpm := 0
  createdAt := clock.system
  updatedAt := clock.system
  status := .active

/-- The lifetime of these entries: a day. -/
def tcpTunnelTtl : ℤ := 24 * 3600

theorem seconds_tcpTunnelTtl_pos : 0 < seconds tcpTunnelTtl := by decide

/-- One port of the list; `none` when `std::stoi` throws. -/
def addTcpPort (cache : Cache Str Tunnel) (clock : Clock) (tunnelId : Str) (existing : Tunnel)
    (port : Str) : Option (Cache Str Tunnel) :=
  let port := trim (fun c => c = ' ' || c = '\t') port
  if port.isEmpty then some cache
  else
    (stoi port).map fun n =>
      -- the int is cast to uint16_t
      cache.put clock.steady (tcpTunnelKey tunnelId (n % 65536).toNat)
        (tcpTunnel clock tunnelId existing) tcpTunnelTtl

/-- `authenticate` up to the check for a connected agent; `order` is how the token cache is
visited.  Nothing is kept of a handshake that is answered with 401 or 409. -/
def authenticate (sha256 : Str → Digest) (s : AgentServer) (clock : Clock)
    (order : List (Str × AuthToken)) (authData : Str) : AgentServer :=
  let headers := authHeaders authData
  let result := validate sha256 order clock.system headers.authorization
  if !result.valid then s
  else if s.isConnected result.tunnelId then s
  else { s with handshakes := s.handshakes ++ [.checked result.tunnelId headers.tcpPorts] }

namespace AgentServer

def setHandshake (s : AgentServer) (h : ℕ) (handshake : Handshake) : AgentServer :=
  { s with handshakes := s.handshakes.set h handshake }

def dropHandshake (s : AgentServer) (h : ℕ) : AgentServer :=
  { s with handshakes := s.handshakes.eraseIdx h }

def setTunnelCache (s : AgentServer) (cache : Cache Str Tunnel) : AgentServer :=
  { s with handler := { s.handler with tunnelCache := cache } }

/-- The next step of the `h`-th handshake. -/
def advance (s : AgentServer) (h : ℕ) (clock : Clock) : AgentServer :=
  match s.handshakes[h]? with
  | none => s
  | some (.checked tunnelId tcpPorts) =>
      if tcpPorts.isEmpty then s.setHandshake h (.ready tunnelId)
      else
        match s.handler.tunnelCache.get clock.steady tunnelId with
        | none => s.setHandshake h (.ready tunnelId)
        | some existing => s.setHandshake h (.adding tunnelId existing (fields ',' tcpPorts))
  | some (.adding tunnelId _ []) => s.setHandshake h (.ready tunnelId)
  | some (.adding tunnelId existing (port :: ports)) =>
      match addTcpPort s.handler.tunnelCache clock tunnelId existing port with
      -- an exception ends the handshake; the ports before this one stay
      | none => s.dropHandshake h
      | some cache => (s.setTunnelCache cache).setHandshake h (.adding tunnelId existing ports)
  | some (.ready tunnelId) => (s.dropHandshake h).connect tunnelId

end AgentServer

/-! ## Steps -/

/-- A step of a handshake, the start of the connection it made, or the loss of a connection
that was started. -/
inductive AgentEvent
  | authenticate (clock : Clock) (order : List (Str × AuthToken)) (authData : Str)
  | advance (h : ℕ) (clock : Clock)
  | start (i : ℕ) (sent : Bool)
  | disconnect (i : ℕ)
  deriving DecidableEq, Repr

/-- A step of an agent, a request to the API, or a call of the validator. -/
inductive ServerEvent
  | agent (e : AgentEvent)
  | api (e : Api.Event)
  deriving DecidableEq, Repr

section
variable (parse : Str → Option Json) (sha256 : Str → Digest)

def agentStep (s : AgentServer) : AgentEvent → AgentServer
  | .authenticate clock order authData =>
      if s.handler.tokenCache.Visits clock.steady order then
        Server.authenticate sha256 s clock order authData
      else s
  | .advance h clock => s.advance h clock
  | .start i sent => s.start i sent
  | .disconnect i =>
      if (s.objects[i]?).any (·.onDisconnect) then s.close i else s

def serverStep (s : AgentServer) : ServerEvent → AgentServer
  | .agent e => agentStep sha256 s e
  | .api e => { s with handler := (Api.step parse sha256 ⟨s.handler, []⟩ e).handler }

end

/-! ## What a step does -/

/-- Started and not yet disconnected. -/
def AgentObject.Live (c : AgentObject) : Prop :=
  c.onDisconnect = true ∧ c.agent.state ≠ .disconnected

instance (c : AgentObject) : Decidable c.Live := inferInstanceAs (Decidable (_ ∧ _ ≠ _))

/-- A connection object starts `CONNECTED`; it stays so until it is lost, and is not lost
before it is started.  An entry of the registry is an object of its tunnel. -/
structure RegistryInv (objects : List AgentObject) (agents : Assoc Str ℕ) : Prop where
  states : ∀ (i : ℕ) (c : AgentObject), objects[i]? = some c →
    c.agent.state = .connected ∨ c.agent.state = .disconnected
  unstarted : ∀ (i : ℕ) (c : AgentObject), objects[i]? = some c → c.onDisconnect = false →
    c.agent.state = .connected
  entries : ∀ t i, agents.lookup t = some i → ∃ c, objects[i]? = some c ∧ c.tunnelId = t

abbrev ServerInv (s : AgentServer) : Prop := RegistryInv s.objects s.handler.agents

/-- What a step of an agent can do to the objects and the registry: nothing, make an object
and try to register it, start an object, or lose one, which unregisters its tunnel id. -/
inductive Effect (s : AgentServer) : AgentEvent → List AgentObject → Assoc Str ℕ → Prop
  | idle (e : AgentEvent)
      (hstart : ∀ i sent, e = .start i sent → ∀ c, s.objects[i]? = some c → c.onDisconnect = true)
      (hdisconnect : ∀ i, e = .disconnect i → ∀ c, s.objects[i]? = some c → ¬ c.Live) :
      Effect s e s.objects s.handler.agents
  | connected (h : ℕ) (clock : Clock) (t : Str) (hready : s.handshakes[h]? = some (.ready t)) :
      Effect s (.advance h clock) (s.objects ++ [⟨t, .created Unit .connected, false⟩])
        (registerAgent s.maxAgents s.handler.agents t s.objects.length).2
  | started (i : ℕ) (c : AgentObject) (agent : AgentConnection Unit) (hc : s.objects[i]? = some c)
      (hnew : c.onDisconnect = false) (hstate : agent.state = .connected) :
      Effect s (.start i true) (s.objects.set i { c with onDisconnect := true, agent })
        s.handler.agents
  | lost (e : AgentEvent) (i : ℕ) (c : AgentObject) (agent : AgentConnection Unit)
      (hc : s.objects[i]? = some c)
      (he : e = .disconnect i ∧ c.Live ∨ e = .start i false ∧ c.onDisconnect = false)
      (hstate : agent.state = .disconnected) :
      Effect s e (s.objects.set i { c with onDisconnect := true, agent })
        (s.handler.agents.erase c.tunnelId)

theorem getElem?_set_self {objects : List AgentObject} {i : ℕ} {c : AgentObject}
    (hc : objects[i]? = some c) (c' : AgentObject) :
    (objects.set i c')[i]? = some c' := by
  obtain ⟨hlt, _⟩ := List.getElem?_eq_some_iff.mp hc
  rw [List.getElem?_set_self hlt]

section
variable {sha256 : Str → Digest} {s : AgentServer} {i : ℕ} {c : AgentObject}

/-- `close` of an object that is connected. -/
theorem close_of_connected (hc : s.objects[i]? = some c) (hstate : c.agent.state = .connected) :
    s.close i =
      let closed := s.setObject i { c with agent := (Agent.close c.agent).1 }
      if c.onDisconnect then closed.unregister c.tunnelId else closed := by
  simp only [AgentServer.close, hc, hstate]
  rfl

theorem state_close (agent : AgentConnection Unit) (h : agent.state = .connected) :
    (Agent.close agent).1.state = .disconnected := by
  rw [Agent.close, if_neg (by simp [h])]
  rfl

theorem state_start (agent : AgentConnection Unit) (h : agent.state = .connected) :
    (Agent.start agent true).1.state = .connected := by
  rw [Agent.start, if_pos h]
  exact h

/-- Starting an object. -/
theorem effect_start (H : ServerInv s) (i : ℕ) (sent : Bool) :
    Effect s (.start i sent) (s.start i sent).objects (s.start i sent).handler.agents := by
  have hidle : (∀ c, s.objects[i]? = some c → c.onDisconnect = true) →
      Effect s (.start i sent) s.objects s.handler.agents := by
    intro hstarted
    refine .idle _ ?_ (by simp)
    rintro j sent' ⟨⟩
    exact hstarted
  rw [AgentServer.start]
  cases hc : s.objects[i]? with
  | none => exact hidle (by simp [hc])
  | some c =>
      by_cases hstarted : c.onDisconnect = true
      · simp only [hstarted, if_true]
        exact hidle (by simp [hc, hstarted])
      · replace hstarted : c.onDisconnect = false := by simpa using hstarted
        have hstate := state_start c.agent (H.unstarted i c hc hstarted)
        simp only [hstarted, Bool.false_eq_true, if_false]
        cases sent with
        | true => exact .started i c _ hc hstarted hstate
        | false =>
            have hset := getElem?_set_self hc
              { c with onDisconnect := true, agent := (Agent.start c.agent true).1 }
            simp only [Bool.false_eq_true, if_false]
            rw [close_of_connected hset hstate]
            simp only [AgentServer.setObject, AgentServer.unregister, List.set_set, if_true]
            exact .lost _ i c _ hc (.inr ⟨rfl, hstarted⟩) (state_close _ hstate)

/-- Losing an object. -/
theorem effect_disconnect (H : ServerInv s) (i : ℕ) :
    Effect s (.disconnect i) (agentStep sha256 s (.disconnect i)).objects
      (agentStep sha256 s (.disconnect i)).handler.agents := by
  have hidle : (∀ c, s.objects[i]? = some c → ¬ c.Live) →
      Effect s (.disconnect i) s.objects s.handler.agents := by
    intro hdead
    refine .idle _ (by simp) ?_
    rintro j ⟨⟩
    exact hdead
  rw [agentStep]
  cases hc : s.objects[i]? with
  | none => exact hidle (by simp [hc])
  | some c =>
      by_cases hstarted : c.onDisconnect = true
      · simp only [Option.any_some, hstarted, if_true]
        rcases H.states i c hc with hstate | hstate
        · rw [close_of_connected hc hstate]
          simp only [hstarted, if_true]
          have hlive : c.Live := ⟨hstarted, by rw [hstate]; decide⟩
          exact .lost _ i c _ hc (.inl ⟨rfl, hlive⟩) (state_close c.agent hstate)
        · have hsame : s.close i = s := by
            simp only [AgentServer.close, hc, hstate, true_or, if_true]
          rw [hsame]
          exact hidle (by simp [hc, AgentObject.Live, hstate])
      · simp only [Option.any_some, hstarted, Bool.false_eq_true, if_false]
        exact hidle (by simp [hc, AgentObject.Live, hstarted])

/-- A handshake makes an object at its last step only. -/
theorem effect_advance (s : AgentServer) (h : ℕ) (clock : Clock) :
    Effect s (.advance h clock) (s.advance h clock).objects (s.advance h clock).handler.agents := by
  have hidle : Effect s (.advance h clock) s.objects s.handler.agents :=
    .idle _ (by simp) (by simp)
  simp only [AgentServer.advance]
  split
  · exact hidle
  · split
    · exact hidle
    · split
      · exact hidle
      · exact hidle
  · exact hidle
  · split
    · exact hidle
    · exact hidle
  · rename_i t hready
    exact .connected h clock t hready

/-- **Every step of an agent has one of the four effects.** -/
theorem agentStep_effect (H : ServerInv s) (e : AgentEvent) :
    Effect s e (agentStep sha256 s e).objects (agentStep sha256 s e).handler.agents := by
  cases e with
  | authenticate clock order authData =>
      have hidle : Effect s (.authenticate clock order authData) s.objects s.handler.agents :=
        .idle _ (by simp) (by simp)
      simp only [agentStep, authenticate]
      split
      · split
        · exact hidle
        · split
          · exact hidle
          · exact hidle
      · exact hidle
  | advance h clock => exact effect_advance s h clock
  | start i sent => exact effect_start H i sent
  | disconnect i => exact effect_disconnect H i

end

/-! ## The invariant -/

theorem serverInv_init (tunnelCache : Cache Str Tunnel) (tokenCache : TokenCache) (maxAgents : ℕ) :
    ServerInv (AgentServer.init tunnelCache tokenCache maxAgents) := by
  constructor
  · simp [AgentServer.init]
  · simp [AgentServer.init]
  · simp [AgentServer.init]

section
variable {objects : List AgentObject} {agents : Assoc Str ℕ}

/-- The object at a position after one was changed. -/
theorem getElem?_set_cases {i j : ℕ} {c c' d : AgentObject} (hc : objects[i]? = some c)
    (h : (objects.set i c')[j]? = some d) : i = j ∧ d = c' ∨ i ≠ j ∧ objects[j]? = some d := by
  by_cases hij : i = j
  · subst hij
    rw [getElem?_set_self hc] at h
    exact .inl ⟨rfl, (Option.some.inj h).symm⟩
  · rw [List.getElem?_set_ne hij] at h
    exact .inr ⟨hij, h⟩

/-- What is asked of an object at a position is asked of the one there. -/
theorem forall_at_iff {i : ℕ} {c : AgentObject} {Q R : AgentObject → Prop}
    (hc : objects[i]? = some c) (hQ : Q c) :
    (∀ d, objects[i]? = some d → Q d → R d) ↔ R c := by
  constructor
  · exact fun hall => hall c hc hQ
  · intro hR d hd _
    rw [hc] at hd
    cases hd
    exact hR

/-- The tunnel of the object at a position. -/
theorem exists_at_iff {i : ℕ} {c : AgentObject} {Q : AgentObject → Prop} {t : Str}
    (hc : objects[i]? = some c) (hQ : Q c) :
    (∃ d, objects[i]? = some d ∧ Q d ∧ d.tunnelId = t) ↔ t = c.tunnelId := by
  constructor
  · rintro ⟨d, hd, _, rfl⟩
    rw [hc] at hd
    cases hd
    rfl
  · rintro rfl
    exact ⟨c, hc, hQ, rfl⟩

/-- The object at a position after one was added. -/
theorem getElem?_concat_cases {j : ℕ} {c d : AgentObject} (h : (objects ++ [c])[j]? = some d) :
    objects[j]? = some d ∨ j = objects.length ∧ d = c := by
  rcases Nat.lt_trichotomy j objects.length with hlt | heq | hgt
  · rw [List.getElem?_append_left hlt] at h
    exact .inl h
  · subst heq
    rw [List.getElem?_concat_length] at h
    exact .inr ⟨rfl, (Option.some.inj h).symm⟩
  · rw [List.getElem?_eq_none (by rw [List.length_append, List.length_singleton]; omega)] at h
    cases h

/-- A new object may be registered under its tunnel. -/
theorem RegistryInv.connected (H : RegistryInv objects agents) (maxAgents : ℕ) (t : Str) :
    RegistryInv (objects ++ [⟨t, .created Unit .connected, false⟩])
      (registerAgent maxAgents agents t objects.length).2 where
  states := by
    intro i c hc
    rcases getElem?_concat_cases hc with hc | ⟨_, rfl⟩
    · exact H.states i c hc
    · exact .inl rfl
  unstarted := by
    intro i c hc hnew
    rcases getElem?_concat_cases hc with hc | ⟨_, rfl⟩
    · exact H.unstarted i c hc hnew
    · rfl
  entries := by
    intro k i hi
    rw [lookup_registerAgent] at hi
    split at hi
    · rename_i hregistered
      cases hi
      exact ⟨_, List.getElem?_concat_length, hregistered.2.symm⟩
    · obtain ⟨c, hc, htunnel⟩ := H.entries k i hi
      obtain ⟨hlt, _⟩ := List.getElem?_eq_some_iff.mp hc
      exact ⟨c, by rw [List.getElem?_append_left hlt, hc], htunnel⟩

/-- A started object may change its state, and its tunnel may lose its entry. -/
theorem RegistryInv.set (H : RegistryInv objects agents) {i : ℕ} {c : AgentObject}
    (hc : objects[i]? = some c) {agent : AgentConnection Unit}
    (hstate : agent.state = .connected ∨ agent.state = .disconnected) {agents' : Assoc Str ℕ}
    (hagents : ∀ t j, agents'.lookup t = some j → agents.lookup t = some j) :
    RegistryInv (objects.set i { c with onDisconnect := true, agent }) agents' where
  states := by
    intro j d hd
    rcases getElem?_set_cases hc hd with ⟨_, rfl⟩ | ⟨_, hd⟩
    · exact hstate
    · exact H.states j d hd
  unstarted := by
    intro j d hd hnew
    rcases getElem?_set_cases hc hd with ⟨_, rfl⟩ | ⟨_, hd⟩
    · cases hnew
    · exact H.unstarted j d hd hnew
  entries := by
    intro t j hj
    obtain ⟨d, hd, htunnel⟩ := H.entries t j (hagents t j hj)
    by_cases hij : i = j
    · subst hij
      rw [hc] at hd
      cases hd
      exact ⟨_, getElem?_set_self hc _, htunnel⟩
    · exact ⟨d, by rw [List.getElem?_set_ne hij, hd], htunnel⟩

theorem RegistryInv.effect {s : AgentServer} (H : ServerInv s) {e : AgentEvent}
    (h : Effect s e objects agents) : RegistryInv objects agents := by
  cases h with
  | idle _ _ _ => exact H
  | connected h clock t _ => exact H.connected s.maxAgents t
  | started i c agent hc _ hstate => exact H.set hc (.inl hstate) (fun _ _ hj => hj)
  | lost e i c agent hc _ hstate =>
      exact H.set hc (.inr hstate) (fun _ _ hj => (Assoc.lookup_of_lookup_erase hj).2)

end

/-- A request takes one entry of the registry away at most, that of a deleted tunnel. -/
theorem agents_apiStep (parse : Str → Option Json) (sha256 : Str → Digest) (s : Handler)
    (e : Api.Event) :
    (Api.step parse sha256 ⟨s, []⟩ e).handler.agents = s.agents ∨
      ∃ t, e.op = .request (.delete t) ∧
        (Api.step parse sha256 ⟨s, []⟩ e).handler.agents = s.agents.erase t := by
  obtain ⟨env, op⟩ := e
  cases op with
  | validator call => exact .inl rfl
  | request r =>
      have houtcome := handle_outcome parse sha256 s env r
      show (s.handle parse sha256 env r).2.agents = s.agents ∨ ∃ t, Op.request r = .request (.delete t) ∧
        (s.handle parse sha256 env r).2.agents = s.agents.erase t
      generalize s.handle parse sha256 env r = result at houtcome ⊢
      obtain ⟨response, s'⟩ := result
      cases houtcome with
      | rejected _ _ _ => exact .inl rfl
      | created _ _ _ _ => exact .inl rfl
      | deleted t _ => exact .inr ⟨t, rfl, rfl⟩
      | rotated _ _ _ _ => exact .inl rfl

section
variable {parse : Str → Option Json} {sha256 : Str → Digest}

theorem serverInv_agentStep (s : AgentServer) (e : AgentEvent) (H : ServerInv s) :
    ServerInv (agentStep sha256 s e) := RegistryInv.effect H (agentStep_effect H e)

theorem serverInv_step (s : AgentServer) (e : ServerEvent) (H : ServerInv s) :
    ServerInv (serverStep parse sha256 s e) := by
  cases e with
  | agent e => exact serverInv_agentStep s e H
  | api e =>
      refine ⟨H.states, H.unstarted, fun t i hi => H.entries t i ?_⟩
      rcases agents_apiStep parse sha256 s.handler e with hsame | ⟨t', _, herased⟩
      · exact hsame ▸ hi
      · have hi : (s.handler.agents.erase t').lookup t = some i := herased ▸ hi
        exact (Assoc.lookup_of_lookup_erase hi).2

/-- What holds in every reachable state. -/
theorem serverInv_run (tunnelCache : Cache Str Tunnel) (tokenCache : TokenCache) (maxAgents : ℕ)
    (evs : List ServerEvent) :
    ServerInv (run (serverStep parse sha256) (.init tunnelCache tokenCache maxAgents) evs) :=
  run_invariant ServerInv serverInv_step (serverInv_init tunnelCache tokenCache maxAgents)

end

end Protogate.Server
