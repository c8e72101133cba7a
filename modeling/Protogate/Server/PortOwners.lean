import Protogate.Server.LiveAgents
import Protogate.Server.TcpServer

/-!
# The owner of a TCP port

An agent lists the ports it serves in a header, and `authenticate` adds an entry to the
tunnel cache for each, without a look at the entries of other tunnels.  The lookup takes
whichever entry for the port it visits last.

Time is part of the state, so that the clock an event reads is that of the moment.

## Main definitions

* `PortState`, `PortEvent`, `portStep` — the agent server and the steady clock.
* `OneOwner` — every port has one owner at most, and is routed the same way in every
  order of the visit.
* `NoForeignClaim` — the step adds no entry for a port that another tunnel has.
* `one_owner_iff` — when every state has one owner for each port.
-/

namespace Protogate.Server

open Protogate.Lib Protogate.Models Protogate.Security Protogate.Storage Protogate.Api

/-! ## Time -/

/-- The server, and the steady clock after the last event. -/
structure PortState where
  server : AgentServer
  now : ℤ

/-- An event, and the time since the one before. -/
structure PortEvent where
  elapsed : ℕ
  event : ServerEvent

/-- The event reads the steady clock at `now`, if at all. -/
def ReadsClock (now : ℤ) : ServerEvent → Prop
  | .agent (.authenticate clock _ _) | .agent (.advance _ clock) => clock.steady = now
  | .agent (.start _ _) | .agent (.disconnect _) => True
  | .api e => e.env.clock.steady = now

instance (now : ℤ) : (e : ServerEvent) → Decidable (ReadsClock now e)
  | .agent (.authenticate clock _ _) => inferInstanceAs (Decidable (clock.steady = now))
  | .agent (.advance _ clock) => inferInstanceAs (Decidable (clock.steady = now))
  | .agent (.start _ _) => inferInstanceAs (Decidable True)
  | .agent (.disconnect _) => inferInstanceAs (Decidable True)
  | .api e => inferInstanceAs (Decidable (e.env.clock.steady = now))

section
variable (parse : Str → Option Json) (sha256 : Str → Digest)

/-- Time passes; an event with another reading of the clock is none of this moment. -/
def portStep (s : PortState) (e : PortEvent) : PortState where
  server :=
    if ReadsClock (s.now + e.elapsed) e.event then serverStep parse sha256 s.server e.event
    else s.server
  now := s.now + e.elapsed

end

/-! ## The property and the condition -/

/-- Each port has at most one tunnel, and a scan finds the same one in every order. -/
structure OneOwner (s : PortState) : Prop where
  owner : ∀ port, AtMostOne s.server.handler.tunnelCache s.now port
  routed : ∀ port visit visit', s.server.handler.tunnelCache.Visits s.now visit →
    s.server.handler.tunnelCache.Visits s.now visit' → scanPort visit port = scanPort visit' port

/-- The key and the entry that the step adds for a port, if it does. -/
def addedEntry (s : AgentServer) : ServerEvent → Option (Str × Tunnel)
  | .agent (.advance h clock) =>
      match s.handshakes[h]? with
      | some (.adding tunnelId existing (port :: _)) =>
          (stoi (trim (fun c => c = ' ' || c = '\t') port)).map fun n =>
            (tcpTunnelKey tunnelId (n % 65536).toNat, tcpTunnel clock tunnelId existing)
      | _ => none
  | _ => none

/-- If the step adds an entry for a port, no unexpired entry for the port is another tunnel's. -/
def NoForeignClaim (s : PortState) (e : PortEvent) : Prop :=
  ReadsClock (s.now + e.elapsed) e.event →
    ∀ key tunnel, addedEntry s.server e.event = some (key, tunnel) →
      ∀ port, claims port (key, tunnel) = true →
        ∀ t, OtherClaim s.server.handler.tunnelCache (s.now + e.elapsed) key port t →
          t = tunnel.tunnelId

/-- What a handshake adds for a port is found by a lookup of that port, and of no other. -/
theorem claims_tcpTunnel_iff {tunnelId : Str} (hcolon : ':' ∉ tunnelId) (clock : Clock)
    (existing : Tunnel) {listed : ℕ} (hlisted : listed < 65536) (port : ℕ) :
    claims port (tcpTunnelKey tunnelId listed, tcpTunnel clock tunnelId existing) = true ↔
      port = listed := by
  have hport : keyPort (tcpTunnelKey tunnelId listed) = some listed := by
    have hmod : (((listed : ℕ) : ℤ) % 65536).toNat = listed := by omega
    rw [keyPort, tcpTunnelKey, afterTcp_append hcolon, Option.bind_some, stoi_decimal (by omega),
      Option.map_some, hmod]
  simp only [claims, hport, tcpTunnel, Option.some.injEq, decide_true, Bool.and_true,
    decide_eq_true_eq]
  exact eq_comm

/-- The routing is the same in every order just if the owners are unique. -/
theorem oneOwner_iff {s : PortState} :
    OneOwner s ↔ ∀ port, AtMostOne s.server.handler.tunnelCache s.now port := by
  constructor
  · exact OneOwner.owner
  · intro howner
    exact ⟨howner, fun port => scanPort_unique_iff.mpr (howner port)⟩

/-! ## What a step does to the tunnel cache -/

section
variable {parse : Str → Option Json} {sha256 : Str → Digest}

theorem tunnelCache_close (s : AgentServer) (i : ℕ) :
    (s.close i).handler.tunnelCache = s.handler.tunnelCache := by
  rw [AgentServer.close]
  split
  · rfl
  · split
    · rfl
    · dsimp only
      split <;> rfl

theorem tunnelCache_start (s : AgentServer) (i : ℕ) (sent : Bool) :
    (s.start i sent).handler.tunnelCache = s.handler.tunnelCache := by
  rw [AgentServer.start]
  split
  · rfl
  · split
    · rfl
    · dsimp only
      split
      · rfl
      · rw [tunnelCache_close]
        rfl

theorem tunnelCache_advance (s : AgentServer) (h : ℕ) (clock : Clock) :
    (s.advance h clock).handler.tunnelCache =
      match addedEntry s (.agent (.advance h clock)) with
      | none => s.handler.tunnelCache
      | some (key, tunnel) => s.handler.tunnelCache.put clock.steady key tunnel tcpTunnelTtl := by
  rw [AgentServer.advance]
  cases hh : s.handshakes[h]? with
  | none => simp [addedEntry, hh]
  | some handshake =>
      cases handshake with
      | checked tunnelId tcpPorts =>
          simp only [addedEntry, hh]
          split
          · rfl
          · split <;> rfl
      | ready tunnelId =>
          simp only [addedEntry, hh]
          rfl
      | adding tunnelId existing ports =>
          cases ports with
          | nil =>
              simp only [addedEntry, hh]
              rfl
          | cons port ports =>
              simp only [addedEntry, hh, addTcpPort]
              by_cases hempty : (trim (fun c => c = ' ' || c = '\t') port).isEmpty = true
              · have hnone : stoi [] = none := rfl
                rw [if_pos hempty, List.isEmpty_iff.mp hempty, hnone]
                rfl
              · rw [if_neg hempty]
                cases hn : stoi (trim (fun c => c = ' ' || c = '\t') port) <;> rfl

/-- **A step of an agent adds one entry for a port at most.** -/
theorem tunnelCache_agentStep (s : AgentServer) (e : AgentEvent) {now : ℤ}
    (hclock : ReadsClock now (.agent e)) :
    (agentStep sha256 s e).handler.tunnelCache =
      match addedEntry s (.agent e) with
      | none => s.handler.tunnelCache
      | some (key, tunnel) => s.handler.tunnelCache.put now key tunnel tcpTunnelTtl := by
  cases e with
  | authenticate clock order authData =>
      simp only [agentStep, authenticate, addedEntry]
      split
      · split
        · rfl
        · split <;> rfl
      · rfl
  | advance h clock =>
      have hnow : clock.steady = now := hclock
      rw [← hnow]
      exact tunnelCache_advance s h clock
  | start i sent => exact tunnelCache_start s i sent
  | disconnect i =>
      simp only [agentStep, addedEntry]
      split
      · exact tunnelCache_close s i
      · rfl

/-- A request adds a tunnel under a key without a colon, or removes one. -/
theorem tunnelCache_apiStep (parse : Str → Option Json) (sha256 : Str → Digest) (s : Handler)
    (e : Api.Event) :
    (Api.step parse sha256 ⟨s, []⟩ e).handler.tunnelCache = s.tunnelCache ∨
      (∃ t : Tunnel, ':' ∉ t.tunnelId ∧ (Api.step parse sha256 ⟨s, []⟩ e).handler.tunnelCache =
        s.tunnelCache.put e.env.clock.steady t.tunnelId t yearTtl) ∨
      ∃ id, (Api.step parse sha256 ⟨s, []⟩ e).handler.tunnelCache = s.tunnelCache.remove id := by
  obtain ⟨env, op⟩ := e
  cases op with
  | validator call => exact .inl rfl
  | request r =>
      have houtcome := handle_outcome parse sha256 s env r
      simp only [Api.step]
      generalize s.handle parse sha256 env r = result at houtcome ⊢
      obtain ⟨response, s'⟩ := result
      cases houtcome with
      | rejected _ _ _ => exact .inl rfl
      | created body t hid _ =>
          refine .inr (.inl ⟨t, ?_, rfl⟩)
          intro hcolon
          exact absurd (List.all_eq_true.mp hid ':' hcolon) (by decide)
      | deleted id _ => exact .inr (.inr ⟨id, rfl⟩)
      | rotated _ _ _ _ => exact .inl rfl

/-! ## One step -/

theorem owner_step {s : PortState} (H : ∀ port, AtMostOne s.server.handler.tunnelCache s.now port)
    (e : PortEvent) :
    (∀ port, AtMostOne (portStep parse sha256 s e).server.handler.tunnelCache
      (portStep parse sha256 s e).now port) ↔ NoForeignClaim s e := by
  have hlater : ∀ port, AtMostOne s.server.handler.tunnelCache (s.now + e.elapsed) port :=
    fun port => (H port).later (by omega)
  by_cases hclock : ReadsClock (s.now + e.elapsed) e.event
  · simp only [portStep, NoForeignClaim, hclock, if_true, true_implies]
    cases hevent : e.event with
    | agent a =>
        rw [hevent] at hclock
        simp only [serverStep]
        rw [tunnelCache_agentStep s.server a hclock]
        cases hadded : addedEntry s.server (.agent a) with
        | none => exact iff_of_true hlater (by simp)
        | some entry =>
            obtain ⟨key, tunnel⟩ := entry
            simp only [(hlater _).put_iff seconds_tcpTunnelTtl_pos]
            constructor
            · rintro h key' tunnel' ⟨⟩
              exact h
            · exact fun h => h key tunnel rfl
    | api a =>
        refine iff_of_true ?_ (by simp [addedEntry])
        have hnow : a.env.clock.steady = s.now + e.elapsed := by
          rw [hevent] at hclock
          exact hclock
        simp only [serverStep]
        rcases tunnelCache_apiStep parse sha256 s.server.handler a with
          hsame | ⟨t, hcolon, hput⟩ | ⟨id, hremove⟩
        · rw [hsame]
          exact hlater
        · rw [hput, hnow]
          intro port
          rw [(hlater port).put_iff seconds_yearTtl_pos, claims_eq_false hcolon]
          simp
        · rw [hremove]
          exact fun port => (hlater port).remove id
  · simp only [portStep, NoForeignClaim, hclock, if_false, false_implies, iff_true]
    exact hlater

/-- **Every port has one owner throughout a run exactly if no step of it adds an entry for
a port that another tunnel has.** -/
theorem one_owner_iff (parse : Str → Option Json) (sha256 : Str → Digest)
    (tunnelCache : Cache Str Tunnel) (tokenCache : TokenCache) (maxAgents : ℕ) (now : ℤ)
    (h0 : ∀ port, AtMostOne tunnelCache now port) (evs : List PortEvent) :
    Always (portStep parse sha256) OneOwner ⟨.init tunnelCache tokenCache maxAgents, now⟩ evs ↔
      Along (portStep parse sha256) NoForeignClaim ⟨.init tunnelCache tokenCache maxAgents, now⟩
        evs := by
  apply always_iff_along (fun _ => True) (fun _ _ _ => trivial)
  · intro s e _ hone
    rw [oneOwner_iff]
    exact owner_step (oneOwner_iff.mp hone) e
  · trivial
  · exact oneOwner_iff.mpr h0

end

/-! ## Two agents and one port -/

/-- Tunnel `app` beside `api`, with the token `tnl_abc123`. -/
def twoTunnels : Cache Str Tunnel :=
  sampleTunnelCache.put 0 "app".toList
    ⟨"app".toList, .http, "localhost".toList, 5000, [], 0, 0, 0, .active⟩ 86400

def appToken : AuthToken :=
  ⟨"app".toList, computeTokenHash sampleSha256 "tnl_abc123".toList, 0, seconds 7776000⟩

def twoTokens : TokenCache := addToken sampleTokenCache 0 "app".toList appToken 86400

/-- What an agent sends that asks for port 9100, as every agent does. -/
def portAuthData (token : String) : Str :=
  "CONNECT tunnel-agent HTTP/1.1\r\nAuthorization: Bearer ".toList ++ token.toList ++
    "\r\nX-TCP-Ports: 9100\r\n\r\n".toList

/-- The handshake at position `h` begins, reads the list, and adds its port. -/
def claimPort (h : ℕ) (token : String) : List PortEvent :=
  [⟨0, .agent (.authenticate ⟨0, 0⟩ [("api".toList, sampleOld), ("app".toList, appToken)]
      (portAuthData token))⟩,
    ⟨0, .agent (.advance h ⟨0, 0⟩)⟩, ⟨0, .agent (.advance h ⟨0, 0⟩)⟩]

theorem twoTunnels_keys (key : Str) (tunnel : Tunnel) (h : twoTunnels.get 0 key = some tunnel) :
    ':' ∉ key := by
  have hday : 0 < seconds 86400 := by decide
  rw [twoTunnels, sampleTunnelCache, Cache.get_put hday, Cache.get_put hday] at h
  split at h
  · rename_i hkey
    rw [hkey]
    decide
  · split at h
    · rename_i hkey
      rw [hkey]
      decide
    · cases h

/-- The agent of `api` alone. -/
theorem one_owner_iff_api :
    Always (portStep sampleParse sampleSha256) OneOwner ⟨.init twoTunnels twoTokens 50, 0⟩
        (claimPort 0 "tnl_local_test_123") ↔
      Along (portStep sampleParse sampleSha256) NoForeignClaim ⟨.init twoTunnels twoTokens 50, 0⟩
        (claimPort 0 "tnl_local_test_123") :=
  one_owner_iff sampleParse sampleSha256 twoTunnels twoTokens 50 0
    (atMostOne_of_keys twoTunnels_keys) _

/-- The server after the agents of both tunnels have asked for the port. -/
def afterTwoClaims : PortState :=
  run (portStep sampleParse sampleSha256) ⟨.init twoTunnels twoTokens 50, 0⟩
    (claimPort 0 "tnl_local_test_123" ++ claimPort 1 "tnl_abc123")

/-- The port is both tunnels'. -/
theorem port_shared :
    Claims afterTwoClaims.server.handler.tunnelCache afterTwoClaims.now 9100 "api".toList ∧
    Claims afterTwoClaims.server.handler.tunnelCache afterTwoClaims.now 9100 "app".toList ∧
    ¬ ∀ evs, Always (portStep sampleParse sampleSha256) OneOwner
      ⟨.init twoTunnels twoTokens 50, 0⟩ evs := by
  have hlive : ∀ t ∈ ["api".toList, "app".toList],
      (afterTwoClaims.server.handler.tunnelCache.live afterTwoClaims.now).any
        (fun entry => claims 9100 entry && entry.2.tunnelId = t) = true := by decide +kernel
  have hclaim : ∀ t ∈ ["api".toList, "app".toList],
      Claims afterTwoClaims.server.handler.tunnelCache afterTwoClaims.now 9100 t := by
    intro t ht
    obtain ⟨⟨key, tunnel⟩, hmem, hentry⟩ := List.any_eq_true.mp (hlive t ht)
    rw [Bool.and_eq_true, decide_eq_true_eq] at hentry
    exact ⟨key, tunnel, Cache.mem_live_iff.mp hmem, hentry.1, hentry.2⟩
  have hapi := hclaim "api".toList (by simp)
  have happ := hclaim "app".toList (by simp)
  refine ⟨hapi, happ, ?_⟩
  intro hall
  have hlast : OneOwner afterTwoClaims := always_iff_run.mp (hall _) _ (List.prefix_refl _)
  exact absurd (hlast.owner 9100 "api".toList "app".toList hapi happ) (by decide)

end Protogate.Server
