import Protogate.Server.PortOwners

/-!
# What a deleted tunnel leaves behind

`DELETE` of a tunnel removes the entry under its id from the caches and the registry.
The entries that the handshake has added for its ports, what `TCPServer` remembers of
them, and the connection of the agent are under other keys or in other components, and
stay.

## Main definitions

* `RoutingState`, `routingStep` — the agent server and the memo of `TCPServer`.
* `Cleared` — no routing state of a tunnel is left.
* `NothingElse` — there is none but what is under the id of the tunnel.
* `deletion_complete_iff` — when deletion clears.
-/

namespace Protogate.Server

open Protogate.Lib Protogate.Models Protogate.Security Protogate.Storage Protogate.Api

/-- The agent server with the caches and the registry, and the memo. -/
structure RoutingState where
  server : AgentServer
  portToTunnel : Assoc ℕ Str

/-- A step of the agents or the API, or a lookup of a port for a client. -/
inductive RoutingEvent
  | server (e : ServerEvent)
  | find (now : ℤ) (visit : List (Str × Tunnel)) (port : ℕ)

section
variable (parse : Str → Option Json) (sha256 : Str → Digest)

def routingStep (s : RoutingState) : RoutingEvent → RoutingState
  | .server e => { s with server := serverStep parse sha256 s.server e }
  | .find now visit port =>
      if s.server.handler.tunnelCache.Visits now visit then
        { s with portToTunnel := (findTunnelForPort s.portToTunnel visit port).2 }
      else s

/-- A request to delete a tunnel. -/
def deleteRequest (env : Surroundings) (t : Str) : RoutingEvent :=
  .server (.api ⟨env, .request (.delete t)⟩)

end

def RoutingState.init (tunnelCache : Cache Str Tunnel) (tokenCache : TokenCache) (maxAgents : ℕ) :
    RoutingState :=
  ⟨.init tunnelCache tokenCache maxAgents, ∅⟩

/-- No entry is under the id or names it, no lookup finds it, no agent is registered for
it, and no connection made for it is connected. -/
structure Cleared (s : RoutingState) (t : Str) : Prop where
  entries : ∀ key e, s.server.handler.tunnelCache.entries.lookup key = some e →
    key ≠ t ∧ e.value.tunnelId ≠ t
  -- an empty answer means that there is no tunnel
  ports : ∀ now visit port, s.server.handler.tunnelCache.Visits now visit →
    (findTunnelForPort s.portToTunnel visit port).1 ≠ [] →
      (findTunnelForPort s.portToTunnel visit port).1 ≠ t
  agents : s.server.handler.agents.lookup t = none
  connections : ∀ (i : ℕ) (c : AgentObject), s.server.objects[i]? = some c → c.tunnelId = t →
    c.agent.state ≠ .connected

/-- No entry under another key names the tunnel, no port is remembered for it, and none of
its connections is connected. -/
structure NothingElse (s : RoutingState) (t : Str) : Prop where
  entries : ∀ key e, s.server.handler.tunnelCache.entries.lookup key = some e →
    e.value.tunnelId = t → key = t
  ports : ∀ port, s.portToTunnel.lookup port ≠ some t
  connections : ∀ (i : ℕ) (c : AgentObject), s.server.objects[i]? = some c → c.tunnelId = t →
    c.agent.state ≠ .connected

/-! ## The memo in every reachable state -/

def NonemptyMemo (s : RoutingState) : Prop :=
  ∀ port t, s.portToTunnel.lookup port = some t → t ≠ []

section
variable {parse : Str → Option Json} {sha256 : Str → Digest}

theorem nonemptyMemo_step (s : RoutingState) (e : RoutingEvent) (H : NonemptyMemo s) :
    NonemptyMemo (routingStep parse sha256 s e) := by
  cases e with
  | server e => exact H
  | find now visit port =>
      simp only [routingStep]
      split
      · exact TcpServer.nonempty_find H visit port
      · exact H

theorem nonemptyMemo_run (tunnelCache : Cache Str Tunnel) (tokenCache : TokenCache)
    (maxAgents : ℕ) (evs : List RoutingEvent) :
    NonemptyMemo (run (routingStep parse sha256) (.init tunnelCache tokenCache maxAgents) evs) := by
  refine run_invariant NonemptyMemo nonemptyMemo_step ?_
  intro port t hlook
  cases hlook

/-! ## One deletion -/

/-- What a deletion that is answered with 204 does. -/
theorem routingStep_delete {s : RoutingState} {env : Surroundings} {t : Str}
    (h : (s.server.handler.handle parse sha256 env (.delete t)).1.statusCode = 204) :
    routingStep parse sha256 s (deleteRequest env t) =
      { s with server := { s.server with handler := {
          agents := s.server.handler.agents.erase t
          tunnelCache := s.server.handler.tunnelCache.remove t
          tokenCache := s.server.handler.tokenCache.remove t } } } := by
  simp only [Handler.handle, handleDeleteTunnel] at h
  split at h
  · cases h
  · rename_i hfound
    simp only [deleteRequest, routingStep, serverStep, Api.step, Handler.handle, handleDeleteTunnel,
      if_neg hfound]

/-- Without an entry that names the tunnel, and without a port remembered for it, no
lookup finds it. -/
theorem find_ne {cache : Cache Str Tunnel} {memo : Assoc ℕ Str} {t : Str}
    (hentries : ∀ key e, cache.entries.lookup key = some e → e.value.tunnelId ≠ t)
    (hmemo : ∀ port, memo.lookup port ≠ some t) {now : ℤ} {visit : List (Str × Tunnel)}
    (hvisit : cache.Visits now visit) (port : ℕ)
    (hne : (findTunnelForPort memo visit port).1 ≠ []) :
    (findTunnelForPort memo visit port).1 ≠ t := by
  rw [findTunnelForPort] at hne ⊢
  cases hlook : memo.lookup port with
  | some t' =>
      rintro rfl
      exact hmemo port hlook
  | none =>
      simp only [hlook] at hne ⊢
      by_cases hempty : (scanPort visit port).isEmpty = true
      · rw [if_pos hempty] at hne
        exact absurd rfl hne
      · rw [if_neg hempty]
        obtain ⟨key, tunnel, hget, _, hid⟩ := claims_scanPort hvisit
          (fun hnil => hempty (List.isEmpty_iff.mpr hnil))
        obtain ⟨e, hentry, hvalue, _⟩ := Cache.get_eq_some_iff.mp hget
        rw [← hid, ← hvalue]
        exact hentries key e hentry

theorem cleared_iff {s : RoutingState} (H : NonemptyMemo s) {env : Surroundings} {t : Str}
    (h : (s.server.handler.handle parse sha256 env (.delete t)).1.statusCode = 204) :
    Cleared (routingStep parse sha256 s (deleteRequest env t)) t ↔ NothingElse s t := by
  rw [routingStep_delete h]
  constructor
  · intro hcleared
    refine ⟨?_, ?_, hcleared.connections⟩
    · intro key e hlook hid
      by_contra hkey
      have hremoved : (s.server.handler.tunnelCache.remove t).entries.lookup key = some e := by
        rw [Cache.lookup_remove, if_neg hkey, hlook]
      exact (hcleared.entries key e hremoved).2 hid
    · intro port hlook
      have hfind : (findTunnelForPort s.portToTunnel
          ((s.server.handler.tunnelCache.remove t).live 0) port).1 = t := by
        rw [findTunnelForPort, hlook]
      have hne : t ≠ [] := H port t hlook
      have hports := hcleared.ports 0 ((s.server.handler.tunnelCache.remove t).live 0) port
        (List.Perm.refl _)
      dsimp only at hports
      rw [hfind] at hports
      exact hports hne rfl
  · intro hnothing
    have hentries : ∀ key e, (s.server.handler.tunnelCache.remove t).entries.lookup key = some e →
        key ≠ t ∧ e.value.tunnelId ≠ t := by
      intro key e hlook
      rw [Cache.lookup_remove] at hlook
      split at hlook
      · cases hlook
      · rename_i hkey
        exact ⟨hkey, fun hid => hkey (hnothing.entries key e hlook hid)⟩
    refine ⟨hentries, ?_, ?_, hnothing.connections⟩
    · intro now visit port hvisit
      exact find_ne (fun key e hlook => (hentries key e hlook).2) hnothing.ports hvisit port
    · rw [Assoc.lookup_erase_ite, if_pos rfl]

/-- **Deletion is complete exactly if there is nothing to delete but what is under the id
of the tunnel**, in every reachable state. -/
theorem deletion_complete_iff (parse : Str → Option Json) (sha256 : Str → Digest)
    (tunnelCache : Cache Str Tunnel) (tokenCache : TokenCache) (maxAgents : ℕ)
    (evs : List RoutingEvent) (env : Surroundings) (t : Str)
    (h : ((run (routingStep parse sha256) (.init tunnelCache tokenCache maxAgents)
      evs).server.handler.handle parse sha256 env (.delete t)).1.statusCode = 204) :
    Cleared (run (routingStep parse sha256) (.init tunnelCache tokenCache maxAgents)
        (evs ++ [deleteRequest env t])) t ↔
      NothingElse (run (routingStep parse sha256) (.init tunnelCache tokenCache maxAgents) evs) t := by
  rw [run_append]
  exact cleared_iff (nonemptyMemo_run tunnelCache tokenCache maxAgents evs) h

end

/-! ## A tunnel in use -/

def sampleSurroundings : Surroundings := ⟨⟨0, 0⟩, Vector.replicate 4 0, 0⟩

/-- An agent that asks for port 9100 connects. -/
def agentConnects : List RoutingEvent :=
  [.server (.agent (.authenticate ⟨0, 0⟩ [("api".toList, sampleOld)]
      (portAuthData "tnl_local_test_123"))),
    .server (.agent (.advance 0 ⟨0, 0⟩)), .server (.agent (.advance 0 ⟨0, 0⟩)),
    .server (.agent (.advance 0 ⟨0, 0⟩)), .server (.agent (.advance 0 ⟨0, 0⟩)),
    .server (.agent (.start 0 true))]

theorem exists_connected {s : RoutingState} {t : Str} (h : (s.server.objects[0]?).any
    (fun c => c.tunnelId = t && c.agent.state = .connected) = true) :
    ∃ c, s.server.objects[0]? = some c ∧ c.tunnelId = t ∧ c.agent.state = .connected := by
  obtain ⟨c, hc, hstate⟩ := (Option.any_eq_true _ _).mp h
  rw [Bool.and_eq_true, decide_eq_true_eq, decide_eq_true_eq] at hstate
  exact ⟨c, hc, hstate⟩

/-- Before an agent connects there is only the entry under the id; once it has, the entry for
its port and its connection are left. -/
theorem deletion_complete_iff_connected :
    Cleared (run (routingStep sampleParse sampleSha256)
        (.init sampleTunnelCache sampleTokenCache 50)
        ([] ++ [deleteRequest sampleSurroundings "api".toList])) "api".toList ∧
    ¬ Cleared (run (routingStep sampleParse sampleSha256)
        (.init sampleTunnelCache sampleTokenCache 50)
        (agentConnects ++ [deleteRequest sampleSurroundings "api".toList])) "api".toList := by
  have hiff := deletion_complete_iff sampleParse sampleSha256 sampleTunnelCache sampleTokenCache 50
  refine ⟨(hiff [] sampleSurroundings "api".toList (by decide)).mpr ?_, ?_⟩
  · refine ⟨fun key e hlook _ => ?_, fun port => ?_, fun i c hc => ?_⟩
    · by_contra hkey
      have hother : sampleTunnelCache.entries.lookup key = none := by
        rw [sampleTunnelCache, Cache.lookup_put, if_neg hkey]
        rfl
      rw [show (run (routingStep sampleParse sampleSha256)
        (.init sampleTunnelCache sampleTokenCache 50) []).server.handler.tunnelCache =
          sampleTunnelCache from rfl, hother] at hlook
      cases hlook
    · intro hlook
      cases hlook
    · simp [RoutingState.init, AgentServer.init] at hc
  · rw [hiff agentConnects sampleSurroundings "api".toList (by decide +kernel)]
    intro hnothing
    have hconnected : ((run (routingStep sampleParse sampleSha256)
        (.init sampleTunnelCache sampleTokenCache 50) agentConnects).server.objects[0]?).any
          (fun c => c.tunnelId = "api".toList && c.agent.state = .connected) = true := by
      decide +kernel
    obtain ⟨c, hc, hid, hstate⟩ := exists_connected hconnected
    exact hnothing.connections 0 c hc hid hstate

/-- Then a client comes to the port, in one order of the visit. -/
def tunnelInUse : List RoutingEvent :=
  let s := run (routingStep sampleParse sampleSha256)
    (.init sampleTunnelCache sampleTokenCache 50) agentConnects
  agentConnects ++ [.find 0 (s.server.handler.tunnelCache.live 0) 9100]

/-- The server after the tunnel in use was deleted. -/
def afterDeletion : RoutingState :=
  run (routingStep sampleParse sampleSha256) (.init sampleTunnelCache sampleTokenCache 50)
    (tunnelInUse ++ [deleteRequest sampleSurroundings "api".toList])

/-- The request is answered with 204; the entry for the port, the port remembered and the
connected agent are all left. -/
theorem deletion_incomplete :
    ((run (routingStep sampleParse sampleSha256) (.init sampleTunnelCache sampleTokenCache 50)
      tunnelInUse).server.handler.handle sampleParse sampleSha256 sampleSurroundings
        (.delete "api".toList)).1.statusCode = 204 ∧
    (afterDeletion.server.handler.tunnelCache.get 0 "api:tcp:9100".toList).any
      (fun tunnel => tunnel.tunnelId = "api".toList) = true ∧
    afterDeletion.portToTunnel.lookup 9100 = some "api".toList ∧
    (afterDeletion.server.objects[0]?).any
      (fun c => c.tunnelId = "api".toList && c.agent.state = .connected) = true ∧
    ¬ ∀ (evs : List RoutingEvent) (env : Surroundings) (t : Str),
      ((run (routingStep sampleParse sampleSha256) (.init sampleTunnelCache sampleTokenCache 50)
        evs).server.handler.handle sampleParse sampleSha256 env (.delete t)).1.statusCode = 204 →
      Cleared (run (routingStep sampleParse sampleSha256)
        (.init sampleTunnelCache sampleTokenCache 50) (evs ++ [deleteRequest env t])) t := by
  have hdeleted : ((run (routingStep sampleParse sampleSha256)
      (.init sampleTunnelCache sampleTokenCache 50) tunnelInUse).server.handler.handle sampleParse
        sampleSha256 sampleSurroundings (.delete "api".toList)).1.statusCode = 204 := by
    decide +kernel
  have hconnected : (afterDeletion.server.objects[0]?).any
      (fun c => c.tunnelId = "api".toList && c.agent.state = .connected) = true := by
    decide +kernel
  refine ⟨hdeleted, by decide +kernel, by decide +kernel, hconnected, ?_⟩
  intro hall
  have hcleared : Cleared afterDeletion "api".toList :=
    hall tunnelInUse sampleSurroundings "api".toList hdeleted
  obtain ⟨c, hc, hid, hstate⟩ := exists_connected hconnected
  exact hcleared.connections 0 c hc hid hstate

end Protogate.Server
