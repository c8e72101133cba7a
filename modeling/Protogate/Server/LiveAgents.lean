import Protogate.Server.AgentServer

/-!
# Live agents of a tunnel

Two handshakes for one tunnel may both find no connected agent.  The registry takes one
of their connections and refuses the other, and so it does when it is full; but the
connection that was refused is started all the same.

## Main definitions

* `OneLive` — a tunnel has one live connection at most, the registered one.
* `StartsRegistered` — what must hold when a connection is started.
* `one_live_iff` — runs of handshakes and disconnects keep the first exactly if all
  their starts meet the second.
-/

namespace Protogate.Server

open Protogate.Lib Protogate.Models Protogate.Security Protogate.Storage Protogate.Agent Protogate.Api

/-- At most one connection of a tunnel is live, and it is the registered one. -/
structure OneLive (s : AgentServer) : Prop where
  once : ∀ (i j : ℕ) (c d : AgentObject), s.objects[i]? = some c → s.objects[j]? = some d →
    c.Live → d.Live → c.tunnelId = d.tunnelId → i = j
  stored : ∀ (i : ℕ) (c : AgentObject), s.objects[i]? = some c → c.Live →
    s.handler.agents.lookup c.tunnelId = some i

/-- When a connection is started it is the one registered for its tunnel.  If it is lost
at once, it is enough that no other live connection is registered. -/
def StartsRegistered (s : AgentServer) : AgentEvent → Prop
  | .start i sent => ∀ c, s.objects[i]? = some c → c.onDisconnect = false →
      if sent then s.handler.agents.lookup c.tunnelId = some i
      else ∀ j d, s.handler.agents.lookup c.tunnelId = some j → s.objects[j]? = some d → ¬ d.Live
  | _ => True

/-! ## Steps -/

/-- Every live connection is the registered one of its tunnel. -/
def LiveStored (objects : List AgentObject) (agents : Assoc Str ℕ) : Prop :=
  ∀ (i : ℕ) (c : AgentObject), objects[i]? = some c → c.Live → agents.lookup c.tunnelId = some i

/-- That there is only one follows. -/
theorem oneLive_iff {s : AgentServer} : OneLive s ↔ LiveStored s.objects s.handler.agents := by
  constructor
  · exact OneLive.stored
  · intro H
    refine ⟨?_, H⟩
    intro i j c d hc hd hlive hlive' hsame
    have hi := H i c hc hlive
    have hj := H j d hd hlive'
    rw [hsame, hj] at hi
    exact (Option.some.inj hi).symm

section
variable {objects : List AgentObject} {agents : Assoc Str ℕ}

/-- A new connection is not live, and takes no entry away. -/
theorem LiveStored.connected (H : LiveStored objects agents) (maxAgents : ℕ) (t : Str) (i : ℕ) :
    LiveStored (objects ++ [⟨t, .created Unit .connected, false⟩])
      (registerAgent maxAgents agents t i).2 := by
  intro j c hc hlive
  rcases getElem?_concat_cases hc with hc | ⟨_, rfl⟩
  · have hstored := H j c hc hlive
    rw [lookup_registerAgent, if_neg, hstored]
    rintro ⟨hregistered, heq⟩
    rw [heq, lookup_of_registered hregistered] at hstored
    cases hstored
  · cases hlive.1

/-- A connection that is started must be the registered one. -/
theorem LiveStored.started_iff (H : LiveStored objects agents) {i : ℕ} {c : AgentObject}
    (hc : objects[i]? = some c) {agent : AgentConnection Unit} (hstate : agent.state = .connected) :
    LiveStored (objects.set i { c with onDisconnect := true, agent }) agents ↔
      agents.lookup c.tunnelId = some i := by
  constructor
  · intro H'
    apply H' i { c with onDisconnect := true, agent } (getElem?_set_self hc _)
    refine ⟨rfl, ?_⟩
    show agent.state ≠ .disconnected
    rw [hstate]
    decide
  · intro hi j d hd hlive
    rcases getElem?_set_cases hc hd with ⟨rfl, rfl⟩ | ⟨_, hd⟩
    · exact hi
    · exact H j d hd hlive

/-- A connection that is lost takes the entry of its tunnel with it; it must not be that
of another live connection. -/
theorem LiveStored.lost_iff (H : LiveStored objects agents) {i : ℕ} {c : AgentObject}
    (hc : objects[i]? = some c) {agent : AgentConnection Unit}
    (hstate : agent.state = .disconnected) :
    LiveStored (objects.set i { c with onDisconnect := true, agent }) (agents.erase c.tunnelId) ↔
      ∀ (j : ℕ) (d : AgentObject), objects[j]? = some d → d.Live → d.tunnelId = c.tunnelId → i = j := by
  constructor
  · intro H' j d hd hlive hsame
    by_contra hij
    have hstored := H' j d (by rw [List.getElem?_set_ne hij, hd]) hlive
    exact (Assoc.lookup_of_lookup_erase hstored).1 hsame
  · intro honly j d hd hlive
    rcases getElem?_set_cases hc hd with ⟨_, rfl⟩ | ⟨hij, hd⟩
    · exact absurd hstate hlive.2
    · rw [Assoc.lookup_erase_ite, if_neg (fun hsame => hij (honly j d hd hlive hsame))]
      exact H j d hd hlive

end

/-- A step keeps every live connection registered exactly if it meets the condition. -/
theorem liveStored_effect {s : AgentServer} (H : LiveStored s.objects s.handler.agents)
    (hinv : ServerInv s) {e : AgentEvent} {objects : List AgentObject} {agents : Assoc Str ℕ}
    (heffect : Effect s e objects agents) : LiveStored objects agents ↔ StartsRegistered s e := by
  cases heffect with
  | idle _ hstart _ =>
      have hcondition : StartsRegistered s e := by
        cases e with
        | start i sent =>
            intro c hc hnew
            rw [hstart i sent rfl c hc] at hnew
            cases hnew
        | authenticate _ _ _ | advance _ _ | disconnect _ => trivial
      exact iff_of_true H hcondition
  | connected h clock t _ => exact iff_of_true (H.connected s.maxAgents t s.objects.length) trivial
  | started i c agent hc hnew hstate =>
      rw [H.started_iff hc hstate]
      exact (forall_at_iff (Q := fun d => d.onDisconnect = false)
        (R := fun d => s.handler.agents.lookup d.tunnelId = some i) hc hnew).symm
  | lost e i c agent hc he hstate =>
      rw [H.lost_iff hc hstate]
      rcases he with ⟨rfl, hlive⟩ | ⟨rfl, hnew⟩
      · apply iff_of_true _ trivial
        intro j d hd hlive' hsame
        have hi := H i c hc hlive
        have hj := H j d hd hlive'
        rw [hsame, hi] at hj
        exact Option.some.inj hj
      · constructor
        · intro honly c' hc' _ j d hj hd hlive
          rw [hc] at hc'
          cases hc'
          obtain ⟨d', hd', htunnel⟩ := hinv.entries c.tunnelId j hj
          rw [hd] at hd'
          cases hd'
          have hij := honly j d hd hlive htunnel
          subst hij
          rw [hc] at hd
          cases hd
          have hstarted := hlive.1
          rw [hnew] at hstarted
          cases hstarted
        · intro hcondition j d hd hlive hsame
          exact absurd hlive (hcondition c hc hnew j d (hsame ▸ H j d hd hlive) hd)

/-! ## Runs -/

/-- **A tunnel has one live agent at most, and it is the registered one,** throughout a run
of handshakes and disconnects if and only if each connection is registered when it is
started. -/
theorem one_live_iff (sha256 : Str → Digest) (tunnelCache : Cache Str Tunnel)
    (tokenCache : TokenCache) (maxAgents : ℕ) (evs : List AgentEvent) :
    Always (agentStep sha256) OneLive (.init tunnelCache tokenCache maxAgents) evs ↔
      Along (agentStep sha256) StartsRegistered (.init tunnelCache tokenCache maxAgents) evs := by
  apply always_iff_along ServerInv serverInv_agentStep
  · intro s e hinv hone
    rw [oneLive_iff]
    exact liveStored_effect (oneLive_iff.mp hone) hinv (agentStep_effect hinv e)
  · exact serverInv_init tunnelCache tokenCache maxAgents
  · rw [oneLive_iff]
    intro i c hc
    simp [AgentServer.init] at hc

/-- Tunnel `api` with the token `tnl_local_test_123`, as `main` adds them for local tests. -/
def sampleTunnelCache : Cache Str Tunnel :=
  Cache.empty.put 0 "api".toList
    ⟨"api".toList, .http, "localhost".toList, 3000, [], 0, 0, 0, .active⟩ 86400

def sampleTokenCache : TokenCache := addToken Cache.empty 0 "api".toList sampleOld 86400

/-- What an agent with this token sends. -/
def sampleAuthData : Str :=
  "CONNECT / HTTP/1.1\r\nAuthorization: Bearer tnl_local_test_123\r\n\r\n".toList

/-- An agent passes the checks. -/
def sampleAuthenticate : AgentEvent :=
  .authenticate ⟨0, 0⟩ [("api".toList, sampleOld)] sampleAuthData

/-- Two agents pass the checks before either is registered; both are started. -/
def sampleTwoHandshakes : List AgentEvent :=
  [sampleAuthenticate, sampleAuthenticate, .advance 0 ⟨0, 0⟩, .advance 1 ⟨0, 0⟩,
    .advance 0 ⟨0, 0⟩, .start 0 true, .advance 0 ⟨0, 0⟩, .start 1 true]

/-- The registry refuses the second agent, and both are live. -/
theorem not_oneLive_twoHandshakes :
    ¬ ∀ evs, Always (agentStep sampleSha256) OneLive
      (.init sampleTunnelCache sampleTokenCache 50) evs := by
  intro H
  have hrun := always_iff_run.mp (H sampleTwoHandshakes) _ (List.prefix_refl _)
  have hlive : ∀ i < 2, ((run (agentStep sampleSha256)
      (.init sampleTunnelCache sampleTokenCache 50) sampleTwoHandshakes).objects[i]?).any
        (fun c => decide (c.Live ∧ c.tunnelId = "api".toList)) = true := by decide
  obtain ⟨c, hc, hcapi⟩ := (Option.any_eq_true _ _).mp (hlive 0 (by decide))
  obtain ⟨d, hd, hdapi⟩ := (Option.any_eq_true _ _).mp (hlive 1 (by decide))
  obtain ⟨hclive, hctunnel⟩ := of_decide_eq_true hcapi
  obtain ⟨hdlive, hdtunnel⟩ := of_decide_eq_true hdapi
  exact absurd (hrun.once 0 1 c d hc hd hclive hdlive (hctunnel.trans hdtunnel.symm)) (by decide)

end Protogate.Server
