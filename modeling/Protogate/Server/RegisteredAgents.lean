import Protogate.Server.LiveAgents

/-!
# Disconnects and the registry

The callback of a connection unregisters its tunnel id.  By the time it runs another
connection may be registered there: the registry refused the one that disconnects, or
its tunnel was deleted and created again while it went on.

## Main definitions

* `StaysRegistered` — a connected, registered agent stays so until it is lost or its
  tunnel is deleted.
* `SparesOthers` — what must hold when a connection is lost.
* `stays_registered_iff` — runs do the first exactly if all their steps meet the second.
* `sparesOthers_of_inTurn` — they do if the connections of a tunnel come in turn.
-/

namespace Protogate.Server

open Protogate.Lib Protogate.Models Protogate.Security Protogate.Storage Protogate.Agent Protogate.Api

/-- The event is a request to delete the tunnel. -/
def ServerEvent.deletes (t : Str) (e : ServerEvent) : Prop :=
  ∃ env, e = .api ⟨env, .request (.delete t)⟩

section
variable (parse : Str → Option Json) (sha256 : Str → Digest)

/-- A connection that is `CONNECTED` and registered is still registered after the step,
unless it has disconnected or the tunnel is deleted. -/
def StaysRegistered (s : AgentServer) (e : ServerEvent) : Prop :=
  ∀ (t : Str) (i : ℕ) (c : AgentObject), s.handler.agents.lookup t = some i →
    s.objects[i]? = some c → c.agent.state = .connected →
      (serverStep parse sha256 s e).handler.agents.lookup t = some i ∨
        (∃ c', (serverStep parse sha256 s e).objects[i]? = some c' ∧ c'.agent.state = .disconnected) ∨
        e.deletes t

end

/-- No other connection that is `CONNECTED` is registered for the tunnel. -/
def NoOther (s : AgentServer) (i : ℕ) (t : Str) : Prop :=
  ∀ j d, s.handler.agents.lookup t = some j → s.objects[j]? = some d → d.agent.state = .connected →
    j = i

/-- A connection that is lost, also at its start, finds no other one registered for its
tunnel. -/
def SparesOthers (s : AgentServer) : ServerEvent → Prop
  | .agent (.disconnect i) => ∀ c, s.objects[i]? = some c → c.Live → NoOther s i c.tunnelId
  | .agent (.start i false) =>
      ∀ c, s.objects[i]? = some c → c.onDisconnect = false → NoOther s i c.tunnelId
  | _ => True

/-! ## Steps -/

/-- The registered connections of a state stay registered in the next, or are lost. -/
def Kept (s : AgentServer) (objects : List AgentObject) (agents : Assoc Str ℕ) : Prop :=
  ∀ (t : Str) (i : ℕ) (c : AgentObject), s.handler.agents.lookup t = some i →
    s.objects[i]? = some c → c.agent.state = .connected →
      agents.lookup t = some i ∨ ∃ c', objects[i]? = some c' ∧ c'.agent.state = .disconnected

section
variable {s : AgentServer}

theorem kept_of_lookup {objects : List AgentObject} {agents : Assoc Str ℕ}
    (h : ∀ t i, s.handler.agents.lookup t = some i → agents.lookup t = some i) :
    Kept s objects agents := fun t i _ hi _ _ => .inl (h t i hi)

/-- The loss of a connection takes the entry of its tunnel away. -/
theorem kept_lost_iff {i : ℕ} {c : AgentObject} (hc : s.objects[i]? = some c)
    {agent : AgentConnection Unit} (hstate : agent.state = .disconnected) :
    Kept s (s.objects.set i { c with onDisconnect := true, agent })
        (s.handler.agents.erase c.tunnelId) ↔ NoOther s i c.tunnelId := by
  constructor
  · intro H j d hj hd hconnected
    rcases H c.tunnelId j d hj hd hconnected with hkept | ⟨d', hd', hlost⟩
    · exact absurd rfl (Assoc.lookup_of_lookup_erase hkept).1
    · rcases getElem?_set_cases hc hd' with ⟨hij, _⟩ | ⟨_, hd'⟩
      · exact hij.symm
      · rw [hd] at hd'
        cases hd'
        rw [hconnected] at hlost
        cases hlost
  · intro honly t j d hj hd hconnected
    by_cases ht : t = c.tunnelId
    · subst ht
      have hij := honly j d hj hd hconnected
      subst hij
      exact .inr ⟨_, getElem?_set_self hc _, hstate⟩
    · left
      rw [Assoc.lookup_erase_ite, if_neg ht]
      exact hj

/-- A step of an agent keeps the registered connections exactly if it meets the condition. -/
theorem kept_effect {e : AgentEvent} {objects : List AgentObject} {agents : Assoc Str ℕ}
    (heffect : Effect s e objects agents) : Kept s objects agents ↔ SparesOthers s (.agent e) := by
  cases heffect with
  | idle _ hstart hdisconnect =>
      apply iff_of_true (kept_of_lookup fun _ _ hi => hi)
      cases e with
      | start i sent =>
          cases sent with
          | true => trivial
          | false =>
              intro c hc hnew
              rw [hstart i false rfl c hc] at hnew
              cases hnew
      | disconnect i => exact fun c hc hlive => absurd hlive (hdisconnect i rfl c hc)
      | authenticate _ _ _ | advance _ _ => trivial
  | connected h clock t _ =>
      refine iff_of_true (kept_of_lookup fun k i hi => ?_) trivial
      rw [lookup_registerAgent, if_neg, hi]
      rintro ⟨hregistered, rfl⟩
      rw [lookup_of_registered hregistered] at hi
      cases hi
  | started i c agent _ _ _ => exact iff_of_true (kept_of_lookup fun _ _ hi => hi) trivial
  | lost e i c agent hc he hstate =>
      rw [kept_lost_iff hc hstate]
      rcases he with ⟨rfl, hlive⟩ | ⟨rfl, hnew⟩
      · exact (forall_at_iff (R := fun d => NoOther s i d.tunnelId) hc hlive).symm
      · exact (forall_at_iff (Q := fun d => d.onDisconnect = false)
          (R := fun d => NoOther s i d.tunnelId) hc hnew).symm

variable {parse : Str → Option Json} {sha256 : Str → Digest}

theorem staysRegistered_iff (e : ServerEvent) (H : ServerInv s) :
    StaysRegistered parse sha256 s e ↔ SparesOthers s e := by
  cases e with
  | agent e =>
      have heffect : Effect s e (agentStep sha256 s e).objects (agentStep sha256 s e).handler.agents :=
        agentStep_effect H e
      rw [← kept_effect heffect]
      constructor
      · intro hstays t i c hi hc hconnected
        rcases hstays t i c hi hc hconnected with hkept | hlost | ⟨env, hdelete⟩
        · exact .inl hkept
        · exact .inr hlost
        · cases hdelete
      · intro hkept t i c hi hc hconnected
        rcases hkept t i c hi hc hconnected with hkept | hlost
        · exact .inl hkept
        · exact .inr (.inl hlost)
  | api e =>
      apply iff_of_true _ trivial
      intro t i c hi _ _
      rcases agents_apiStep parse sha256 s.handler e with hsame | ⟨t', hdelete, herased⟩
      · exact .inl (hsame ▸ hi)
      · by_cases ht : t = t'
        · subst ht
          obtain ⟨env, op⟩ := e
          cases hdelete
          exact .inr (.inr ⟨env, rfl⟩)
        · left
          show (Api.step parse sha256 ⟨s.handler, []⟩ e).handler.agents.lookup t = some i
          rw [herased, Assoc.lookup_erase_ite, if_neg ht]
          exact hi

/-! ## Runs -/

/-- **An agent stays registered** until it disconnects or its tunnel is deleted, in every step
of a run, if and only if each connection that is lost finds no other one registered for its
tunnel. -/
theorem stays_registered_iff (parse : Str → Option Json) (sha256 : Str → Digest)
    (tunnelCache : Cache Str Tunnel) (tokenCache : TokenCache) (maxAgents : ℕ)
    (evs : List ServerEvent) :
    Along (serverStep parse sha256) (StaysRegistered parse sha256)
        (.init tunnelCache tokenCache maxAgents) evs ↔
      Along (serverStep parse sha256) SparesOthers (.init tunnelCache tokenCache maxAgents) evs :=
  along_congr ServerInv serverInv_step (fun _ e H => staysRegistered_iff e H)
    (serverInv_init tunnelCache tokenCache maxAgents)

end

/-! ## One connection after the other -/

/-- A handshake makes its connection when the earlier ones of its tunnel are lost. -/
def InTurn (s : AgentServer) : ServerEvent → Prop
  | .agent (.advance h _) => ∀ t, s.handshakes[h]? = some (.ready t) →
      ∀ (i : ℕ) (c : AgentObject), s.objects[i]? = some c → c.tunnelId = t →
        c.agent.state = .disconnected
  | _ => True

/-- At most one connection of a tunnel is not lost. -/
def OneUp (objects : List AgentObject) : Prop :=
  ∀ (i j : ℕ) (c d : AgentObject), objects[i]? = some c → objects[j]? = some d →
    c.tunnelId = d.tunnelId → c.agent.state = .connected → d.agent.state = .connected → i = j

section
variable {s : AgentServer}

/-- An object that changes is the one it was, or lost. -/
theorem OneUp.set {objects : List AgentObject} (H : OneUp objects) {i : ℕ} {c : AgentObject}
    (hc : objects[i]? = some c) {agent : AgentConnection Unit}
    (hstate : agent.state = .connected → c.agent.state = .connected) :
    OneUp (objects.set i { c with onDisconnect := true, agent }) := by
  -- every object that is up was up before, in the same place and for the same tunnel
  have hbefore : ∀ (j : ℕ) (d : AgentObject),
      (objects.set i { c with onDisconnect := true, agent })[j]? = some d →
        d.agent.state = .connected →
          ∃ d', objects[j]? = some d' ∧ d'.tunnelId = d.tunnelId ∧ d'.agent.state = .connected := by
    intro j d hd hup
    rcases getElem?_set_cases hc hd with ⟨rfl, rfl⟩ | ⟨_, hd⟩
    · exact ⟨c, hc, rfl, hstate hup⟩
    · exact ⟨d, hd, rfl, hup⟩
  intro j k d e hd he hsame hdup heup
  obtain ⟨d', hd', hdtunnel, hdup'⟩ := hbefore j d hd hdup
  obtain ⟨e', he', hetunnel, heup'⟩ := hbefore k e he heup
  exact H j k d' e' hd' he' (by rw [hdtunnel, hsame, hetunnel]) hdup' heup'

theorem OneUp.connected {objects : List AgentObject} (H : OneUp objects) {t : Str}
    (hlost : ∀ (i : ℕ) (c : AgentObject), objects[i]? = some c → c.tunnelId = t →
      c.agent.state = .disconnected) :
    OneUp (objects ++ [⟨t, .created Unit .connected, false⟩]) := by
  have hnot : ∀ (i : ℕ) (c : AgentObject), objects[i]? = some c → c.tunnelId = t →
      c.agent.state ≠ .connected := by
    intro i c hc ht hup
    rw [hlost i c hc ht] at hup
    cases hup
  intro i j c d hc hd hsame hcup hdup
  rcases getElem?_concat_cases hc with hc | ⟨hi, rfl⟩
  · rcases getElem?_concat_cases hd with hd | ⟨_, rfl⟩
    · exact H i j c d hc hd hsame hcup hdup
    · exact absurd hcup (hnot i c hc hsame)
  · rcases getElem?_concat_cases hd with hd | ⟨hj, _⟩
    · exact absurd hdup (hnot j d hd hsame.symm)
    · rw [hi, hj]

theorem OneUp.effect (H : OneUp s.objects) (hinv : ServerInv s) {e : AgentEvent}
    (hturn : InTurn s (.agent e)) {objects : List AgentObject} {agents : Assoc Str ℕ}
    (heffect : Effect s e objects agents) : OneUp objects := by
  cases heffect with
  | idle _ _ _ => exact H
  | connected h clock t hready => exact H.connected (hturn t hready)
  | started i c agent hc hnew _ => exact H.set hc (fun _ => hinv.unstarted i c hc hnew)
  | lost e i c agent hc _ hstate =>
      refine H.set hc (fun hup => ?_)
      rw [hstate] at hup
      cases hup

/-- Then a connection that is lost is the only one that could be registered. -/
theorem OneUp.sparesOthers (H : OneUp s.objects) (hinv : ServerInv s) (e : ServerEvent) :
    SparesOthers s e := by
  have honly : ∀ (i : ℕ) (c : AgentObject), s.objects[i]? = some c → c.agent.state = .connected →
      NoOther s i c.tunnelId := by
    intro i c hc hup j d hj hd hdup
    obtain ⟨d', hd', htunnel⟩ := hinv.entries c.tunnelId j hj
    rw [hd] at hd'
    cases hd'
    exact H j i d c hd hc htunnel hdup hup
  cases e with
  | api e => trivial
  | agent e =>
      cases e with
      | authenticate _ _ _ | advance _ _ => trivial
      | start i sent =>
          cases sent with
          | true => trivial
          | false => exact fun c hc hnew => honly i c hc (hinv.unstarted i c hc hnew)
      | disconnect i =>
          intro c hc hlive
          rcases hinv.states i c hc with hup | hdown
          · exact honly i c hc hup
          · exact absurd hdown hlive.2

end

/-- Agents whose tunnel has one connection after the other stay registered, whatever else
happens. -/
theorem sparesOthers_of_inTurn {parse : Str → Option Json} {sha256 : Str → Digest}
    {tunnelCache : Cache Str Tunnel} {tokenCache : TokenCache} {maxAgents : ℕ}
    {evs : List ServerEvent}
    (H : Along (serverStep parse sha256) InTurn (.init tunnelCache tokenCache maxAgents) evs) :
    Along (serverStep parse sha256) SparesOthers (.init tunnelCache tokenCache maxAgents) evs := by
  have hkept : ∀ s e, ServerInv s ∧ OneUp s.objects → InTurn s e →
      ServerInv (serverStep parse sha256 s e) ∧ OneUp (serverStep parse sha256 s e).objects := by
    rintro s e ⟨hinv, hone⟩ hturn
    refine ⟨serverInv_step s e hinv, ?_⟩
    cases e with
    | agent e => exact hone.effect hinv hturn (agentStep_effect hinv e)
    | api e => exact hone
  have hinit : OneUp (AgentServer.init tunnelCache tokenCache maxAgents).objects := by
    intro i j c d hc
    simp [AgentServer.init] at hc
  exact along_of_invariant (fun s => ServerInv s ∧ OneUp s.objects) hkept
    (fun s e hs _ => hs.2.sparesOthers hs.1 e) ⟨serverInv_init _ _ _, hinit⟩ H

/-- Of two agents of one tunnel the one that was refused by the registry disconnects, and the
other one is unregistered. -/
theorem not_staysRegistered_refused :
    ¬ ∀ evs, Along (serverStep sampleParse sampleSha256) (StaysRegistered sampleParse sampleSha256)
      (.init sampleTunnelCache sampleTokenCache 50) evs := by
  intro H
  have hall := H (sampleTwoHandshakes.map .agent ++ [.agent (.disconnect 1)])
  have hlast := (along_append.mp hall).2.1
  have hregistered : (run (serverStep sampleParse sampleSha256)
      (.init sampleTunnelCache sampleTokenCache 50)
      (sampleTwoHandshakes.map .agent)).handler.agents.lookup "api".toList = some 0 := by decide
  have hconnected : ((run (serverStep sampleParse sampleSha256)
      (.init sampleTunnelCache sampleTokenCache 50)
      (sampleTwoHandshakes.map .agent)).objects[0]?).any
        (fun c => decide (c.agent.state = .connected)) = true := by decide
  obtain ⟨c, hc, hstate⟩ := (Option.any_eq_true _ _).mp hconnected
  rcases hlast _ 0 c hregistered hc (of_decide_eq_true hstate) with hkept | ⟨c', hc', hlost⟩ | ⟨_, hdelete⟩
  · exact absurd hkept (by decide)
  · have hstill : (serverStep sampleParse sampleSha256 (run (serverStep sampleParse sampleSha256)
        (.init sampleTunnelCache sampleTokenCache 50) (sampleTwoHandshakes.map .agent))
        (.agent (.disconnect 1))).objects[0]?.any
          (fun c => decide (c.agent.state = .disconnected)) = false := by decide
    rw [hc'] at hstill
    simp [hlost] at hstill
  · cases hdelete

end Protogate.Server
