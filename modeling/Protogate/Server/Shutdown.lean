import Protogate.Server.LiveAgents

/-!
# Shutting the registry down

`AgentRegistry::shutdown` holds `mutex_` while it closes the agents.  To close a connection
that is started is to call its callback, which calls `unregister_agent`, which takes
`mutex_` as well: a thread that tries to lock the mutex it holds does not go on.

What a thread does with the mutex is followed by partial functions: there is no result if
it tries to acquire the mutex while it holds it.

## Main definitions

* `Holder` — the server, and whether the thread holds the mutex.
* `unregisterAgent`, `closeAgent`, `shutdown` — what the thread does.
* `Completes` — the shutdown ends, and as it should.
* `shutdown_completes_iff` — it does if and only if no registered agent is live.
-/

namespace Protogate.Server

open Protogate.Lib Protogate.Models Protogate.Security Protogate.Storage Protogate.Agent Protogate.Api

/-! ## Holding the mutex -/

/-- The server, whether this thread holds `mutex_`, and of the loop in `shutdown` the
agents visited and whether `agents_` was changed meanwhile. -/
structure Holder where
  server : AgentServer
  held : Bool
  visited : List (Str × ℕ)
  modified : Bool

/-- `std::unique_lock lock(mutex_)`. -/
def Holder.acquire (m : Holder) : Option Holder := if m.held then none else some { m with held := true }

def Holder.release (m : Holder) : Holder := { m with held := false }

/-- `unregister_agent`. -/
def unregisterAgent (m : Holder) (tunnelId : Str) : Option Holder := do
  let m ← m.acquire
  let found := (m.server.handler.agents.lookup tunnelId).isSome
  return Holder.release { m with server := m.server.unregister tunnelId, modified := m.modified || found }

/-- `close` of an object, with its callback. -/
def closeAgent (m : Holder) (i : ℕ) : Option Holder :=
  match m.server.objects[i]? with
  | none => some m
  | some c =>
      if c.agent.state = .disconnected ∨ c.agent.state = .disconnecting then some m
      else
        let closed := { m with server := m.server.setObject i { c with agent := (Agent.close c.agent).1 } }
        if c.onDisconnect then unregisterAgent closed c.tunnelId else some closed

/-- The entries of the map, in one order. -/
def AgentServer.agentList (s : AgentServer) : List (Str × ℕ) :=
  s.handler.agents.entries.map fun e => (e.1, e.2)

/-- One round of the loop. -/
def visit (m : Holder) (e : Str × ℕ) : Option Holder :=
  closeAgent { m with visited := m.visited ++ [e] } e.2

/-- `agents_.clear()`. -/
def AgentServer.clear (s : AgentServer) : AgentServer :=
  { s with handler := { s.handler with agents := ∅ } }

/-- `shutdown`; `order` is the order of the iteration. -/
def shutdown (s : AgentServer) (order : List (Str × ℕ)) : Option Holder := do
  let m ← Holder.acquire ⟨s, false, [], false⟩
  let m ← order.foldlM visit m
  return Holder.release { m with server := m.server.clear }

/-- The shutdown comes to its end: every agent was visited once in a map that did not change,
the registry is empty and the agents are `DISCONNECTED`. -/
def Completes (s : AgentServer) (order : List (Str × ℕ)) : Prop :=
  ∃ m, shutdown s order = some m ∧ m.visited = order ∧ (order.map Prod.snd).Nodup ∧
    m.modified = false ∧ m.server.handler.agents = ∅ ∧
    ∀ e ∈ order, ∃ c, m.server.objects[e.2]? = some c ∧ c.agent.state = .disconnected

/-! ## Outside the registry -/

/-- Where the mutex is free, closing is what `AgentServer.close` says. -/
theorem closeAgent_of_free {m : Holder} (h : m.held = false) (i : ℕ) :
    ∃ m', closeAgent m i = some m' ∧ m'.server = m.server.close i ∧ m'.held = false := by
  cases hc : m.server.objects[i]? with
  | none =>
      simp only [closeAgent, AgentServer.close, hc]
      exact ⟨m, rfl, rfl, h⟩
  | some c =>
      simp only [closeAgent, AgentServer.close, hc]
      by_cases hdown : c.agent.state = .disconnected ∨ c.agent.state = .disconnecting
      · simp only [if_pos hdown]
        exact ⟨m, rfl, rfl, h⟩
      · simp only [if_neg hdown]
        by_cases hstarted : c.onDisconnect = true
        · simp only [hstarted, if_true, unregisterAgent, Holder.acquire, h, Bool.false_eq_true,
            if_false]
          exact ⟨_, rfl, rfl, rfl⟩
        · simp only [hstarted]
          exact ⟨_, rfl, rfl, h⟩

/-! ## Inside the loop -/

/-- Every object is `CONNECTED` or `DISCONNECTED`. -/
def UpOrDown (objects : List AgentObject) : Prop :=
  ∀ (i : ℕ) (c : AgentObject), objects[i]? = some c →
    c.agent.state = .connected ∨ c.agent.state = .disconnected

/-- Everything but the visited agents and the objects is as before. -/
structure SameMap (m m' : Holder) : Prop where
  agents : m'.server.handler.agents = m.server.handler.agents
  held : m'.held = m.held
  modified : m'.modified = m.modified

section
variable {m : Holder}

/-- With the mutex held an agent can be closed exactly if it is not live. -/
theorem closeAgent_isSome_iff (hheld : m.held = true) (H : UpOrDown m.server.objects) {i : ℕ}
    {c : AgentObject} (hc : m.server.objects[i]? = some c) :
    (closeAgent m i).isSome ↔ ¬ c.Live := by
  simp only [closeAgent, hc]
  rcases H i c hc with hstate | hstate
  · by_cases hstarted : c.onDisconnect = true
    · simp [hstate, hstarted, unregisterAgent, Holder.acquire, hheld, AgentObject.Live]
    · simp [hstate, hstarted, AgentObject.Live]
  · simp [hstate, AgentObject.Live]

/-- Then it is disconnected, and nothing else happens. -/
theorem closeAgent_of_not_live (H : UpOrDown m.server.objects) {i : ℕ} {c : AgentObject}
    (hc : m.server.objects[i]? = some c) (hlive : ¬ c.Live) :
    ∃ m', closeAgent m i = some m' ∧ SameMap m m' ∧ m'.visited = m.visited ∧
      ∃ agent, m'.server.objects = m.server.objects.set i { c with agent } ∧
        agent.state = .disconnected := by
  simp only [closeAgent, hc]
  rcases H i c hc with hstate | hstate
  · have hunstarted : c.onDisconnect = false := by
      simpa [AgentObject.Live, hstate] using hlive
    simp only [hstate, hunstarted, Bool.false_eq_true, if_false]
    refine ⟨_, rfl, ⟨rfl, rfl, rfl⟩, rfl, (Agent.close c.agent).1, ?_, state_close c.agent hstate⟩
    rw [← hunstarted]
    rfl
  · simp only [hstate, true_or, if_true]
    refine ⟨m, rfl, ⟨rfl, rfl, rfl⟩, rfl, c.agent, ?_, hstate⟩
    obtain ⟨hlt, hget⟩ := List.getElem?_eq_some_iff.mp hc
    rw [← hget, List.set_getElem_self hlt]

theorem SameMap.trans {m m' m'' : Holder} (h : SameMap m m') (h' : SameMap m' m'') : SameMap m m'' :=
  ⟨h'.agents.trans h.agents, h'.held.trans h.held, h'.modified.trans h.modified⟩

theorem UpOrDown.set {objects : List AgentObject} (H : UpOrDown objects) {i : ℕ} {c : AgentObject}
    (hc : objects[i]? = some c) {agent : AgentConnection Unit}
    (hstate : agent.state = .disconnected) : UpOrDown (objects.set i { c with agent }) := by
  intro j d hd
  rcases getElem?_set_cases hc hd with ⟨_, rfl⟩ | ⟨_, hd⟩
  · exact .inr hstate
  · exact H j d hd

/-- One round with an agent that is not live. -/
theorem visit_of_not_live (H : UpOrDown m.server.objects) {e : Str × ℕ} {c : AgentObject}
    (hc : m.server.objects[e.2]? = some c) (hlive : ¬ c.Live) :
    ∃ m', visit m e = some m' ∧ SameMap m m' ∧ m'.visited = m.visited ++ [e] ∧
      UpOrDown m'.server.objects ∧
      (∃ c', m'.server.objects[e.2]? = some c' ∧ c'.agent.state = .disconnected) ∧
      ∀ i, i ≠ e.2 → m'.server.objects[i]? = m.server.objects[i]? := by
  obtain ⟨m', hclose, hsame, hvisited, agent, hobjects, hstate⟩ :=
    closeAgent_of_not_live (m := { m with visited := m.visited ++ [e] }) H hc hlive
  refine ⟨m', hclose, ⟨hsame.agents, hsame.held, hsame.modified⟩, hvisited, ?_, ?_, ?_⟩
  · rw [hobjects]
    exact H.set hc hstate
  · exact ⟨{ c with agent }, by rw [hobjects]; exact getElem?_set_self hc _, hstate⟩
  · intro i hi
    rw [hobjects, List.getElem?_set_ne (Ne.symm hi)]

/-- The loop over agents of which none is live. -/
theorem foldlM_visit (H : UpOrDown m.server.objects) {order : List (Str × ℕ)}
    (hnodup : (order.map Prod.snd).Nodup)
    (hdead : ∀ e ∈ order, ∃ c, m.server.objects[e.2]? = some c ∧ ¬ c.Live) :
    ∃ m', order.foldlM visit m = some m' ∧ SameMap m m' ∧ m'.visited = m.visited ++ order ∧
      (∀ i, i ∉ order.map Prod.snd → m'.server.objects[i]? = m.server.objects[i]?) ∧
      ∀ e ∈ order, ∃ c, m'.server.objects[e.2]? = some c ∧ c.agent.state = .disconnected := by
  induction order generalizing m with
  | nil => exact ⟨m, rfl, ⟨rfl, rfl, rfl⟩, by simp, fun _ _ => rfl, by simp⟩
  | cons e order ih =>
      obtain ⟨hnew, hrest⟩ := List.nodup_cons.mp hnodup
      obtain ⟨c, hc, hlive⟩ := hdead e List.mem_cons_self
      obtain ⟨m₁, hvisit, hsame, hvisited, H₁, hdown, hothers⟩ := visit_of_not_live H hc hlive
      have hdead₁ : ∀ e' ∈ order, ∃ c, m₁.server.objects[e'.2]? = some c ∧ ¬ c.Live := by
        intro e' he'
        have hne : e'.2 ≠ e.2 := fun heq => hnew (heq ▸ List.mem_map_of_mem he')
        rw [hothers e'.2 hne]
        exact hdead e' (List.mem_cons_of_mem e he')
      obtain ⟨m', hfold, hsame', hvisited', hkept, hdowns⟩ := ih H₁ hrest hdead₁
      refine ⟨m', ?_, hsame.trans hsame', ?_, ?_, ?_⟩
      · rw [List.foldlM_cons, hvisit]
        exact hfold
      · rw [hvisited', hvisited, List.append_assoc]
        rfl
      · intro i hi
        rw [List.map_cons, List.mem_cons, not_or] at hi
        rw [hkept i hi.2, hothers i hi.1]
      · intro e' he'
        rcases List.mem_cons.mp he' with rfl | he'
        · rw [hkept e'.2 hnew]
          exact hdown
        · exact hdowns e' he'

/-- A live agent stops the loop: its callback waits for the mutex. -/
theorem foldlM_visit_of_live (hheld : m.held = true) (H : UpOrDown m.server.objects)
    {order : List (Str × ℕ)} (hvalid : ∀ e ∈ order, ∃ c, m.server.objects[e.2]? = some c)
    {e : Str × ℕ} (he : e ∈ order) {c : AgentObject} (hc : m.server.objects[e.2]? = some c)
    (hlive : c.Live) : order.foldlM visit m = none := by
  induction order generalizing m with
  | nil => cases he
  | cons a order ih =>
      obtain ⟨d, hd⟩ := hvalid a List.mem_cons_self
      rw [List.foldlM_cons]
      by_cases hdlive : d.Live
      · have hnone : visit m a = none := by
          rw [← Option.not_isSome_iff_eq_none, visit,
            closeAgent_isSome_iff (m := { m with visited := m.visited ++ [a] }) hheld H hd]
          exact not_not_intro hdlive
        rw [hnone]
        rfl
      · obtain ⟨m₁, hvisit, hsame, _, H₁, ⟨d', hd', _⟩, hothers⟩ := visit_of_not_live H hd hdlive
        have hne : e.2 ≠ a.2 := by
          intro heq
          rw [heq, hd] at hc
          cases hc
          exact hdlive hlive
        have hrest : e ∈ order := by
          rcases List.mem_cons.mp he with rfl | he
          · exact absurd rfl hne
          · exact he
        rw [hvisit]
        apply ih (hsame.held.trans hheld) H₁ _ hrest (by rw [hothers e.2 hne, hc])
        intro e' he'
        by_cases heq : e'.2 = a.2
        · exact ⟨d', by rw [heq, hd']⟩
        · rw [hothers e'.2 heq]
          exact hvalid e' (List.mem_cons_of_mem a he')

end

/-! ## Reachable states -/

theorem mem_agentList {s : AgentServer} {t : Str} {i : ℕ} :
    (t, i) ∈ s.agentList ↔ s.handler.agents.lookup t = some i := by
  rw [← Assoc.mem_entries_iff, AgentServer.agentList, List.mem_map]
  constructor
  · rintro ⟨⟨t', i'⟩, he, heq⟩
    cases heq
    exact he
  · exact fun he => ⟨⟨t, i⟩, he, rfl⟩

/-- An agent is registered for its own tunnel, so once at most. -/
theorem nodup_agentList {s : AgentServer} (H : ServerInv s) : (s.agentList.map Prod.snd).Nodup := by
  rw [AgentServer.agentList, List.map_map]
  apply (List.NodupKeys.nodup s.handler.agents.nodupKeys).map_on
  rintro ⟨t, i⟩ ht ⟨t', i'⟩ ht' heq
  cases (heq : i = i')
  obtain ⟨c, hc, rfl⟩ := H.entries t i (Assoc.mem_entries_iff.mp ht)
  obtain ⟨d, hd, rfl⟩ := H.entries t' i (Assoc.mem_entries_iff.mp ht')
  rw [hc] at hd
  cases hd
  rfl

theorem completes_iff {s : AgentServer} (H : ServerInv s) {order : List (Str × ℕ)}
    (horder : order.Perm s.agentList) :
    Completes s order ↔ ∀ t i c, s.handler.agents.lookup t = some i → s.objects[i]? = some c →
      ¬ c.Live := by
  have hmem : ∀ e ∈ order, s.handler.agents.lookup e.1 = some e.2 :=
    fun e he => mem_agentList.mp (horder.mem_iff.mp he)
  have hnodup : (order.map Prod.snd).Nodup := (horder.map Prod.snd).nodup_iff.mpr (nodup_agentList H)
  constructor
  · rintro ⟨m, hshutdown, _⟩ t i c hi hc hlive
    have hnone : order.foldlM visit ⟨s, true, [], false⟩ = none := by
      refine foldlM_visit_of_live (m := ⟨s, true, [], false⟩) rfl H.states ?_ (horder.mem_iff.mpr (mem_agentList.mpr hi)) hc hlive
      intro e he
      obtain ⟨d, hd, _⟩ := H.entries e.1 e.2 (hmem e he)
      exact ⟨d, hd⟩
    simp [shutdown, Holder.acquire, hnone] at hshutdown
  · intro hdead
    obtain ⟨m, hfold, hsame, hvisited, _, hdown⟩ :=
      foldlM_visit (m := ⟨s, true, [], false⟩) H.states hnodup (fun e he => by
        obtain ⟨d, hd, _⟩ := H.entries e.1 e.2 (hmem e he)
        exact ⟨d, hd, hdead e.1 e.2 d (hmem e he) hd⟩)
    refine ⟨Holder.release { m with server := m.server.clear }, ?_, hvisited, hnodup, hsame.modified,
      rfl, hdown⟩
    simp [shutdown, Holder.acquire, hfold]

/-- **Shutdown completes** in a reachable state, in whatever order the map is iterated, if and
only if no registered agent is started and not yet disconnected. -/
theorem shutdown_completes_iff (parse : Str → Option Json) (sha256 : Str → Digest)
    (tunnelCache : Cache Str Tunnel) (tokenCache : TokenCache) (maxAgents : ℕ)
    (evs : List ServerEvent) {order : List (Str × ℕ)}
    (horder : order.Perm (run (serverStep parse sha256)
      (.init tunnelCache tokenCache maxAgents) evs).agentList) :
    Completes (run (serverStep parse sha256) (.init tunnelCache tokenCache maxAgents) evs) order ↔
      ∀ t i c, (run (serverStep parse sha256)
          (.init tunnelCache tokenCache maxAgents) evs).handler.agents.lookup t = some i →
        (run (serverStep parse sha256)
          (.init tunnelCache tokenCache maxAgents) evs).objects[i]? = some c → ¬ c.Live :=
  completes_iff (serverInv_run tunnelCache tokenCache maxAgents evs) horder

/-- One agent authenticates and is registered. -/
def sampleRegistered : List AgentEvent := [sampleAuthenticate, .advance 0 ⟨0, 0⟩, .advance 0 ⟨0, 0⟩]

def sampleConnected : List AgentEvent := sampleRegistered ++ [.start 0 true]

/-- Before the connection is started there is no callback. -/
theorem shutdown_completes_iff_registered :
    Completes (run (serverStep sampleParse sampleSha256) (.init sampleTunnelCache sampleTokenCache 50)
        (sampleRegistered.map .agent)) [("api".toList, 0)] ↔
      ∀ t i c, (run (serverStep sampleParse sampleSha256)
          (.init sampleTunnelCache sampleTokenCache 50)
          (sampleRegistered.map .agent)).handler.agents.lookup t = some i →
        (run (serverStep sampleParse sampleSha256) (.init sampleTunnelCache sampleTokenCache 50)
          (sampleRegistered.map .agent)).objects[i]? = some c → ¬ c.Live :=
  shutdown_completes_iff sampleParse sampleSha256 sampleTunnelCache sampleTokenCache 50 _ (by decide)

/-- With one connected agent the thread waits for itself. -/
theorem not_completes_connected :
    ¬ ∀ evs order, order.Perm (run (serverStep sampleParse sampleSha256)
        (.init sampleTunnelCache sampleTokenCache 50) evs).agentList →
      Completes (run (serverStep sampleParse sampleSha256)
        (.init sampleTunnelCache sampleTokenCache 50) evs) order := by
  intro H
  obtain ⟨m, hshutdown, _⟩ := H (sampleConnected.map .agent)
    [("api".toList, 0)] (by decide)
  have hnone : (shutdown (run (serverStep sampleParse sampleSha256)
      (.init sampleTunnelCache sampleTokenCache 50)
      (sampleConnected.map .agent)) [("api".toList, 0)]).isNone = true := by
    decide
  rw [hshutdown] at hnone
  cases hnone

end Protogate.Server
