import Protogate.Lib.Printing
import Protogate.Server.PortNumbers
import Protogate.Server.PortOwners

/-!
# Authentication as a whole

`authenticate` adds the ports of an agent one after the other with `std::stoi`, which may throw
when some of them are in the cache; it answers with 200 before it makes the connection and registers
it, and does not look whether the registry took it.  Before that it logs the tunnel id and the ports
as the agent sent them, and a log call throws on a text that it cannot print.

Here the steps of one call follow each other and the clock is read once.

## Main definitions

* `Arrival` — what a call of `authenticate` finds around it.
* `authenticateCall` — its responses, whether an exception leaves it, and the server after it.
* `expiredIds`, `logPort` — what is logged, and whether it can be printed.
* `authenticateCall_run` — then the call is a run of the steps of a handshake.
* `AllOrNothing`, `ServesAgent` — what a caller may expect, and when.
* `allOrNothing_iff` — the expectation is met in exactly these cases.
-/

namespace Protogate.Server

open Protogate.Lib Protogate.Models Protogate.Security Protogate.Storage Protogate.Agent Protogate.Api
open Protogate.TunnelAgent (portOf)

/-! ## The call -/

/-- The clock, the order in which the token cache is visited, what the logger prints, whether the
constructor of the connection object can set the socket to non-blocking, or else throws, and whether
the first `nghttp2_session_send` succeeds. -/
structure Arrival where
  clock : Clock
  order : List (Str × AuthToken)
  printer : Printer
  made : Bool
  sent : Bool

/-- The responses with their messages, whether an exception escapes, and the server. -/
structure AuthOutcome where
  responses : List (ℕ × Str)
  escaped : Bool
  server : AgentServer

/-- The tunnel ids that the scan of the tokens logs: those with an expired token of the hash. -/
def expiredIds (sha256 : Str → Digest) (order : List (Str × AuthToken)) (now : ℤ)
    (authorization : Str) : List Str :=
  let token := extractToken authorization
  if token.isEmpty then []
  else
    (order.filter fun e => e.2.tokenHash == computeTokenHash sha256 token && isExpired e.2 now).map Prod.fst

/-- The target in the log of a port. -/
def targetText (existing : Tunnel) : Str := existing.targetHost ++ ":".toList ++ decimal existing.targetPort

/-- The log call when a port is in the cache; a blank element has none. -/
def logPort (printer : Printer) (tunnelId : Str) (existing : Tunnel) (port : Str) : Bool :=
  match portOf (trimmed port) with
  | none => true
  | some p => printer.logs [tunnelId, decimal p, targetText existing, tcpTunnelKey tunnelId p]

/-- The loop over the ports: the cache, and whether it comes to its end. -/
def addTcpPorts (printer : Printer) (clock : Clock) (tunnelId : Str) (existing : Tunnel) :
    Cache Str Tunnel → List Str → Cache Str Tunnel × Bool
  | cache, [] => (cache, true)
  | cache, port :: ports =>
      match addTcpPort cache clock tunnelId existing port with
      | none => (cache, false)
      | some cache =>
          if logPort printer tunnelId existing port then
            addTcpPorts printer clock tunnelId existing cache ports
          else (cache, false)

/-- The ports of a header; none are added for a tunnel that is not in the cache. -/
def registerTcpPorts (printer : Printer) (cache : Cache Str Tunnel) (clock : Clock)
    (tunnelId tcpPorts : Str) : Cache Str Tunnel × Bool :=
  if tcpPorts.isEmpty then (cache, true)
  else
    match cache.get clock.steady tunnelId with
    | none => (cache, printer.logs [tunnelId])
    | some existing => addTcpPorts printer clock tunnelId existing cache (fields ',' tcpPorts)

/-- The success response, and then the connection. -/
def accept (s : AgentServer) (a : Arrival) (tunnelId : Str) : AuthOutcome where
  responses := [(200, "Connection established".toList)]
  escaped := !a.made
  server := if a.made then (s.connect tunnelId).start s.objects.length a.sent else s

/-- An exception before anything is sent. -/
def threw (s : AgentServer) : AuthOutcome := ⟨[], true, s⟩

/-- A call of `authenticate`.  The other texts that it logs are ASCII. -/
def authenticateCall (sha256 : Str → Digest) (s : AgentServer) (a : Arrival) (authData : Str) : AuthOutcome :=
  let headers := authHeaders authData
  let result := validate sha256 a.order a.clock.system headers.authorization
  if !a.printer.logs (expiredIds sha256 a.order a.clock.system headers.authorization) then threw s
  else if !result.valid then ⟨[(401, result.errorMessage)], false, s⟩
  else if !a.printer.logs [result.tunnelId] then threw s
  else if s.isConnected result.tunnelId then ⟨[(409, "Tunnel already connected".toList)], false, s⟩
  else if !a.printer.logs [result.tunnelId, headers.tcpPorts] then threw s
  else
    match registerTcpPorts a.printer s.handler.tunnelCache a.clock result.tunnelId headers.tcpPorts with
    | (cache, false) => threw (s.setTunnelCache cache)
    | (cache, true) => accept (s.setTunnelCache cache) a result.tunnelId

/-! ## The property and the condition -/

/-- Each port of the list has an entry under the key of the tunnel. -/
def PortsListed (cache : Cache Str Tunnel) (now : ℤ) (tunnelId tcpPorts : Str) : Prop :=
  ∀ port ∈ fields ',' tcpPorts, ∀ p, portOf (trimmed port) = some p →
    (cache.get now (tcpTunnelKey tunnelId p)).isSome

/-- No exception escapes and there is one response.  If it is not 200 the tunnel cache and the
registry are as before; if it is, the new object is registered and the ports have their entries. -/
def AllOrNothing (sha256 : Str → Digest) (s : AgentServer) (a : Arrival) (authData : Str) : Prop :=
  let headers := authHeaders authData
  let tunnelId := (validate sha256 a.order a.clock.system headers.authorization).tunnelId
  let outcome := authenticateCall sha256 s a authData
  outcome.escaped = false ∧ ∃ status message, outcome.responses = [(status, message)] ∧
    (status ≠ 200 → outcome.server.handler.tunnelCache = s.handler.tunnelCache ∧
      outcome.server.handler.agents = s.handler.agents) ∧
    (status = 200 → outcome.server.objects.length = s.objects.length + 1 ∧
      outcome.server.handler.agents.lookup tunnelId = some s.objects.length ∧
      PortsListed outcome.server.handler.tunnelCache a.clock.steady tunnelId headers.tcpPorts)

/-- Each port can be read, if the tunnel is in the cache, and then its target can be printed; each
that can be read has an entry already, if it is not. -/
def PortsServed (printer : Printer) (cache : Cache Str Tunnel) (now : ℤ) (tunnelId tcpPorts : Str) : Prop :=
  match cache.get now tunnelId with
  | some existing =>
      ∀ port ∈ fields ',' tcpPorts, trimmed port ≠ [] →
        (stoi (trimmed port)).isSome ∧ printer.prints existing.targetHost = true
  | none => PortsListed cache now tunnelId tcpPorts

/-- The tunnel ids of the expired tokens that match can be printed, and the id of an agent with a
valid token can.  If it is let in its list of ports can be printed, it finds room in the registry, its
connection is made and starts, and its ports are served. -/
def ServesAgent (sha256 : Str → Digest) (s : AgentServer) (a : Arrival) (authData : Str) : Prop :=
  let headers := authHeaders authData
  let result := validate sha256 a.order a.clock.system headers.authorization
  (∀ id ∈ expiredIds sha256 a.order a.clock.system headers.authorization, a.printer.prints id = true) ∧
    (result.valid = true → a.printer.prints result.tunnelId = true ∧
      (s.isConnected result.tunnelId = false →
        a.printer.prints headers.tcpPorts = true ∧ a.made = true ∧ a.sent = true ∧
          s.handler.agents.entries.length < s.maxAgents ∧
          PortsServed a.printer s.handler.tunnelCache a.clock.steady result.tunnelId headers.tcpPorts))

/-! ## The ports -/

section
variable {clock : Clock} {tunnelId : Str} {existing : Tunnel} {cache : Cache Str Tunnel}

/-- An entry for a port takes no entry away. -/
theorem isSome_get_addTcpPort {port : Str} {cache' : Cache Str Tunnel}
    (h : addTcpPort cache clock tunnelId existing port = some cache') {key : Str}
    (hkey : (cache.get clock.steady key).isSome) : (cache'.get clock.steady key).isSome := by
  by_cases hblank : trimmed port = []
  · rw [addTcpPort_of_eq_nil hblank] at h
    cases h
    exact hkey
  · rw [addTcpPort_of_ne_nil hblank] at h
    obtain ⟨p, _, rfl⟩ := Option.map_eq_some_iff.mp h
    rw [Cache.get_put seconds_tcpTunnelTtl_pos]
    split
    · rfl
    · exact hkey

/-- The port has its entry. -/
theorem isSome_get_tcpTunnelKey {port : Str} {cache' : Cache Str Tunnel}
    (h : addTcpPort cache clock tunnelId existing port = some cache') {p : ℕ}
    (hp : portOf (trimmed port) = some p) :
    (cache'.get clock.steady (tcpTunnelKey tunnelId p)).isSome := by
  have hblank : trimmed port ≠ [] := by
    intro hnil
    rw [hnil] at hp
    cases hp
  rw [addTcpPort_of_ne_nil hblank, hp] at h
  cases h
  rw [Cache.get_put seconds_tcpTunnelTtl_pos, if_pos rfl]
  rfl

theorem isSome_addTcpPort_iff {port : Str} :
    (addTcpPort cache clock tunnelId existing port).isSome ↔
      (trimmed port ≠ [] → (stoi (trimmed port)).isSome) := by
  by_cases hblank : trimmed port = []
  · simp [addTcpPort_of_eq_nil hblank, hblank]
  · simp [addTcpPort_of_ne_nil hblank, hblank, portOf]

/-- The texts of a port can be printed if the tunnel id and the host of the target can. -/
theorem logPort_iff {printer : Printer} (hid : printer.prints tunnelId = true) {port : Str} :
    logPort printer tunnelId existing port = true ↔
      ∀ p, portOf (trimmed port) = some p → printer.prints existing.targetHost = true := by
  have hbehind : ∀ s text : Str, isAscii text = true → ∀ n : ℕ,
      printer.prints (s ++ text ++ decimal n) = printer.prints s := by
    intro s text htext n
    rw [printer.prints_append _ _ (isAscii_decimal n), printer.prints_append _ _ htext]
  rw [logPort]
  cases portOf (trimmed port) with
  | none => simp
  | some p =>
      have htarget : printer.prints (targetText existing) = printer.prints existing.targetHost :=
        hbehind _ _ rfl _
      have hkey : printer.prints (tcpTunnelKey tunnelId p) = true := (hbehind _ _ rfl _).trans hid
      simp [Printer.logs, hid, htarget, hkey, printer.prints_of_isAscii _ (isAscii_decimal p)]

/-- A port is added and logged. -/
def PortAdded (printer : Printer) (existing : Tunnel) (port : Str) : Prop :=
  trimmed port ≠ [] → (stoi (trimmed port)).isSome ∧ printer.prints existing.targetHost = true

theorem portAdded_iff {printer : Printer} (hid : printer.prints tunnelId = true) {port : Str} :
    PortAdded printer existing port ↔
      (addTcpPort cache clock tunnelId existing port).isSome ∧
        logPort printer tunnelId existing port = true := by
  rw [isSome_addTcpPort_iff, logPort_iff hid, PortAdded]
  by_cases hblank : trimmed port = []
  · have hnone : portOf [] = none := rfl
    simp [hblank, hnone]
  · simp only [hblank, ne_eq, not_false_eq_true, forall_true_left, portOf]
    cases stoi (trimmed port) with
    | none => simp
    | some n => simp

theorem addTcpPorts_snd_iff {printer : Printer} (hid : printer.prints tunnelId = true)
    (ports : List Str) :
    (addTcpPorts printer clock tunnelId existing cache ports).2 = true ↔
      ∀ port ∈ ports, PortAdded printer existing port := by
  induction ports generalizing cache with
  | nil => simp [addTcpPorts]
  | cons port ports ih =>
      have hfirst := @portAdded_iff clock tunnelId existing cache printer hid port
      rw [List.forall_mem_cons, hfirst, addTcpPorts]
      cases addTcpPort cache clock tunnelId existing port with
      | none => simp
      | some cache' =>
          cases logPort printer tunnelId existing port with
          | false => simp
          | true => simp [ih]

theorem isSome_get_addTcpPorts {printer : Printer} (ports : List Str) {key : Str}
    (hkey : (cache.get clock.steady key).isSome) :
    ((addTcpPorts printer clock tunnelId existing cache ports).1.get clock.steady key).isSome := by
  induction ports generalizing cache with
  | nil => exact hkey
  | cons port ports ih =>
      rw [addTcpPorts]
      cases hadd : addTcpPort cache clock tunnelId existing port with
      | none => exact hkey
      | some cache' =>
          have hkept := isSome_get_addTcpPort hadd hkey
          dsimp only
          split
          · exact ih hkept
          · exact hkept

/-- A loop that comes to its end has an entry for each port. -/
theorem isSome_get_of_mem {printer : Printer} {ports : List Str}
    (hend : (addTcpPorts printer clock tunnelId existing cache ports).2 = true) {port : Str}
    (hport : port ∈ ports) {p : ℕ} (hp : portOf (trimmed port) = some p) :
    ((addTcpPorts printer clock tunnelId existing cache ports).1.get clock.steady
      (tcpTunnelKey tunnelId p)).isSome := by
  induction ports generalizing cache with
  | nil => cases hport
  | cons first ports ih =>
      rw [addTcpPorts] at hend ⊢
      cases hadd : addTcpPort cache clock tunnelId existing first with
      | none =>
          rw [hadd] at hend
          cases hend
      | some cache' =>
          rw [hadd] at hend
          cases hlog : logPort printer tunnelId existing first with
          | false =>
              simp only [hlog, Bool.false_eq_true, if_false] at hend
          | true =>
              simp only [hlog, if_true] at hend ⊢
              rcases List.mem_cons.mp hport with rfl | hport
              · exact isSome_get_addTcpPorts ports (isSome_get_tcpTunnelKey hadd hp)
              · exact ih hend hport

end

/-- The ports are served exactly if the loop comes to its end and each then has its entry. -/
theorem portsServed_iff {printer : Printer} {cache : Cache Str Tunnel} {clock : Clock}
    {tunnelId tcpPorts : Str} (hid : printer.prints tunnelId = true) :
    PortsServed printer cache clock.steady tunnelId tcpPorts ↔
      (registerTcpPorts printer cache clock tunnelId tcpPorts).2 = true ∧
        PortsListed (registerTcpPorts printer cache clock tunnelId tcpPorts).1 clock.steady tunnelId
          tcpPorts := by
  simp only [PortsServed, registerTcpPorts, List.isEmpty_iff]
  by_cases hempty : tcpPorts = []
  · have hnone : fields ',' [] = [] := rfl
    cases hget : cache.get clock.steady tunnelId <;> simp [PortsListed, hempty, hnone]
  · rw [if_neg hempty]
    cases hget : cache.get clock.steady tunnelId with
    | none => simp [Printer.logs, hid]
    | some existing =>
        dsimp only
        have hadded := @addTcpPorts_snd_iff clock tunnelId existing cache printer hid (fields ',' tcpPorts)
        simp only [PortAdded] at hadded
        rw [← hadded]
        refine (and_iff_left_of_imp ?_).symm
        exact fun hend port hport p hp => isSome_get_of_mem hend hport hp

/-! ## The connection -/

/-- What is registered is `CONNECTED`. -/
def RegisteredConnected (objects : List AgentObject) (agents : Assoc Str ℕ) : Prop :=
  ∀ t i c, agents.lookup t = some i → objects[i]? = some c → c.agent.state = .connected

section
variable {parse : Str → Option Json} {sha256 : Str → Digest} {s : AgentServer}

/-- A connection that is lost takes its entry with it. -/
theorem RegisteredConnected.effect (h : RegisteredConnected s.objects s.handler.agents) (H : ServerInv s)
    {e : AgentEvent} {objects : List AgentObject} {agents : Assoc Str ℕ} (heffect : Effect s e objects agents) :
    RegisteredConnected objects agents := by
  cases heffect with
  | idle _ _ _ => exact h
  | connected g clock t _ =>
      intro k i c hi hc
      rcases getElem?_concat_cases hc with hc | ⟨_, rfl⟩
      · rw [lookup_registerAgent] at hi
        split at hi
        · cases hi
          rw [List.getElem?_eq_none (le_refl _)] at hc
          cases hc
        · exact h k i c hi hc
      · rfl
  | started i c agent hc _ hstate =>
      intro k j d hj hd
      rcases getElem?_set_cases hc hd with ⟨_, rfl⟩ | ⟨_, hd⟩
      · exact hstate
      · exact h k j d hj hd
  | lost e i c agent hc _ _ =>
      intro k j d hj hd
      obtain ⟨hne, hj⟩ := Assoc.lookup_of_lookup_erase hj
      rcases getElem?_set_cases hc hd with ⟨rfl, rfl⟩ | ⟨_, hd⟩
      · obtain ⟨c', hc', htunnel⟩ := H.entries k i hj
        rw [hc] at hc'
        cases hc'
        exact absurd htunnel.symm hne
      · exact h k j d hj hd

/-- What holds before a call. -/
structure AuthInv (s : AgentServer) : Prop where
  server : ServerInv s
  connected : RegisteredConnected s.objects s.handler.agents

theorem authInv_step (s : AgentServer) (e : ServerEvent) (H : AuthInv s) :
    AuthInv (serverStep parse sha256 s e) := by
  refine ⟨serverInv_step s e H.server, ?_⟩
  cases e with
  | agent e => exact H.connected.effect H.server (agentStep_effect H.server e)
  | api e =>
      intro t i c hi hc
      refine H.connected t i c ?_ hc
      rcases agents_apiStep parse sha256 s.handler e with hsame | ⟨t', _, herased⟩
      · exact hsame ▸ hi
      · have hi : (s.handler.agents.erase t').lookup t = some i := herased ▸ hi
        exact (Assoc.lookup_of_lookup_erase hi).2

theorem authInv_run (parse : Str → Option Json) (sha256 : Str → Digest) (tunnelCache : Cache Str Tunnel)
    (tokenCache : TokenCache) (maxAgents : ℕ) (evs : List ServerEvent) :
    AuthInv (run (serverStep parse sha256) (.init tunnelCache tokenCache maxAgents) evs) := by
  refine run_invariant AuthInv authInv_step ⟨serverInv_init tunnelCache tokenCache maxAgents, ?_⟩
  intro t i c hi _
  cases hi

/-- Where no agent is connected, none is registered. -/
theorem AuthInv.lookup_eq_none (H : AuthInv s) {t : Str} (h : s.isConnected t = false) :
    s.handler.agents.lookup t = none := by
  cases hlook : s.handler.agents.lookup t with
  | none => rfl
  | some i =>
      obtain ⟨c, hc, _⟩ := H.server.entries t i hlook
      have hstate := H.connected t i c hlook hc
      simp [AgentServer.isConnected, AgentServer.registered, hlook, hc, hstate] at h

/-- Making a connection and starting it: one more object, and an entry for it in the registry
if that takes it, which is lost if nothing can be sent. -/
theorem start_connect (s : AgentServer) (t : Str) (sent : Bool) :
    ((s.connect t).start s.objects.length sent).objects.length = s.objects.length + 1 ∧
      ((s.connect t).start s.objects.length sent).handler.agents =
        if sent then (registerAgent s.maxAgents s.handler.agents t s.objects.length).2
        else (registerAgent s.maxAgents s.handler.agents t s.objects.length).2.erase t := by
  have hc : (s.connect t).objects[s.objects.length]? = some ⟨t, .created Unit .connected, false⟩ :=
    List.getElem?_concat_length
  have hset := getElem?_set_self hc ⟨t, (Agent.start (.created Unit .connected) true).1, true⟩
  have hstate := state_start (.created Unit .connected) rfl
  have hlength : (s.connect t).objects.length = s.objects.length + 1 := by
    rw [AgentServer.connect, List.length_append, List.length_singleton]
  rw [AgentServer.start, hc]
  cases sent with
  | true =>
      refine ⟨?_, rfl⟩
      rw [← hlength]
      exact List.length_set
  | false =>
      simp only [Bool.false_eq_true, if_false]
      rw [close_of_connected hset hstate]
      refine ⟨?_, rfl⟩
      rw [← hlength]
      simp [AgentServer.setObject, AgentServer.unregister]

/-! ## The steps of a call -/

/-- With one more handshake. -/
def AgentServer.withHandshake (s : AgentServer) (handshake : Handshake) : AgentServer :=
  { s with handshakes := s.handshakes ++ [handshake] }

/-- Steps of the handshake at `h` lead from the one state to the other. -/
def Advances (sha256 : Str → Digest) (h : ℕ) (clock : Clock) (s s' : AgentServer) : Prop :=
  ∃ n, run (agentStep sha256) s (List.replicate n (.advance h clock)) = s'

section
variable {h : ℕ} {clock : Clock} {s' s'' : AgentServer}

theorem Advances.refl (s : AgentServer) : Advances sha256 h clock s s := ⟨0, rfl⟩

theorem Advances.step (hrest : Advances sha256 h clock (s.advance h clock) s') :
    Advances sha256 h clock s s' := by
  obtain ⟨n, hn⟩ := hrest
  exact ⟨n + 1, hn⟩

theorem Advances.trans (hfirst : Advances sha256 h clock s s') (hrest : Advances sha256 h clock s' s'') :
    Advances sha256 h clock s s'' := by
  obtain ⟨m, rfl⟩ := hfirst
  obtain ⟨n, rfl⟩ := hrest
  refine ⟨m + n, ?_⟩
  rw [List.replicate_add, run_append]

end

section
variable {handshake : Handshake} {tunnelId : Str}

theorem getElem?_withHandshake (s : AgentServer) :
    (s.withHandshake handshake).handshakes[s.handshakes.length]? = some handshake :=
  List.getElem?_concat_length

theorem setHandshake_withHandshake (s : AgentServer) (next : Handshake) :
    (s.withHandshake handshake).setHandshake s.handshakes.length next = s.withHandshake next := by
  simp [AgentServer.withHandshake, AgentServer.setHandshake]

theorem dropHandshake_withHandshake (s : AgentServer) :
    (s.withHandshake handshake).dropHandshake s.handshakes.length = s := by
  simp [AgentServer.withHandshake, AgentServer.dropHandshake, List.eraseIdx_append_of_length_le]

/-- Where the loop over the ports leaves the server: with a handshake that is ready to connect, or
with none. -/
def AgentServer.afterPorts (s : AgentServer) (tunnelId : Str) : Cache Str Tunnel × Bool → AgentServer
  | (cache, true) => (s.setTunnelCache cache).withHandshake (.ready tunnelId)
  | (cache, false) => s.setTunnelCache cache

theorem logPort_of_prints {printer : Printer} (hprints : ∀ s, printer.prints s = true)
    (existing : Tunnel) (port : Str) : logPort printer tunnelId existing port = true := by
  rw [logPort]
  split
  · rfl
  · exact printer.logs_of_prints hprints _

theorem advances_addTcpPorts {printer : Printer} (hprints : ∀ s, printer.prints s = true)
    (s : AgentServer) (clock : Clock) (existing : Tunnel) (ports : List Str) :
    Advances sha256 s.handshakes.length clock (s.withHandshake (.adding tunnelId existing ports))
      (s.afterPorts tunnelId
        (addTcpPorts printer clock tunnelId existing s.handler.tunnelCache ports)) := by
  induction ports generalizing s with
  | nil =>
      refine Advances.step ?_
      rw [AgentServer.advance, getElem?_withHandshake]
      simp only [setHandshake_withHandshake]
      exact .refl _
  | cons port ports ih =>
      refine Advances.step ?_
      rw [AgentServer.advance, getElem?_withHandshake]
      have hcache : (s.withHandshake (.adding tunnelId existing (port :: ports))).handler.tunnelCache =
          s.handler.tunnelCache := rfl
      simp only [addTcpPorts, hcache, logPort_of_prints hprints, if_true]
      cases addTcpPort s.handler.tunnelCache clock tunnelId existing port with
      | none =>
          simp only [dropHandshake_withHandshake]
          exact .refl _
      | some cache =>
          have hset := @setHandshake_withHandshake (.adding tunnelId existing (port :: ports))
            (s.setTunnelCache cache) (.adding tunnelId existing ports)
          have hnext := ih (s.setTunnelCache cache)
          rw [← hset] at hnext
          exact hnext

theorem advances_registerTcpPorts {printer : Printer} (hprints : ∀ s, printer.prints s = true)
    (s : AgentServer) (clock : Clock) (tcpPorts : Str) :
    Advances sha256 s.handshakes.length clock (s.withHandshake (.checked tunnelId tcpPorts))
      (s.afterPorts tunnelId
        (registerTcpPorts printer s.handler.tunnelCache clock tunnelId tcpPorts)) := by
  refine Advances.step ?_
  have hcache : (s.withHandshake (.checked tunnelId tcpPorts)).handler.tunnelCache =
      s.handler.tunnelCache := rfl
  rw [AgentServer.advance, getElem?_withHandshake]
  simp only [registerTcpPorts, hcache, printer.logs_of_prints hprints]
  by_cases hempty : tcpPorts.isEmpty = true
  · simp only [hempty, if_true, setHandshake_withHandshake]
    exact .refl _
  · simp only [hempty, Bool.false_eq_true, if_false]
    cases s.handler.tunnelCache.get clock.steady tunnelId with
    | none =>
        simp only [setHandshake_withHandshake]
        exact .refl _
    | some existing =>
        simp only [setHandshake_withHandshake]
        exact advances_addTcpPorts hprints s clock existing (fields ',' tcpPorts)

/-- A handshake that is ready makes the connection. -/
theorem advances_ready (s : AgentServer) (clock : Clock) :
    Advances sha256 s.handshakes.length clock (s.withHandshake (.ready tunnelId)) (s.connect tunnelId) := by
  refine Advances.step ?_
  rw [AgentServer.advance, getElem?_withHandshake]
  simp only [dropHandshake_withHandshake]
  exact .refl _

end

/-- Nothing is started where there is no object. -/
theorem start_length (s : AgentServer) (sent : Bool) : s.start s.objects.length sent = s := by
  rw [AgentServer.start, List.getElem?_eq_none (le_refl _)]

/-- **A call is a run of the steps of one handshake** if its log calls return: the checks, its
advances, and the start of the connection. -/
theorem authenticateCall_run (s : AgentServer) (a : Arrival) (authData : Str)
    (hvisits : s.handler.tokenCache.Visits a.clock.steady a.order)
    (hprints : ∀ s, a.printer.prints s = true) (hmade : a.made = true) :
    ∃ n, (authenticateCall sha256 s a authData).server =
      run (agentStep sha256) s (.authenticate a.clock a.order authData ::
        (List.replicate n (.advance s.handshakes.length a.clock) ++ [.start s.objects.length a.sent])) := by
  simp only [run_cons, run_append, run_nil, agentStep, if_pos hvisits, authenticate, authenticateCall,
    a.printer.logs_of_prints hprints, Bool.not_true, Bool.false_eq_true, if_false]
  generalize (authHeaders authData).tcpPorts = tcpPorts
  generalize validate sha256 a.order a.clock.system (authHeaders authData).authorization = result
  cases result.valid with
  | false => exact ⟨0, (start_length s a.sent).symm⟩
  | true =>
      cases s.isConnected result.tunnelId with
      | true => exact ⟨0, (start_length s a.sent).symm⟩
      | false =>
          have hports : Advances sha256 s.handshakes.length a.clock
              (s.withHandshake (.checked result.tunnelId tcpPorts)) _ :=
            advances_registerTcpPorts hprints s a.clock tcpPorts
          cases hadded : registerTcpPorts a.printer s.handler.tunnelCache a.clock result.tunnelId tcpPorts with
          | mk cache completed =>
              rw [hadded] at hports
              cases completed with
              | false =>
                  obtain ⟨n, hn⟩ := hports
                  refine ⟨n, ?_⟩
                  show s.setTunnelCache cache =
                    (run (agentStep sha256) (s.withHandshake _) (List.replicate n _)).start _ a.sent
                  rw [hn]
                  exact (start_length (s.setTunnelCache cache) a.sent).symm
              | true =>
                  obtain ⟨n, hn⟩ := hports.trans (advances_ready (s.setTunnelCache cache) a.clock)
                  refine ⟨n, ?_⟩
                  show (accept (s.setTunnelCache cache) a result.tunnelId).server =
                    (run (agentStep sha256) (s.withHandshake _) (List.replicate n _)).start _ a.sent
                  rw [hn, accept]
                  simp only [hmade, if_true]
                  rfl

/-! ## The whole call -/

/-- An agent is accepted wholly if there is room for it, its connection is made and starts, and
its ports have their entries. -/
theorem accept_iff {a : Arrival} {t tcpPorts : Str} (hnone : s.handler.agents.lookup t = none) :
    ((accept s a t).server.objects.length = s.objects.length + 1 ∧
        (accept s a t).server.handler.agents.lookup t = some s.objects.length ∧
        PortsListed (accept s a t).server.handler.tunnelCache a.clock.steady t tcpPorts) ↔
      a.made = true ∧ a.sent = true ∧ s.handler.agents.entries.length < s.maxAgents ∧
        PortsListed s.handler.tunnelCache a.clock.steady t tcpPorts := by
  cases hmade : a.made with
  | false => simp [accept, hmade]
  | true =>
      obtain ⟨hlength, hagents⟩ := start_connect s t a.sent
      have hcache : ((s.connect t).start s.objects.length a.sent).handler.tunnelCache =
          s.handler.tunnelCache := tunnelCache_start _ _ _
      simp only [accept, hmade, if_true, hlength, hagents, hcache, true_and]
      cases hsent : a.sent with
      | false => simp
      | true =>
          have hlook : (registerAgent s.maxAgents s.handler.agents t s.objects.length).2.lookup t =
              some s.objects.length ↔ s.handler.agents.entries.length < s.maxAgents := by
            rw [lookup_registerAgent, hnone, registerAgent]
            by_cases hfull : s.maxAgents ≤ s.handler.agents.entries.length
            · simp [hfull]
            · simp only [hfull, if_false, hnone, Option.isSome_none, Bool.false_eq_true, and_self, if_true,
                true_iff]
              omega
          simp only [if_true, hlook, true_and]

theorem not_logs_singleton (printer : Printer) (text : Str) :
    (!printer.logs [text]) = !printer.prints text := by
  simp [Printer.logs]

/-- What is left after the checks is all or nothing if the ports have been added and the agent is
accepted wholly. -/
theorem afterPorts_iff {a : Arrival} {t tcpPorts : Str} (hnone : s.handler.agents.lookup t = none)
    (ports : Cache Str Tunnel × Bool) :
    let outcome := match ports with
      | (cache, false) => threw (s.setTunnelCache cache)
      | (cache, true) => accept (s.setTunnelCache cache) a t
    (outcome.escaped = false ∧ ∃ status message, outcome.responses = [(status, message)] ∧
      (status ≠ 200 → outcome.server.handler.tunnelCache = s.handler.tunnelCache ∧
        outcome.server.handler.agents = s.handler.agents) ∧
      (status = 200 → outcome.server.objects.length = s.objects.length + 1 ∧
        outcome.server.handler.agents.lookup t = some s.objects.length ∧
        PortsListed outcome.server.handler.tunnelCache a.clock.steady t tcpPorts)) ↔
      a.made = true ∧ a.sent = true ∧ s.handler.agents.entries.length < s.maxAgents ∧
        ports.2 = true ∧ PortsListed ports.1 a.clock.steady t tcpPorts := by
  obtain ⟨cache, completed⟩ := ports
  cases completed with
  | false => simp [threw]
  | true =>
      have haccept := @accept_iff (s.setTunnelCache cache) a t tcpPorts hnone
      constructor
      · rintro ⟨_, status, message, hresponses, _, hserved⟩
        cases hresponses
        obtain ⟨hmade, hsent, hroom, hlisted⟩ := haccept.mp (hserved rfl)
        exact ⟨hmade, hsent, hroom, rfl, hlisted⟩
      · rintro ⟨hmade, hsent, hroom, _, hlisted⟩
        refine ⟨?_, 200, _, rfl, fun hne => absurd rfl hne, fun _ => ?_⟩
        · show (!a.made) = false
          rw [hmade]
          rfl
        · exact haccept.mpr ⟨hmade, hsent, hroom, hlisted⟩

/-- A call that throws is not all or nothing, and an agent with a text that is not printed is not
served. -/
theorem allOrNothing_iff_of_inv (H : AuthInv s) (a : Arrival) (authData : Str) :
    AllOrNothing sha256 s a authData ↔ ServesAgent sha256 s a authData := by
  have hexpired : (∀ id ∈ expiredIds sha256 a.order a.clock.system (authHeaders authData).authorization,
      a.printer.prints id = true) ↔
      a.printer.logs (expiredIds sha256 a.order a.clock.system (authHeaders authData).authorization) =
        true := List.all_eq_true.symm
  simp only [AllOrNothing, ServesAgent, authenticateCall, not_logs_singleton, hexpired]
  generalize expiredIds sha256 a.order a.clock.system (authHeaders authData).authorization = expired
  generalize (authHeaders authData).tcpPorts = tcpPorts
  generalize validate sha256 a.order a.clock.system (authHeaders authData).authorization = result
  -- the checks in the order in which they are made
  cases a.printer.logs expired with
  | false => simp [threw]
  | true =>
      cases hvalid : result.valid with
      | false => simp
      | true =>
          cases hid : a.printer.prints result.tunnelId with
          | false => simp [threw]
          | true =>
              cases hconnected : s.isConnected result.tunnelId with
              | true => simp
              | false =>
                  have hboth : a.printer.logs [result.tunnelId, tcpPorts] =
                      a.printer.prints tcpPorts := by
                    simp [Printer.logs, hid]
                  rw [hboth]
                  cases hprinted : a.printer.prints tcpPorts with
                  | false => simp [threw]
                  | true =>
                      rw [portsServed_iff hid]
                      simp only [Bool.not_true, Bool.false_eq_true, if_false, true_and,
                        forall_true_left]
                      exact afterPorts_iff (H.lookup_eq_none hconnected) _

end

/-- **Authentication is all or nothing** in a reachable state exactly if the agent is refused at
once, or it finds everything that it needs. -/
theorem allOrNothing_iff (parse : Str → Option Json) (sha256 : Str → Digest)
    (tunnelCache : Cache Str Tunnel) (tokenCache : TokenCache) (maxAgents : ℕ) (evs : List ServerEvent)
    (a : Arrival) (authData : Str) :
    AllOrNothing sha256
        (run (serverStep parse sha256) (.init tunnelCache tokenCache maxAgents) evs) a authData ↔
      ServesAgent sha256
        (run (serverStep parse sha256) (.init tunnelCache tokenCache maxAgents) evs) a authData :=
  allOrNothing_iff_of_inv (authInv_run parse sha256 tunnelCache tokenCache maxAgents evs) a authData

/-- What an agent sends whose list of ports ends in a word. -/
def wordPortAuthData : Str :=
  "CONNECT / HTTP/1.1\r\nAuthorization: Bearer tnl_local_test_123\r\nX-TCP-Ports: 8080,abc\r\n\r\n".toList

def sampleArrival : Arrival := ⟨⟨0, 0⟩, [("api".toList, sampleOld)], asciiPrinter, true, true⟩

def wordPortOutcome : AuthOutcome :=
  authenticateCall sampleSha256 (.init sampleTunnelCache sampleTokenCache 50) sampleArrival wordPortAuthData

/-- The first port is in the cache when the word throws; there is no response. -/
theorem not_allOrNothing_word :
    (wordPortOutcome.escaped = true ∧ wordPortOutcome.responses = [] ∧
      (wordPortOutcome.server.handler.tunnelCache.get 0 "api:tcp:8080".toList).isSome = true) ∧
      ¬ ∀ (parse : Str → Option Json) (sha256 : Str → Digest) (tunnelCache : Cache Str Tunnel)
        (tokenCache : TokenCache) (maxAgents : ℕ) (evs : List ServerEvent) (a : Arrival) (authData : Str),
          AllOrNothing sha256
            (run (serverStep parse sha256) (.init tunnelCache tokenCache maxAgents) evs) a authData := by
  have houtcome : wordPortOutcome.escaped = true ∧ wordPortOutcome.responses = [] ∧
      (wordPortOutcome.server.handler.tunnelCache.get 0 "api:tcp:8080".toList).isSome = true := by
    decide +kernel
  refine ⟨houtcome, fun h => ?_⟩
  have hcall : wordPortOutcome.escaped = false :=
    (h (fun _ => none) sampleSha256 sampleTunnelCache sampleTokenCache 50 [] sampleArrival
      wordPortAuthData).1
  rw [houtcome.1] at hcall
  cases hcall

end Protogate.Server
