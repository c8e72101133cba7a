import Protogate.Api.UsableTunnels
import Protogate.Server.AgentServer
import Protogate.TunnelAgent.AgentConfig

/-!
# Numbers that become ports

A port is an integer in a request, an element of the list that an agent sends, or a part of a text
given to the agent.  In each case an `int` is put into 16 bits, in four of them after `std::stoi`,
which reads the number at the front of a text.

## Main definitions

* `PortInput` — a number that is to become a port, in one of five places.
* `PortInput.Stores`, `PortInput.Written` — the port that is stored, and the one that was meant.
* `PortInput.Exact` — whatever is stored was meant.
* `PortInput.Unmistakable`, `exact_iff` — when this is so.
-/

namespace Protogate.Server

open Protogate.Lib Protogate.Models Protogate.Security Protogate.Storage Protogate.Api
open Protogate.TunnelAgent (AgentConfig toUint16 portOf withoutScheme portStr tcpTarget)

/-! ## The five places -/

/-- A number, with what it is given in. -/
inductive PortInput
  | targetPort (s : Handler) (env : Surroundings) (body : Str) (n : ℤ)
  | tcpPort (cache : Cache Str Tunnel) (clock : Clock) (tunnelId : Str) (existing : Tunnel) (element : Str)
  | server (config : AgentConfig) (address : Str)
  | serverPort (config : AgentConfig) (text : Str)
  | localUrl (url : Str)

/-- The text is a decimal number, and this one. -/
def IsDecimal (text : Str) (p : ℕ) : Prop := IsNumeral text ∧ digitsValue text = p

/-- An element of the list without the blanks around it. -/
def trimmed (element : Str) : Str := trim (fun c => c = ' ' || c = '\t') element

/-- What follows the first colon. -/
def afterColon (address : Str) : Str := (address.dropWhile (· ≠ ':')).drop 1

/-- The port of a URL ends at a slash, and at a query or a fragment too. -/
def urlPort (url : Str) : Str := (portStr (withoutScheme url)).takeWhile fun c => c ≠ '?' && c ≠ '#'

/-- An integer that is in the range of an `int`. -/
def FitsInt (n : ℤ) : Prop := -2147483648 ≤ n ∧ n ≤ 2147483647

namespace PortInput

/-- The number that was written. -/
def Written : PortInput → ℕ → Prop
  | .targetPort _ _ _ n, p => n = p
  | .tcpPort _ _ _ _ element, p => IsDecimal (trimmed element) p
  | .server _ address, p => IsDecimal (afterColon address) p
  | .serverPort _ text, p => IsDecimal text p
  | .localUrl url, p => IsDecimal (urlPort url) p

section
variable (parse : Str → Option Json) (sha256 : Str → Digest)

/-- The body asks for this port. -/
def Asks (body : Str) (n : ℤ) : Prop :=
  ∃ json, parse body = some json ∧ json.field "target_port".toList = some (.number n)

/-- The port that is stored.  `AgentConfig.validate` does not take a port of 0. -/
def Stores : PortInput → ℕ → Prop
  | .targetPort s env body n, p =>
      Asks parse body n ∧ (handleCreateTunnel parse sha256 s env body).1.statusCode = 201 ∧
        ∃ t, described parse env body = some t ∧ t.targetPort = p ∧
          (handleCreateTunnel parse sha256 s env body).2.tunnelCache.get env.clock.steady t.tunnelId = some t
  | .tcpPort cache clock tunnelId existing element, p =>
      trimmed element ≠ [] ∧ addTcpPort cache clock tunnelId existing element =
        some (cache.put clock.steady (tcpTunnelKey tunnelId p) (tcpTunnel clock tunnelId existing) tcpTunnelTtl)
  | .server config address, p =>
      ':' ∈ address ∧ ∃ c, config.setServer address = some c ∧ c.server.port = p ∧ p ≠ 0
  | .serverPort config text, p => ∃ c, config.setServerPort text = some c ∧ c.server.port = p ∧ p ≠ 0
  | .localUrl url, p => ':' ∈ withoutScheme url ∧ ∃ host, tcpTarget url = some (host, p)

/-- Whatever port is stored is one, and is the number that was written. -/
def Exact (input : PortInput) : Prop :=
  ∀ p, Stores parse sha256 input p → input.Written p ∧ 1 ≤ p ∧ p ≤ 65535

/-- Whatever integer is at the front of the text is a port, and the text is that alone; unless the
16 bits that are kept of it are refused. -/
def ReadsWell (text number : Str) (zeroRefused : Prop) : Prop :=
  ∀ n, IntegerText text n → FitsInt n → ¬ (zeroRefused ∧ 65536 ∣ n) →
    IsNumeral number ∧ 1 ≤ n ∧ n ≤ 65535

/-- Nothing that is given is mistaken for a port. -/
def Unmistakable : PortInput → Prop
  | .targetPort s env body n => Asks parse body n → Api.Accepted parse s env body → 1 ≤ n ∧ n ≤ 65535
  | .tcpPort _ _ _ _ element => ReadsWell (trimmed element) (trimmed element) False
  | .server _ address => ':' ∈ address → ReadsWell (afterColon address) (afterColon address) True
  | .serverPort _ text => ReadsWell text text True
  | .localUrl url =>
      ':' ∈ withoutScheme url → ReadsWell (portStr (withoutScheme url)) (urlPort url) False

end

end PortInput

/-! ## A text -/

/-- The 16 bits kept of the number at the front of a text are those of the number that the text
begins with, if they are used at all, exactly if the text reads well. -/
theorem portOf_iff {text number rest : Str} (hcut : text = number ++ rest)
    (hrest : ∀ c ∈ rest.head?, c.isDigit = false) (zeroRefused : Prop) :
    (∀ p, portOf text = some p → ¬ (zeroRefused ∧ p = 0) → IsDecimal number p ∧ 1 ≤ p ∧ p ≤ 65535) ↔
      PortInput.ReadsWell text number zeroRefused := by
  have hzero : ∀ n, toUint16 n = 0 ↔ 65536 ∣ n := by
    intro n
    rw [toUint16]
    omega
  constructor
  · intro h n htext hfits hused
    have hstoi : stoi text = some n := stoi_eq_some_iff.mpr ⟨htext, hfits⟩
    have hport : portOf text = some (toUint16 n) := by rw [portOf, hstoi, Option.map_some]
    obtain ⟨⟨hnumeral, hvalue⟩, hlow, hhigh⟩ := h _ hport (by rwa [hzero])
    have hread : stoi text = some (digitsValue number : ℤ) := by
      rw [hcut, hnumeral.stoi_append_eq_some_iff hrest]
      exact ⟨rfl, by omega⟩
    rw [hstoi] at hread
    have hn := Option.some.inj hread
    exact ⟨hnumeral, by omega, by omega⟩
  · intro h p hp hused
    obtain ⟨n, hstoi, rfl⟩ := Option.map_eq_some_iff.mp hp
    obtain ⟨htext, hfits⟩ := stoi_eq_some_iff.mp hstoi
    obtain ⟨hnumeral, hlow, hhigh⟩ := h n htext hfits (by rwa [← hzero])
    rw [hcut, hnumeral.stoi_append_eq_some_iff hrest] at hstoi
    have hn : toUint16 n = n := by
      rw [toUint16]
      omega
    exact ⟨⟨hnumeral, by omega⟩, by omega, by omega⟩

/-- A text that is not cut. -/
theorem portOf_whole_iff (text : Str) (zeroRefused : Prop) :
    (∀ p, portOf text = some p → ¬ (zeroRefused ∧ p = 0) → IsDecimal text p ∧ 1 ≤ p ∧ p ≤ 65535) ↔
      PortInput.ReadsWell text text zeroRefused :=
  portOf_iff (List.append_nil text).symm (by simp) zeroRefused

/-! ## The places -/

section
variable {parse : Str → Option Json} {sha256 : Str → Digest}

theorem decimal_injective {p q : ℕ} (h : decimal p = decimal q) : p = q := by
  rw [← digitsValue_decimal p, h, digitsValue_decimal q]

section
variable {cache : Cache Str Tunnel} {clock : Clock} {tunnelId : Str} {existing : Tunnel} {element : Str}

theorem addTcpPort_of_eq_nil (hblank : trimmed element = []) :
    addTcpPort cache clock tunnelId existing element = some cache := by
  simp only [addTcpPort, List.isEmpty_iff]
  exact if_pos hblank

/-- An element that is not blank is put under the port at its front. -/
theorem addTcpPort_of_ne_nil (hblank : trimmed element ≠ []) :
    addTcpPort cache clock tunnelId existing element =
      (portOf (trimmed element)).map fun p =>
        cache.put clock.steady (tcpTunnelKey tunnelId p) (tcpTunnel clock tunnelId existing) tcpTunnelTtl := by
  rw [portOf, Option.map_map]
  simp only [addTcpPort, List.isEmpty_iff]
  exact if_neg hblank

/-- It is put under no other port. -/
theorem addTcpPort_eq_some_iff (hblank : trimmed element ≠ []) {p : ℕ} :
    addTcpPort cache clock tunnelId existing element =
        some (cache.put clock.steady (tcpTunnelKey tunnelId p) (tcpTunnel clock tunnelId existing) tcpTunnelTtl) ↔
      portOf (trimmed element) = some p := by
  rw [addTcpPort_of_ne_nil hblank, Option.map_eq_some_iff]
  constructor
  · rintro ⟨q, hq, hput⟩
    have hentries := congrArg (fun c : Cache Str Tunnel => c.entries.entries.head?) hput
    simp only [Cache.put, AList.entries_insert, List.head?_cons, Option.some.injEq, Sigma.mk.injEq] at hentries
    have hkey := hentries.1
    simp only [tcpTunnelKey, List.append_cancel_left_eq] at hkey
    rw [hq, decimal_injective hkey]
  · exact fun hp => ⟨p, hp, rfl⟩

end

/-- The port of a tunnel whose body asks for an integer. -/
theorem targetPort_of_tunnelOfBody {env : Surroundings} {json : Json} {t : Tunnel}
    (h : tunnelOfBody env json = .ok t) {n : ℤ} (hn : json.field "target_port".toList = some (.number n)) :
    t.targetPort = toUint16 n := by
  obtain ⟨_, _, _, k, hk, hport⟩ := fields_of_tunnelOfBody h
  have hvalue : json.value Json.getInt "target_port".toList 0 = some n := by
    cases json with
    | object fields =>
        simp only [Json.field] at hn
        simp only [Json.value, hn, Json.getInt]
    | _ => cases hn
  rw [hk] at hvalue
  rw [hport, Option.some.inj hvalue, toUint16]

theorem exact_targetPort_iff (s : Handler) (env : Surroundings) (body : Str) (n : ℤ) :
    PortInput.Exact parse sha256 (.targetPort s env body n) ↔
      PortInput.Unmistakable parse (.targetPort s env body n) := by
  constructor
  · intro h hasks haccepted
    obtain ⟨t, ht, hvalid, hfree⟩ := haccepted
    have hcreated : (handleCreateTunnel parse sha256 s env body).1.statusCode = 201 :=
      status_eq_201_iff.mpr ⟨t, ht, hvalid, hfree⟩
    have hstored : (handleCreateTunnel parse sha256 s env body).2.tunnelCache.get env.clock.steady
        t.tunnelId = some t := get_of_accepted ht hvalid hfree
    obtain ⟨hn, hlow, hhigh⟩ := h t.targetPort ⟨hasks, hcreated, t, ht, rfl, hstored⟩
    have hn : n = t.targetPort := hn
    omega
  · rintro h p ⟨hasks, hcreated, t, ht, rfl, _⟩
    obtain ⟨hlow, hhigh⟩ := h hasks (status_eq_201_iff.mp hcreated)
    obtain ⟨json, hparse, hbody⟩ := described_eq_some_iff.mp ht
    obtain ⟨json', hparse', hn⟩ := hasks
    rw [hparse] at hparse'
    cases hparse'
    have hport := targetPort_of_tunnelOfBody hbody hn
    have hsame : (t.targetPort : ℤ) = n := by
      rw [hport, toUint16]
      omega
    exact ⟨hsame.symm, by omega, by omega⟩

theorem exact_tcpPort_iff (cache : Cache Str Tunnel) (clock : Clock) (tunnelId : Str) (existing : Tunnel)
    (element : Str) :
    PortInput.Exact parse sha256 (.tcpPort cache clock tunnelId existing element) ↔
      PortInput.Unmistakable parse (.tcpPort cache clock tunnelId existing element) := by
  rw [PortInput.Unmistakable, ← portOf_whole_iff, PortInput.Exact]
  refine forall_congr' fun p => ?_
  by_cases hblank : trimmed element = []
  · simp [PortInput.Stores, hblank, portOf, stoi]
  · rw [PortInput.Stores, addTcpPort_eq_some_iff hblank]
    simp only [ne_eq, hblank, not_false_eq_true, true_and, false_and, forall_const]
    rfl

theorem exact_serverPort_iff (config : AgentConfig) (text : Str) :
    PortInput.Exact parse sha256 (.serverPort config text) ↔
      PortInput.Unmistakable parse (.serverPort config text) := by
  rw [PortInput.Unmistakable, ← portOf_whole_iff, PortInput.Exact]
  refine forall_congr' fun p => ?_
  have hstores : PortInput.Stores parse sha256 (.serverPort config text) p ↔ portOf text = some p ∧ p ≠ 0 := by
    simp only [PortInput.Stores, AgentConfig.setServerPort, Option.map_eq_some_iff]
    constructor
    · rintro ⟨c, ⟨q, hq, rfl⟩, rfl, hne⟩
      exact ⟨hq, hne⟩
    · rintro ⟨hp, hne⟩
      exact ⟨_, ⟨p, hp, rfl⟩, rfl, hne⟩
  rw [hstores, and_imp, true_and]
  rfl

theorem exact_server_iff (config : AgentConfig) (address : Str) :
    PortInput.Exact parse sha256 (.server config address) ↔
      PortInput.Unmistakable parse (.server config address) := by
  rw [PortInput.Unmistakable, ← portOf_whole_iff, PortInput.Exact]
  by_cases hcolon : ':' ∈ address
  · rw [forall_prop_of_true hcolon]
    refine forall_congr' fun p => ?_
    have hstores : PortInput.Stores parse sha256 (.server config address) p ↔
        portOf (afterColon address) = some p ∧ p ≠ 0 := by
      simp only [PortInput.Stores, AgentConfig.setServer, if_pos hcolon, Option.map_eq_some_iff]
      constructor
      · rintro ⟨_, c, ⟨q, hq, rfl⟩, rfl, hne⟩
        exact ⟨hq, hne⟩
      · rintro ⟨hp, hne⟩
        exact ⟨hcolon, _, ⟨p, hp, rfl⟩, rfl, hne⟩
    rw [hstores, and_imp, true_and]
    rfl
  · exact iff_of_true (fun p hp => absurd hp.1 hcolon) (fun h => absurd h hcolon)

/-- The port of a URL does not go on with a digit. -/
theorem exists_rest_urlPort (url : Str) :
    ∃ rest, portStr (withoutScheme url) = urlPort url ++ rest ∧ ∀ c ∈ rest.head?, c.isDigit = false := by
  refine ⟨(portStr (withoutScheme url)).dropWhile fun c => c ≠ '?' && c ≠ '#',
    List.takeWhile_append_dropWhile.symm, fun c hc => ?_⟩
  have hhead := List.head?_dropWhile_not (fun c => c ≠ '?' && c ≠ '#') (portStr (withoutScheme url))
  rw [Option.mem_def.mp hc] at hhead
  have hend : c = '?' ∨ c = '#' := by
    by_contra hne
    simp only [not_or] at hne
    simp [hne] at hhead
  rcases hend with rfl | rfl
  · rfl
  · rfl

theorem exact_localUrl_iff (url : Str) :
    PortInput.Exact parse sha256 (.localUrl url) ↔ PortInput.Unmistakable parse (.localUrl url) := by
  obtain ⟨rest, hcut, hrest⟩ := exists_rest_urlPort url
  rw [PortInput.Unmistakable, ← portOf_iff hcut hrest, PortInput.Exact]
  by_cases hcolon : ':' ∈ withoutScheme url
  · rw [forall_prop_of_true hcolon]
    refine forall_congr' fun p => ?_
    have hstores : PortInput.Stores parse sha256 (.localUrl url) p ↔
        portOf (portStr (withoutScheme url)) = some p := by
      simp only [PortInput.Stores, tcpTarget, if_pos hcolon, Option.map_eq_some_iff, Prod.mk.injEq]
      constructor
      · rintro ⟨_, host, q, hq, _, rfl⟩
        exact hq
      · exact fun hp => ⟨hcolon, _, p, hp, rfl, rfl⟩
    rw [hstores, false_and, not_false_eq_true, true_imp_iff]
    rfl
  · exact iff_of_true (fun p hp => absurd hp.1 hcolon) (fun h => absurd h hcolon)

end

/-- **When no number is mistaken for a port**, in any of the five places. -/
theorem exact_iff (parse : Str → Option Json) (sha256 : Str → Digest) (input : PortInput) :
    input.Exact parse sha256 ↔ input.Unmistakable parse := by
  cases input with
  | targetPort s env body n => exact exact_targetPort_iff s env body n
  | tcpPort cache clock tunnelId existing element =>
      exact exact_tcpPort_iff cache clock tunnelId existing element
  | server config address => exact exact_server_iff config address
  | serverPort config text => exact exact_serverPort_iff config text
  | localUrl url => exact exact_localUrl_iff url

/-- The port 65617 of a server is taken for 81. -/
theorem not_exact_serverPort :
    PortInput.Stores (fun _ => none) (fun _ => zeroDigest) (.serverPort .defaults "65617".toList) 81 ∧
      ¬ ∀ (parse : Str → Option Json) (sha256 : Str → Digest) (input : PortInput),
        input.Exact parse sha256 := by
  have hstores : PortInput.Stores (fun _ => none) (fun _ => zeroDigest)
      (.serverPort .defaults "65617".toList) 81 :=
    ⟨_, rfl, by decide, by decide⟩
  refine ⟨hstores, fun h => ?_⟩
  obtain ⟨hwritten, _⟩ := h (fun _ => none) (fun _ => zeroDigest) _ 81 hstores
  have hvalue : digitsValue "65617".toList = 81 := hwritten.2
  revert hvalue
  decide

end Protogate.Server
