import Protogate.Api.TunnelsHandler
import Protogate.Security.AllowlistPrinting
import Protogate.Storage.TunnelRegistry

/-!
# Tunnels that can be used

Three checks look at a tunnel.  `handle_create_tunnel` checks an id by its characters, and
neither its length nor the entries of the allowlist; it leaves the rate limit as it was in
memory.  `Tunnel::validate` asks for an id of 3 to 63 lower-case characters, a bound on the rate
limit, and a slash in each entry; `TunnelRegistry` takes no tunnel without it.  And
`from_cidr_list` has to parse every entry, or the allowlist keeps everybody out.

## Main definitions

* `Usable` — a tunnel that passes the other two checks.
* `CreatesUsable` — a tunnel that was created is usable.
* `Accepted`, `MeetsModel` — what a body has to say for it to be created, and to be usable.
* `createsUsable_iff`, `exists_allowed` — when this is so, and what it is good for.
-/

namespace Protogate.Api

open Protogate.Lib Protogate.Models Protogate.Security Protogate.Storage

/-- The tunnel passes `validate`, and its allowlist is accepted. -/
def Usable (pton : InetPton) (t : Tunnel) : Prop :=
  t.validate = none ∧ (fromCidrList pton t.ipAllowlist).isSome

/-- The tunnel that a request body describes. -/
def described (parse : Str → Option Json) (env : Surroundings) (body : Str) : Option Tunnel :=
  (parse body).bind fun json => (tunnelOfBody env json).toOption

/-- If the answer is 201, the tunnel of the body is stored under its id and is usable. -/
def CreatesUsable (parse : Str → Option Json) (sha256 : Str → Digest) (pton : InetPton) (s : Handler)
    (env : Surroundings) (body : Str) : Prop :=
  (handleCreateTunnel parse sha256 s env body).1.statusCode = 201 →
    ∃ t, described parse env body = some t ∧
      (handleCreateTunnel parse sha256 s env body).2.tunnelCache.get env.clock.steady t.tunnelId = some t ∧
        Usable pton t

/-- The body describes a tunnel that the API accepts, under an id that is not in use. -/
def Accepted (parse : Str → Option Json) (s : Handler) (env : Surroundings) (body : Str) : Prop :=
  ∃ t, described parse env body = some t ∧ validateTunnelConfig t = none ∧
    s.tunnelCache.get env.clock.steady t.tunnelId = none

/-- The id is one of the model's, the field that no handler sets is within its bound, and each
entry of the allowlist has a slash and parses. -/
structure MeetsModel (pton : InetPton) (env : Surroundings) (json : Json) : Prop where
  id_valid : ∀ id, json.value Json.getString "tunnel_id".toList [] = some id → isValidTunnelId id = true
  rate_limit : env.rateLimitRpm ≤ 1000000
  entries : ∀ allowlist, ipAllowlistOf json = some allowlist →
    ∀ entry ∈ allowlist, '/' ∈ entry ∧ Parses pton entry

/-! ## Reading a body -/

theorem ok_of_bind {α β : Type} {a : Except Failure α} {f : α → Except Failure β} {b : β}
    (h : (a >>= f) = .ok b) : ∃ x, a = .ok x ∧ f x = .ok b := by
  cases a with
  | error e => cases h
  | ok x => exact ⟨x, rfl, h⟩

theorem eq_some_of_orThrow {α : Type} {o : Option α} {a : α} (h : orThrow o = .ok a) : o = some a := by
  cases o with
  | none => cases h
  | some x => exact congrArg some (Except.ok.inj h)

/-- A tunnel that is described by a body, field by field. -/
theorem tunnelOfBody_eq_ok {env : Surroundings} {json : Json} {t : Tunnel}
    (h : tunnelOfBody env json = .ok t) : ∃ n protocolStr,
      json.value Json.getString "tunnel_id".toList [] = some t.tunnelId ∧
      json.value Json.getString "target_host".toList [] = some t.targetHost ∧
      json.value Json.getInt "target_port".toList 0 = some n ∧
      json.value Json.getString "protocol".toList "HTTP".toList = some protocolStr ∧
      parseProtocol protocolStr = .ok t.protocol ∧ ipAllowlistOf json = some t.ipAllowlist ∧
      t.targetPort = (n % 65536).toNat ∧ t.rateLimitRpm = env.rateLimitRpm := by
  simp only [tunnelOfBody] at h
  obtain ⟨tunnelId, hid, h⟩ := ok_of_bind h
  obtain ⟨targetHost, hhost, h⟩ := ok_of_bind h
  obtain ⟨targetPort, hport, h⟩ := ok_of_bind h
  obtain ⟨protocolStr, hprotocolStr, h⟩ := ok_of_bind h
  obtain ⟨protocol, hprotocol, h⟩ := ok_of_bind h
  obtain ⟨ipAllowlist, hallowlist, h⟩ := ok_of_bind h
  cases h
  exact ⟨targetPort, protocolStr, eq_some_of_orThrow hid, eq_some_of_orThrow hhost,
    eq_some_of_orThrow hport, eq_some_of_orThrow hprotocolStr, hprotocol, eq_some_of_orThrow hallowlist,
    rfl, rfl⟩

/-- The fields of a tunnel that are taken from the body. -/
theorem fields_of_tunnelOfBody {env : Surroundings} {json : Json} {t : Tunnel}
    (h : tunnelOfBody env json = .ok t) :
    json.value Json.getString "tunnel_id".toList [] = some t.tunnelId ∧
      ipAllowlistOf json = some t.ipAllowlist ∧ t.rateLimitRpm = env.rateLimitRpm ∧
      ∃ n, json.value Json.getInt "target_port".toList 0 = some n ∧ t.targetPort = (n % 65536).toNat := by
  obtain ⟨n, _, hid, _, hport, _, _, hallowlist, htargetPort, hrate⟩ := tunnelOfBody_eq_ok h
  exact ⟨hid, hallowlist, hrate, n, hport, htargetPort⟩

theorem described_eq_some_iff {parse : Str → Option Json} {env : Surroundings} {body : Str} {t : Tunnel} :
    described parse env body = some t ↔
      ∃ json, parse body = some json ∧ tunnelOfBody env json = .ok t := by
  rw [described, Option.bind_eq_some_iff]
  refine exists_congr fun json => and_congr_right fun _ => ?_
  cases tunnelOfBody env json with
  | error e => simp [Except.toOption]
  | ok t => simp [Except.toOption]

/-! ## The checks compared -/

theorem error_eq_none_iff {c : Prop} [Decidable c] {error : Str} {rest : Option Str} :
    (if c then some error else rest) = none ↔ ¬ c ∧ rest = none := by
  by_cases hc : c
  · simp only [hc, if_true, reduceCtorEq, not_true_eq_false, false_and]
  · rw [if_neg hc]
    exact (and_iff_right hc).symm

/-- What the API asks for. -/
theorem validateTunnelConfig_eq_none_iff {t : Tunnel} : validateTunnelConfig t = none ↔
    t.tunnelId ≠ [] ∧ t.targetHost ≠ [] ∧ t.targetPort ≠ 0 ∧ t.tunnelId.any (! isTunnelIdChar ·) = false := by
  rw [validateTunnelConfig, error_eq_none_iff, error_eq_none_iff, error_eq_none_iff, error_eq_none_iff,
    List.isEmpty_iff, List.isEmpty_iff, Bool.not_eq_true]
  exact and_congr_right fun _ => and_congr_right fun _ => and_congr_right fun _ => and_iff_left rfl

/-- What the model asks for. -/
theorem validate_eq_none_iff {t : Tunnel} : t.validate = none ↔
    isValidTunnelId t.tunnelId = true ∧ t.targetHost ≠ [] ∧ t.targetPort ≠ 0 ∧
      t.rateLimitRpm ≤ 1000000 ∧ ∀ entry ∈ t.ipAllowlist, '/' ∈ entry := by
  have hentry : ∀ entry : Str, ¬ (entry.isEmpty || !entry.contains '/') = true ↔ '/' ∈ entry := by
    intro entry
    by_cases hslash : '/' ∈ entry
    · simp [hslash, List.ne_nil_of_mem hslash]
    · simp [hslash]
  rw [Tunnel.validate, error_eq_none_iff, error_eq_none_iff, error_eq_none_iff, error_eq_none_iff,
    List.isEmpty_iff, Option.map_eq_none_iff, List.find?_eq_none, Nat.not_lt]
  simp only [hentry, Bool.not_eq_true', Bool.not_eq_false, ne_eq]

/-- A created tunnel is usable if the body meets the model, and only then. -/
theorem usable_iff {pton : InetPton} {env : Surroundings} {json : Json} {t : Tunnel}
    (hbody : tunnelOfBody env json = .ok t) (hvalid : validateTunnelConfig t = none) :
    Usable pton t ↔ MeetsModel pton env json := by
  obtain ⟨hid, hallowlist, hrate, _⟩ := fields_of_tunnelOfBody hbody
  obtain ⟨_, hhost, hport, _⟩ := validateTunnelConfig_eq_none_iff.mp hvalid
  have haccepted : (fromCidrList pton t.ipAllowlist).isSome ↔ ∀ entry ∈ t.ipAllowlist, Parses pton entry := by
    constructor
    · intro h
      obtain ⟨ranges, hranges⟩ := Option.isSome_iff_exists.mp h
      exact parses_of_fromCidrList hranges
    · intro hparses
      by_contra hnone
      obtain ⟨entry, hentry, hbad⟩ := exists_of_fromCidrList_eq_none (Option.not_isSome_iff_eq_none.mp hnone)
      exact hbad (hparses entry hentry)
  rw [Usable, validate_eq_none_iff, haccepted, hrate]
  constructor
  · rintro ⟨⟨hidValid, _, _, hbound, hslash⟩, hparses⟩
    refine ⟨?_, hbound, ?_⟩
    · intro id hid'
      rw [hid] at hid'
      exact Option.some.inj hid' ▸ hidValid
    · intro allowlist hallowlist' entry hentry
      rw [hallowlist] at hallowlist'
      cases hallowlist'
      exact ⟨hslash entry hentry, hparses entry hentry⟩
  · intro h
    have hentries := h.entries _ hallowlist
    exact ⟨⟨h.id_valid _ hid, hhost, hport, h.rate_limit, fun entry hentry => (hentries entry hentry).1⟩,
      fun entry hentry => (hentries entry hentry).2⟩

/-! ## Creating -/

section
variable {parse : Str → Option Json} {sha256 : Str → Digest} {pton : InetPton} {s : Handler}
  {env : Surroundings} {body : Str}

/-- The answer is 201 for what the API accepts; the tunnel is then in the cache. -/
theorem status_eq_201_iff :
    (handleCreateTunnel parse sha256 s env body).1.statusCode = 201 ↔ Accepted parse s env body := by
  simp only [Accepted, described_eq_some_iff]
  cases hparse : parse body with
  | none => simp [handleCreateTunnel, hparse, HttpResponse.setError]
  | some json =>
      cases hbody : tunnelOfBody env json with
      | error e =>
          have hcode := code_of_tunnelOfBody hbody
          simp only [handleCreateTunnel, hparse, hbody, HttpResponse.setError, Option.some.injEq,
            exists_eq_left', reduceCtorEq, false_and, exists_false, iff_false]
          omega
      | ok t =>
          simp only [handleCreateTunnel, hparse, hbody, createTunnel, Option.some.injEq, exists_eq_left',
            Except.ok.injEq]
          cases hvalid : validateTunnelConfig t with
          | some error => simp [HttpResponse.setError]
          | none =>
              cases hget : s.tunnelCache.get env.clock.steady t.tunnelId with
              | some old => simp [HttpResponse.setError]
              | none => simp [createdResponse]

theorem get_of_accepted {t : Tunnel} (hdescribed : described parse env body = some t)
    (hvalid : validateTunnelConfig t = none)
    (hfree : s.tunnelCache.get env.clock.steady t.tunnelId = none) :
    (handleCreateTunnel parse sha256 s env body).2.tunnelCache.get env.clock.steady t.tunnelId = some t := by
  obtain ⟨json, hparse, hbody⟩ := described_eq_some_iff.mp hdescribed
  simp only [handleCreateTunnel, hparse, hbody, createTunnel, hvalid, hfree, Option.isSome_none,
    Bool.false_eq_true, if_false, Cache.get_put seconds_yearTtl_pos, if_true]

end

/-- **When a created tunnel is usable**: where the API accepts a body, the id has to be one of the
model's, the rate limit that was in memory within its bound, and each entry of the allowlist has to
have a slash and parse. -/
theorem createsUsable_iff (parse : Str → Option Json) (sha256 : Str → Digest) (pton : InetPton)
    (s : Handler) (env : Surroundings) (body : Str) :
    CreatesUsable parse sha256 pton s env body ↔
      (Accepted parse s env body → ∀ json, parse body = some json → MeetsModel pton env json) := by
  rw [CreatesUsable, status_eq_201_iff]
  refine forall_congr' fun haccepted => ?_
  obtain ⟨t, ht, hvalid, hfree⟩ := haccepted
  obtain ⟨json, hparse, hbody⟩ := described_eq_some_iff.mp ht
  constructor
  · rintro ⟨t', ht', _, husable⟩ json' hparse'
    rw [ht] at ht'
    rw [hparse] at hparse'
    cases ht'
    cases hparse'
    exact (usable_iff hbody hvalid).mp husable
  · intro hmeets
    exact ⟨t, ht, get_of_accepted ht hvalid hfree, (usable_iff hbody hvalid).mpr (hmeets json hparse)⟩

/-! ## What a usable tunnel is good for -/

/-- It can be registered. -/
theorem registerTunnel_of_usable {pton : InetPton} {t : Tunnel} (h : Usable pton t)
    (r : Registry.TunnelRegistry) (now : ℤ) : r.registerTunnel now t = .ok (r.put now t) := by
  rw [Registry.TunnelRegistry.registerTunnel, h.1]

/-- Its allowlist lets somebody in. -/
theorem exists_allowed {pton : InetPton} {ntop : InetNtop} (H : ReadsBack pton ntop) {t : Tunnel}
    (h : Usable pton t) : ∃ ip, allows pton t.ipAllowlist ip = true := by
  obtain ⟨ranges, hranges⟩ := Option.isSome_iff_exists.mp h.2
  obtain ⟨ip, hip⟩ := exists_isAllowed H hranges
  exact ⟨ip, by rw [allows, hranges, Option.any_some, hip]⟩

/-! ## A tunnel that cannot be used -/

def unusableBody : Str :=
  "\x7b\"tunnel_id\":\"API\",\"target_host\":\"localhost\",\"target_port\":80,\"ip_allowlist\":[\"any\"]\x7d".toList

/-- The parser on `unusableBody`. -/
def unusableParse (text : Str) : Option Json :=
  if text = unusableBody then
    some (.object [("tunnel_id".toList, .str "API".toList), ("target_host".toList, .str "localhost".toList),
      ("target_port".toList, .number 80), ("ip_allowlist".toList, .array [.str "any".toList])])
  else none

def zeroDigest : Digest := ⟨List.replicate 32 0, rfl⟩

/-- A tunnel with an id in upper case and an allowlist that does not parse is created; nobody gets
through. -/
theorem not_createsUsable :
    (handleCreateTunnel unusableParse (fun _ => zeroDigest)
        ⟨Cache.empty, Cache.empty, ∅⟩ ⟨⟨0, 0⟩, #v[1, 2, 3, 4], 0⟩ unusableBody).1.statusCode = 201 ∧
      (∀ ip, allows fullPton ["any".toList] ip = false) ∧
      ¬ ∀ (parse : Str → Option Json) (sha256 : Str → Digest) (pton : InetPton) (s : Handler)
        (env : Surroundings) (body : Str), CreatesUsable parse sha256 pton s env body := by
  have h201 : (handleCreateTunnel unusableParse (fun _ => zeroDigest)
      ⟨Cache.empty, Cache.empty, ∅⟩ ⟨⟨0, 0⟩, #v[1, 2, 3, 4], 0⟩ unusableBody).1.statusCode = 201 := by
    decide
  have hparse : fromCidrList fullPton ["any".toList] = none := by decide +kernel
  refine ⟨h201, fun ip => ?_, fun H => ?_⟩
  · rw [allows, hparse]
    rfl
  · obtain ⟨t, ht, _, husable⟩ := H unusableParse (fun _ => zeroDigest) fullPton
      ⟨Cache.empty, Cache.empty, ∅⟩ ⟨⟨0, 0⟩, #v[1, 2, 3, 4], 0⟩ unusableBody h201
    obtain ⟨json, hjson, hbody⟩ := described_eq_some_iff.mp ht
    have hallowlist : t.ipAllowlist = ["any".toList] := by
      obtain ⟨_, hallowlist, _⟩ := fields_of_tunnelOfBody hbody
      have hbody : unusableParse unusableBody = some json := hjson
      rw [unusableParse, if_pos rfl] at hbody
      cases hbody
      exact (Option.some.inj hallowlist).symm
    have haccepted := husable.2
    rw [hallowlist, hparse] at haccepted
    cases haccepted

end Protogate.Api
