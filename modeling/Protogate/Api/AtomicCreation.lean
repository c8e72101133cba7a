import Protogate.Api.UsableTunnels

/-!
# Creating a tunnel is atomic

`handle_create_tunnel` makes all its checks before it stores anything.  Then it stores the token,
backs it up in Key Vault, stores the tunnel and writes the answer, for which the text of the tunnel
is parsed again.  A failure of Key Vault is caught, and the answer can be written because the
strings of the tunnel come from a text that has been parsed.

The clocks may move between the operations.  What Key Vault does is a parameter.

## Main definitions

* `handleCreateTunnelBackedUp` — the handler with its Key Vault call.
* `handleCreateTunnelBackedUp_eq` — with one reading of the clocks it is `handleCreateTunnel`.
* `CreatedFrom` — exactly the entries of the new tunnel were added.
* `creation_atomic` — this, or nothing.
-/

namespace Protogate.Api

open Protogate.Lib Protogate.Models Protogate.Security Protogate.Storage

/-- How a call of `set_secret` ends. -/
inductive SecretResult
  | returned (stored : Bool)
  | threw
  deriving DecidableEq, Repr

/-- What the handler reads when it looks the id up, stores the token and stores the tunnel. -/
structure CreationReadings where
  check : Surroundings
  token : Surroundings
  tunnel : Surroundings

/-- The handlers and Key Vault. -/
structure BackedUp (V : Type) where
  handler : Handler
  vault : V

/-- The fields that are added to the tunnel for the answer. -/
def withToken (json : Json) (token : Str) (a : AuthToken) : Json :=
  (json.set "token".toList (.str token)).set "token_expires_at".toList (.number (epochSeconds a.expiresAt))

section
variable (parse : Str → Option Json) (dump : Json → Option Str) (sha256 : Str → Digest)

/-- `json::parse`, in a handler. -/
def parseOrThrow (text : Str) : Except Failure Json :=
  match parse text with
  | none => .error ⟨400, "Invalid JSON in request body".toList⟩
  | some json => .ok json

/-- Up to and including the lookup of the id. -/
def acceptTunnel (s : Handler) (env : Surroundings) (body : Str) : Except Failure Tunnel := do
  let json ← parseOrThrow parse body
  let tunnel ← tunnelOfBody env json
  match validateTunnelConfig tunnel with
  | some error => .error ⟨400, error⟩
  | none =>
      if (s.tunnelCache.get env.clock.steady tunnel.tunnelId).isSome then
        .error ⟨409, "Tunnel with this ID already exists".toList⟩
      else return tunnel

/-- Build the response; `dump` throws for a string that is not UTF-8. -/
def buildResponse (tunnel : Tunnel) (token : Str) (authToken : AuthToken) :
    Except Failure HttpResponse := do
  let text ← orThrow (dump (tunnelToJson tunnel))
  let json ← parseOrThrow parse text
  let responseJson := withToken json token authToken
  let _ ← orThrow (dump responseJson)
  return ⟨201, some responseJson⟩

variable {V : Type} (setSecret : V → Str → Str → SecretResult × V)

/-- Key Vault storage is an optional backup: what is thrown is caught. -/
def storeSecret (v : V) (tunnelId token : Str) : V :=
  match setSecret v ("tunnel-token-".toList ++ tunnelId) token with
  | (.returned _, v) => v
  | (.threw, v) => v

/-- `handle_create_tunnel` with its call of Key Vault. -/
def handleCreateTunnelBackedUp (s : BackedUp V) (r : CreationReadings) (body : Str) :
    HttpResponse × BackedUp V :=
  match acceptTunnel parse s.handler r.check body with
  | .error e => (.setError e, s)
  | .ok tunnel =>
      let token := generateToken r.token.random
      let authToken := issueToken sha256 r.token.clock tunnel.tunnelId token
      let tokenCache :=
        s.handler.tokenCache.put r.token.clock.steady tunnel.tunnelId authToken yearTtl
      let vault := storeSecret setSecret s.vault tunnel.tunnelId token
      let tunnelCache := s.handler.tunnelCache.put r.tunnel.clock.steady tunnel.tunnelId tunnel yearTtl
      let s := ⟨{ s.handler with tunnelCache, tokenCache }, vault⟩
      match buildResponse parse dump tunnel token authToken with
      | .error e => (.setError e, s)
      | .ok response => (response, s)

end

/-! ## What is stored -/

/-- The JSON library on the tunnel: its text parses to an object with the same fields, and the answer
made of that can be written. -/
def WritesBack (parse : Str → Option Json) (dump : Json → Option Str) (t : Tunnel) : Prop :=
  ∃ text json, dump (tunnelToJson t) = some text ∧ parse text = some json ∧
    (∀ key, json.field key = (tunnelToJson t).field key) ∧
      ∀ random a, (dump (withToken json (generateToken random) a)).isSome

/-- The same answer, up to the order of the fields. -/
structure SameAnswer (response response' : HttpResponse) : Prop where
  statusCode : response.statusCode = response'.statusCode
  fields : ∀ key, response.body.bind (·.field key) = response'.body.bind (·.field key)

/-- The tunnel is for the host, the protocol and the allowlist of the body, in its order; a protocol
that is not there is HTTP, and an allowlist that is not an array is empty. -/
structure Requests (json : Json) (t : Tunnel) : Prop where
  id : json.field "tunnel_id".toList = some (.str t.tunnelId)
  host : json.field "target_host".toList = some (.str t.targetHost)
  protocol : (t.protocol = .tcp ∧ json.field "protocol".toList = some (.str "TCP".toList)) ∨
    (t.protocol = .http ∧ (json.field "protocol".toList = some (.str "HTTP".toList) ∨
      json.field "protocol".toList = none))
  allowlist : json.field "ip_allowlist".toList = some (.array (t.ipAllowlist.map .str)) ∨
    ((∀ elements, json.field "ip_allowlist".toList ≠ some (.array elements)) ∧ t.ipAllowlist = [])

/-- Exactly the entries under a new id were added: a tunnel as it was requested, and a token with the
hash of the one in the answer. -/
structure CreatedFrom (sha256 : Str → Digest) (json : Json) (now : ℤ) (response : HttpResponse)
    (s s' : Handler) (id : Str) : Prop where
  new : s.tunnelCache.get now id = none
  answered : response.tunnelId = some id
  tunnel : ∃ e, s'.tunnelCache.entries.lookup id = some e ∧ e.value.tunnelId = id ∧ Requests json e.value
  token : ∃ token e, response.token = some token ∧ s'.tokenCache.entries.lookup id = some e ∧
    e.value.tunnelId = id ∧ e.value.tokenHash = computeTokenHash sha256 token
  otherTunnels : ∀ k ≠ id, s'.tunnelCache.entries.lookup k = s.tunnelCache.entries.lookup k
  otherTokens : ∀ k ≠ id, s'.tokenCache.entries.lookup k = s.tokenCache.entries.lookup k
  agents : s'.agents = s.agents

/-- The names of the protocols. -/
theorem parseProtocol_eq_ok {name : Str} {p : TunnelProtocol} (h : parseProtocol name = .ok p) :
    (name = "HTTP".toList ∧ p = .http) ∨ (name = "TCP".toList ∧ p = .tcp) := by
  rw [parseProtocol] at h
  split at h
  · left
    exact ⟨‹_›, (Except.ok.inj h).symm⟩
  · split at h
    · right
      exact ⟨‹_›, (Except.ok.inj h).symm⟩
    · cases h

/-- A string that is not the default is a field. -/
theorem field_of_getString {json : Json} {key default text : Str}
    (h : json.value Json.getString key default = some text) (hne : text ≠ default) :
    json.field key = some (.str text) := by
  obtain ⟨_, hdefault⟩ | ⟨v, hfield, hv⟩ := Json.field_of_value h
  · exact absurd hdefault hne
  · rw [hfield, Json.getString_eq_some_iff.mp hv]

/-- What a body describes is what it asks for. -/
theorem requests_of_tunnelOfBody {env : Surroundings} {json : Json} {t : Tunnel}
    (h : tunnelOfBody env json = .ok t) (hvalid : validateTunnelConfig t = none) : Requests json t := by
  obtain ⟨_, protocolStr, hid, hhost, _, hprotocolStr, hprotocol, hallowlist, _⟩ := tunnelOfBody_eq_ok h
  obtain ⟨hidNe, hhostNe, _⟩ := validateTunnelConfig_eq_none_iff.mp hvalid
  refine ⟨field_of_getString hid hidNe, field_of_getString hhost hhostNe, ?_, ?_⟩
  · obtain ⟨rfl, hp⟩ | ⟨rfl, hp⟩ := parseProtocol_eq_ok hprotocol
    · right
      obtain ⟨hnone, _⟩ | ⟨v, hfield, hv⟩ := Json.field_of_value hprotocolStr
      · exact ⟨hp, .inr hnone⟩
      · exact ⟨hp, .inl (by rw [hfield, Json.getString_eq_some_iff.mp hv])⟩
    · left
      exact ⟨hp, field_of_getString hprotocolStr (by decide)⟩
  · rw [ipAllowlistOf] at hallowlist
    split at hallowlist
    · rename_i elements hfield
      left
      rw [hfield, Json.getStrings_eq_some_iff.mp hallowlist]
    · rename_i hno
      right
      exact ⟨hno, (Option.some.inj hallowlist).symm⟩

/-! ## The stages -/

section
variable (sha256 : Str → Digest)

/-- The answer with the token that is generated then. -/
def createdAnswer (env : Surroundings) (t : Tunnel) : HttpResponse :=
  createdResponse t (generateToken env.random)
    (issueToken sha256 env.clock t.tunnelId (generateToken env.random))

/-- The handlers once both entries are stored. -/
def Handler.stored (s : Handler) (r : CreationReadings) (t : Tunnel) : Handler :=
  { s with
    tokenCache := s.tokenCache.put r.token.clock.steady t.tunnelId
      (issueToken sha256 r.token.clock t.tunnelId (generateToken r.token.random)) yearTtl
    tunnelCache := s.tunnelCache.put r.tunnel.clock.steady t.tunnelId t yearTtl }

end

section
variable {parse : Str → Option Json} {dump : Json → Option Str} {sha256 : Str → Digest}

/-- What passes all checks. -/
theorem acceptTunnel_eq_ok {s : Handler} {env : Surroundings} {body : Str} {t : Tunnel}
    (h : acceptTunnel parse s env body = .ok t) :
    described parse env body = some t ∧ validateTunnelConfig t = none ∧
      s.tunnelCache.get env.clock.steady t.tunnelId = none := by
  obtain ⟨json, hparse, h⟩ := ok_of_bind h
  obtain ⟨tunnel, hbody, h⟩ := ok_of_bind h
  have hjson : parse body = some json := by
    rw [parseOrThrow] at hparse
    split at hparse
    · cases hparse
    · rename_i json' hjson
      rw [hjson, Except.ok.inj hparse]
  cases hvalid : validateTunnelConfig tunnel with
  | some error =>
      rw [hvalid] at h
      cases h
  | none =>
      simp only [hvalid] at h
      split at h
      · cases h
      · rename_i hfree
        cases h
        exact ⟨described_eq_some_iff.mpr ⟨json, hjson, hbody⟩, hvalid, by simpa using hfree⟩

/-- The answer is written. -/
theorem buildResponse_ok {t : Tunnel} (h : WritesBack parse dump t) (env : Surroundings) :
    ∃ response, buildResponse parse dump t (generateToken env.random)
        (issueToken sha256 env.clock t.tunnelId (generateToken env.random)) = .ok response ∧
      SameAnswer response (createdAnswer sha256 env t) := by
  obtain ⟨text, json, htext, hparse, hfields, hanswer⟩ := h
  generalize ha : issueToken sha256 env.clock t.tunnelId (generateToken env.random) = a
  obtain ⟨answer, hanswer⟩ := Option.isSome_iff_exists.mp (hanswer env.random a)
  refine ⟨⟨201, some (withToken json (generateToken env.random) a)⟩, ?_, rfl, ?_⟩
  · simp only [buildResponse, htext, orThrow, parseOrThrow, hparse, hanswer, bind, Except.bind, pure,
      Except.pure]
  · have hid : ((tunnelToJson t).field "tunnel_id".toList).isSome := rfl
    have hset : ∀ {j : Json}, (j.field "tunnel_id".toList).isSome → ∀ key v,
        ((j.set key v).field "tunnel_id".toList).isSome := by
      intro j hj key v
      rw [Json.field_set hj]
      split
      · rfl
      · exact hj
    have hjson : (json.field "tunnel_id".toList).isSome := by rw [hfields, hid]
    intro key
    simp only [createdAnswer, ha, createdResponse, withToken, Option.bind_some, Json.field_set (hset hjson _ _),
      Json.field_set (hset hid _ _), Json.field_set hjson, Json.field_set hid, hfields]

/-- An error of the checks is no success. -/
theorem code_of_acceptTunnel {s : Handler} {env : Surroundings} {body : Str} {e : Failure}
    (h : acceptTunnel parse s env body = .error e) : e.code ≠ 201 := by
  rw [acceptTunnel, parseOrThrow] at h
  cases hparse : parse body with
  | none =>
      rw [hparse] at h
      cases h
      decide
  | some json =>
      rw [hparse] at h
      cases hbody : tunnelOfBody env json with
      | error e' =>
          have hcode := code_of_tunnelOfBody hbody
          simp only [hbody, bind, Except.bind] at h
          cases h
          omega
      | ok t =>
          simp only [hbody, bind, Except.bind] at h
          split at h
          · cases h
            simp
          · split at h
            · cases h
              simp
            · cases h

variable {V : Type} {setSecret : V → Str → Str → SecretResult × V}

/-- **What a request does**: nothing but an error, or all of it. -/
theorem handleCreateTunnelBackedUp_cases (s : BackedUp V) (r : CreationReadings) (body : Str)
    (hjson : ∀ t, described parse r.check body = some t → WritesBack parse dump t) :
    (∃ e, acceptTunnel parse s.handler r.check body = .error e ∧
      handleCreateTunnelBackedUp parse dump sha256 setSecret s r body = (.setError e, s)) ∨
    ∃ t response, acceptTunnel parse s.handler r.check body = .ok t ∧
      SameAnswer response (createdAnswer sha256 r.token t) ∧
      handleCreateTunnelBackedUp parse dump sha256 setSecret s r body =
        (response, ⟨s.handler.stored sha256 r t,
          storeSecret setSecret s.vault t.tunnelId (generateToken r.token.random)⟩) := by
  cases haccept : acceptTunnel parse s.handler r.check body with
  | error e =>
      left
      exact ⟨e, rfl, by rw [handleCreateTunnelBackedUp, haccept]⟩
  | ok t =>
      right
      obtain ⟨hdescribed, _, _⟩ := acceptTunnel_eq_ok haccept
      obtain ⟨response, hresponse, hsame⟩ := buildResponse_ok (hjson t hdescribed) r.token
      refine ⟨t, response, rfl, hsame, ?_⟩
      simp only [handleCreateTunnelBackedUp, haccept, hresponse, Handler.stored]

/-- The checks and what follows them, without Key Vault. -/
theorem handleCreateTunnel_eq (s : Handler) (env : Surroundings) (body : Str) :
    handleCreateTunnel parse sha256 s env body =
      match acceptTunnel parse s env body with
      | .error e => (.setError e, s)
      | .ok t => (createdAnswer sha256 env t, s.stored sha256 ⟨env, env, env⟩ t) := by
  rw [handleCreateTunnel, acceptTunnel, parseOrThrow]
  cases parse body with
  | none => rfl
  | some json =>
      cases hbody : tunnelOfBody env json with
      | error e => simp only [hbody, bind, Except.bind]
      | ok t =>
          simp only [hbody, bind, Except.bind, createTunnel]
          cases validateTunnelConfig t with
          | some error => rfl
          | none =>
              by_cases hfound : (s.tunnelCache.get env.clock.steady t.tunnelId).isSome
              · simp only [hfound, if_true]
              · simp only [hfound]
                rfl

/-- **With one reading of the clocks it does what `handleCreateTunnel` does**, whatever Key Vault does. -/
theorem handleCreateTunnelBackedUp_eq (s : BackedUp V) (env : Surroundings) (body : Str)
    (hjson : ∀ t, described parse env body = some t → WritesBack parse dump t) :
    let result := handleCreateTunnelBackedUp parse dump sha256 setSecret s ⟨env, env, env⟩ body
    SameAnswer result.1 (handleCreateTunnel parse sha256 s.handler env body).1 ∧
      result.2.handler = (handleCreateTunnel parse sha256 s.handler env body).2 := by
  rcases handleCreateTunnelBackedUp_cases s ⟨env, env, env⟩ body hjson with
    ⟨e, haccept, hresult⟩ | ⟨t, response, haccept, hsame, hresult⟩
  · rw [hresult, handleCreateTunnel_eq, haccept]
    exact ⟨⟨rfl, fun _ => rfl⟩, rfl⟩
  · rw [hresult, handleCreateTunnel_eq, haccept]
    exact ⟨hsame, rfl⟩

/-- The entries of a request that was accepted. -/
theorem createdFrom_of_accepted {s : Handler} {r : CreationReadings} {body : Str} {t : Tunnel}
    {response : HttpResponse} (haccept : acceptTunnel parse s r.check body = .ok t)
    (hsame : SameAnswer response (createdAnswer sha256 r.token t)) :
    ∃ json, parse body = some json ∧ CreatedFrom sha256 json r.check.clock.steady response s
      (s.stored sha256 r t) t.tunnelId := by
  obtain ⟨hdescribed, hvalid, hfree⟩ := acceptTunnel_eq_ok haccept
  obtain ⟨json, hparse, hbody⟩ := described_eq_some_iff.mp hdescribed
  refine ⟨json, hparse, hfree, ?_, ?_, ?_, ?_, ?_, rfl⟩
  · rw [HttpResponse.tunnelId, hsame.fields]
    rfl
  · refine ⟨_, by rw [Handler.stored, Cache.lookup_put, if_pos rfl], rfl, ?_⟩
    exact requests_of_tunnelOfBody hbody hvalid
  · refine ⟨generateToken r.token.random, _, ?_, by rw [Handler.stored, Cache.lookup_put, if_pos rfl], rfl,
      rfl⟩
    rw [HttpResponse.token, hsame.fields]
    rfl
  · intro k hk
    rw [Handler.stored, Cache.lookup_put, if_neg hk]
  · intro k hk
    rw [Handler.stored, Cache.lookup_put, if_neg hk]

end

/-- **Creating a tunnel is atomic**: a request that is not answered 201 has changed nothing, and one
that is has added exactly the entries of the tunnel it asks for, whatever Key Vault does. -/
theorem creation_atomic (parse : Str → Option Json) (dump : Json → Option Str) (sha256 : Str → Digest)
    {V : Type} (setSecret : V → Str → Str → SecretResult × V) (s : BackedUp V) (r : CreationReadings)
    (body : Str) (hjson : ∀ t, described parse r.check body = some t → WritesBack parse dump t) :
    let result := handleCreateTunnelBackedUp parse dump sha256 setSecret s r body
    (result.1.statusCode ≠ 201 → result.2 = s) ∧
      (result.1.statusCode = 201 → ∃ json id, parse body = some json ∧
        CreatedFrom sha256 json r.check.clock.steady result.1 s.handler result.2.handler id) := by
  rcases handleCreateTunnelBackedUp_cases s r body hjson with
    ⟨e, haccept, hresult⟩ | ⟨t, response, haccept, hsame, hresult⟩
  · rw [hresult]
    exact ⟨fun _ => rfl, fun h201 => absurd h201 (code_of_acceptTunnel haccept)⟩
  · rw [hresult]
    refine ⟨fun hno => absurd hsame.statusCode hno, fun _ => ?_⟩
    obtain ⟨json, hparse, hcreated⟩ := createdFrom_of_accepted haccept hsame
    exact ⟨json, t.tunnelId, hparse, hcreated⟩

/-! ## A request while Key Vault is down -/

def allowlistBody : Str :=
  "\x7b\"tunnel_id\":\"api\",\"target_host\":\"localhost\",\"target_port\":5000,".toList ++
    "\"protocol\":\"TCP\",\"ip_allowlist\":[\"10.0.0.0/8\",\"192.168.0.0/16\"]\x7d".toList

/-- The tunnel of `allowlistBody`, created at the epoch. -/
def allowlistTunnel : Tunnel :=
  ⟨"api".toList, .tcp, "localhost".toList, 5000, ["10.0.0.0/8".toList, "192.168.0.0/16".toList], 0, 0, 0,
    .active⟩

/-- What `dump` makes of the tunnel, before and behind the place of the token. -/
def beforeToken : Str :=
  "\x7b\"created_at\":0,\"ip_allowlist\":[\"10.0.0.0/8\",\"192.168.0.0/16\"],".toList ++
    "\"protocol\":\"TCP\",\"status\":\"ACTIVE\",\"target_host\":\"localhost\",\"target_port\":5000,".toList

def afterToken : Str := "\"tunnel_id\":\"api\",\"updated_at\":0\x7d".toList

/-- The parser on the two texts that are read. -/
def allowlistParse (text : Str) : Option Json :=
  if text = allowlistBody then
    some (.object [("tunnel_id".toList, .str "api".toList), ("target_host".toList, .str "localhost".toList),
      ("target_port".toList, .number 5000), ("protocol".toList, .str "TCP".toList),
      ("ip_allowlist".toList, .array [.str "10.0.0.0/8".toList, .str "192.168.0.0/16".toList])])
  else if text = beforeToken ++ afterToken then some (tunnelToJson allowlistTunnel)
  else none

/-- `dump` on the tunnel, and on the tunnel with a token that expires in a year. -/
def allowlistDump (json : Json) : Option Str :=
  match (json.field "token".toList).bind Json.getString with
  | none => some (beforeToken ++ afterToken)
  | some token => some (beforeToken ++ "\"token\":\"".toList ++ token ++
      "\",\"token_expires_at\":31536000,".toList ++ afterToken)

/-- Every call throws. -/
def vaultDown (v : Unit) (_ _ : Str) : SecretResult × Unit := (.threw, v)

def atEpoch : Surroundings := ⟨⟨0, 0⟩, #v[1, 2, 3, 4], 0⟩

theorem writesBack_allowlistTunnel : WritesBack allowlistParse allowlistDump allowlistTunnel := by
  refine ⟨beforeToken ++ afterToken, tunnelToJson allowlistTunnel, rfl, ?_, fun _ => rfl, fun _ _ => rfl⟩
  rw [allowlistParse, if_neg (by decide +kernel), if_pos rfl]

/-- The tunnel is created although its token is not backed up. -/
theorem creation_atomic_vaultDown :
    let result := handleCreateTunnelBackedUp allowlistParse allowlistDump (fun _ => zeroDigest) vaultDown
      ⟨⟨Cache.empty, Cache.empty, ∅⟩, ()⟩ ⟨atEpoch, atEpoch, atEpoch⟩ allowlistBody
    result.1.statusCode = 201 ∧ ∃ json id, allowlistParse allowlistBody = some json ∧
      CreatedFrom (fun _ => zeroDigest) json 0 result.1 ⟨Cache.empty, Cache.empty, ∅⟩ result.2.handler id := by
  have hdescribed : described allowlistParse atEpoch allowlistBody = some allowlistTunnel := by
    rw [described, allowlistParse, if_pos rfl]
    rfl
  have h201 : (handleCreateTunnelBackedUp allowlistParse allowlistDump (fun _ => zeroDigest) vaultDown
      ⟨⟨Cache.empty, Cache.empty, ∅⟩, ()⟩ ⟨atEpoch, atEpoch, atEpoch⟩ allowlistBody).1.statusCode = 201 := by
    decide +kernel
  refine ⟨h201, (creation_atomic allowlistParse allowlistDump (fun _ => zeroDigest) vaultDown
    ⟨⟨Cache.empty, Cache.empty, ∅⟩, ()⟩ ⟨atEpoch, atEpoch, atEpoch⟩ allowlistBody ?_).2 h201⟩
  intro t ht
  rw [hdescribed] at ht
  exact Option.some.inj ht ▸ writesBack_allowlistTunnel

end Protogate.Api
