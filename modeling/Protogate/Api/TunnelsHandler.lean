import Protogate.Lib.Json
import Protogate.Models.Tunnel
import Protogate.Security.TokenValidator

/-!
# The management API

The handlers that create and delete tunnels and rotate their tokens.  A handler
runs at one reading of the clocks; the JSON parser and SHA-256 are parameters.
Key Vault is a backup whose failures the handlers swallow, so it does not occur.

`Outcome` lists what a request can do, with its response; `handle_outcome` says
that a request does one of these.

## Main definitions

* `handleCreateTunnel`, `handleDeleteTunnel`, `handleRotateToken`.
* `generateToken` — the text of a token.
* `Outcome`, `handle_outcome` — the effect of a request.
-/

namespace Protogate.Api

open Protogate.Lib Protogate.Models Protogate.Security Protogate.Storage

/-! ## Responses -/

/-- A response; the body is kept as the JSON value its text denotes. -/
structure HttpResponse where
  statusCode : ℕ
  body : Option Json

/-- The arguments of `set_error`. -/
structure Failure where
  code : ℕ
  message : Str
  deriving DecidableEq, Repr

/-- `response.set_error(code, message)`. -/
def HttpResponse.setError (e : Failure) : HttpResponse :=
  ⟨e.code, some (.object [("error".toList, .str e.message)])⟩

/-- The answer to an exception other than a parse error. -/
def internalServerError : Failure := ⟨500, "Internal server error".toList⟩

/-- A conversion that throws ends the handler. -/
def orThrow {α : Type} : Option α → Except Failure α
  | some a => .ok a
  | none => .error internalServerError

/-! ## State -/

/-- What the handlers share with the rest of the server: the two caches and the
registered agent connection of each tunnel, by number. -/
structure Handler where
  tunnelCache : Cache Str Tunnel
  tokenCache : TokenCache
  agents : Assoc Str ℕ

/-- What a call reads from its surroundings: the clocks, the four outputs of the
random generator and the memory of the field that no handler sets. -/
structure Surroundings where
  clock : Clock
  random : Vector UInt64 4
  rateLimitRpm : ℕ
  deriving DecidableEq, Repr

/-! ## Helpers -/

/-- 256 random bits as 64 hexadecimal digits. -/
def generateToken (random : Vector UInt64 4) : Str :=
  random.toList.flatMap fun v => hexFixed 16 v.toNat

/-- A year, the lifetime of what the API stores. -/
def yearTtl : ℤ := 24 * 365 * 3600

theorem seconds_yearTtl_pos : 0 < seconds yearTtl := by decide

/-- The grace period of a rotation, in seconds. -/
def gracePeriodSeconds : ℤ := 300

/-- `duration_cast<seconds>(t.time_since_epoch()).count()`. -/
def epochSeconds (t : ℤ) : ℤ := t.tdiv 1000000000

/-- The cache record of a token generated now. -/
def issueToken (sha256 : Str → Digest) (clock : Clock) (tunnelId token : Str) : AuthToken where
  tunnelId := tunnelId
  tokenHash := computeTokenHash sha256 token
  createdAt := clock.system
  expiresAt := clock.system + seconds yearTtl

def isTunnelIdChar (c : Char) : Bool := c.isAlphanum || c = '-' || c = '_'

/-- The first error of the configuration, if any. -/
def validateTunnelConfig (tunnel : Tunnel) : Option Str :=
  if tunnel.tunnelId.isEmpty then some "tunnel_id is required".toList
  else if tunnel.targetHost.isEmpty then some "target_host is required".toList
  else if tunnel.targetPort = 0 then
    some "target_port must be between 1 and 65535".toList
  else if tunnel.tunnelId.any (! isTunnelIdChar ·) then
    some "tunnel_id can only contain alphanumeric characters, hyphens, and underscores".toList
  else none

def parseProtocol (s : Str) : Except Failure TunnelProtocol :=
  if s = "HTTP".toList then .ok .http
  else if s = "TCP".toList then .ok .tcp
  else .error ⟨400, "Invalid protocol. Must be HTTP or TCP".toList⟩

/-- The `ip_allowlist` field, if it is an array; its elements must be strings. -/
def ipAllowlistOf (body : Json) : Option (List Str) :=
  match body.field "ip_allowlist".toList with
  | some (.array elements) => Json.getStrings elements
  | _ => some []

/-- The tunnel a request body describes. -/
def tunnelOfBody (env : Surroundings) (body : Json) : Except Failure Tunnel := do
  let tunnelId ← orThrow (body.value Json.getString "tunnel_id".toList [])
  let targetHost ← orThrow (body.value Json.getString "target_host".toList [])
  let targetPort ← orThrow (body.value Json.getInt "target_port".toList 0)
  let protocolStr ← orThrow (body.value Json.getString "protocol".toList "HTTP".toList)
  let protocol ← parseProtocol protocolStr
  let ipAllowlist ← orThrow (ipAllowlistOf body)
  return {
    tunnelId, protocol, targetHost, ipAllowlist
    -- the int is stored in a uint16_t
    targetPort := (targetPort % 65536).toNat
    rateLimitRpm := env.rateLimitRpm
    createdAt := env.clock.system
    updatedAt := env.clock.system
    status := .active }

def tunnelToJson (t : Tunnel) : Json :=
  .object [
    ("tunnel_id".toList, .str t.tunnelId),
    ("target_host".toList, .str t.targetHost),
    ("target_port".toList, .number t.targetPort),
    ("protocol".toList, .str (if t.protocol = .http then "HTTP".toList else "TCP".toList)),
    ("status".toList, .str (if t.status = .active then "ACTIVE".toList else "INACTIVE".toList)),
    ("ip_allowlist".toList, .array (t.ipAllowlist.map .str)),
    ("created_at".toList, .number (epochSeconds t.createdAt)),
    ("updated_at".toList, .number (epochSeconds t.updatedAt))]

/-- The 201 answer: the tunnel with its token, which is only returned here. -/
def createdResponse (t : Tunnel) (token : Str) (a : AuthToken) : HttpResponse where
  statusCode := 201
  body := some (((tunnelToJson t).set "token".toList (.str token)).set
    "token_expires_at".toList (.number (epochSeconds a.expiresAt)))

def rotatedResponse (token : Str) (a : AuthToken) : HttpResponse where
  statusCode := 200
  body := some (.object [
    ("token".toList, .str token),
    ("token_expires_at".toList, .number (epochSeconds a.expiresAt)),
    ("grace_period_seconds".toList, .number gracePeriodSeconds)])

/-! ## Handlers -/

section
variable (parse : Str → Option Json) (sha256 : Str → Digest)

/-- The part of `handle_create_tunnel` after the body has been read. -/
def createTunnel (s : Handler) (env : Surroundings) (tunnel : Tunnel) : HttpResponse × Handler :=
  match validateTunnelConfig tunnel with
  | some error => (.setError ⟨400, error⟩, s)
  | none =>
      if (s.tunnelCache.get env.clock.steady tunnel.tunnelId).isSome then
        (.setError ⟨409, "Tunnel with this ID already exists".toList⟩, s)
      else
        let token := generateToken env.random
        let authToken := issueToken sha256 env.clock tunnel.tunnelId token
        (createdResponse tunnel token authToken,
          { s with
            tokenCache := s.tokenCache.put env.clock.steady tunnel.tunnelId authToken yearTtl
            tunnelCache := s.tunnelCache.put env.clock.steady tunnel.tunnelId tunnel yearTtl })

def handleCreateTunnel (s : Handler) (env : Surroundings) (body : Str) : HttpResponse × Handler :=
  match parse body with
  | none => (.setError ⟨400, "Invalid JSON in request body".toList⟩, s)
  | some json =>
      match tunnelOfBody env json with
      | .error e => (.setError e, s)
      | .ok tunnel => createTunnel sha256 s env tunnel

def handleDeleteTunnel (s : Handler) (env : Surroundings) (id : Str) : HttpResponse × Handler :=
  if (s.tunnelCache.get env.clock.steady id).isNone then
    (.setError ⟨404, "Tunnel not found".toList⟩, s)
  else
    (⟨204, none⟩,
      { agents := s.agents.erase id
        tunnelCache := s.tunnelCache.remove id
        tokenCache := s.tokenCache.remove id })

def handleRotateToken (s : Handler) (env : Surroundings) (id : Str) : HttpResponse × Handler :=
  if (s.tunnelCache.get env.clock.steady id).isNone then
    (.setError ⟨404, "Tunnel not found".toList⟩, s)
  else
    match s.tokenCache.get env.clock.steady id with
    | none => (.setError ⟨500, "Token not found in cache".toList⟩, s)
    | some oldToken =>
        let newToken := generateToken env.random
        let newAuthToken := issueToken sha256 env.clock id newToken
        (rotatedResponse newToken newAuthToken,
          { s with
            tokenCache :=
              (s.tokenCache.put env.clock.steady id newAuthToken yearTtl).put env.clock.steady
                (oldKey id) oldToken gracePeriodSeconds })

/-- A request that changes the state, with its path parameter or body. -/
inductive Request
  | create (body : Str)
  | delete (id : Str)
  | rotateToken (id : Str)
  deriving DecidableEq, Repr

/-- Dispatch of a request to its handler. -/
def Handler.handle (s : Handler) (env : Surroundings) : Request → HttpResponse × Handler
  | .create body => handleCreateTunnel parse sha256 s env body
  | .delete id => handleDeleteTunnel s env id
  | .rotateToken id => handleRotateToken sha256 s env id

/-! ## What a request can do -/

/-- The four outcomes of a request: an error that changes nothing, or the change
its handler makes together with the answer it gives. -/
inductive Outcome (s : Handler) (env : Surroundings) : Request → HttpResponse → Handler → Prop
  | rejected (r : Request) (e : Failure) (he : 400 ≤ e.code) : Outcome s env r (.setError e) s
  | created (body : Str) (t : Tunnel) (hid : t.tunnelId.all isTunnelIdChar = true)
      (hnew : s.tunnelCache.get env.clock.steady t.tunnelId = none) :
      Outcome s env (.create body)
        (createdResponse t (generateToken env.random)
          (issueToken sha256 env.clock t.tunnelId (generateToken env.random)))
        { s with
          tokenCache := s.tokenCache.put env.clock.steady t.tunnelId
            (issueToken sha256 env.clock t.tunnelId (generateToken env.random)) yearTtl
          tunnelCache := s.tunnelCache.put env.clock.steady t.tunnelId t yearTtl }
  | deleted (id : Str) (hfound : (s.tunnelCache.get env.clock.steady id).isSome) :
      Outcome s env (.delete id) ⟨204, none⟩
      { agents := s.agents.erase id
        tunnelCache := s.tunnelCache.remove id
        tokenCache := s.tokenCache.remove id }
  | rotated (id : Str) (old : AuthToken)
      (hfound : (s.tunnelCache.get env.clock.steady id).isSome)
      (hold : s.tokenCache.get env.clock.steady id = some old) :
      Outcome s env (.rotateToken id)
        (rotatedResponse (generateToken env.random)
          (issueToken sha256 env.clock id (generateToken env.random)))
        { s with
          tokenCache := (s.tokenCache.put env.clock.steady id
            (issueToken sha256 env.clock id (generateToken env.random)) yearTtl).put
              env.clock.steady (oldKey id) old gracePeriodSeconds }

end

variable {sha256 : Str → Digest}

theorem code_of_orThrow {α : Type} {o : Option α} {e : Failure} (h : orThrow o = .error e) :
    400 ≤ e.code := by
  cases o with
  | none => cases h; decide
  | some a => cases h

theorem code_of_parseProtocol {s : Str} {e : Failure} (h : parseProtocol s = .error e) :
    400 ≤ e.code := by
  simp only [parseProtocol] at h
  split at h
  · cases h
  · split at h
    · cases h
    · cases h; decide

private theorem error_of_bind {α β : Type} {a : Except Failure α} {f : α → Except Failure β}
    {e : Failure} (h : (a >>= f) = .error e) : a = .error e ∨ ∃ x, f x = .error e := by
  cases a with
  | error e' =>
      have he : e' = e := Except.error.inj h
      exact .inl (by rw [he])
  | ok x => exact .inr ⟨x, h⟩

/-- A failure thrown while a body is read is a 400 or a 500. -/
theorem code_of_tunnelOfBody {env : Surroundings} {json : Json} {e : Failure}
    (h : tunnelOfBody env json = .error e) : 400 ≤ e.code := by
  simp only [tunnelOfBody] at h
  rcases error_of_bind h with h | ⟨_, h⟩
  · exact code_of_orThrow h
  rcases error_of_bind h with h | ⟨_, h⟩
  · exact code_of_orThrow h
  rcases error_of_bind h with h | ⟨_, h⟩
  · exact code_of_orThrow h
  rcases error_of_bind h with h | ⟨_, h⟩
  · exact code_of_orThrow h
  rcases error_of_bind h with h | ⟨_, h⟩
  · exact code_of_parseProtocol h
  rcases error_of_bind h with h | ⟨_, h⟩
  · exact code_of_orThrow h
  · cases h

/-- A configuration that validates has an id of the permitted characters. -/
theorem isTunnelIdChar_of_validate {t : Tunnel} (h : validateTunnelConfig t = none) :
    t.tunnelId.all isTunnelIdChar = true := by
  simp only [validateTunnelConfig] at h
  split at h
  · cases h
  split at h
  · cases h
  split at h
  · cases h
  split at h
  · cases h
  · rename_i hany
    simpa using hany

theorem createTunnel_outcome (s : Handler) (env : Surroundings) (body : Str) (tunnel : Tunnel) :
    Outcome sha256 s env (.create body) (createTunnel sha256 s env tunnel).1
      (createTunnel sha256 s env tunnel).2 := by
  simp only [createTunnel]
  split
  · exact .rejected _ ⟨400, _⟩ (by simp)
  · rename_i hvalid
    split
    · exact .rejected _ ⟨409, _⟩ (by simp)
    · rename_i hget
      have hnew : s.tunnelCache.get env.clock.steady tunnel.tunnelId = none := by simpa using hget
      exact .created body tunnel (isTunnelIdChar_of_validate hvalid) hnew

/-- **Every request has one of the four outcomes.** -/
theorem handle_outcome (parse : Str → Option Json) (sha256 : Str → Digest) (s : Handler)
    (env : Surroundings) (r : Request) :
    Outcome sha256 s env r (s.handle parse sha256 env r).1 (s.handle parse sha256 env r).2 := by
  cases r with
  | create body =>
      simp only [Handler.handle, handleCreateTunnel]
      split
      · exact .rejected _ ⟨400, _⟩ (by simp)
      · split
        · rename_i e hbody
          exact .rejected _ e (code_of_tunnelOfBody hbody)
        · exact createTunnel_outcome s env body _
  | delete id =>
      simp only [Handler.handle, handleDeleteTunnel]
      split
      · exact .rejected _ ⟨404, _⟩ (by simp)
      · rename_i hfound
        exact .deleted id (by simpa [Option.isSome_iff_ne_none] using hfound)
  | rotateToken id =>
      simp only [Handler.handle, handleRotateToken]
      split
      · exact .rejected _ ⟨404, _⟩ (by simp)
      · rename_i hfound
        split
        · exact .rejected _ ⟨500, _⟩ (by simp)
        · rename_i old hold
          exact .rotated id old (by simpa [Option.isSome_iff_ne_none] using hfound) hold

/-! ## Tokens in responses -/

/-- The token text of a response, if it carries one. -/
def HttpResponse.token (response : HttpResponse) : Option Str :=
  (response.body.bind (·.field "token".toList)).bind Json.getString

/-- The tunnel id of a response, if it names one. -/
def HttpResponse.tunnelId (response : HttpResponse) : Option Str :=
  (response.body.bind (·.field "tunnel_id".toList)).bind Json.getString

@[simp] theorem token_setError (e : Failure) : (HttpResponse.setError e).token = none := rfl

@[simp] theorem token_createdResponse (t : Tunnel) (token : Str) (a : AuthToken) :
    (createdResponse t token a).token = some token := rfl

@[simp] theorem token_rotatedResponse (token : Str) (a : AuthToken) :
    (rotatedResponse token a).token = some token := rfl

/-- Every character of a generated token is a hexadecimal digit. -/
theorem mem_generateToken (random : Vector UInt64 4) :
    ∀ c ∈ generateToken random, c ∈ "0123456789abcdef".toList := by
  intro c hc
  obtain ⟨v, _, hv⟩ := List.mem_flatMap.mp hc
  exact mem_hexFixed 16 v.toNat c hv

end Protogate.Api
