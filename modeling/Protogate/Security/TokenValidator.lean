import Protogate.Lib.LastMatch
import Protogate.Lib.Text
import Protogate.Storage.Cache

/-!
# Token validation

`TokenValidator` authenticates agents against the token cache.  The cache is
keyed by tunnel id; a rotation keeps the replaced token under the derived key
`tunnel_id + ":old"` for the grace period.  Validation scans the unexpired
entries for the hash of the presented token and returns the key of the last one
that matches.

SHA-256 comes from OpenSSL and is a parameter.

## Main definitions

* `computeTokenHash`, `extractToken`, `validateToken`, `validate`.
* `addToken`, `revokeToken`, `rotateToken`, `oldKey`.
* `addToken64`, `rotateToken64` — the same, with expiries in 64 bits.
* `validateToken_valid_iff` — a token is accepted exactly when an unexpired
  entry holds its hash.
-/

namespace Protogate.Security

open Protogate.Lib Protogate.Storage

/-- The fields of `models::AuthToken` that the handlers and the validator read. -/
structure AuthToken where
  tunnelId : Str
  tokenHash : Str
  createdAt : ℤ
  expiresAt : ℤ
  deriving DecidableEq, Repr

abbrev TokenCache := Cache Str AuthToken

/-- The 32 bytes of a SHA-256 digest. -/
structure Digest where
  bytes : List UInt8
  length_eq : bytes.length = 32

/-- Validation result with detailed error info. -/
structure ValidationResult where
  valid : Bool
  tunnelId : Str
  errorCode : Str
  errorMessage : Str
  deriving DecidableEq, Repr

namespace ValidationResult

def success (tunnelId : Str) : ValidationResult := ⟨true, tunnelId, [], []⟩
def failure (code msg : Str) : ValidationResult := ⟨false, [], code, msg⟩

@[simp] theorem valid_success (t : Str) : (success t).valid = true := rfl
@[simp] theorem valid_failure (code msg : Str) : (failure code msg).valid = false := rfl

end ValidationResult

/-! ## Reading the header -/

/-- The characters `extract_token` trims. -/
def isTokenSpace (c : Char) : Bool := c = ' ' || c = '\t' || c = '\n' || c = '\r'

/-- The token of a `Bearer` header, or the empty string. -/
def extractToken (authorizationHeader : Str) : Str :=
  let bearerPrefix := "Bearer ".toList
  if !hasPrefix bearerPrefix authorizationHeader then []
  else
    let token := trim isTokenSpace (authorizationHeader.drop bearerPrefix.length)
    if !hasPrefix "tnl_".toList token then [] else token

/-! ## Looking the token up -/

section
variable (sha256 : Str → Digest)

/-- The digest as 64 hexadecimal characters. -/
def computeTokenHash (token : Str) : Str :=
  (sha256 token).bytes.flatMap fun b => hexFixed 2 b.toNat

/-- `system_clock::now() >= expires_at`. -/
def isExpired (token : AuthToken) (now : ℤ) : Bool := decide (token.expiresAt ≤ now)

/-- The entry test of the scan in `validate_token`. -/
def matchesHash (hash : Str) (now : ℤ) (entry : Str × AuthToken) : Bool :=
  entry.2.tokenHash == hash && !isExpired entry.2 now

/-- Scan the visited entries; the last match wins. -/
def validateToken (order : List (Str × AuthToken)) (now : ℤ) (token : Str) :
    ValidationResult :=
  match lastMatch (matchesHash (computeTokenHash sha256 token) now) order with
  | some (tunnelId, _) => .success tunnelId
  | none => .failure "INVALID_TOKEN".toList "Token not found or expired".toList

/-- Validate a full `Authorization` header. -/
def validate (order : List (Str × AuthToken)) (now : ℤ) (authorizationHeader : Str) :
    ValidationResult :=
  let token := extractToken authorizationHeader
  if token.isEmpty then
    .failure "INVALID_FORMAT".toList "Authorization header must be 'Bearer tnl_...'".toList
  else validateToken sha256 order now token

end

/-- The SHA-256 digests of `tnl_local_test_123` and, for any other text, of `tnl_abc123`. -/
def sampleSha256 (token : Str) : Digest :=
  if token = "tnl_local_test_123".toList then
    ⟨[8, 99, 120, 125, 221, 89, 158, 80, 156, 101, 100, 198, 226, 188, 60, 60,
      79, 245, 31, 123, 12, 147, 154, 75, 41, 59, 191, 61, 221, 113, 128, 177], rfl⟩
  else
    ⟨[74, 200, 100, 223, 31, 48, 54, 19, 115, 117, 168, 99, 181, 71, 114, 25,
      119, 247, 100, 85, 135, 145, 242, 221, 201, 160, 33, 5, 202, 41, 211, 118], rfl⟩

/-- The token `tnl_local_test_123` of tunnel `api`, valid for ninety days. -/
def sampleOld : AuthToken :=
  ⟨"api".toList, computeTokenHash sampleSha256 "tnl_local_test_123".toList, 0, seconds 7776000⟩

/-- The token `tnl_abc123` of tunnel `api`. -/
def sampleNew : AuthToken :=
  ⟨"api".toList, computeTokenHash sampleSha256 "tnl_abc123".toList, 0, seconds 7776000⟩

/-! ## Changing the cache -/

/-- The default time-to-live of `add_token`: 90 days. -/
def addTokenTtl : ℤ := 24 * 90 * 3600

def addToken (c : TokenCache) (now : ℤ) (tunnelId : Str) (token : AuthToken)
    (ttl : ℤ := addTokenTtl) : TokenCache :=
  c.put now tunnelId token ttl

def revokeToken (c : TokenCache) (tunnelId : Str) : TokenCache := c.remove tunnelId

/-- The key of the token that a rotation replaced. -/
def oldKey (tunnelId : Str) : Str := tunnelId ++ ":old".toList

/-- Store the new token and keep the one it replaces for the grace period. -/
def rotateToken (c : TokenCache) (now : ℤ) (tunnelId : Str) (newToken : AuthToken)
    (gracePeriod : ℤ) : TokenCache :=
  let oldToken := c.get now tunnelId
  let c := addToken c now tunnelId newToken
  match oldToken with
  | some oldToken => c.put now (oldKey tunnelId) oldToken gracePeriod
  | none => c

/-- `add_token`, with the time of expiry computed in 64 bits. -/
def addToken64 (c : TokenCache) (now : ℤ) (tunnelId : Str) (token : AuthToken)
    (ttl : ℤ := addTokenTtl) : TokenCache :=
  c.put64 now tunnelId token ttl

/-- `rotate_token`, with both times of expiry computed in 64 bits. -/
def rotateToken64 (c : TokenCache) (now : ℤ) (tunnelId : Str) (newToken : AuthToken)
    (gracePeriod : ℤ) : TokenCache :=
  let oldToken := c.get now tunnelId
  let c := addToken64 c now tunnelId newToken
  match oldToken with
  | some oldToken => c.put64 now (oldKey tunnelId) oldToken gracePeriod
  | none => c

/-- The entry under `k` is `a`, and neither the entry nor the token has expired. -/
def Usable (c : TokenCache) (clock : Clock) (k : Str) (a : AuthToken) : Prop :=
  c.get clock.steady k = some a ∧ clock.system < a.expiresAt

/-! ## Lemmas -/

@[simp] theorem oldKey_inj {t u : Str} : oldKey t = oldKey u ↔ t = u := by
  simp [oldKey]

theorem ne_oldKey (t : Str) : t ≠ oldKey t := by
  simp [oldKey]

theorem colon_mem_oldKey (t : Str) : ':' ∈ oldKey t := by simp [oldKey]

theorem matchesHash_iff {hash : Str} {now : ℤ} {k : Str} {a : AuthToken} :
    matchesHash hash now (k, a) = true ↔ a.tokenHash = hash ∧ now < a.expiresAt := by
  simp [matchesHash, isExpired]

/-- A rotation overwrites the entry of the tunnel and, when it found an unexpired
token there, the derived entry. -/
theorem lookup_rotateToken (c : TokenCache) (now : ℤ) (t : Str) (new : AuthToken) (grace : ℤ)
    (k : Str) :
    (rotateToken c now t new grace).entries.lookup k =
      match c.get now t with
      | some old =>
          if k = oldKey t then some ⟨old, now + seconds grace⟩
          else if k = t then some ⟨new, now + seconds addTokenTtl⟩ else c.entries.lookup k
      | none => if k = t then some ⟨new, now + seconds addTokenTtl⟩ else c.entries.lookup k := by
  unfold rotateToken addToken
  cases c.get now t <;> simp

theorem addToken64_eq {now ttl : ℤ} (h : Fits now ttl) (c : TokenCache) (t : Str) (a : AuthToken) :
    addToken64 c now t a ttl = addToken c now t a ttl :=
  Cache.put64_eq h c t a

theorem rotateToken64_eq {now grace : ℤ} (hnew : Fits now addTokenTtl) (hold : Fits now grace)
    (c : TokenCache) (t : Str) (new : AuthToken) :
    rotateToken64 c now t new grace = rotateToken c now t new grace := by
  unfold rotateToken64 rotateToken
  rw [addToken64_eq hnew]
  cases c.get now t with
  | none => rfl
  | some old => exact Cache.put64_eq hold _ _ _

/-- Time only makes entries unusable. -/
theorem Usable.earlier {c : TokenCache} {clock later : Clock} {k : Str} {a : AuthToken}
    (H : Usable c later k a) (hsteady : clock.steady ≤ later.steady)
    (hsystem : clock.system ≤ later.system) : Usable c clock k a :=
  ⟨Cache.get_of_get_later hsteady H.1, Int.lt_of_le_of_lt hsystem H.2⟩

variable {sha256 : Str → Digest} {c : TokenCache} {clock : Clock}
  {order : List (Str × AuthToken)} {x : Str}

/-- What an accepted token matched: an unexpired entry under the returned id. -/
theorem exists_of_validateToken {k : Str} (hv : c.Visits clock.steady order)
    (h : validateToken sha256 order clock.system x = .success k) :
    ∃ a, c.get clock.steady k = some a ∧ a.tokenHash = computeTokenHash sha256 x ∧
      clock.system < a.expiresAt := by
  simp only [validateToken] at h
  split at h
  · rename_i k' a hlast
    obtain ⟨hmem, hp⟩ := mem_of_lastMatch hlast
    have hk : k' = k := congrArg ValidationResult.tunnelId h
    subst hk
    exact ⟨a, (Cache.mem_visit_iff hv).mp hmem, matchesHash_iff.mp hp⟩
  · exact absurd (congrArg ValidationResult.valid h) (by simp)

/-- An accepted token is accepted under some key. -/
theorem exists_success_of_valid (h : (validateToken sha256 order clock.system x).valid = true) :
    ∃ k, validateToken sha256 order clock.system x = .success k := by
  simp only [validateToken] at h ⊢
  split at h
  · exact ⟨_, rfl⟩
  · simp at h

/-- **Acceptance.**  A token is accepted exactly when some unexpired entry holds
its hash, whatever the order of the scan. -/
theorem validateToken_valid_iff (hv : c.Visits clock.steady order) :
    (validateToken sha256 order clock.system x).valid = true ↔
      ∃ k a, Usable c clock k a ∧ a.tokenHash = computeTokenHash sha256 x := by
  constructor
  · intro h
    obtain ⟨k, hk⟩ := exists_success_of_valid h
    obtain ⟨a, hget, hhash, hlt⟩ := exists_of_validateToken hv hk
    exact ⟨k, a, ⟨hget, hlt⟩, hhash⟩
  · rintro ⟨k, a, ⟨hget, hlt⟩, hhash⟩
    have hsome : (lastMatch (matchesHash (computeTokenHash sha256 x) clock.system) order).isSome :=
      lastMatch_isSome_iff.mpr
        ⟨(k, a), (Cache.mem_visit_iff hv).mpr hget, matchesHash_iff.mpr ⟨hhash, hlt⟩⟩
    obtain ⟨⟨k', a'⟩, hlast⟩ := Option.isSome_iff_exists.mp hsome
    simp [validateToken, hlast]

/-- Every matching entry is the answer for some order of the scan. -/
theorem exists_visit_success {k : Str} {a : AuthToken} (hget : c.get clock.steady k = some a)
    (hhash : a.tokenHash = computeTokenHash sha256 x) (hlt : clock.system < a.expiresAt) :
    ∃ order, c.Visits clock.steady order ∧
      validateToken sha256 order clock.system x = .success k := by
  obtain ⟨order, hperm, hlast⟩ := exists_perm_lastMatch
    (p := matchesHash (computeTokenHash sha256 x) clock.system)
    (Cache.mem_live_iff.mpr hget) (matchesHash_iff.mpr ⟨hhash, hlt⟩)
  exact ⟨order, hperm, by simp [validateToken, hlast]⟩

end Protogate.Security
