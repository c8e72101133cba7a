import Protogate.Api.TunnelsHandler
import Protogate.Security.TokenHistory

/-!
# The tokens the API hands out

A run mixes management requests with validator calls on the same token cache;
the history of the run keeps every request with its response.  The tokens that
should authenticate an agent are the ones returned and not replaced or deleted
since.

`generateToken` prints hexadecimal digits only, and `extractToken` drops every
token that does not start with `tnl_`, so none of them ever authenticates.

## Main definitions

* `Event`, `World`, `step` — runs.
* `current` — the returned tokens that no later rotation or deletion ended.
* `IssuedAuthenticate` — they validate under their tunnel until they expire.
* `issued_never_authenticates` — no returned token validates.
-/

namespace Protogate.Api

open Protogate.Lib Protogate.Security Protogate.Storage

/-- A management request or a call of the validator. -/
inductive Op
  | request (r : Request)
  | validator (call : Security.Call)
  deriving DecidableEq, Repr

structure Event where
  env : Surroundings
  op : Op
  deriving DecidableEq, Repr

/-- An operation and, for a request, its response. -/
structure Record extends Event where
  response : Option HttpResponse

/-- The state shared by the API and the validator, and the history of the run,
newest operation first. -/
structure World where
  handler : Handler
  history : List Record

/-- A server with empty caches and no agents. -/
def World.init : World := ⟨⟨Cache.empty, Cache.empty, ∅⟩, []⟩

/-- A validator call changes the token cache only. -/
def Handler.call (s : Handler) (now : ℤ) (c : Security.Call) : Handler :=
  { s with tokenCache := c.perform s.tokenCache now }

section
variable (parse : Str → Option Json) (sha256 : Str → Digest)

def step (w : World) (e : Event) : World :=
  match e.op with
  | .request r =>
      let result := w.handler.handle parse sha256 e.env r
      ⟨result.2, ⟨e, some result.1⟩ :: w.history⟩
  | .validator c => ⟨w.handler.call e.env.clock.steady c, ⟨e, none⟩ :: w.history⟩

end

/-! ## Returned tokens -/

/-- A token returned for a tunnel, with the expiry stated in the response. -/
structure Issue where
  tunnelId : Str
  token : Str
  expiresAt : ℤ
  deriving DecidableEq, Repr

/-- The token a response carries for tunnel `t`. -/
def HttpResponse.issue (response : HttpResponse) (t : Str) : Option Issue := do
  let token ← response.token
  let expiresAt ← (response.body.bind (·.field "token_expires_at".toList)).bind Json.getInt
  return ⟨t, token, seconds expiresAt⟩

/-- What an operation issued: a created tunnel is named in the response, a
rotated one in the request. -/
def Record.issue (r : Record) : Option Issue :=
  match r.op, r.response with
  | .request (.create _), some response => response.tunnelId.bind response.issue
  | .request (.rotateToken id), some response => response.issue id
  | _, _ => none

/-- The tunnel whose earlier tokens the operation ended. -/
def Record.ended (r : Record) : Option Str :=
  match r.op, r.response with
  | .request (.delete id), some response => if response.statusCode = 204 then some id else none
  | .request (.rotateToken id), some response =>
      if response.statusCode = 200 then some id else none
  | .validator c, _ => some c.tunnelId
  | _, _ => none

/-- The returned tokens not ended since. -/
def current : List Record → List Issue
  | [] => []
  | r :: h => r.issue.toList ++ (current h).filter fun i => r.ended ≠ some i.tunnelId

/-- Every current token authenticates its tunnel until it expires, in every
order of the scan. -/
def IssuedAuthenticate (sha256 : Str → Digest) (w : World) : Prop :=
  ∀ i ∈ current w.history, ∀ clock : Clock, clock.system < i.expiresAt →
    ∀ order, w.handler.tokenCache.Visits clock.steady order →
      validate sha256 order clock.system ("Bearer ".toList ++ i.token) = .success i.tunnelId

/-! ## Their text -/

/-- The tokens of the responses consist of hexadecimal digits. -/
def TokensHex (w : World) : Prop :=
  ∀ r ∈ w.history, ∀ response, r.response = some response →
    ∀ token, response.token = some token → ∀ c ∈ token, c ∈ "0123456789abcdef".toList

variable {parse : Str → Option Json} {sha256 : Str → Digest}

/-- A token in a response was generated for it. -/
theorem token_of_outcome {s s' : Handler} {env : Surroundings} {r : Request}
    {response : HttpResponse} (h : Outcome sha256 s env r response s') {token : Str}
    (htoken : response.token = some token) : token = generateToken env.random := by
  cases h with
  | rejected r e he => simp at htoken
  | created body t hid hnew => simpa using htoken.symm
  | deleted id hfound => cases htoken
  | rotated id old hfound hold => simpa using htoken.symm

theorem tokensHex_step (w : World) (e : Event) (H : TokensHex w) :
    TokensHex (step parse sha256 w e) := by
  intro r hr response hresponse token htoken
  obtain ⟨env, op⟩ := e
  cases op with
  | request q =>
      simp only [step, List.mem_cons] at hr
      cases hr with
      | inl heq =>
          subst heq
          have hout := handle_outcome parse sha256 w.handler env q
          rw [Option.some.inj hresponse] at hout
          rw [token_of_outcome hout htoken]
          exact mem_generateToken env.random
      | inr hold => exact H r hold response hresponse token htoken
  | validator c =>
      simp only [step, List.mem_cons] at hr
      cases hr with
      | inl heq => subst heq; cases hresponse
      | inr hold => exact H r hold response hresponse token htoken

theorem tokensHex_run (evs : List Event) : TokensHex (run (step parse sha256) World.init evs) := by
  have hinit : TokensHex World.init := by
    intro r hr
    simp [World.init] at hr
  exact run_invariant TokensHex tokensHex_step hinit

/-- A current token is the token of some response. -/
theorem exists_response_of_current {h : List Record} {i : Issue} (hi : i ∈ current h) :
    ∃ r ∈ h, ∃ response, r.response = some response ∧ response.token = some i.token := by
  have hissue : ∀ {response : HttpResponse} {t : Str}, response.issue t = some i →
      response.token = some i.token := by
    intro response t h
    simp only [HttpResponse.issue, Option.bind_eq_bind, Option.bind_eq_some_iff] at h
    obtain ⟨token, htoken, expiresAt, _, heq⟩ := h
    rw [htoken, ← Option.some.inj heq]
  induction h with
  | nil => cases hi
  | cons r h ih =>
      simp only [current, List.mem_append, Option.mem_toList, List.mem_filter] at hi
      cases hi with
      | inl hnew =>
          refine ⟨r, List.mem_cons_self, ?_⟩
          simp only [Record.issue] at hnew
          split at hnew
          · rename_i response hop hresponse
            obtain ⟨t, _, ht⟩ := Option.bind_eq_some_iff.mp hnew
            exact ⟨response, hresponse, hissue ht⟩
          · rename_i id response hop hresponse
            exact ⟨response, hresponse, hissue hnew⟩
          · cases hnew
      | inr hold =>
          obtain ⟨r', hr', hfound⟩ := ih hold.1
          exact ⟨r', List.mem_cons_of_mem r hr', hfound⟩

/-- A token of hexadecimal digits lacks the prefix that the header parser asks for. -/
theorem extractToken_eq_nil {token : Str} (hhex : ∀ c ∈ token, c ∈ "0123456789abcdef".toList) :
    extractToken ("Bearer ".toList ++ token) = [] := by
  have hdrop : ("Bearer ".toList ++ token).drop "Bearer ".toList.length = token := by simp
  have hno : hasPrefix "tnl_".toList (trim isTokenSpace token) = false := by
    by_contra hcon
    have ht : 't' ∈ trim isTokenSpace token :=
      mem_of_hasPrefix (Bool.of_not_eq_false hcon) (by decide)
    exact absurd (hhex 't' (mem_of_mem_trim ht)) (by decide)
  simp only [extractToken, hasPrefix_append, hdrop, hno]
  simp

theorem validate_hex {token : Str} (hhex : ∀ c ∈ token, c ∈ "0123456789abcdef".toList)
    (order : List (Str × AuthToken)) (now : ℤ) :
    validate sha256 order now ("Bearer ".toList ++ token) = .failure "INVALID_FORMAT".toList
      "Authorization header must be 'Bearer tnl_...'".toList := by
  have hempty := extractToken_eq_nil hhex
  simp only [validate, hempty, List.isEmpty_nil, if_true]

/-- **No returned token authenticates.**  In every run, every token returned for
a tunnel and not ended since is rejected for its format, at every time. -/
theorem issued_never_authenticates (parse : Str → Option Json) (sha256 : Str → Digest)
    (evs : List Event) (i : Issue)
    (hi : i ∈ current (run (step parse sha256) World.init evs).history) :
    (∀ (clock : Clock) order,
        validate sha256 order clock.system ("Bearer ".toList ++ i.token) =
          .failure "INVALID_FORMAT".toList
            "Authorization header must be 'Bearer tnl_...'".toList) ∧
      ¬ IssuedAuthenticate sha256 (run (step parse sha256) World.init evs) := by
  obtain ⟨r, hr, response, hresponse, htoken⟩ := exists_response_of_current hi
  have hhex := tokensHex_run evs r hr response hresponse i.token htoken
  refine ⟨fun clock order => validate_hex hhex order clock.system, ?_⟩
  intro H
  have hvalid := H i hi ⟨0, i.expiresAt - 1⟩ (by simp only; omega) _ (List.Perm.refl _)
  rw [validate_hex hhex] at hvalid
  exact absurd (congrArg ValidationResult.valid hvalid) (by simp)

/-- The body of a request that creates the tunnel `api`. -/
def sampleBody : Str :=
  "\x7b\"tunnel_id\":\"api\",\"target_host\":\"localhost\",\"target_port\":5000\x7d".toList

/-- The parser on `sampleBody`. -/
def sampleParse (text : Str) : Option Json :=
  if text = sampleBody then
    some (.object [("tunnel_id".toList, .str "api".toList),
      ("target_host".toList, .str "localhost".toList), ("target_port".toList, .number 5000)])
  else none

/-- The creation of the tunnel `api`. -/
def sampleCreate : Event :=
  ⟨⟨⟨0, 0⟩, #v[0x0123456789abcdef, 1, 2, 3], 0⟩, .request (.create sampleBody)⟩

/-- The SHA-256 digests of the token of `sampleCreate`, of the one generated from 5 in place
of its first number and, for any other text, of the one from 6. -/
def tokenSha256 (token : Str) : Digest :=
  if token = generateToken sampleCreate.env.random then
    ⟨[229, 78, 1, 252, 49, 157, 168, 121, 112, 171, 200, 206, 159, 199, 181, 33,
      199, 203, 27, 253, 120, 157, 192, 192, 161, 109, 182, 53, 212, 245, 255, 179], rfl⟩
  else if token = generateToken #v[5, 1, 2, 3] then
    ⟨[84, 125, 195, 202, 40, 176, 175, 36, 165, 115, 19, 172, 229, 203, 223, 255,
      10, 87, 65, 161, 184, 35, 84, 203, 87, 163, 91, 13, 46, 184, 137, 158], rfl⟩
  else
    ⟨[51, 132, 157, 195, 180, 153, 195, 55, 146, 221, 189, 112, 35, 80, 169, 196,
      135, 112, 30, 92, 46, 215, 31, 92, 170, 94, 253, 198, 191, 139, 195, 53], rfl⟩

/-- What the creation of `api` returns. -/
def sampleIssue : Issue :=
  ⟨"api".toList,
    "0123456789abcdef000000000000000100000000000000020000000000000003".toList, seconds 31536000⟩

theorem sampleIssue_mem :
    sampleIssue ∈ current (run (step sampleParse sampleSha256) World.init [sampleCreate]).history :=
  by decide

/-- One second after its creation the token of `api` is rejected. -/
theorem issued_never_authenticates_api :
    validate sampleSha256
        ((run (step sampleParse sampleSha256) World.init [sampleCreate]).handler.tokenCache.live
          (seconds 1)) (seconds 1) ("Bearer ".toList ++ sampleIssue.token) =
      .failure "INVALID_FORMAT".toList "Authorization header must be 'Bearer tnl_...'".toList :=
  (issued_never_authenticates sampleParse sampleSha256 [sampleCreate] sampleIssue
    sampleIssue_mem).1 ⟨seconds 1, seconds 1⟩ _

theorem not_issuedAuthenticate_api :
    ¬ ∀ evs, Always (step sampleParse sampleSha256) (IssuedAuthenticate sampleSha256)
      World.init evs := by
  intro H
  have hw := always_iff_run.mp (H [sampleCreate]) _ (List.prefix_refl _)
  have hvalid := hw sampleIssue sampleIssue_mem ⟨0, 0⟩ (by decide) _ (List.Perm.refl _)
  have htoken : sampleIssue.token = generateToken sampleCreate.env.random := by decide
  rw [htoken, validate_hex (mem_generateToken _)] at hvalid
  exact absurd (congrArg ValidationResult.valid hvalid) (by decide)

end Protogate.Api
