import Protogate.Api.IssuedTokens
import Mathlib.Logic.Function.Basic

/-!
# Creating one tunnel concurrently

`handle_create_tunnel` looks the id up, stores the token and stores the tunnel in
three separately locked operations, so requests for one id can interleave between
them.  A request that has found the id free goes on to be answered 201 whatever the
others do.

## Main definitions

* `Creation`, `Creations`, `createStep` — requests between their operations.
* `creation_alone` — a request that is not interrupted does what the handler does.
* `CreatedOnce` — one 201 at most, and its token is the stored one.
* `ChecksAlone` — no request finds the id free after another one has.
* `createdOnce_iff` — exactly then the tunnel is created once.
-/

namespace Protogate.Api

open Protogate.Lib Protogate.Models Protogate.Security Protogate.Storage

/-- How far a create request has come. -/
inductive Creation
  | start
  | checked (tunnel : Tunnel)
  | tokenStored (tunnel : Tunnel) (token : Str) (authToken : AuthToken)
  | answered (response : HttpResponse)

/-- The shared state and the requests by number. -/
structure Creations where
  handler : Handler
  progress : ℕ → Creation

/-- The next operation of a request, and what it reads then. -/
structure Operation where
  request : ℕ
  env : Surroundings

def Creations.advance (s : Creations) (i : ℕ) (c : Creation) : Creations :=
  { s with progress := Function.update s.progress i c }

section
variable (parse : Str → Option Json) (sha256 : Str → Digest) (body : ℕ → Str)

/-- Up to and including the lookup of the id. -/
def checkId (s : Handler) (env : Surroundings) (text : Str) : Creation :=
  match parse text with
  | none => .answered (.setError ⟨400, "Invalid JSON in request body".toList⟩)
  | some json =>
      match tunnelOfBody env json with
      | .error e => .answered (.setError e)
      | .ok tunnel =>
          match validateTunnelConfig tunnel with
          | some error => .answered (.setError ⟨400, error⟩)
          | none =>
              if (s.tunnelCache.get env.clock.steady tunnel.tunnelId).isSome then
                .answered (.setError ⟨409, "Tunnel with this ID already exists".toList⟩)
              else .checked tunnel

/-- One locked operation of a request. -/
def createStep (s : Creations) (o : Operation) : Creations :=
  match s.progress o.request with
  | .start => s.advance o.request (checkId parse s.handler o.env (body o.request))
  | .checked tunnel =>
      let token := generateToken o.env.random
      let authToken := issueToken sha256 o.env.clock tunnel.tunnelId token
      { s.advance o.request (.tokenStored tunnel token authToken) with
        handler := { s.handler with
          tokenCache := s.handler.tokenCache.put o.env.clock.steady tunnel.tunnelId authToken yearTtl } }
  | .tokenStored tunnel token authToken =>
      { s.advance o.request (.answered (createdResponse tunnel token authToken)) with
        handler := { s.handler with
          tunnelCache := s.handler.tunnelCache.put o.env.clock.steady tunnel.tunnelId tunnel yearTtl } }
  | .answered _ => s

/-- No request has begun. -/
def Creations.begin (s : Handler) : Creations := ⟨s, fun _ => .start⟩

/-- **A request that is not interrupted** does what the handler does. -/
theorem creation_alone (s : Handler) (i : ℕ) (env : Surroundings) :
    let q := run (createStep parse sha256 body) (.begin s) (List.replicate 3 ⟨i, env⟩)
    q.progress i = .answered (handleCreateTunnel parse sha256 s env (body i)).1 ∧
      q.handler = (handleCreateTunnel parse sha256 s env (body i)).2 := by
  simp only [handleCreateTunnel, List.replicate, run_cons, run_nil]
  cases hparse : parse (body i) with
  | none => simp [createStep, Creations.begin, Creations.advance, checkId, hparse]
  | some json =>
      cases htunnel : tunnelOfBody env json with
      | error e => simp [createStep, Creations.begin, Creations.advance, checkId, hparse, htunnel]
      | ok tunnel =>
          cases hvalid : validateTunnelConfig tunnel with
          | some error =>
              simp [createStep, Creations.begin, Creations.advance, checkId, hparse, htunnel,
                createTunnel, hvalid]
          | none =>
              by_cases hfound : (s.tunnelCache.get env.clock.steady tunnel.tunnelId).isSome
              · simp [createStep, Creations.begin, Creations.advance, checkId, hparse, htunnel,
                  createTunnel, hvalid, hfound]
              · simp [createStep, Creations.begin, Creations.advance, checkId, hparse, htunnel,
                  createTunnel, hvalid, hfound]

end

/-! ## Created once -/

/-- The request has found the id free. -/
def Creation.Passed : Creation → Prop
  | .start => False
  | .checked _ | .tokenStored _ _ _ => True
  | .answered response => response.statusCode = 201

/-- One request at most is answered 201 and the others are answered 409; and the hash
stored under the id is that of the token in the 201. -/
structure CreatedOnce (sha256 : Str → Digest) (id : Str) (s : Creations) : Prop where
  unique : ∀ i j r r', s.progress i = .answered r → s.progress j = .answered r' →
    r.statusCode = 201 → r'.statusCode = 201 → i = j
  status : ∀ i r, s.progress i = .answered r → r.statusCode = 201 ∨ r.statusCode = 409
  stored : ∀ i r, s.progress i = .answered r → r.statusCode = 201 →
    ∃ token e, r.token = some token ∧ s.handler.tokenCache.entries.lookup id = some e ∧
      e.value.tokenHash = computeTokenHash sha256 token

/-- The body of every request is valid and names the tunnel `id`. -/
def ValidBodies (parse : Str → Option Json) (body : ℕ → Str) (id : Str) : Prop :=
  ∀ i env, ∃ json tunnel, parse (body i) = some json ∧ tunnelOfBody env json = .ok tunnel ∧
    validateTunnelConfig tunnel = none ∧ tunnel.tunnelId = id

/-- When a lookup finds the id free, no other request has found it free before. -/
def ChecksAlone (id : Str) (s : Creations) (o : Operation) : Prop :=
  s.progress o.request = .start → s.handler.tunnelCache.get o.env.clock.steady id = none →
    ∀ j, ¬ (s.progress j).Passed

/-- No request is between two of its operations. -/
def Creations.Settled (s : Creations) : Prop :=
  ∀ i, s.progress i = .start ∨ ∃ r, s.progress i = .answered r

section
variable {parse : Str → Option Json} {sha256 : Str → Digest} {body : ℕ → Str} {id : Str}

/-- The lookup of a valid request for the id. -/
theorem checkId_of_valid (hvalid : ValidBodies parse body id) (s : Handler) (env : Surroundings)
    (i : ℕ) :
    ((s.tunnelCache.get env.clock.steady id).isSome ∧ checkId parse s env (body i) =
        .answered (.setError ⟨409, "Tunnel with this ID already exists".toList⟩)) ∨
      (s.tunnelCache.get env.clock.steady id = none ∧ ∃ tunnel, tunnel.tunnelId = id ∧
        checkId parse s env (body i) = .checked tunnel) := by
  obtain ⟨json, tunnel, hparse, htunnel, hnone, rfl⟩ := hvalid i env
  simp only [checkId, hparse, htunnel, hnone]
  by_cases hfound : (s.tunnelCache.get env.clock.steady tunnel.tunnelId).isSome
  · left
    exact ⟨hfound, by rw [if_pos hfound]⟩
  · right
    refine ⟨by simpa using hfound, tunnel, rfl, ?_⟩
    rw [if_neg hfound]

variable (sha256) in
/-- **What an operation does**, for valid requests: it finds the id taken, finds it free,
stores a token or stores the tunnel; or the request has been answered. -/
theorem createStep_cases (hvalid : ValidBodies parse body id) (s : Creations) (o : Operation) :
    (s.progress o.request = .start ∧ (s.handler.tunnelCache.get o.env.clock.steady id).isSome ∧
      createStep parse sha256 body s o = s.advance o.request
        (.answered (.setError ⟨409, "Tunnel with this ID already exists".toList⟩))) ∨
    (s.progress o.request = .start ∧ s.handler.tunnelCache.get o.env.clock.steady id = none ∧
      ∃ tunnel, tunnel.tunnelId = id ∧
        createStep parse sha256 body s o = s.advance o.request (.checked tunnel)) ∨
    (∃ tunnel token a, s.progress o.request = .checked tunnel ∧
      a.tokenHash = computeTokenHash sha256 token ∧
      createStep parse sha256 body s o =
        { s.advance o.request (.tokenStored tunnel token a) with
          handler := { s.handler with
            tokenCache :=
              s.handler.tokenCache.put o.env.clock.steady tunnel.tunnelId a yearTtl } }) ∨
    (∃ tunnel token a, s.progress o.request = .tokenStored tunnel token a ∧
      createStep parse sha256 body s o =
        { s.advance o.request (.answered (createdResponse tunnel token a)) with
          handler := { s.handler with
            tunnelCache :=
              s.handler.tunnelCache.put o.env.clock.steady tunnel.tunnelId tunnel yearTtl } }) ∨
    (∃ r, s.progress o.request = .answered r ∧ createStep parse sha256 body s o = s) := by
  cases hprogress : s.progress o.request with
  | start =>
      have hstep : createStep parse sha256 body s o =
          s.advance o.request (checkId parse s.handler o.env (body o.request)) := by
        simp only [createStep, hprogress]
      obtain ⟨hfound, hcheck⟩ | ⟨hfree, tunnel, hid, hcheck⟩ :=
        checkId_of_valid hvalid s.handler o.env o.request
      · exact .inl ⟨rfl, hfound, by rw [hstep, hcheck]⟩
      · exact .inr (.inl ⟨rfl, hfree, tunnel, hid, by rw [hstep, hcheck]⟩)
  | checked tunnel =>
      refine .inr (.inr (.inl ⟨tunnel, generateToken o.env.random,
        issueToken sha256 o.env.clock tunnel.tunnelId (generateToken o.env.random), rfl, rfl, ?_⟩))
      simp only [createStep, hprogress]
  | tokenStored tunnel token a =>
      exact .inr (.inr (.inr (.inl ⟨tunnel, token, a, rfl, by simp only [createStep, hprogress]⟩)))
  | answered r => exact .inr (.inr (.inr (.inr ⟨r, rfl, by simp only [createStep, hprogress]⟩)))

/-- What is known of a request: it works on the id, an answer is a 201 or a 409, and from the
time it has stored its token this is the one stored. -/
def Consistent (sha256 : Str → Digest) (id : Str) (s : Creations) : Creation → Prop
  | .start => True
  | .checked tunnel => tunnel.tunnelId = id
  | .tokenStored tunnel token a => tunnel.tunnelId = id ∧ a.tokenHash = computeTokenHash sha256 token ∧
      ∃ e, s.handler.tokenCache.entries.lookup id = some e ∧ e.value = a
  | .answered r => r.statusCode = 409 ∨ (r.statusCode = 201 ∧ ∃ token e, r.token = some token ∧
      s.handler.tokenCache.entries.lookup id = some e ∧
        e.value.tokenHash = computeTokenHash sha256 token)

/-- One request at most has found the id free, and what is known of each holds. -/
structure OnePassed (sha256 : Str → Digest) (id : Str) (s : Creations) : Prop where
  unique : ∀ i j, (s.progress i).Passed → (s.progress j).Passed → i = j
  consistent : ∀ i, Consistent sha256 id s (s.progress i)

theorem OnePassed.createdOnce {s : Creations} (H : OnePassed sha256 id s) :
    CreatedOnce sha256 id s where
  unique := by
    intro i j r r' hi hj hr hr'
    refine H.unique i j ?_ ?_
    · rw [hi]
      exact hr
    · rw [hj]
      exact hr'
  status := by
    intro i r hi
    have hconsistent := H.consistent i
    rw [hi] at hconsistent
    obtain h409 | ⟨h201, _⟩ := hconsistent
    · exact .inr h409
    · exact .inl h201
  stored := by
    intro i r hi hr
    have hconsistent := H.consistent i
    rw [hi] at hconsistent
    obtain h409 | ⟨_, hstored⟩ := hconsistent
    · rw [hr] at h409
      cases h409
    · exact hstored

/-- The token store of another request only matters to those that have passed. -/
theorem Consistent.congr {s s' : Creations} {c : Creation} (h : Consistent sha256 id s c)
    (hsame : ¬ c.Passed ∨
      s'.handler.tokenCache.entries.lookup id = s.handler.tokenCache.entries.lookup id) :
    Consistent sha256 id s' c := by
  obtain hno | hlookup := hsame
  · cases c with
    | start => trivial
    | checked tunnel => exact absurd trivial hno
    | tokenStored tunnel token a => exact absurd trivial hno
    | answered r =>
        obtain h409 | ⟨h201, _⟩ := h
        · exact .inl h409
        · exact absurd h201 hno
  · cases c with
    | start => trivial
    | checked tunnel => exact h
    | tokenStored tunnel token a =>
        simp only [Consistent, hlookup]
        exact h
    | answered r =>
        simp only [Consistent, hlookup]
        exact h

theorem progress_advance (s : Creations) (i j : ℕ) (c : Creation) :
    (s.advance i c).progress j = if j = i then c else s.progress j :=
  Function.update_apply s.progress i c j

/-- An operation after which the requests that have passed are those from before, with
whatever it needs to store. -/
theorem OnePassed.advance {s : Creations} (H : OnePassed sha256 id s) {i : ℕ} {c : Creation}
    {handler : Handler} (hpassed : c.Passed → (s.progress i).Passed)
    (hstore : handler.tokenCache.entries.lookup id = s.handler.tokenCache.entries.lookup id ∨
      (s.progress i).Passed)
    (hc : Consistent sha256 id { s.advance i c with handler := handler } c) :
    OnePassed sha256 id { s.advance i c with handler := handler } where
  unique := by
    have hback : ∀ j, ((s.advance i c).progress j).Passed → (s.progress j).Passed := by
      intro j hj
      rw [progress_advance] at hj
      split at hj
      · rename_i heq
        rw [heq]
        exact hpassed hj
      · exact hj
    exact fun j k hj hk => H.unique j k (hback j hj) (hback k hk)
  consistent := by
    intro j
    have hj := H.consistent j
    simp only [progress_advance]
    by_cases hji : j = i
    · rw [if_pos hji]
      exact hc
    · rw [if_neg hji]
      refine hj.congr ?_
      obtain hsame | hi := hstore
      · exact .inr hsame
      · exact .inl fun hjp => hji (H.unique j i hjp hi)

/-- **Every operation** before which the id is not found free a second time keeps it so. -/
theorem onePassed_step (hvalid : ValidBodies parse body id) (s : Creations) (o : Operation)
    (H : OnePassed sha256 id s) (halone : ChecksAlone id s o) :
    OnePassed sha256 id (createStep parse sha256 body s o) := by
  rcases createStep_cases sha256 hvalid s o with
    ⟨hstart, _, hstep⟩ | ⟨hstart, hfree, tunnel, hid, hstep⟩ |
      ⟨tunnel, token, a, hprogress, hhash, hstep⟩ | ⟨tunnel, token, a, hprogress, hstep⟩ |
        ⟨r, _, hstep⟩
  · rw [hstep]
    change OnePassed sha256 id { s.advance o.request _ with handler := s.handler }
    exact H.advance (fun h => by cases h) (.inl rfl) (.inl rfl)
  · -- this is the first request to find it free
    have hnone := halone hstart hfree
    rw [hstep]
    refine ⟨?_, ?_⟩
    · intro j k hj hk
      rw [progress_advance] at hj hk
      have hj' : j = o.request := by
        by_contra hne
        rw [if_neg hne] at hj
        exact hnone j hj
      have hk' : k = o.request := by
        by_contra hne
        rw [if_neg hne] at hk
        exact hnone k hk
      rw [hj', hk']
    · intro j
      have hj := H.consistent j
      rw [progress_advance]
      split
      · exact hid
      · exact hj.congr (.inr rfl)
  · have hpassed : (s.progress o.request).Passed := by
      rw [hprogress]
      trivial
    have hid : tunnel.tunnelId = id := by
      have hconsistent := H.consistent o.request
      rw [hprogress] at hconsistent
      exact hconsistent
    rw [hstep]
    refine H.advance (fun _ => hpassed) (.inr hpassed) ⟨hid, hhash, ?_⟩
    rw [hid, Cache.lookup_put, if_pos rfl]
    exact ⟨_, rfl, rfl⟩
  · have hpassed : (s.progress o.request).Passed := by
      rw [hprogress]
      trivial
    have hconsistent := H.consistent o.request
    rw [hprogress] at hconsistent
    obtain ⟨_, hhash, e, hlookup, he⟩ := hconsistent
    rw [hstep]
    refine H.advance (fun _ => hpassed) (.inr hpassed) (.inr ⟨rfl, token, e, rfl, hlookup, ?_⟩)
    rw [he, hhash]
  · rw [hstep]
    exact H

/-- A request that has found the id free goes on. -/
theorem passed_step (hvalid : ValidBodies parse body id) {s : Creations} {j : ℕ}
    (h : (s.progress j).Passed) (o : Operation) :
    ((createStep parse sha256 body s o).progress j).Passed := by
  rcases createStep_cases sha256 hvalid s o with
    ⟨hstart, _, hstep⟩ | ⟨hstart, _, tunnel, _, hstep⟩ | ⟨tunnel, token, a, hprogress, _, hstep⟩ |
      ⟨tunnel, token, a, hprogress, hstep⟩ | ⟨r, _, hstep⟩
  · have hne : j ≠ o.request := by
      rintro rfl
      rw [hstart] at h
      exact h
    rwa [hstep, progress_advance, if_neg hne]
  · rw [hstep, progress_advance]
    split
    · trivial
    · exact h
  · simp only [hstep, progress_advance]
    split
    · trivial
    · exact h
  · simp only [hstep, progress_advance]
    split
    · exact rfl
    · exact h
  · rwa [hstep]

theorem passed_run (hvalid : ValidBodies parse body id) {s : Creations} {j : ℕ}
    (h : (s.progress j).Passed) (ops : List Operation) :
    ((run (createStep parse sha256 body) s ops).progress j).Passed :=
  run_invariant (fun s : Creations => (s.progress j).Passed) (fun _ o h => passed_step hvalid h o) h

/-- In a settled state the requests that have passed are answered 201. -/
theorem unique_of_createdOnce {s : Creations} (hsettled : s.Settled)
    (H : CreatedOnce sha256 id s) (i j : ℕ) (hi : (s.progress i).Passed)
    (hj : (s.progress j).Passed) : i = j := by
  have hanswer : ∀ k, (s.progress k).Passed → ∃ r, s.progress k = .answered r ∧ r.statusCode = 201 := by
    intro k hk
    obtain hstart | ⟨r, hr⟩ := hsettled k
    · rw [hstart] at hk
      exact hk.elim
    · rw [hr] at hk
      exact ⟨r, hr, hk⟩
  obtain ⟨r, hr, h201⟩ := hanswer i hi
  obtain ⟨r', hr', h201'⟩ := hanswer j hj
  exact H.unique i j r r' hr hr' h201 h201'

/-- If in the end one request at most has passed, none found the id free after another. -/
theorem along_of_unique (hvalid : ValidBodies parse body id) {s : Creations} {ops : List Operation}
    (H : ∀ i j, ((run (createStep parse sha256 body) s ops).progress i).Passed →
      ((run (createStep parse sha256 body) s ops).progress j).Passed → i = j) :
    Along (createStep parse sha256 body) (ChecksAlone id) s ops := by
  induction ops generalizing s with
  | nil => trivial
  | cons o ops ih =>
      refine ⟨?_, ih H⟩
      intro hstart hfree j hj
      have hpassed : ((createStep parse sha256 body s o).progress o.request).Passed := by
        rcases createStep_cases sha256 hvalid s o with
          ⟨_, hfound, _⟩ | ⟨_, _, tunnel, _, hstep⟩ | ⟨_, _, _, hprogress, _, _⟩ |
            ⟨_, _, _, hprogress, _⟩ | ⟨r, hprogress, _⟩
        · rw [hfree] at hfound
          cases hfound
        · rw [hstep, progress_advance, if_pos rfl]
          trivial
        · rw [hstart] at hprogress
          cases hprogress
        · rw [hstart] at hprogress
          cases hprogress
        · rw [hstart] at hprogress
          cases hprogress
      have hsame := H o.request j (passed_run hvalid hpassed ops)
        (passed_run hvalid (passed_step hvalid hj o) ops)
      rw [← hsame, hstart] at hj
      exact hj

theorem onePassed_begin (s : Handler) : OnePassed sha256 id (.begin s) where
  unique := fun _ _ h => h.elim
  consistent := fun _ => trivial

end

/-- **When a tunnel is created once.**  In every run of requests for one id, each check being
made while no other request has found the id free, the tunnel is created once at every moment;
and a run that leaves no request half done has created it once only if all checks were so. -/
theorem createdOnce_iff (parse : Str → Option Json) (sha256 : Str → Digest) (body : ℕ → Str)
    (id : Str) (hvalid : ValidBodies parse body id) (s : Handler) (ops : List Operation) :
    (Along (createStep parse sha256 body) (ChecksAlone id) (.begin s) ops →
      Always (createStep parse sha256 body) (CreatedOnce sha256 id) (.begin s) ops) ∧
    ((run (createStep parse sha256 body) (.begin s) ops).Settled →
      (CreatedOnce sha256 id (run (createStep parse sha256 body) (.begin s) ops) ↔
        Along (createStep parse sha256 body) (ChecksAlone id) (.begin s) ops)) := by
  have halways : Along (createStep parse sha256 body) (ChecksAlone id) (.begin s) ops →
      Always (createStep parse sha256 body) (CreatedOnce sha256 id) (.begin s) ops := by
    intro halong
    have hinv := always_of_invariant (OnePassed sha256 id) (onePassed_step hvalid)
      (onePassed_begin s) halong
    exact hinv.imp fun _ h => h.createdOnce
  refine ⟨halways, fun hsettled => ⟨?_, ?_⟩⟩
  · exact fun hcreated => along_of_unique hvalid (unique_of_createdOnce hsettled hcreated)
  · exact fun halong => always_iff_run.mp (halways halong) ops (List.prefix_refl ops)

/-! ## Runs -/

/-- Every request has the body that creates `api`. -/
theorem validBodies_sample : ValidBodies sampleParse (fun _ => sampleBody) "api".toList := by
  intro i env
  refine ⟨_, ⟨"api".toList, .http, "localhost".toList, 5000, [], env.rateLimitRpm, env.clock.system,
    env.clock.system, .active⟩, rfl, ?_, rfl, rfl⟩
  rfl

/-- An operation of request `i` of the creation of `api`. -/
def sampleOperation (i : ℕ) (word : UInt64) : Operation := ⟨i, ⟨⟨0, 0⟩, #v[word, 1, 2, 3], 0⟩⟩

/-- Two requests that pass the lookup one after the other, then store. -/
def overlapping : List Operation :=
  [sampleOperation 0 5, sampleOperation 1 6, sampleOperation 0 5, sampleOperation 1 6,
    sampleOperation 0 5, sampleOperation 1 6]

/-- The answers of the two requests, as status and token. -/
def answersOf (s : Creations) : List (Option (ℕ × Option Str)) :=
  [0, 1].map fun i =>
    match s.progress i with
    | .answered r => some (r.statusCode, r.token)
    | _ => none

/-- One request after the other: the second is refused. -/
theorem createdOnce_iff_inTurn :
    CreatedOnce tokenSha256 "api".toList
      (run (createStep sampleParse tokenSha256 fun _ => sampleBody) (.begin World.init.handler)
        [sampleOperation 0 5, sampleOperation 0 5, sampleOperation 0 5, sampleOperation 1 6]) := by
  refine always_iff_run.mp ((createdOnce_iff sampleParse tokenSha256 (fun _ => sampleBody)
    "api".toList validBodies_sample World.init.handler [sampleOperation 0 5, sampleOperation 0 5,
      sampleOperation 0 5, sampleOperation 1 6]).1 ?_) _ (List.prefix_refl _)
  refine ⟨fun _ _ j hj => hj, ?_, ?_, ?_, trivial⟩
  · intro h
    cases h
  · intro h
    cases h
  · intro _ hfree
    exact absurd hfree (by decide)

/-- Both requests are answered 201, each with a token of its own. -/
theorem not_createdOnce :
    answersOf (run (createStep sampleParse tokenSha256 fun _ => sampleBody)
        (.begin World.init.handler) overlapping) =
      [some (201, some (generateToken #v[5, 1, 2, 3])),
        some (201, some (generateToken #v[6, 1, 2, 3]))] ∧
    ¬ ∀ (parse : Str → Option Json) (sha256 : Str → Digest) (body : ℕ → Str) (id : Str)
      (s : Handler) (ops : List Operation), ValidBodies parse body id →
        CreatedOnce sha256 id (run (createStep parse sha256 body) (.begin s) ops) := by
  have hanswers : answersOf (run (createStep sampleParse tokenSha256 fun _ => sampleBody)
      (.begin World.init.handler) overlapping) =
        [some (201, some (generateToken #v[5, 1, 2, 3])),
          some (201, some (generateToken #v[6, 1, 2, 3]))] := by decide +kernel
  refine ⟨hanswers, ?_⟩
  intro hall
  have honce := hall sampleParse tokenSha256 (fun _ => sampleBody) "api".toList World.init.handler
    overlapping validBodies_sample
  generalize run (createStep sampleParse tokenSha256 fun _ => sampleBody)
    (.begin World.init.handler) overlapping = q at hanswers honce
  have hanswered : ∀ i token, (match q.progress i with
      | .answered r => some (r.statusCode, r.token)
      | _ => none) = some (201, some token) → ∃ r, q.progress i = .answered r ∧ r.statusCode = 201 := by
    intro i token h
    split at h
    · rename_i r hr
      exact ⟨r, hr, (Prod.mk.inj (Option.some.inj h)).1⟩
    · cases h
  simp only [answersOf, List.map_cons, List.map_nil, List.cons.injEq, and_true] at hanswers
  obtain ⟨r, hr, h201⟩ := hanswered 0 _ hanswers.1
  obtain ⟨r', hr', h201'⟩ := hanswered 1 _ hanswers.2
  exact absurd (honce.unique 0 1 r r' hr hr' h201 h201') (by decide)

end Protogate.Api
