import Protogate.Lib.Run
import Protogate.Security.TokenValidator
import Mathlib.Data.Set.Card
import Mathlib.Tactic.Common

/-!
# Histories of token operations

A run of the validator is a list of calls, each with the clocks it read.  The
world keeps, next to the cache, the history of the run; which tokens a tunnel
should have is a function of that history alone.  `CacheInv` ties the two
together: the entry under a tunnel id is the token last added for it, the entry
under the derived key is the token its last successful rotation replaced.

`step` computes the expiries in the integers, `step64` in 64 bits; `run_step64` says that
they take the same runs where every expiry fits.

## Main definitions

* `Call`, `Event`, `World`, `step` — runs of the validator.
* `step64`, `run_step64` — runs with 64-bit expiries.
* `lastAdded`, `lastReplaced` — the two tokens of a tunnel, read off a history.
* `CacheInv`, `cacheInv_run` — the invariant.
* `Accepted`, `acceptance_sound` — which tokens can validate.
-/

namespace Protogate.Security

open Protogate.Lib Protogate.Storage

/-- One call that changes the token cache. -/
inductive Call
  | addToken (tunnelId : Str) (token : AuthToken) (ttl : ℤ)
  | revokeToken (tunnelId : Str)
  | rotateToken (tunnelId : Str) (newToken : AuthToken) (gracePeriod : ℤ)
  deriving DecidableEq, Repr

/-- The tunnel id a call is about. -/
def Call.tunnelId : Call → Str
  | .addToken t _ _ => t
  | .revokeToken t => t
  | .rotateToken t _ _ => t

/-- The effect of a call on the cache at steady-clock time `now`. -/
def Call.perform (c : TokenCache) (now : ℤ) : Call → TokenCache
  | .addToken t a ttl => Security.addToken c now t a ttl
  | .revokeToken t => Security.revokeToken c t
  | .rotateToken t new grace => Security.rotateToken c now t new grace

/-- The old token a rotation finds. -/
def Call.finds (c : TokenCache) (now : ℤ) : Call → Option AuthToken
  | .rotateToken t _ _ => c.get now t
  | _ => none

/-- A call and the clocks it reads. -/
structure Event where
  clock : Clock
  call : Call
  deriving DecidableEq, Repr

/-- What is remembered of a call: when it ran and the old token it found. -/
structure Record extends Event where
  oldToken : Option AuthToken
  deriving DecidableEq, Repr

/-- The cache and the history of the run, newest call first. -/
structure World where
  cache : TokenCache
  history : List Record

/-- A validator over a new cache. -/
def World.init : World := ⟨Cache.empty, []⟩

def step (w : World) (e : Event) : World :=
  { cache := e.call.perform w.cache e.clock.steady
    history := ⟨e, e.call.finds w.cache e.clock.steady⟩ :: w.history }

/-! ## Runs in 64 bits -/

/-- The effect of a call as the source computes it. -/
def Call.perform64 (c : TokenCache) (now : ℤ) : Call → TokenCache
  | .addToken t a ttl => addToken64 c now t a ttl
  | .revokeToken t => Security.revokeToken c t
  | .rotateToken t new grace => rotateToken64 c now t new grace

def step64 (w : World) (e : Event) : World :=
  { cache := e.call.perform64 w.cache e.clock.steady
    history := ⟨e, e.call.finds w.cache e.clock.steady⟩ :: w.history }

/-- No time of expiry that the call computes leaves the 64 bits. -/
def Event.Fits (e : Event) : Prop :=
  match e.call with
  | .addToken _ _ ttl => Storage.Fits e.clock.steady ttl
  | .revokeToken _ => True
  | .rotateToken _ _ grace =>
      Storage.Fits e.clock.steady addTokenTtl ∧ Storage.Fits e.clock.steady grace

instance : (e : Event) → Decidable e.Fits
  | ⟨clock, .addToken _ _ ttl⟩ => inferInstanceAs (Decidable (Storage.Fits clock.steady ttl))
  | ⟨_, .revokeToken _⟩ => inferInstanceAs (Decidable True)
  | ⟨clock, .rotateToken _ _ grace⟩ =>
      inferInstanceAs (Decidable
        (Storage.Fits clock.steady addTokenTtl ∧ Storage.Fits clock.steady grace))

theorem step64_eq {e : Event} (h : e.Fits) (w : World) : step64 w e = step w e := by
  obtain ⟨clock, call⟩ := e
  have hcache : call.perform64 w.cache clock.steady = call.perform w.cache clock.steady := by
    cases call with
    | addToken t a ttl => exact addToken64_eq h w.cache t a
    | revokeToken t => rfl
    | rotateToken t new grace => exact rotateToken64_eq h.1 h.2 w.cache t new
  rw [step64, step, hcache]

/-- Where every expiry fits, the 64 bits make no difference to a run. -/
theorem run_step64 {evs : List Event} (h : ∀ e ∈ evs, e.Fits) (w : World) :
    run step64 w evs = run step w evs := by
  induction evs generalizing w with
  | nil => rfl
  | cons e evs ih =>
      obtain ⟨he, hevs⟩ := List.forall_mem_cons.mp h
      rw [run_cons, run_cons, step64_eq he, ih hevs]

/-! ## What a history says -/

/-- The token last added for `t`, by `add_token` or a rotation, and not revoked since. -/
def lastAdded (t : Str) : List Record → Option AuthToken
  | [] => none
  | r :: h =>
      match r.call with
      | .addToken t' a _ => if t' = t then some a else lastAdded t h
      | .rotateToken t' a _ => if t' = t then some a else lastAdded t h
      | .revokeToken t' => if t' = t then none else lastAdded t h

/-- A grace period: the token replaced, and when the rotation ran. -/
structure Window where
  tunnelId : Str
  token : AuthToken
  openedAt : Clock
  gracePeriod : ℤ
  deriving DecidableEq, Repr

/-- The steady-clock time at which the grace period ends. -/
def Window.closesAt (win : Window) : ℤ := win.openedAt.steady + seconds win.gracePeriod

/-- The grace period of the last rotation of `t` that found an old token: what it
replaced is the token last added before it. -/
def lastReplaced (t : Str) : List Record → Option Window
  | [] => none
  | r :: h =>
      match r.call with
      | .rotateToken t' _ grace =>
          if t' = t ∧ r.oldToken.isSome then
            (lastAdded t h).map (⟨t, ·, r.clock, grace⟩)
          else lastReplaced t h
      | _ => lastReplaced t h

/-! ## The invariant -/

/-- What the entries of the cache are, in terms of the history, when tunnel ids
contain no colon. -/
structure CacheInv (w : World) : Prop where
  /-- Every key is a tunnel id or derived from one. -/
  keys : ∀ k e, w.cache.entries.lookup k = some e → ∃ t, ':' ∉ t ∧ (k = t ∨ k = oldKey t)
  /-- The entry of a tunnel holds the token last added for it. -/
  current : ∀ t e, ':' ∉ t → w.cache.entries.lookup t = some e →
    lastAdded t w.history = some e.value
  /-- The derived entry holds the token last replaced and expires with its grace period. -/
  replaced : ∀ t e, ':' ∉ t → w.cache.entries.lookup (oldKey t) = some e →
    ∃ win, lastReplaced t w.history = some win ∧ win.token = e.value ∧
      win.closesAt = e.expiresAt

theorem cacheInv_init : CacheInv World.init where
  keys := by intro k e h; simp [World.init] at h
  current := by intro t e _ h; simp [World.init] at h
  replaced := by intro t e _ h; simp [World.init] at h

theorem ne_oldKey_of_colon {t u : Str} (ht : ':' ∉ t) : t ≠ oldKey u := by
  rintro rfl
  exact ht (colon_mem_oldKey u)

/-- After an insertion the entry of a tunnel is the one inserted, or the one before. -/
private theorem CacheInv.current_insert {w : World} (H : CacheInv w) {t u : Str} (hu : ':' ∉ u)
    {a : AuthToken} {expiresAt : ℤ} {e : Entry AuthToken}
    (h : (if u = t then some ⟨a, expiresAt⟩ else w.cache.entries.lookup u) = some e) :
    (if t = u then some a else lastAdded u w.history) = some e.value := by
  by_cases hut : u = t
  · subst hut
    simp only [if_true, Option.some.injEq] at h ⊢
    rw [← h]
  · rw [if_neg hut] at h
    rw [if_neg (Ne.symm hut)]
    exact H.current u e hu h

private theorem cacheInv_put {w : World} (H : CacheInv w) (clock : Clock) {t : Str}
    (ht : ':' ∉ t) (a : AuthToken) (ttl : ℤ) :
    CacheInv (step w ⟨clock, .addToken t a ttl⟩) where
  keys := by
    intro k e h
    simp only [step, Call.perform, addToken, Cache.lookup_put] at h
    split at h
    · exact ⟨t, ht, .inl ‹_›⟩
    · exact H.keys k e h
  current := by
    intro u e hu h
    simp only [step, Call.perform, addToken, Cache.lookup_put] at h
    simp only [step, lastAdded]
    exact H.current_insert hu h
  replaced := by
    intro u e hu h
    simp only [step, Call.perform, addToken, Cache.lookup_put] at h
    rw [if_neg (ne_oldKey_of_colon ht).symm] at h
    exact H.replaced u e hu h

private theorem cacheInv_revoke {w : World} (H : CacheInv w) (clock : Clock) {t : Str}
    (ht : ':' ∉ t) : CacheInv (step w ⟨clock, .revokeToken t⟩) where
  keys := by
    intro k e h
    simp only [step, Call.perform, revokeToken, Cache.lookup_remove] at h
    split at h
    · cases h
    · exact H.keys k e h
  current := by
    intro u e hu h
    simp only [step, Call.perform, revokeToken, Cache.lookup_remove] at h
    simp only [step, lastAdded]
    by_cases hut : u = t
    · simp [hut] at h
    · rw [if_neg hut] at h
      rw [if_neg (Ne.symm hut)]
      exact H.current u e hu h
  replaced := by
    intro u e hu h
    simp only [step, Call.perform, revokeToken, Cache.lookup_remove] at h
    rw [if_neg (ne_oldKey_of_colon ht).symm] at h
    exact H.replaced u e hu h

/-- Without an old token a rotation is an `add_token` with the default ttl. -/
private theorem cacheInv_rotate_of_none {w : World} (H : CacheInv w) (clock : Clock) {t : Str}
    (ht : ':' ∉ t) (new : AuthToken) (grace : ℤ) (hget : w.cache.get clock.steady t = none) :
    CacheInv (step w ⟨clock, .rotateToken t new grace⟩) := by
  have hlook : ∀ k, (step w ⟨clock, .rotateToken t new grace⟩).cache.entries.lookup k =
      if k = t then some ⟨new, clock.steady + seconds addTokenTtl⟩
      else w.cache.entries.lookup k := by
    intro k
    simp only [step, Call.perform, lookup_rotateToken, hget]
  have hadd := cacheInv_put H clock ht new addTokenTtl
  refine ⟨?_, ?_, ?_⟩
  · intro k e h
    rw [hlook] at h
    exact hadd.keys k e (by simpa [step, Call.perform, addToken] using h)
  · intro u e hu h
    rw [hlook] at h
    exact hadd.current u e hu (by simpa [step, Call.perform, addToken] using h)
  · intro u e hu h
    rw [hlook, if_neg (ne_oldKey_of_colon ht).symm] at h
    simpa [step, lastReplaced, Call.finds, hget] using H.replaced u e hu h

/-- A token that is found is kept under the other key for the time of grace. -/
private theorem cacheInv_rotate_of_some {w : World} (H : CacheInv w) (clock : Clock) {t : Str}
    (ht : ':' ∉ t) (new : AuthToken) (grace : ℤ) {old : AuthToken}
    (hget : w.cache.get clock.steady t = some old) :
    CacheInv (step w ⟨clock, .rotateToken t new grace⟩) := by
  have hlook : ∀ k, (step w ⟨clock, .rotateToken t new grace⟩).cache.entries.lookup k =
      if k = oldKey t then some ⟨old, clock.steady + seconds grace⟩
      else if k = t then some ⟨new, clock.steady + seconds addTokenTtl⟩
      else w.cache.entries.lookup k := by
    intro k
    simp only [step, Call.perform, lookup_rotateToken, hget]
  have hlast : lastAdded t w.history = some old := by
    obtain ⟨e, he, rfl, _⟩ := Cache.get_eq_some_iff.mp hget
    exact H.current t e ht he
  refine ⟨?_, ?_, ?_⟩
  · intro k e h
    rw [hlook] at h
    split at h
    · exact ⟨t, ht, .inr ‹_›⟩
    split at h
    · exact ⟨t, ht, .inl ‹_›⟩
    · exact H.keys k e h
  · intro u e hu h
    rw [hlook, if_neg (ne_oldKey_of_colon hu)] at h
    simp only [step, lastAdded]
    exact H.current_insert hu h
  · intro u e hu h
    rw [hlook] at h
    simp only [step, lastReplaced, Call.finds, hget, Option.isSome_some, and_true]
    by_cases hut : u = t
    · subst hut
      simp only [if_true, Option.some.injEq] at h
      subst h
      simp [hlast, Window.closesAt]
    · rw [if_neg (by simpa using hut), if_neg (ne_oldKey_of_colon ht).symm] at h
      rw [if_neg (Ne.symm hut)]
      exact H.replaced u e hu h

private theorem cacheInv_rotate {w : World} (H : CacheInv w) (clock : Clock) {t : Str}
    (ht : ':' ∉ t) (new : AuthToken) (grace : ℤ) :
    CacheInv (step w ⟨clock, .rotateToken t new grace⟩) := by
  cases hget : w.cache.get clock.steady t with
  | none => exact cacheInv_rotate_of_none H clock ht new grace hget
  | some old => exact cacheInv_rotate_of_some H clock ht new grace hget

/-- The call is about a tunnel whose id contains no colon. -/
def NoColon (_ : World) (e : Event) : Prop := ':' ∉ e.call.tunnelId

instance (w : World) (e : Event) : Decidable (NoColon w e) :=
  inferInstanceAs (Decidable (':' ∉ e.call.tunnelId))

theorem cacheInv_step (w : World) (e : Event) (H : CacheInv w) (he : NoColon w e) :
    CacheInv (step w e) := by
  obtain ⟨clock, call⟩ := e
  cases call with
  | addToken t a ttl => exact cacheInv_put H clock he a ttl
  | revokeToken t => exact cacheInv_revoke H clock he
  | rotateToken t new grace => exact cacheInv_rotate H clock he new grace

/-- The cache agrees with the history after every run. -/
theorem cacheInv_run {evs : List Event} (H : Along step NoColon World.init evs) :
    CacheInv (run step World.init evs) :=
  run_induction CacheInv cacheInv_step cacheInv_init H

/-! ## Which tokens are accepted -/

/-- `hash` is the hash of an unexpired token that is the last one added for some
tunnel, or the one its last successful rotation replaced within the grace period. -/
def Accepted (history : List Record) (clock : Clock) (hash : Str) : Prop :=
  ∃ t a, a.tokenHash = hash ∧ clock.system < a.expiresAt ∧
    (lastAdded t history = some a ∨
      ∃ win, lastReplaced t history = some win ∧ win.token = a ∧ clock.steady < win.closesAt)

/-- The hashes accepted for tunnel `t`: under its id or the key derived from it,
in some order of the scan. -/
def acceptedFor (sha256 : Str → Digest) (w : World) (clock : Clock) (t : Str) : Set Str :=
  { hash | ∃ x order k, computeTokenHash sha256 x = hash ∧ w.cache.Visits clock.steady order ∧
      validateToken sha256 order clock.system x = .success k ∧ (k = t ∨ k = oldKey t) }

theorem accepted_of_valid {sha256 : Str → Digest} {w : World} (H : CacheInv w) {clock : Clock}
    {order : List (Str × AuthToken)} (hv : w.cache.Visits clock.steady order) {x : Str}
    (hvalid : (validateToken sha256 order clock.system x).valid = true) :
    Accepted w.history clock (computeTokenHash sha256 x) := by
  obtain ⟨k, a, ⟨hget, hexp⟩, hhash⟩ := (validateToken_valid_iff hv).mp hvalid
  obtain ⟨e, hlook, rfl, hlive⟩ := Cache.get_eq_some_iff.mp hget
  obtain ⟨t, ht, rfl | rfl⟩ := H.keys k e hlook
  · exact ⟨k, e.value, hhash, hexp, .inl (H.current k e ht hlook)⟩
  · obtain ⟨win, hwin, htok, hclose⟩ := H.replaced t e ht hlook
    exact ⟨t, e.value, hhash, hexp, .inr ⟨win, hwin, htok, hclose ▸ hlive⟩⟩

/-- At most the current and one replaced token are accepted for a tunnel. -/
theorem acceptedFor_subset (sha256 : Str → Digest) (w : World) (clock : Clock) (t : Str) :
    ∃ h₁ h₂, acceptedFor sha256 w clock t ⊆ {h₁, h₂} := by
  let hashUnder := fun k => ((w.cache.get clock.steady k).map AuthToken.tokenHash).getD []
  refine ⟨hashUnder t, hashUnder (oldKey t), ?_⟩
  rintro hash ⟨x, order, k, rfl, hv, hs, hk⟩
  obtain ⟨a, hget, hhash, _⟩ := exists_of_validateToken hv hs
  rcases hk with rfl | rfl
  · left; simp [hashUnder, hget, hhash]
  · right; simp [hashUnder, hget, hhash]

/-- The clocks of the calls and of the time after them do not go back. -/
def ClocksForward (evs : List Event) (clock : Clock) : Prop :=
  (evs.map (·.clock) ++ [clock]).Pairwise fun a b => a.steady ≤ b.steady ∧ a.system ≤ b.system

instance (evs : List Event) (clock : Clock) : Decidable (ClocksForward evs clock) :=
  inferInstanceAs (Decidable (List.Pairwise _ _))

end Protogate.Security
