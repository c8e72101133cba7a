import Protogate.Api.IssuedTokens

/-!
# Revocation

After `revoke_token(t)`, or a DELETE of `t` answered 204, no token issued for `t`
so far should validate again.  The operations remove the entry under `t` only; a
replaced token that is still in its grace period stays under `oldKey t`.

`Change` lists what one operation does to the token cache and what it issues or
revokes; `step_change` says that every operation does one of these, so the
results below are case analyses over it.

## Main definitions

* `minted`, `revoked` — the tokens issued and revoked, read off a history.
* `RevocationComplete` — no revoked token validates; a new one does.
* `LeavesNoCopy` — the revocation finds the tunnel's tokens under its id only.
* `revocation_complete` — runs whose steps leave no copy revoke completely.
-/

namespace Protogate.Api

open Protogate.Lib Protogate.Security Protogate.Storage

/-! ## What a history issued and revoked -/

/-- A token put under a tunnel id, and the steady-clock time its entry expires. -/
structure Mint where
  tunnelId : Str
  token : AuthToken
  cachedUntil : ℤ
  deriving DecidableEq, Repr

/-- What an operation issued. -/
def Record.minted (sha256 : Str → Digest) (r : Record) : Option Mint :=
  match r.op, r.response with
  | .validator (.addToken t a ttl), _ => some ⟨t, a, r.env.clock.steady + seconds ttl⟩
  | .validator (.rotateToken t a _), _ =>
      some ⟨t, a, r.env.clock.steady + seconds addTokenTtl⟩
  | .request (.create _), some response => do
      let t ← response.tunnelId
      let token ← response.token
      return ⟨t, issueToken sha256 r.env.clock t token, r.env.clock.steady + seconds yearTtl⟩
  | .request (.rotateToken id), some response => do
      let token ← response.token
      return ⟨id, issueToken sha256 r.env.clock id token, r.env.clock.steady + seconds yearTtl⟩
  | _, _ => none

/-- The tunnel whose tokens an operation revoked. -/
def Record.revokes (r : Record) : Option Str :=
  match r.op, r.response with
  | .validator (.revokeToken t), _ => some t
  | .request (.delete id), some response => if response.statusCode = 204 then some id else none
  | _, _ => none

section
variable (sha256 : Str → Digest)

def minted (h : List Record) : List Mint := h.filterMap (·.minted sha256)

/-- The tunnel ids and hashes of the tokens issued before a revocation of their
tunnel and not issued again for it since. -/
def revoked : List Record → List (Str × Str)
  | [] => []
  | r :: h =>
      let before := (revoked h).filter fun p =>
        (r.minted sha256).all fun m => p ≠ (m.tunnelId, m.token.tokenHash)
      match r.revokes with
      | some t =>
          ((minted sha256 h).filter (·.tunnelId = t)).map (fun m => (t, m.token.tokenHash)) ++ before
      | none => before

end

/-- The clocks show a time not before any operation of the history. -/
def After (h : List Record) (clock : Clock) : Prop :=
  ∀ r ∈ h, r.env.clock.steady ≤ clock.steady ∧ r.env.clock.system ≤ clock.system

/-- No revoked token validates at any later time, in any order of the scan; and
a token validates as soon as it has been issued, while neither it nor its entry
expires. -/
structure RevocationComplete (sha256 : Str → Digest) (w : World) : Prop where
  gone : ∀ p ∈ revoked sha256 w.history, ∀ clock, After w.history clock →
    ∀ x, computeTokenHash sha256 x = p.2 →
      ∀ order, w.handler.tokenCache.Visits clock.steady order →
        (validateToken sha256 order clock.system x).valid = false
  fresh : ∀ r ∈ w.history.head?, ∀ m ∈ r.minted sha256, ∀ clock : Clock,
    clock.steady < m.cachedUntil → clock.system < m.token.expiresAt →
      ∀ x, computeTokenHash sha256 x = m.token.tokenHash →
        ∀ order, w.handler.tokenCache.Visits clock.steady order →
          (validateToken sha256 order clock.system x).valid = true

/-! ## When revocation is complete -/

/-- The tunnel whose tokens the operation is about to revoke. -/
def Event.revoking (s : Handler) (e : Event) : Option Str :=
  match e.op with
  | .validator (.revokeToken t) => some t
  | .request (.delete id) =>
      if (s.tunnelCache.get e.env.clock.steady id).isSome then some id else none
  | _ => none

/-- Every usable token that was issued for the tunnel about to be revoked is
cached under its id, not under another key. -/
def LeavesNoCopy (sha256 : Str → Digest) (w : World) (e : Event) : Prop :=
  ∀ t ∈ e.revoking w.handler, ∀ k a, Usable w.handler.tokenCache e.env.clock k a →
    ∀ m ∈ minted sha256 w.history, m.tunnelId = t → m.token.tokenHash = a.tokenHash → k = t

/-- The operation issues no token that was revoked for another tunnel; a
generated token is not a revoked one at all. -/
def IssuesNoRevoked (sha256 : Str → Digest) (w : World) (e : Event) : Prop :=
  match e.op with
  | .validator (.addToken t a _) | .validator (.rotateToken t a _) =>
      ∀ p ∈ revoked sha256 w.history, p.2 = a.tokenHash → p.1 = t
  | .request (.create _) | .request (.rotateToken _) =>
      ∀ p ∈ revoked sha256 w.history, p.2 ≠ computeTokenHash sha256 (generateToken e.env.random)
  | _ => True

/-- The condition on each step: the clocks do not go back, no copy is left and
no revoked token is issued again elsewhere. -/
def Clean (sha256 : Str → Digest) (w : World) (e : Event) : Prop :=
  After w.history e.env.clock ∧ LeavesNoCopy sha256 w e ∧ IssuesNoRevoked sha256 w e

instance (h : List Record) (clock : Clock) : Decidable (After h clock) :=
  inferInstanceAs (Decidable (∀ r ∈ h, _ ∧ _))

instance (sha256 : Str → Digest) (w : World) (e : Event) : Decidable (LeavesNoCopy sha256 w e) :=
  decidable_of_iff
    (∀ t ∈ e.revoking w.handler, ∀ p ∈ w.handler.tokenCache.live e.env.clock.steady,
      e.env.clock.system < p.2.expiresAt →
        ∀ m ∈ minted sha256 w.history, m.tunnelId = t → m.token.tokenHash = p.2.tokenHash →
          p.1 = t)
    ⟨fun H t ht k a hu => H t ht (k, a) (Cache.mem_live_iff.mpr hu.1) hu.2,
      fun H t ht p hp hexp => H t ht p.1 p.2 ⟨Cache.mem_live_iff.mp hp, hexp⟩⟩

instance (sha256 : Str → Digest) (w : World) : (e : Event) → Decidable (IssuesNoRevoked sha256 w e)
  | ⟨_, .validator (.addToken t a _)⟩ | ⟨_, .validator (.rotateToken t a _)⟩ =>
      inferInstanceAs (Decidable (∀ p ∈ revoked sha256 w.history, p.2 = a.tokenHash → p.1 = t))
  | ⟨env, .request (.create _)⟩ | ⟨env, .request (.rotateToken _)⟩ =>
      inferInstanceAs (Decidable (∀ p ∈ revoked sha256 w.history,
        p.2 ≠ computeTokenHash sha256 (generateToken env.random)))
  | ⟨_, .validator (.revokeToken _)⟩ | ⟨_, .request (.delete _)⟩ =>
      inferInstanceAs (Decidable True)

instance (sha256 : Str → Digest) (w : World) (e : Event) : Decidable (Clean sha256 w e) :=
  inferInstanceAs (Decidable (_ ∧ _ ∧ _))

/-! ## What an operation does to the cache -/

/-- The change of the token cache together with what is issued and revoked. -/
inductive Change (c : TokenCache) (clock : Clock) : TokenCache → Option Mint → Option Str → Prop
  | unchanged : Change c clock c none none
  | put (m : Mint) (ttl : ℤ) (hm : m.cachedUntil = clock.steady + seconds ttl) :
      Change c clock (c.put clock.steady m.tunnelId m.token ttl) (some m) none
  | rotate (m : Mint) (ttl : ℤ) (hm : m.cachedUntil = clock.steady + seconds ttl)
      (old : AuthToken) (hold : c.get clock.steady m.tunnelId = some old) (grace : ℤ) :
      Change c clock ((c.put clock.steady m.tunnelId m.token ttl).put clock.steady
        (oldKey m.tunnelId) old grace) (some m) none
  | remove (t : Str) : Change c clock (c.remove t) none (some t)

/-- No operation issues one token and revokes another. -/
theorem Change.minted_or_revokes {c c' : TokenCache} {clock : Clock} {mint : Option Mint}
    {rev : Option Str} (h : Change c clock c' mint rev) {m : Mint} (hm : mint = some m) :
    rev = none := by
  cases h with
  | unchanged => rfl
  | put m ttl hm => rfl
  | rotate m ttl hm old hold grace => rfl
  | remove t => cases hm

variable {parse : Str → Option Json} {sha256 : Str → Digest}

theorem call_change (c : TokenCache) (env : Surroundings) (call : Security.Call) :
    Change c env.clock (call.perform c env.clock.steady)
      (Record.minted sha256 ⟨⟨env, .validator call⟩, none⟩)
      (Record.revokes ⟨⟨env, .validator call⟩, none⟩) := by
  cases call with
  | addToken t a ttl => exact .put ⟨t, a, _⟩ ttl rfl
  | revokeToken t => exact .remove t
  | rotateToken t a grace =>
      let m : Mint := ⟨t, a, env.clock.steady + seconds addTokenTtl⟩
      simp only [Call.perform, rotateToken, Record.minted, Record.revokes]
      cases hold : c.get env.clock.steady t with
      | none => exact .put m addTokenTtl rfl
      | some old => exact .rotate m addTokenTtl rfl old hold grace

@[simp] theorem minted_setError (env : Surroundings) (q : Request) (e : Failure) :
    Record.minted sha256 ⟨⟨env, .request q⟩, some (.setError e)⟩ = none := by
  cases q <;> rfl

theorem revokes_setError (env : Surroundings) (q : Request) {e : Failure} (he : 400 ≤ e.code) :
    Record.revokes ⟨⟨env, .request q⟩, some (.setError e)⟩ = none := by
  have hcode : e.code ≠ 204 := by omega
  cases q with
  | create body => rfl
  | delete id => simp [Record.revokes, HttpResponse.setError, hcode]
  | rotateToken id => rfl

section
variable {w : World} {s' : Handler} {env : Surroundings} {q : Request} {response : HttpResponse}

theorem outcome_change (h : Outcome sha256 w.handler env q response s') :
    Change w.handler.tokenCache env.clock s'.tokenCache
      (Record.minted sha256 ⟨⟨env, .request q⟩, some response⟩)
      (Record.revokes ⟨⟨env, .request q⟩, some response⟩) := by
  cases h with
  | rejected q e he =>
      rw [minted_setError, revokes_setError env q he]
      exact .unchanged
  | created body t hid hnew =>
      exact .put ⟨t.tunnelId, issueToken sha256 env.clock t.tunnelId (generateToken env.random), _⟩
        yearTtl rfl
  | deleted id hfound => exact .remove id
  | rotated id old hfound hold =>
      exact .rotate ⟨id, issueToken sha256 env.clock id (generateToken env.random), _⟩
        yearTtl rfl old hold gracePeriodSeconds

/-- A DELETE answered 204 was about to revoke its tunnel. -/
theorem outcome_revoking (h : Outcome sha256 w.handler env q response s') {t : Str}
    (ht : Record.revokes ⟨⟨env, .request q⟩, some response⟩ = some t) :
    Event.revoking w.handler ⟨env, .request q⟩ = some t := by
  cases h with
  | rejected q e he =>
      rw [revokes_setError env q he] at ht
      cases ht
  | created body tunnel hid hnew => cases ht
  | deleted id hfound =>
      cases ht
      simp [Event.revoking, hfound]
  | rotated id old hfound hold => cases ht

/-- The token a response carries is the one generated for it. -/
theorem outcome_minted (h : Outcome sha256 w.handler env q response s') {m : Mint}
    (hm : Record.minted sha256 ⟨⟨env, .request q⟩, some response⟩ = some m)
    (hfresh : IssuesNoRevoked sha256 w ⟨env, .request q⟩) :
    ∀ p ∈ revoked sha256 w.history, p.2 ≠ m.token.tokenHash := by
  cases h with
  | rejected q e he =>
      rw [minted_setError] at hm
      cases hm
  | created body t hid hnew =>
      cases hm
      exact hfresh
  | deleted id hfound => cases hm
  | rotated id old hfound hold =>
      cases hm
      exact hfresh

end

/-- What one operation records: how it changes the token cache, that a
revocation was announced, and that nothing revoked elsewhere is issued. -/
structure Recorded (sha256 : Str → Digest) (w : World) (e : Event) (c : TokenCache)
    (r : Record) : Prop where
  change : Change w.handler.tokenCache e.env.clock c (r.minted sha256) r.revokes
  revoking : ∀ t, r.revokes = some t → e.revoking w.handler = some t
  fresh : IssuesNoRevoked sha256 w e → ∀ m, r.minted sha256 = some m →
    ∀ p ∈ revoked sha256 w.history, p.2 = m.token.tokenHash → p.1 = m.tunnelId

/-- **Every operation is recorded as one of the four changes.** -/
theorem step_recorded (parse : Str → Option Json) (sha256 : Str → Digest) (w : World) (e : Event) :
    ∃ response, (step parse sha256 w e).history = ⟨e, response⟩ :: w.history ∧
      Recorded sha256 w e (step parse sha256 w e).handler.tokenCache ⟨e, response⟩ := by
  obtain ⟨env, op⟩ := e
  cases op with
  | request q =>
      have hout := handle_outcome parse sha256 w.handler env q
      refine ⟨_, rfl, outcome_change hout, fun t ht => outcome_revoking hout ht, ?_⟩
      intro hfresh m hm p hp heq
      exact absurd heq (outcome_minted hout hm hfresh p hp)
  | validator call =>
      refine ⟨none, rfl, call_change w.handler.tokenCache env call, ?_, ?_⟩
      · intro t ht
        cases call with
        | revokeToken u => exact ht
        | addToken u a ttl => cases ht
        | rotateToken u a grace => cases ht
      · intro hfresh m hm
        cases call with
        | revokeToken u => cases hm
        | addToken u a ttl => cases hm; exact hfresh
        | rotateToken u a grace => cases hm; exact hfresh

/-! ## The invariant -/

/-- No usable entry holds a revoked token, now or later. -/
def RevokedUnusable (sha256 : Str → Digest) (w : World) : Prop :=
  ∀ p ∈ revoked sha256 w.history, ∀ clock, After w.history clock →
    ∀ k a, Usable w.handler.tokenCache clock k a → a.tokenHash ≠ p.2

theorem after_cons {r : Record} {h : List Record} {clock : Clock} :
    After (r :: h) clock ↔ (r.env.clock.steady ≤ clock.steady ∧
      r.env.clock.system ≤ clock.system) ∧ After h clock := by
  simp [After]

theorem usable_put {c : TokenCache} {now ttl : ℤ} {clock : Clock} {t k : Str} {a b : AuthToken}
    (h : Usable (c.put now t b ttl) clock k a) : (k = t ∧ a = b) ∨ Usable c clock k a := by
  obtain ⟨hget, hexp⟩ := h
  obtain ⟨e, hlook, hval, hlive⟩ := Cache.get_eq_some_iff.mp hget
  rw [Cache.lookup_put] at hlook
  by_cases hk : k = t
  · rw [if_pos hk, Option.some.injEq] at hlook
    exact .inl ⟨hk, by rw [← hval, ← hlook]⟩
  · rw [if_neg hk] at hlook
    exact .inr ⟨Cache.get_eq_some_iff.mpr ⟨e, hlook, hval, hlive⟩, hexp⟩

theorem usable_remove {c : TokenCache} {clock : Clock} {t k : Str} {a : AuthToken}
    (h : Usable (c.remove t) clock k a) : k ≠ t ∧ Usable c clock k a := by
  obtain ⟨hget, hexp⟩ := h
  obtain ⟨e, hlook, hval, hlive⟩ := Cache.get_eq_some_iff.mp hget
  rw [Cache.lookup_remove] at hlook
  by_cases hk : k = t
  · rw [if_pos hk] at hlook
    cases hlook
  · rw [if_neg hk] at hlook
    exact ⟨hk, Cache.get_eq_some_iff.mpr ⟨e, hlook, hval, hlive⟩, hexp⟩

/-- A usable entry after an operation holds the token issued by it, or a token
that was usable before it and is not being removed. -/
theorem usable_of_change {c c' : TokenCache} {clock later : Clock} {mint : Option Mint}
    {rev : Option Str} (h : Change c clock c' mint rev) (hsteady : clock.steady ≤ later.steady)
    (hsystem : clock.system ≤ later.system) {k : Str} {a : AuthToken} (hu : Usable c' later k a) :
    (∃ m, mint = some m ∧ a = m.token) ∨
      ∃ k', Usable c clock k' a ∧ (∀ t, rev = some t → k' ≠ t) := by
  cases h with
  | unchanged => exact .inr ⟨k, hu.earlier hsteady hsystem, by simp⟩
  | put m ttl hm =>
      cases usable_put hu with
      | inl hnew => exact .inl ⟨m, rfl, hnew.2⟩
      | inr hold => exact .inr ⟨k, hold.earlier hsteady hsystem, by simp⟩
  | rotate m ttl hm old hold grace =>
      cases usable_put hu with
      | inl hkept =>
          -- the replaced token was usable under its tunnel id
          have hexp : clock.system < old.expiresAt := by
            have hlate := hu.2
            rw [hkept.2] at hlate
            omega
          exact .inr ⟨m.tunnelId, ⟨hkept.2 ▸ hold, hkept.2 ▸ hexp⟩, by simp⟩
      | inr hu =>
          cases usable_put hu with
          | inl hnew => exact .inl ⟨m, rfl, hnew.2⟩
          | inr hold => exact .inr ⟨k, hold.earlier hsteady hsystem, by simp⟩
  | remove t =>
      obtain ⟨hk, hold⟩ := usable_remove hu
      exact .inr ⟨k, hold.earlier hsteady hsystem, by simpa using hk⟩

/-- A token revoked after an operation was revoked before it and not issued
again, or is one of the tokens of the tunnel being revoked. -/
theorem mem_revoked_cons {r : Record} {h : List Record} {p : Str × Str}
    (hp : p ∈ revoked sha256 (r :: h)) :
    (p ∈ revoked sha256 h ∧ ∀ m, r.minted sha256 = some m → p ≠ (m.tunnelId, m.token.tokenHash)) ∨
      ∃ t m, r.revokes = some t ∧ m ∈ minted sha256 h ∧ m.tunnelId = t ∧
        p = (t, m.token.tokenHash) := by
  have hbefore : ∀ q, q ∈ ((revoked sha256 h).filter fun p =>
      (r.minted sha256).all fun m => p ≠ (m.tunnelId, m.token.tokenHash)) →
      q ∈ revoked sha256 h ∧
        ∀ m, r.minted sha256 = some m → q ≠ (m.tunnelId, m.token.tokenHash) := by
    intro q hq
    obtain ⟨hmem, hall⟩ := List.mem_filter.mp hq
    refine ⟨hmem, fun m hm => ?_⟩
    rw [hm] at hall
    simpa using hall
  simp only [revoked] at hp
  split at hp
  · rename_i t ht
    cases List.mem_append.mp hp with
    | inl hnew =>
        obtain ⟨m, hm, heq⟩ := List.mem_map.mp hnew
        obtain ⟨hmem, htid⟩ := List.mem_filter.mp hm
        exact .inr ⟨t, m, ht, hmem, by simpa using htid, heq.symm⟩
    | inr hold => exact .inl (hbefore p hold)
  · exact .inl (hbefore p hp)

theorem revokedUnusable_step (w : World) (e : Event) (H : RevokedUnusable sha256 w)
    (he : Clean sha256 w e) : RevokedUnusable sha256 (step parse sha256 w e) := by
  obtain ⟨hclock, hcopy, hissue⟩ := he
  obtain ⟨response, hhist, hrec⟩ := step_recorded parse sha256 w e
  intro p hp clock hafter k a hu hhash
  rw [hhist] at hp hafter
  obtain ⟨⟨hsteady, hsystem⟩, hafter⟩ := after_cons.mp hafter
  have hcase := mem_revoked_cons hp
  cases usable_of_change hrec.change hsteady hsystem hu with
  | inl hnew =>
      -- the token was issued by this operation
      obtain ⟨m, hm, ha⟩ := hnew
      cases hcase with
      | inl hold =>
          have hid := hrec.fresh hissue m hm p hold.1 (by rw [← hhash, ha])
          exact hold.2 m hm (by rw [← hid, ← ha, hhash])
      | inr hrev =>
          obtain ⟨t, m', ht, _⟩ := hrev
          exact absurd (hrec.change.minted_or_revokes hm) (by simp [ht])
  | inr hold =>
      -- the token was usable before this operation
      obtain ⟨k', hu', hkept⟩ := hold
      cases hcase with
      | inl hrevoked => exact H p hrevoked.1 e.env.clock hclock k' a hu' hhash
      | inr hrev =>
          obtain ⟨t, m, ht, hm, htid, hpeq⟩ := hrev
          have hmhash : m.token.tokenHash = a.tokenHash := by rw [hhash, hpeq]
          have hkey := hcopy t (hrec.revoking t ht) k' a hu' m hm htid hmhash
          exact hkept t ht hkey

/-! ## Completeness -/

/-- The token an operation issued is usable under its tunnel until it expires. -/
theorem usable_of_minted {c c' : TokenCache} {clock later : Clock} {m : Mint} {rev : Option Str}
    (h : Change c clock c' (some m) rev) (hcached : later.steady < m.cachedUntil)
    (hexp : later.system < m.token.expiresAt) : Usable c' later m.tunnelId m.token := by
  have hlive : ∀ ttl, m.cachedUntil = clock.steady + seconds ttl →
      Cache.get c' later.steady m.tunnelId = some m.token ∨
        c'.entries.lookup m.tunnelId ≠ some ⟨m.token, clock.steady + seconds ttl⟩ := by
    intro ttl hm
    by_cases hlook : c'.entries.lookup m.tunnelId = some ⟨m.token, clock.steady + seconds ttl⟩
    · exact .inl (Cache.get_eq_some_iff.mpr ⟨_, hlook, rfl, by rw [← hm]; exact hcached⟩)
    · exact .inr hlook
  refine ⟨?_, hexp⟩
  cases h with
  | put m ttl hm =>
      cases hlive ttl hm with
      | inl hget => exact hget
      | inr hno => exact absurd (by simp) hno
  | rotate m ttl hm old hold grace =>
      cases hlive ttl hm with
      | inl hget => exact hget
      | inr hno => exact absurd (by simp [ne_oldKey]) hno

theorem RevokedUnusable.gone {w : World} (H : RevokedUnusable sha256 w) :
    ∀ p ∈ revoked sha256 w.history, ∀ clock, After w.history clock →
      ∀ x, computeTokenHash sha256 x = p.2 →
        ∀ order, w.handler.tokenCache.Visits clock.steady order →
          (validateToken sha256 order clock.system x).valid = false := by
  intro p hp clock hafter x hx order hv
  by_contra hcon
  obtain ⟨k, a, hu, hhash⟩ := (validateToken_valid_iff hv).mp (Bool.of_not_eq_false hcon)
  exact H p hp clock hafter k a hu (by rw [hhash, hx])

/-- The newest operation of a run made the last change of its cache. -/
def LastChange (sha256 : Str → Digest) (w : World) : Prop :=
  ∀ r ∈ w.history.head?, ∃ c, Change c r.env.clock w.handler.tokenCache (r.minted sha256) r.revokes

theorem LastChange.fresh {w : World} (H : LastChange sha256 w) :
    ∀ r ∈ w.history.head?, ∀ m ∈ r.minted sha256, ∀ clock : Clock,
      clock.steady < m.cachedUntil → clock.system < m.token.expiresAt →
        ∀ x, computeTokenHash sha256 x = m.token.tokenHash →
          ∀ order, w.handler.tokenCache.Visits clock.steady order →
            (validateToken sha256 order clock.system x).valid = true := by
  intro r hr m hm clock hcached hexp x hx order hv
  obtain ⟨c, hchange⟩ := H r hr
  rw [Option.mem_def.mp hm] at hchange
  exact (validateToken_valid_iff hv).mpr
    ⟨m.tunnelId, m.token, usable_of_minted hchange hcached hexp, hx.symm⟩

/-- **Revocation is complete** in every run whose clocks do not go back, whose
revocations leave no copy of the tunnel's tokens and which issues no revoked
token again elsewhere. -/
theorem revocation_complete (parse : Str → Option Json) (sha256 : Str → Digest)
    (evs : List Event) (H : Along (step parse sha256) (Clean sha256) World.init evs) :
    Always (step parse sha256) (RevocationComplete sha256) World.init evs := by
  let I := fun w => RevokedUnusable sha256 w ∧ LastChange sha256 w
  have hinit : I World.init := by
    constructor
    · intro p hp
      simp [World.init, revoked] at hp
    · intro r hr
      simp [World.init] at hr
  have hstep : ∀ w e, I w → Clean sha256 w e → I (step parse sha256 w e) := by
    intro w e hw he
    refine ⟨revokedUnusable_step w e hw.1 he, ?_⟩
    intro r hr
    obtain ⟨response, hhist, hrec⟩ := step_recorded parse sha256 w e
    rw [hhist, List.head?_cons, Option.mem_some_iff] at hr
    subst hr
    exact ⟨w.handler.tokenCache, hrec.change⟩
  have hall := always_of_invariant I hstep hinit H
  exact Always.imp (fun w hw => ⟨hw.1.gone, hw.2.fresh⟩) hall

/-- The tunnel `api` is deleted one second after its creation. -/
theorem revocation_complete_deleted :
    Always (step sampleParse sampleSha256) (RevocationComplete sampleSha256) World.init
      [sampleCreate,
        ⟨⟨⟨seconds 1, seconds 1⟩, #v[0, 0, 0, 0], 0⟩, .request (.delete "api".toList)⟩] :=
  revocation_complete sampleParse sampleSha256 _ (by decide)

/-- A token replaced one second before the revocation of its tunnel survives it. -/
theorem not_revocationComplete_rotated :
    ¬ ∀ evs, Always (step sampleParse sampleSha256) (RevocationComplete sampleSha256)
      World.init evs := by
  intro H
  let call := fun n c => Event.mk ⟨⟨seconds n, seconds n⟩, #v[0, 0, 0, 0], 0⟩ (.validator c)
  let w := run (step sampleParse sampleSha256) World.init
    [call 0 (.addToken "api".toList sampleOld addTokenTtl),
      call 1 (.rotateToken "api".toList sampleNew 300),
      call 2 (.revokeToken "api".toList)]
  have hw : RevocationComplete sampleSha256 w := always_iff_run.mp (H _) _ (List.prefix_refl _)
  have hmem : ("api".toList, sampleOld.tokenHash) ∈ revoked sampleSha256 w.history := by decide
  have hgone := hw.gone _ hmem ⟨seconds 3, seconds 3⟩ (by decide) "tnl_local_test_123".toList rfl
    (w.handler.tokenCache.live (seconds 3)) (List.Perm.refl _)
  exact absurd hgone (by decide)

end Protogate.Api
