import Protogate.Security.TokenHistory

/-!
# Grace periods

A rotation is meant to leave the replaced token valid for its grace period, so
that an agent that still presents it can reconnect under the same tunnel id.
The scan of `validateToken` answers with the cache key, which for a replaced
token is the derived key `oldKey t`; and a second rotation overwrites it.  So
continuity fails for the first token that is replaced with a grace period.

## Main definitions

* `windows` — the grace periods a history opened and no revocation ended.
* `GraceContinuity` — every token in its grace period validates under its tunnel.
* `OpensNoWindow` — a call that gives no token a grace period.
* `graceContinuity_iff` — continuity holds in runs that open no window, and only there.
-/

namespace Protogate.Security

open Protogate.Lib Protogate.Storage

/-- The grace periods of all rotations that found an old token, except those of
a tunnel revoked since. -/
def windows : List Record → List Window
  | [] => []
  | r :: h =>
      match r.call, r.oldToken with
      | .rotateToken t _ grace, some old => ⟨t, old, r.clock, grace⟩ :: windows h
      | .revokeToken t, _ => (windows h).filter (·.tunnelId ≠ t)
      | _, _ => windows h

/-- The clocks are inside the grace period and before the token's own expiry. -/
def Window.Open (win : Window) (clock : Clock) : Prop :=
  win.openedAt.steady ≤ clock.steady ∧ clock.steady < win.closesAt ∧
    win.openedAt.system ≤ clock.system ∧ clock.system < win.token.expiresAt

variable (sha256 : Str → Digest)

/-- While its grace period is open a replaced token validates, in every order of
the scan, under the id of its tunnel. -/
def GraceContinuity (w : World) : Prop :=
  ∀ win ∈ windows w.history, ∀ clock, win.Open clock →
    ∀ x, computeTokenHash sha256 x = win.token.tokenHash →
      ∀ order, w.cache.Visits clock.steady order →
        validateToken sha256 order clock.system x = .success win.tunnelId

/-- The call replaces no token, or gives the one it replaces no grace period, or
replaces one past its expiry, or one whose stored hash no text has. -/
def OpensNoWindow (w : World) (e : Event) : Prop :=
  match e.call with
  | .rotateToken t _ grace => ∀ old, w.cache.get e.clock.steady t = some old →
      grace ≤ 0 ∨ old.expiresAt ≤ e.clock.system ∨
        ∀ x, computeTokenHash sha256 x ≠ old.tokenHash
  | _ => True

variable {sha256}

theorem seconds_pos_iff {n : ℤ} : 0 < seconds n ↔ 0 < n := by
  simp only [seconds]
  omega

/-- A grace period that is positive is open when it starts, unless the token has
expired. -/
theorem open_openedAt_iff {win : Window} :
    win.Open win.openedAt ↔ 0 < win.gracePeriod ∧ win.openedAt.system < win.token.expiresAt := by
  have hpos := seconds_pos_iff (n := win.gracePeriod)
  unfold Window.Open Window.closesAt
  omega

/-- A grace period not open when it starts is never open. -/
theorem Window.Open.openedAt {win : Window} {clock : Clock} (h : win.Open clock) :
    win.Open win.openedAt := by
  simp only [Window.Open] at *
  omega

/-- Right after the rotation the replaced token validates under the derived key. -/
theorem exists_success_oldKey {w : World} {clock : Clock} {t x : Str} (new : AuthToken)
    {old : AuthToken} {grace : ℤ} (hold : w.cache.get clock.steady t = some old) (hgrace : 0 < grace)
    (hexp : clock.system < old.expiresAt) (hx : computeTokenHash sha256 x = old.tokenHash) :
    ∃ order, (step w ⟨clock, .rotateToken t new grace⟩).cache.Visits clock.steady order ∧
      validateToken sha256 order clock.system x = .success (oldKey t) := by
  have hget : (step w ⟨clock, .rotateToken t new grace⟩).cache.get clock.steady (oldKey t) =
      some old := by
    refine Cache.get_eq_some_iff.mpr ⟨⟨old, clock.steady + seconds grace⟩, ?_, rfl, ?_⟩
    · simp only [step, Call.perform, lookup_rotateToken, hold, if_true]
    · have hpos := seconds_pos_iff.mpr hgrace
      simp only
      omega
  exact exists_visit_success hget hx.symm hexp

/-- A step after which continuity holds opened no window. -/
theorem opensNoWindow_of_graceContinuity (w : World) (e : Event)
    (H : GraceContinuity sha256 (step w e)) : OpensNoWindow sha256 w e := by
  obtain ⟨clock, call⟩ := e
  cases call with
  | addToken t a ttl => trivial
  | revokeToken t => trivial
  | rotateToken t new grace =>
      intro old hold
      by_contra hcon
      simp only [not_or, not_le, not_forall, not_not] at hcon
      obtain ⟨hgrace, hexp, x, hx⟩ := hcon
      obtain ⟨order, hv, hkey⟩ := exists_success_oldKey new hold hgrace hexp hx
      let win : Window := ⟨t, old, clock, grace⟩
      have hmem : win ∈ windows (step w ⟨clock, .rotateToken t new grace⟩).history := by
        simp [step, windows, Call.finds, hold, win]
      have hopen : win.Open clock := open_openedAt_iff.mpr ⟨hgrace, hexp⟩
      have hid := H win hmem clock hopen x hx order hv
      rw [hkey] at hid
      have heq : oldKey t = t := congrArg ValidationResult.tunnelId hid
      exact ne_oldKey t heq.symm

/-- No grace period of the history is ever open for a token that can be presented. -/
def NeverOpen (sha256 : Str → Digest) (w : World) : Prop :=
  ∀ win ∈ windows w.history, win.Open win.openedAt →
    ∀ x, computeTokenHash sha256 x ≠ win.token.tokenHash

theorem neverOpen_step (w : World) (e : Event) (H : NeverOpen sha256 w)
    (he : OpensNoWindow sha256 w e) : NeverOpen sha256 (step w e) := by
  obtain ⟨clock, call⟩ := e
  intro win hmem
  cases call with
  | addToken t a ttl => exact H win (by simpa [step, windows] using hmem)
  | revokeToken t =>
      have hmem' : win ∈ windows w.history ∧ win.tunnelId ≠ t := by
        simpa [step, windows] using hmem
      exact H win hmem'.1
  | rotateToken t new grace =>
      cases hold : w.cache.get clock.steady t with
      | none => exact H win (by simpa [step, windows, Call.finds, hold] using hmem)
      | some old =>
          have hcase : win = ⟨t, old, clock, grace⟩ ∨ win ∈ windows w.history := by
            simpa [step, windows, Call.finds, hold] using hmem
          cases hcase with
          | inr hin => exact H win hin
          | inl heq =>
              subst heq
              intro hopen x
              obtain ⟨hgrace, hexp⟩ := open_openedAt_iff.mp hopen
              have hno := he old hold
              cases hno with
              | inl hle => exact absurd hgrace (Int.not_lt.mpr hle)
              | inr hno =>
                  cases hno with
                  | inl hle => exact absurd hexp (Int.not_lt.mpr hle)
                  | inr hne => exact hne x

theorem NeverOpen.graceContinuity {w : World} (H : NeverOpen sha256 w) :
    GraceContinuity sha256 w := by
  intro win hmem clock hopen x hx
  exact absurd hx (H win hmem hopen.openedAt x)

/-- **When rotations keep continuity.**  A replaced token validates under its
tunnel id throughout every grace period of a run exactly when the run gives no
token a grace period. -/
theorem graceContinuity_iff (sha256 : Str → Digest) (evs : List Event) :
    Always step (GraceContinuity sha256) World.init evs ↔
      Along step (OpensNoWindow sha256) World.init evs := by
  constructor
  · intro H
    exact Always.along opensNoWindow_of_graceContinuity H
  · intro H
    have hinit : NeverOpen sha256 World.init := by
      intro win hmem
      simp [World.init, windows] at hmem
    exact Always.imp (fun _ => NeverOpen.graceContinuity)
      (always_of_invariant _ neverOpen_step hinit H)

/-- The token replaced by one rotation validates, but as `api:old`. -/
theorem not_graceContinuity_rotated :
    ¬ ∀ evs, Always step (GraceContinuity sampleSha256) World.init evs := by
  intro H
  let w := run step World.init
    [⟨⟨0, 0⟩, .addToken "api".toList sampleOld addTokenTtl⟩,
      ⟨⟨seconds 10, seconds 10⟩, .rotateToken "api".toList sampleNew 300⟩]
  have hw : GraceContinuity sampleSha256 w := (always_iff_run.mp (H _)) _ (List.prefix_refl _)
  let win : Window := ⟨"api".toList, sampleOld, ⟨seconds 10, seconds 10⟩, 300⟩
  let later : Clock := ⟨seconds 11, seconds 11⟩
  have hmem : win ∈ windows w.history := by decide
  have hopen : win.Open later := ⟨by decide, by decide, by decide, by decide⟩
  have hvalid := hw win hmem later hopen "tnl_local_test_123".toList rfl
    (w.cache.live later.steady) (List.Perm.refl _)
  have hgot : validateToken sampleSha256 (w.cache.live later.steady) later.system
      "tnl_local_test_123".toList = .success "api:old".toList := by decide
  rw [hgot] at hvalid
  exact absurd hvalid (by decide)

end Protogate.Security
