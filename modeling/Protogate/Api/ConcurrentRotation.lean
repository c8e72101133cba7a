import Protogate.Api.IssuedTokens
import Mathlib.Data.List.Count
import Mathlib.Data.List.Perm.Basic
import Mathlib.Logic.Function.Basic

/-!
# Rotating one token concurrently

`handle_rotate_token` looks the tunnel up, reads the current token, stores the new one
and stores the one it read under `t:old`, in four separately locked operations.  Where
requests overlap, two of them can read the same token; then a token that was handed out
is in neither entry.

Whose token is where depends on the order of the operations alone, so the requests are
first followed by number (`Provenance`), and the cache is what the numbers stand for
(`Follows`).

## Main definitions

* `Rotation`, `Rotations`, `rotateStep` — requests between their operations.
* `rotation_alone` — a request that is not interrupted does what the handler does.
* `Provenance`, `Follows` — whose tokens are where.
* `Serializable` — the outcome is that of the requests one after the other.
* `LastInformed` — the request that finishes last has read a token that another stored.
* `serializable_iff` — exactly then several rotations are serializable.
-/

namespace Protogate.Api

open Protogate.Lib Protogate.Security Protogate.Storage

/-- How far a rotation has come, with its local variables. -/
inductive Rotation
  | start
  | tunnelFound
  | oldRead (oldToken : AuthToken)
  | newStored (oldToken : AuthToken) (newToken : Str) (newAuthToken : AuthToken)
  | answered (response : HttpResponse)

/-- The shared state and the requests by number. -/
structure Rotations where
  handler : Handler
  progress : ℕ → Rotation

def Rotations.advance (s : Rotations) (i : ℕ) (c : Rotation) : Rotations :=
  { s with progress := Function.update s.progress i c }

/-- Replace the token cache. -/
def Rotations.store (s : Rotations) (tokenCache : TokenCache) : Rotations :=
  { s with handler := { s.handler with tokenCache := tokenCache } }

/-- No request has begun. -/
def Rotations.begin (s : Handler) : Rotations := ⟨s, fun _ => .start⟩

/-- What the operations of the requests read: `E i k` at the `k`-th operation of request `i`. -/
abbrev Readings := ℕ → ℕ → Surroundings

section
variable (sha256 : Str → Digest) (t : Str) (E : Readings)

/-- The token that request `i` generates, and its record. -/
def newToken (i : ℕ) : Str := generateToken (E i 2).random
def newAuthToken (i : ℕ) : AuthToken := issueToken sha256 (E i 2).clock t (newToken E i)

/-- The next locked operation of request `i`. -/
def rotateStep (s : Rotations) (i : ℕ) : Rotations :=
  match s.progress i with
  | .start =>
      if (s.handler.tunnelCache.get (E i 0).clock.steady t).isNone then
        s.advance i (.answered (.setError ⟨404, "Tunnel not found".toList⟩))
      else s.advance i .tunnelFound
  | .tunnelFound =>
      match s.handler.tokenCache.get (E i 1).clock.steady t with
      | none => s.advance i (.answered (.setError ⟨500, "Token not found in cache".toList⟩))
      | some oldToken => s.advance i (.oldRead oldToken)
  | .oldRead oldToken =>
      (s.advance i (.newStored oldToken (newToken E i) (newAuthToken sha256 t E i))).store
        (s.handler.tokenCache.put (E i 2).clock.steady t (newAuthToken sha256 t E i) yearTtl)
  | .newStored oldToken newToken newAuthToken =>
      (s.advance i (.answered (rotatedResponse newToken newAuthToken))).store
        (s.handler.tokenCache.put (E i 3).clock.steady (oldKey t) oldToken gracePeriodSeconds)
  | .answered _ => s

/-- **A request that is not interrupted** does what the handler does. -/
theorem rotation_alone (s : Handler) (i : ℕ) (env : Surroundings) :
    let q := run (rotateStep sha256 t fun _ _ => env) (.begin s) (List.replicate 4 i)
    q.progress i = .answered (handleRotateToken sha256 s env t).1 ∧
      q.handler = (handleRotateToken sha256 s env t).2 := by
  simp only [handleRotateToken, List.replicate, run_cons, run_nil]
  by_cases hfound : (s.tunnelCache.get env.clock.steady t).isNone
  · simp [rotateStep, Rotations.begin, Rotations.advance, hfound]
  · cases hold : s.tokenCache.get env.clock.steady t with
    | none => simp [rotateStep, Rotations.begin, Rotations.advance, hfound, hold]
    | some old =>
        simp [rotateStep, Rotations.begin, Rotations.advance, Rotations.store, hfound, hold,
          newToken, newAuthToken]

end

/-! ## Whose token is where -/

/-- How many operations each request has made, whose token it has read (`none`: the one there
at the start), whose is stored under `t`, and who stored the one under `t:old`. -/
structure Provenance where
  stage : ℕ → ℕ
  read : ℕ → Option ℕ
  main : Option ℕ
  old : Option ℕ

namespace Provenance

def init : Provenance := ⟨fun _ => 0, fun _ => none, none, none⟩

def step (q : Provenance) (i : ℕ) : Provenance :=
  match q.stage i with
  | 0 => { q with stage := Function.update q.stage i 1 }
  | 1 => { q with stage := Function.update q.stage i 2, read := Function.update q.read i q.main }
  | 2 => { q with stage := Function.update q.stage i 3, main := some i }
  | 3 => { q with stage := Function.update q.stage i 4, old := some i }
  | _ => q

/-- What an operation does. -/
theorem step_cases (q : Provenance) (i : ℕ) :
    (q.stage i = 0 ∧ q.step i = { q with stage := Function.update q.stage i 1 }) ∨
    (q.stage i = 1 ∧ q.step i =
      { q with stage := Function.update q.stage i 2, read := Function.update q.read i q.main }) ∨
    (q.stage i = 2 ∧ q.step i = { q with stage := Function.update q.stage i 3, main := some i }) ∨
    (q.stage i = 3 ∧ q.step i = { q with stage := Function.update q.stage i 4, old := some i }) ∨
    (4 ≤ q.stage i ∧ q.step i = q) := by
  rcases hstage : q.stage i with _ | _ | _ | _ | k
  · simp [step, hstage]
  · simp [step, hstage]
  · simp [step, hstage]
  · simp [step, hstage]
  · simp [step, hstage]

/-- What holds of the numbers in every reachable state. -/
structure Valid (q : Provenance) : Prop where
  stage_le : ∀ i, q.stage i ≤ 4
  old_stage : ∀ b, q.old = some b → q.stage b = 4
  main_stage : ∀ c, q.main = some c → 3 ≤ q.stage c
  main_none : q.main = none → ∀ c, q.stage c < 3
  read_stage : ∀ i c, q.read i = some c → 3 ≤ q.stage c ∧ c ≠ i
  /-- A token that was read and then replaced is not the current one. -/
  replaced : ∀ i c, 3 ≤ q.stage i → q.read i = some c → q.main ≠ some c

theorem valid_init : Valid init where
  stage_le := by simp [init]
  old_stage := by simp [init]
  main_stage := by simp [init]
  main_none := by simp [init]
  read_stage := by simp [init]
  replaced := by simp [init]

theorem stage_step (q : Provenance) (i j : ℕ) (hle : q.stage i ≤ 4) :
    (q.step i).stage j = if j = i then min 4 (q.stage i + 1) else q.stage j := by
  rcases q.step_cases i with ⟨hi, h⟩ | ⟨hi, h⟩ | ⟨hi, h⟩ | ⟨hi, h⟩ | ⟨hi, h⟩
  · simp [h, hi, Function.update_apply]
  · simp [h, hi, Function.update_apply]
  · simp [h, hi, Function.update_apply]
  · simp [h, hi, Function.update_apply]
  · rw [h]
    split
    · subst_vars
      omega
    · rfl

theorem valid_step (q : Provenance) (i : ℕ) (H : Valid q) : Valid (q.step i) := by
  obtain ⟨hle, hold, hmain, hnone, hread, hreplaced⟩ := H
  rcases q.step_cases i with ⟨hi, h⟩ | ⟨hi, h⟩ | ⟨hi, h⟩ | ⟨hi, h⟩ | ⟨hi, h⟩ <;> rw [h]
  · constructor <;> grind [Function.update_apply]
  · -- the token read is the current one; it is not `i`'s, which is not stored yet
    constructor <;> grind [Function.update_apply]
  · -- nobody has read `i`'s token before this store
    constructor <;> grind [Function.update_apply]
  · constructor <;> grind [Function.update_apply]
  · exact ⟨hle, hold, hmain, hnone, hread, hreplaced⟩

theorem valid_run (sched : List ℕ) : Valid (run step init sched) :=
  run_invariant Valid valid_step valid_init

/-- A request that has had `k` operations is at stage `k`, until it is answered. -/
theorem stage_run (sched : List ℕ) (i : ℕ) :
    (run step init sched).stage i = min 4 (sched.count i) := by
  induction sched using List.reverseRecOn with
  | nil => rfl
  | append_singleton sched j ih =>
      have hj := (valid_run sched).stage_le j
      rw [run_append, run_cons, run_nil, stage_step _ _ _ hj, List.count_append, List.count_singleton]
      by_cases hij : i = j
      · subst hij
        simp [ih]
        omega
      · simp [hij, Ne.symm hij, ih]

/-- A request that has not begun is served at once. -/
theorem run_served (q : Provenance) (i : ℕ) (h : q.stage i = 0) :
    (run step q (List.replicate 4 i)).main = some i ∧ (run step q (List.replicate 4 i)).old = some i ∧
      ∀ j, (run step q (List.replicate 4 i)).read j = if j = i then q.main else q.read j := by
  simp [List.replicate, step, h, Function.update_apply]

end Provenance

/-! ## What the numbers stand for -/

section
variable (sha256 : Str → Digest) (t : Str) (E : Readings) (stored : Entry AuthToken)

/-- The cache entry made of a request's token; the entry at the start was `stored`. -/
def entryOf : Option ℕ → Entry AuthToken
  | none => stored
  | some c => ⟨newAuthToken sha256 t E c, (E c 2).clock.steady + seconds yearTtl⟩

/-- The local variables of request `i`. -/
def rotationOf (q : Provenance) (i : ℕ) : Rotation :=
  match q.stage i with
  | 0 => .start
  | 1 => .tunnelFound
  | 2 => .oldRead (entryOf sha256 t E stored (q.read i)).value
  | 3 => .newStored (entryOf sha256 t E stored (q.read i)).value (newToken E i)
      (newAuthToken sha256 t E i)
  | _ => .answered (rotatedResponse (newToken E i) (newAuthToken sha256 t E i))

/-- The caches and the requests are what the numbers say. -/
structure Follows (s : Handler) (p : Rotations) (q : Provenance) : Prop where
  tunnels : p.handler.tunnelCache = s.tunnelCache
  main : p.handler.tokenCache.entries.lookup t = some (entryOf sha256 t E stored q.main)
  old : ∀ b, q.old = some b → p.handler.tokenCache.entries.lookup (oldKey t) =
    some ⟨(entryOf sha256 t E stored (q.read b)).value,
      (E b 3).clock.steady + seconds gracePeriodSeconds⟩
  progress : ∀ i, p.progress i = rotationOf sha256 t E stored q i

/-- The tunnel exists throughout: whenever a request looks, the tunnel has not expired, nor
has the token stored at the start or one that a request stored. -/
structure ExistsThroughout (s : Handler) : Prop where
  entry : s.tokenCache.entries.lookup t = some stored
  tunnel : ∀ i, (s.tunnelCache.get (E i 0).clock.steady t).isSome
  token : ∀ i, (E i 1).clock.steady < stored.expiresAt
  renewed : ∀ i c, (E i 1).clock.steady < (E c 2).clock.steady + seconds yearTtl

end

section
variable {sha256 : Str → Digest} {t : Str} {E : Readings} {stored : Entry AuthToken} {s : Handler}

theorem ExistsThroughout.live (H : ExistsThroughout t E stored s) (i : ℕ) (source : Option ℕ) :
    (E i 1).clock.steady < (entryOf sha256 t E stored source).expiresAt := by
  cases source with
  | none => exact H.token i
  | some c => exact H.renewed i c

theorem follows_begin (H : ExistsThroughout t E stored s) :
    Follows sha256 t E stored s (.begin s) .init where
  tunnels := rfl
  main := H.entry
  old := by simp [Provenance.init]
  progress := fun _ => rfl

/-- A request that has just advanced is where its numbers say, if the others are where theirs
said before. -/
theorem progress_advance_eq (p : Rotations) (q q' : Provenance) (i j : ℕ) (c : Rotation)
    (H : p.progress j = rotationOf sha256 t E stored q j)
    (hc : c = rotationOf sha256 t E stored q' i)
    (hother : j ≠ i → q'.stage j = q.stage j ∧ q'.read j = q.read j) :
    (p.advance i c).progress j = rotationOf sha256 t E stored q' j := by
  by_cases hji : j = i
  · subst hji
    simp [Rotations.advance, hc]
  · obtain ⟨hstage, hread⟩ := hother hji
    simp [Rotations.advance, hji, H, rotationOf, hstage, hread]

/-- **Every operation** does with the caches what it does with the numbers. -/
theorem follows_step (hexists : ExistsThroughout t E stored s) (p : Rotations) (q : Provenance)
    (i : ℕ) (hvalid : q.Valid) (H : Follows sha256 t E stored s p q) :
    Follows sha256 t E stored s (rotateStep sha256 t E p i) (q.step i) := by
  obtain ⟨htunnels, hmain, hold, hprogress⟩ := H
  have hi := hprogress i
  rcases q.step_cases i with ⟨hstage, h⟩ | ⟨hstage, h⟩ | ⟨hstage, h⟩ | ⟨hstage, h⟩ | ⟨hstage, h⟩ <;> rw [h]
  · simp only [rotationOf, hstage] at hi
    have hfound : (p.handler.tunnelCache.get (E i 0).clock.steady t).isNone = false := by
      rw [htunnels, Option.isNone_eq_false_iff]
      exact hexists.tunnel i
    simp only [rotateStep, hi, hfound, Bool.false_eq_true, if_false]
    refine ⟨htunnels, hmain, hold, fun j => progress_advance_eq p q _ i j _ (hprogress j) ?_ ?_⟩
    · simp [rotationOf]
    · intro hji
      simp [hji]
  · simp only [rotationOf, hstage] at hi
    have hget : p.handler.tokenCache.get (E i 1).clock.steady t =
        some (entryOf sha256 t E stored q.main).value :=
      Cache.get_eq_some_iff.mpr ⟨_, hmain, rfl, hexists.live i q.main⟩
    simp only [rotateStep, hi, hget]
    refine ⟨htunnels, hmain, ?_, fun j => progress_advance_eq p q _ i j _ (hprogress j) ?_ ?_⟩
    · intro b hb
      -- the request that stored under `t:old` has been answered, so it is not `i`
      have hbi : b ≠ i := by
        rintro rfl
        have hb4 := hvalid.old_stage b hb
        omega
      simp only [Function.update_of_ne hbi]
      exact hold b hb
    · simp [rotationOf]
    · intro hji
      simp [hji]
  · simp only [rotationOf, hstage] at hi
    simp only [rotateStep, hi]
    refine ⟨htunnels, ?_, ?_, fun j => progress_advance_eq p q _ i j _ (hprogress j) ?_ ?_⟩
    · simp [Rotations.store, entryOf]
    · intro b hb
      simp only [Rotations.store, Cache.lookup_put, (ne_oldKey t).symm, if_false]
      exact hold b hb
    · simp [rotationOf]
    · intro hji
      simp [hji]
  · simp only [rotationOf, hstage] at hi
    simp only [rotateStep, hi]
    refine ⟨htunnels, ?_, ?_, fun j => progress_advance_eq p q _ i j _ (hprogress j) ?_ ?_⟩
    · simp only [Rotations.store, Cache.lookup_put, ne_oldKey t, if_false]
      exact hmain
    · rintro b ⟨⟩
      simp [Rotations.store]
    · simp [rotationOf]
    · intro hji
      simp [hji]
  · have hanswered : rotateStep sha256 t E p i = p := by
      unfold rotationOf at hi
      split at hi
      · omega
      · omega
      · omega
      · omega
      · simp only [rotateStep, hi]
    rw [hanswered]
    exact ⟨htunnels, hmain, hold, hprogress⟩

variable (sha256) in
theorem follows_run (hexists : ExistsThroughout t E stored s) (sched : List ℕ) :
    Follows sha256 t E stored s (run (rotateStep sha256 t E) (.begin s) sched)
      (run Provenance.step .init sched) := by
  induction sched using List.reverseRecOn with
  | nil => exact follows_begin hexists
  | append_singleton sched i ih =>
      rw [run_append, run_append]
      exact follows_step hexists _ _ i (Provenance.valid_run sched) ih

end

/-! ## One after the other -/

/-- Each of the first `n` requests is carried out, and there are no others. -/
def Complete (n : ℕ) (sched : List ℕ) : Prop := ∀ i, sched.count i = if i < n then 4 else 0

/-- The requests of `order`, one after the other. -/
def inTurn (order : List ℕ) : List ℕ := order.flatMap (List.replicate 4)

/-- The steady clock does not go back from one operation to a later one. -/
def Clocked (E : Readings) (sched : List ℕ) : Prop :=
  ∀ pre i, pre ++ [i] <+: sched → ∀ j k, k < pre.count j →
    (E j k).clock.steady ≤ (E i (pre.count i)).clock.steady

/-- The token returned to the caller. -/
def Rotation.token : Rotation → Option Str
  | .answered response => response.token
  | _ => none

/-- The two entries and the tokens returned to the callers are the same. -/
structure SameOutcome (t : Str) (n : ℕ) (p p' : Rotations) : Prop where
  main : p.handler.tokenCache.entries.lookup t = p'.handler.tokenCache.entries.lookup t
  old : p.handler.tokenCache.entries.lookup (oldKey t) =
    p'.handler.tokenCache.entries.lookup (oldKey t)
  tokens : ∀ i < n, (p.progress i).token = (p'.progress i).token

/-- The outcome is that of the same requests one after the other, in some order and at
times of their own. -/
def Serializable (sha256 : Str → Digest) (t : Str) (s : Handler) (E : Readings) (n : ℕ)
    (sched : List ℕ) : Prop :=
  ∃ order E', order.Perm (List.range n) ∧ Clocked E' (inTurn order) ∧
    SameOutcome t n (run (rotateStep sha256 t E) (.begin s) sched)
      (run (rotateStep sha256 t E') (.begin s) (inTurn order))

/-- The request that finishes last has read the token of another one. -/
def LastInformed (sched : List ℕ) : Prop :=
  match (run Provenance.step .init sched).old with
  | none => False
  | some b => ((run Provenance.step .init sched).read b).isSome

instance (sched : List ℕ) : Decidable (LastInformed sched) := by
  unfold LastInformed
  split <;> infer_instance

section
variable {sha256 : Str → Digest} {t : Str} {E : Readings} {stored : Entry AuthToken} {s : Handler}
  {n : ℕ} {sched : List ℕ}

/-- How a complete schedule ends: the last operation stores under `t:old`, later than the
last store under `t`. -/
theorem Complete.end (hcomplete : Complete n sched) (hclock : Clocked E sched) (hn : 0 < n) :
    ∃ a b, a < n ∧ (run Provenance.step .init sched).main = some a ∧
      (run Provenance.step .init sched).old = some b ∧
      (E a 2).clock.steady ≤ (E b 3).clock.steady := by
  obtain rfl | ⟨pre, b, rfl⟩ := List.eq_nil_or_concat' sched
  · have h0 := hcomplete 0
    simp [hn] at h0
  · have hb : pre.count b = 3 := by
      have hb := hcomplete b
      rw [List.count_append, List.count_singleton_self] at hb
      split at hb <;> omega
    have hstage : (run Provenance.step .init pre).stage b = 3 := by
      rw [Provenance.stage_run, hb]
      rfl
    have hvalid := Provenance.valid_run pre
    obtain ⟨a, ha⟩ : ∃ a, (run Provenance.step .init pre).main = some a := by
      cases hmain : (run Provenance.step .init pre).main with
      | some a => exact ⟨a, rfl⟩
      | none =>
          have hlt := hvalid.main_none hmain b
          omega
    have hcount : 3 ≤ pre.count a := by
      have h3 := hvalid.main_stage a ha
      rw [Provenance.stage_run] at h3
      omega
    have han : a < n := by
      have h4 := hcomplete a
      rw [List.count_append] at h4
      split at h4
      · assumption
      · omega
    refine ⟨a, b, han, ?_, ?_, ?_⟩
    · simp [Provenance.step, hstage, ha]
    · simp [Provenance.step, hstage]
    · have hle := hclock pre b (List.prefix_refl _) a 2 (by omega)
      rwa [hb] at hle

theorem count_inTurn (order : List ℕ) (i : ℕ) : (inTurn order).count i = 4 * order.count i := by
  induction order with
  | nil => rfl
  | cons j order ih =>
      rw [inTurn, List.flatMap_cons, List.count_append, List.count_replicate, List.count_cons]
      rw [inTurn] at ih
      rw [ih]
      split <;> omega

theorem complete_inTurn {order : List ℕ} (h : order.Perm (List.range n)) :
    Complete n (inTurn order) := by
  intro i
  rw [count_inTurn, h.count_eq, List.nodup_range.count]
  simp only [List.mem_range]
  split <;> rfl

/-- At the end of a complete schedule every request has its own token. -/
theorem Complete.token (hcomplete : Complete n sched) (hexists : ExistsThroughout t E stored s)
    {i : ℕ} (hi : i < n) :
    ((run (rotateStep sha256 t E) (.begin s) sched).progress i).token = some (newToken E i) := by
  have hstage : (run Provenance.step .init sched).stage i = 4 := by
    rw [Provenance.stage_run, hcomplete i, if_pos hi]
    rfl
  rw [(follows_run sha256 hexists sched).progress i]
  simp [rotationOf, hstage, Rotation.token]

/-- An operation of one request leaves the others where they are. -/
theorem progress_rotateStep (p : Rotations) {i j : ℕ} (h : i ≠ j) :
    (rotateStep sha256 t E p j).progress i = p.progress i := by
  unfold rotateStep
  split
  · split <;> simp [Rotations.advance, h]
  · split <;> simp [Rotations.advance, h]
  · simp [Rotations.store, Rotations.advance, h]
  · simp [Rotations.store, Rotations.advance, h]
  · rfl

theorem progress_run (p : Rotations) {i : ℕ} (h : i ∉ sched) :
    (run (rotateStep sha256 t E) p sched).progress i = p.progress i := by
  induction sched generalizing p with
  | nil => rfl
  | cons j sched ih =>
      simp only [List.mem_cons, not_or] at h
      rw [run_cons, ih _ h.2, progress_rotateStep p h.1]

variable (sha256 t E) in
/-- A request served at once gets no token, or its token is the current one and the one
before is under `t:old`. -/
theorem served_cases (p : Rotations) {i : ℕ} (h : p.progress i = .start) :
    let p' := run (rotateStep sha256 t E) p (List.replicate 4 i)
    (p'.progress i).token = none ∨
      ∃ e, p.handler.tokenCache.entries.lookup t = some e ∧
        (p'.progress i).token = some (newToken E i) ∧
        (∃ e', p'.handler.tokenCache.entries.lookup t = some e' ∧
          e'.value.tokenHash = computeTokenHash sha256 (newToken E i)) ∧
        ∃ e', p'.handler.tokenCache.entries.lookup (oldKey t) = some e' ∧ e'.value = e.value := by
  simp only [List.replicate, run_cons, run_nil]
  by_cases hfound : (p.handler.tunnelCache.get (E i 0).clock.steady t).isNone
  · left
    simp [rotateStep, Rotations.advance, h, hfound, Rotation.token]
  · cases hget : p.handler.tokenCache.get (E i 1).clock.steady t with
    | none =>
        left
        simp [rotateStep, Rotations.advance, h, hfound, hget, Rotation.token]
    | some old =>
        right
        obtain ⟨e, hlookup, rfl, _⟩ := Cache.get_eq_some_iff.mp hget
        refine ⟨e, hlookup, ?_⟩
        simp [rotateStep, Rotations.advance, Rotations.store, h, hfound, hget, Rotation.token,
          ne_oldKey, newAuthToken, issueToken]

theorem inTurn_append (as bs : List ℕ) : inTurn (as ++ bs) = inTurn as ++ inTurn bs := by
  simp [inTurn]

theorem mem_inTurn {order : List ℕ} {i : ℕ} : i ∈ inTurn order ↔ i ∈ order := by
  simp [inTurn]

/-- Of two requests served one after the other, the token of the first is under `t:old`. -/
theorem old_served {p : Rotations} {x y : ℕ} {u v : Str} (hxy : x ≠ y)
    (hx0 : p.progress x = .start) (hy0 : p.progress y = .start)
    (hx : ((run (rotateStep sha256 t E) p (inTurn [x, y])).progress x).token = some u)
    (hy : ((run (rotateStep sha256 t E) p (inTurn [x, y])).progress y).token = some v) :
    ∃ e, (run (rotateStep sha256 t E) p (inTurn [x, y])).handler.tokenCache.entries.lookup
        (oldKey t) = some e ∧ e.value.tokenHash = computeTokenHash sha256 u := by
  have hsplit : inTurn [x, y] = List.replicate 4 x ++ List.replicate 4 y := rfl
  rw [hsplit, run_append] at hx hy ⊢
  rw [progress_run _ (by simp [hxy])] at hx
  have hx1 := served_cases sha256 t E p hx0
  have hy1 : (run (rotateStep sha256 t E) p (List.replicate 4 x)).progress y = .start := by
    rw [progress_run _ (by simp [Ne.symm hxy]), hy0]
  generalize run (rotateStep sha256 t E) p (List.replicate 4 x) = p₁ at *
  obtain hnone | ⟨_, _, htoken, ⟨e₁, hmain, hhash⟩, _⟩ := hx1
  · rw [hnone] at hx
    cases hx
  · obtain hnone | ⟨e, hlookup, _, _, e', hold, hvalue⟩ :=
      served_cases sha256 t E p₁ hy1
    · rw [hnone] at hy
      cases hy
    · rw [hmain] at hlookup
      cases hlookup
      rw [htoken] at hx
      cases hx
      exact ⟨e', hold, by rw [hvalue, hhash]⟩

/-- What was stored at the start is not under `t:old` after two requests in turn. -/
theorem not_serializable (hexists : ExistsThroughout t E stored s) (hcomplete : Complete n sched)
    (hfresh : ∀ i < n, computeTokenHash sha256 (newToken E i) ≠ stored.value.tokenHash)
    (hn : 2 ≤ n) {b : ℕ} (hb : (run Provenance.step .init sched).old = some b)
    (hread : (run Provenance.step .init sched).read b = none) :
    ¬ Serializable sha256 t s E n sched := by
  rintro ⟨order, E', hperm, _, _, hold, htokens⟩
  obtain ⟨pre, x, y, rfl⟩ : ∃ pre x y, order = pre ++ [x, y] := by
    have hlength := hperm.length_eq
    rw [List.length_range] at hlength
    obtain rfl | ⟨front, y, rfl⟩ := List.eq_nil_or_concat' order
    · simp at hlength
      omega
    · obtain rfl | ⟨pre, x, rfl⟩ := List.eq_nil_or_concat' front
      · simp at hlength
        omega
      · exact ⟨pre, x, y, by simp⟩
  have hnodup : (pre ++ [x, y]).Nodup := hperm.nodup_iff.mpr List.nodup_range
  have hlt : ∀ i ∈ [x, y], i < n := by
    intro i hi
    exact List.mem_range.mp (hperm.mem_iff.mp (List.mem_append_right pre hi))
  have hx := htokens x (hlt x (by simp))
  have hy := htokens y (hlt y (by simp))
  rw [hcomplete.token hexists (hlt x (by simp)), inTurn_append, run_append] at hx
  rw [hcomplete.token hexists (hlt y (by simp)), inTurn_append, run_append] at hy
  have hstart : ∀ i ∈ [x, y],
      (run (rotateStep sha256 t E') (.begin s) (inTurn pre)).progress i = .start := by
    intro i hi
    rw [progress_run]
    · rfl
    · rw [mem_inTurn]
      exact fun hpre => (List.disjoint_of_nodup_append hnodup) hpre hi
  have hxy : x ≠ y := by
    rintro rfl
    simp [List.nodup_append] at hnodup
  obtain ⟨e, he, hhash⟩ :=
    old_served hxy (hstart x (by simp)) (hstart y (by simp)) hx.symm hy.symm
  rw [inTurn_append, run_append, he, (follows_run sha256 hexists sched).old b hb, hread] at hold
  cases hold
  exact hfresh x (hlt x (by simp)) hhash.symm

/-! ### Times for the requests in turn -/

/-- The same readings with a steady clock of their own. -/
def Readings.retime (E : Readings) (steady : ℕ → ℕ → ℤ) : Readings :=
  fun i k => { E i k with clock := ⟨steady i k, (E i k).clock.system⟩ }

/-- All operations at `start` but the two stores of request `a`. -/
def lastAt (a : ℕ) (start main old : ℤ) (i k : ℕ) : ℤ :=
  if i = a ∧ k = 2 then main else if i = a ∧ k = 3 then old else start

@[simp] theorem retime_steady (steady : ℕ → ℕ → ℤ) (i k : ℕ) :
    (E.retime steady i k).clock.steady = steady i k := rfl
@[simp] theorem newAuthToken_retime (steady : ℕ → ℕ → ℤ) (i : ℕ) :
    newAuthToken sha256 t (E.retime steady) i = newAuthToken sha256 t E i := rfl

@[simp] theorem lastAt_zero (a i : ℕ) (start main old : ℤ) : lastAt a start main old i 0 = start := by
  simp [lastAt]
@[simp] theorem lastAt_one (a i : ℕ) (start main old : ℤ) : lastAt a start main old i 1 = start := by
  simp [lastAt]
@[simp] theorem lastAt_two (a : ℕ) (start main old : ℤ) : lastAt a start main old a 2 = main := by
  simp [lastAt]
@[simp] theorem lastAt_three (a : ℕ) (start main old : ℤ) : lastAt a start main old a 3 = old := by
  simp [lastAt]

theorem le_lastAt {start main old : ℤ} (h : start ≤ main) (h' : main ≤ old) (a i k : ℕ) :
    start ≤ lastAt a start main old i k := by
  unfold lastAt
  split
  · exact h
  · split
    · exact h.trans h'
    · exact le_rfl

/-- A tunnel that exists throughout does so too when everything happens earlier, but for the
last request's stores. -/
theorem ExistsThroughout.retime (H : ExistsThroughout t E stored s) {a : ℕ} {start main old : ℤ}
    (htunnel : start ≤ (E a 0).clock.steady) (htoken : start ≤ (E a 1).clock.steady)
    (h : start ≤ main) (h' : main ≤ old) :
    ExistsThroughout t (E.retime (lastAt a start main old)) stored s where
  entry := H.entry
  tunnel := by
    intro i
    obtain ⟨tunnel, hget⟩ := Option.isSome_iff_exists.mp (H.tunnel a)
    simp [Cache.get_of_get_later htunnel hget]
  token := by
    intro i
    simpa using htoken.trans_lt (H.token a)
  renewed := by
    intro i c
    have hyear := seconds_yearTtl_pos
    have hlate := le_lastAt h h' a c 2
    simp only [retime_steady, lastAt_one]
    omega

/-- Within a request served last its last operation is the fourth. -/
theorem last_of_prefix {front pre : List ℕ} {a i : ℕ} (ha : a ∉ front)
    (hpre : pre ++ [i] <+: inTurn (front ++ [a])) (hcount : 3 ≤ pre.count a) :
    i = a ∧ pre.count a = 3 := by
  obtain ⟨post, h⟩ := hpre
  have hsplit : inTurn (front ++ [a]) = inTurn front ++ List.replicate 4 a := by
    simp [inTurn]
  have hfront : (inTurn front).count a = 0 := by
    rw [List.count_eq_zero, mem_inTurn]
    exact ha
  rw [hsplit, List.append_assoc] at h
  obtain ⟨rest, hrest, _⟩ | ⟨served, rfl, hserved⟩ := List.append_eq_append_iff.mp h
  · rw [hrest, List.count_append] at hfront
    omega
  · have hi : i ∈ List.replicate 4 a := by simp [hserved]
    have hlength := congrArg List.length hserved
    simp only [List.length_replicate, List.length_append, List.length_singleton] at hlength
    have hle : served.count a ≤ served.length := List.count_le_length
    rw [List.count_append, hfront] at hcount ⊢
    exact ⟨List.eq_of_mem_replicate hi, by omega⟩

variable (E) in
theorem clocked_last {front : List ℕ} {a : ℕ} {start main old : ℤ} (ha : a ∉ front)
    (h : start ≤ main) (h' : main ≤ old) :
    Clocked (E.retime (lastAt a start main old)) (inTurn (front ++ [a])) := by
  intro pre i hpre j k hk
  by_cases hlast : j = a ∧ 2 ≤ k
  · obtain ⟨rfl, hk2⟩ := hlast
    obtain ⟨rfl, h3⟩ := last_of_prefix ha hpre (by omega)
    obtain rfl : k = 2 := by omega
    simpa [h3] using h'
  · have hstart : lastAt a start main old j k = start := by
      unfold lastAt
      rw [if_neg (by omega), if_neg (by omega)]
    simp only [retime_steady, hstart]
    exact le_lastAt h h' a i _

theorem not_mem_of_nodup_concat {rest : List ℕ} {c a : ℕ} (h : (rest ++ [c, a]).Nodup) :
    c ∉ rest ∧ a ∉ rest ++ [c] := by
  rw [List.append_cons, ← List.concat_eq_append, List.nodup_concat, ← List.concat_eq_append] at h
  exact ⟨(List.nodup_concat _ _ |>.mp h.2).1, by simpa using h.1⟩

/-- The last two requests in turn: the last one has read the token of the other. -/
theorem provenance_inTurn {rest : List ℕ} {c a : ℕ} (hnodup : (rest ++ [c, a]).Nodup) :
    (run Provenance.step .init (inTurn (rest ++ [c, a]))).main = some a ∧
      (run Provenance.step .init (inTurn (rest ++ [c, a]))).old = some a ∧
      (run Provenance.step .init (inTurn (rest ++ [c, a]))).read a = some c := by
  have hstart : ∀ (front : List ℕ) (i : ℕ), i ∉ front →
      (run Provenance.step .init (inTurn front)).stage i = 0 := by
    intro front i hi
    rw [Provenance.stage_run, count_inTurn, List.count_eq_zero.mpr hi]
    rfl
  have hsplit : inTurn (rest ++ [c, a]) = inTurn (rest ++ [c]) ++ List.replicate 4 a := by
    simp [inTurn]
  have hsplit' : inTurn (rest ++ [c]) = inTurn rest ++ List.replicate 4 c := by
    simp [inTurn]
  obtain ⟨hc, ha⟩ := not_mem_of_nodup_concat hnodup
  have hfirst := Provenance.run_served _ c (hstart rest c hc)
  have hsecond := Provenance.run_served _ a (hstart (rest ++ [c]) a ha)
  rw [hsplit, run_append]
  refine ⟨hsecond.1, hsecond.2.1, ?_⟩
  rw [hsecond.2.2 a, if_pos rfl, hsplit', run_append, hfirst.1]

/-- All requests, with two of them last. -/
theorem perm_last_two {a c : ℕ} (hca : c ≠ a) (hc : c < n) (ha : a < n) :
    ((((List.range n).erase a).erase c) ++ [c, a]).Perm (List.range n) := by
  have hmem : c ∈ (List.range n).erase a := (List.mem_erase_of_ne hca).mpr (List.mem_range.mpr hc)
  have houter := List.perm_cons_erase (List.mem_range.mpr ha)
  have hinner := houter.trans ((List.perm_cons_erase hmem).cons a)
  exact (List.perm_append_comm.trans (List.Perm.swap a c _)).trans hinner.symm

/-- Where the last request is informed, the owner of the token under `t:old` and the owner of
the current one come last in turn. -/
theorem serializable_of_informed (hexists : ExistsThroughout t E stored s)
    (hcomplete : Complete n sched) (hclock : Clocked E sched) (hn : 0 < n)
    (H : LastInformed sched) : Serializable sha256 t s E n sched := by
  obtain ⟨a, b, han, hmain, hold, hle⟩ := hcomplete.end hclock hn
  obtain ⟨c, hread⟩ : ∃ c, (run Provenance.step .init sched).read b = some c := by
    simp only [LastInformed, hold] at H
    exact Option.isSome_iff_exists.mp H
  have hvalid := Provenance.valid_run sched
  have hcn : c < n := by
    have h3 := (hvalid.read_stage b c hread).1
    rw [Provenance.stage_run, hcomplete c] at h3
    by_contra hcn
    simp [hcn] at h3
  have hca : c ≠ a := by
    rintro rfl
    have hb4 := hvalid.old_stage b hold
    exact hvalid.replaced b c (by omega) hread hmain
  -- the requests in turn, everything at one early time but the last two stores
  let rest := ((List.range n).erase a).erase c
  have hperm : (rest ++ [c, a]).Perm (List.range n) := perm_last_two hca hcn han
  have hnodup : (rest ++ [c, a]).Nodup := hperm.nodup_iff.mpr List.nodup_range
  let start := min (min (E a 0).clock.steady (E a 1).clock.steady) (E a 2).clock.steady
  let E' := E.retime (lastAt a start (E a 2).clock.steady (E b 3).clock.steady)
  have hstart : start ≤ (E a 2).clock.steady := min_le_right _ _
  have hexists' : ExistsThroughout t E' stored s := by
    refine hexists.retime ?_ ?_ hstart hle
    · exact (min_le_left _ _).trans (min_le_left _ _)
    · exact (min_le_left _ _).trans (min_le_right _ _)
  have hclock' : Clocked E' (inTurn (rest ++ [c, a])) := by
    simpa using clocked_last E (not_mem_of_nodup_concat hnodup).2 hstart hle
  refine ⟨rest ++ [c, a], E', hperm, hclock', ?_⟩
  obtain ⟨hmain', hold', hread'⟩ := provenance_inTurn hnodup
  have hreal := follows_run sha256 hexists sched
  have hturn := follows_run sha256 hexists' (inTurn (rest ++ [c, a]))
  refine ⟨?_, ?_, ?_⟩
  · rw [hreal.main, hturn.main, hmain, hmain']
    simp [entryOf, E']
  · rw [hreal.old b hold, hturn.old a hold', hread, hread']
    simp [entryOf, E']
  · intro i hi
    rw [hcomplete.token hexists hi, (complete_inTurn hperm).token hexists' hi]
    rfl

/-- One request has nothing to be interleaved with. -/
theorem serializable_of_le_one (hcomplete : Complete n sched) (hclock : Clocked E sched)
    (hn : n ≤ 1) : Serializable sha256 t s E n sched := by
  have hsched : sched = inTurn (List.range n) := by
    obtain rfl | rfl : n = 0 ∨ n = 1 := by omega
    · refine List.eq_nil_iff_forall_not_mem.mpr fun i => ?_
      simpa [List.count_eq_zero] using hcomplete i
    · have hzero : ∀ i ∈ sched, 0 = i := by
        intro i hi
        by_contra hne
        have h0 := hcomplete i
        rw [if_neg (by omega), List.count_eq_zero] at h0
        exact h0 hi
      have hlength : sched.length = 4 := by
        rw [← List.count_eq_length.mpr hzero]
        exact hcomplete 0
      exact List.eq_replicate_iff.mpr ⟨hlength, fun i hi => (hzero i hi).symm⟩
  refine ⟨List.range n, E, List.Perm.refl _, hsched ▸ hclock, ?_⟩
  rw [← hsched]
  exact ⟨rfl, rfl, fun _ _ => rfl⟩

end

/-- **When rotations are serializable.**  Several interleaved rotations of one tunnel have the
outcome of the same rotations one after the other exactly if the one that finishes last has
read a token that another one had stored. -/
theorem serializable_iff (sha256 : Str → Digest) (t : Str) (s : Handler) (E : Readings) (n : ℕ)
    (sched : List ℕ) (stored : Entry AuthToken) (hexists : ExistsThroughout t E stored s)
    (hcomplete : Complete n sched) (hclock : Clocked E sched)
    (hfresh : ∀ i < n, computeTokenHash sha256 (newToken E i) ≠ stored.value.tokenHash) :
    Serializable sha256 t s E n sched ↔ n ≤ 1 ∨ LastInformed sched := by
  constructor
  · intro H
    by_contra hnot
    simp only [not_or, not_le] at hnot
    obtain ⟨hn, hinformed⟩ := hnot
    obtain ⟨a, b, _, _, hold, _⟩ := hcomplete.end hclock (by omega)
    have hread : (run Provenance.step .init sched).read b = none := by
      simpa [LastInformed, hold] using hinformed
    exact not_serializable hexists hcomplete hfresh hn hold hread H
  · rintro (hn | hinformed)
    · exact serializable_of_le_one hcomplete hclock hn
    · obtain hn | hn := Nat.eq_zero_or_pos n
      · exact serializable_of_le_one hcomplete hclock (by omega)
      · exact serializable_of_informed hexists hcomplete hclock hn hinformed

/-! ## Runs -/

/-- The tunnel `api` after its creation. -/
def createdHandler : Handler := (run (step sampleParse tokenSha256) World.init [sampleCreate]).handler
def createdEntry : Entry AuthToken :=
  ⟨issueToken tokenSha256 ⟨0, 0⟩ "api".toList (generateToken sampleCreate.env.random),
    seconds yearTtl⟩

/-- Everything happens at the time of the creation; each request draws other numbers. -/
def sampleReadings : Readings := fun i _ => ⟨⟨0, 0⟩, #v[5 + i.toUInt64, 1, 2, 3], 0⟩

theorem existsThroughout_sample :
    ExistsThroughout "api".toList sampleReadings createdEntry createdHandler where
  entry := by decide
  tunnel := fun _ => of_decide_eq_true rfl
  token := fun _ => of_decide_eq_true rfl
  renewed := fun _ _ => of_decide_eq_true rfl

theorem clocked_sample (sched : List ℕ) : Clocked sampleReadings sched := fun _ _ _ _ _ _ => le_rfl

theorem complete_two {sched : List ℕ} (hle : ∀ i ∈ sched, i < 2) (h0 : sched.count 0 = 4)
    (h1 : sched.count 1 = 4) : Complete 2 sched := by
  intro i
  split
  · obtain rfl | rfl : i = 0 ∨ i = 1 := by omega
    · exact h0
    · exact h1
  · rw [List.count_eq_zero]
    exact fun hi => absurd (hle i hi) (by assumption)

/-- The requests overlap, but the second reads the token only when the first has stored its
own. -/
theorem serializable_iff_overlapping :
    Serializable tokenSha256 "api".toList createdHandler sampleReadings 2
      [0, 1, 0, 0, 1, 1, 0, 1] :=
  (serializable_iff tokenSha256 "api".toList createdHandler sampleReadings 2
    [0, 1, 0, 0, 1, 1, 0, 1] createdEntry existsThroughout_sample
    (complete_two (by decide) (by decide) (by decide)) (clocked_sample _) (by decide)).mpr
      (.inr (by decide))

/-- Both requests read the token of the creation, then store in turn.  The token of the first
is in neither entry afterwards. -/
theorem not_serializable_overlapping :
    (∀ k ∈ ["api".toList, oldKey "api".toList],
      ((run (rotateStep tokenSha256 "api".toList sampleReadings) (.begin createdHandler)
        [0, 0, 1, 1, 0, 1, 0, 1]).handler.tokenCache.entries.lookup k).map (·.value.tokenHash) ≠
          some (computeTokenHash tokenSha256 (newToken sampleReadings 0))) ∧
    ¬ ∀ (sha256 : Str → Digest) (t : Str) (s : Handler) (E : Readings) (n : ℕ)
      (sched : List ℕ) (stored : Entry AuthToken), ExistsThroughout t E stored s →
        Complete n sched → Clocked E sched →
        (∀ i < n, computeTokenHash sha256 (newToken E i) ≠ stored.value.tokenHash) →
        (∀ i < n, ∀ j < n, newToken E i = newToken E j → i = j) →
          Serializable sha256 t s E n sched := by
  refine ⟨by decide +kernel, ?_⟩
  intro H
  have hfresh : ∀ i < 2, computeTokenHash tokenSha256 (newToken sampleReadings i) ≠
      createdEntry.value.tokenHash := by decide
  have hcomplete : Complete 2 [0, 0, 1, 1, 0, 1, 0, 1] :=
    complete_two (by decide) (by decide) (by decide)
  refine not_serializable existsThroughout_sample hcomplete hfresh le_rfl (b := 1) rfl rfl ?_
  exact H _ _ _ _ _ _ _ existsThroughout_sample hcomplete (clocked_sample _) hfresh (by decide)

end Protogate.Api
