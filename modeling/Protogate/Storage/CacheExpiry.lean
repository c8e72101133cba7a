import Protogate.Lib.LastMatch
import Protogate.Lib.Results
import Protogate.Storage.Cache

/-!
# A cache as a map with expiry

Expired entries stay until they are overwritten, removed or cleaned up, and every read
skips them.  So what a read finds is told by the last call that concerns its key: the
value that it put there, until the time-to-live has elapsed.  A cleanup concerns no key.

The cache adds a time-to-live to the clock in 64 bits, the map in the integers.

## Main definitions

* `Timed`, `perform` — the calls that change a cache, with their times.
* `expected` — what a map with expiry would hold.
* `Agrees` — the reads of a cache agree with it.
* `Timed.Fits` — the sum of a `put` does not leave the 64 bits.
* `Tracks`, `tracks_run` — the invariant: an entry is missing at most after its expiry.
* `cache_refines` — the reads agree after every run, wherever cleanups are inserted.
-/

namespace Protogate.Storage

open Protogate.Lib

universe u v
variable {K : Type u} {V : Type v} [DecidableEq K]

/-- A call that changes the cache. -/
inductive Operation (K : Type u) (V : Type v)
  | put (key : K) (value : V) (ttl : ℤ)
  | remove (key : K)
  | clear
  | cleanup
  deriving DecidableEq

/-- A call at its time on the steady clock. -/
structure Timed (K : Type u) (V : Type v) where
  now : ℤ
  op : Operation K V
  deriving DecidableEq

def perform (c : Cache K V) (call : Timed K V) : Cache K V :=
  match call.op with
  | .put key value ttl => c.put64 call.now key value ttl
  | .remove key => c.remove key
  | .clear => c.clear
  | .cleanup => (c.cleanup call.now).2

/-- A `put` computes its expiry without overflow. -/
def Timed.Fits (call : Timed K V) : Prop :=
  match call.op with
  | .put _ _ ttl => Storage.Fits call.now ttl
  | .remove _ | .clear | .cleanup => True

instance : (call : Timed K V) → Decidable call.Fits
  | ⟨now, .put _ _ ttl⟩ => inferInstanceAs (Decidable (Storage.Fits now ttl))
  | ⟨_, .remove _⟩ | ⟨_, .clear⟩ | ⟨_, .cleanup⟩ => inferInstanceAs (Decidable True)

/-- The time-to-live of a `put` is not negative. -/
def Timed.NonNegative (call : Timed K V) : Prop :=
  match call.op with
  | .put _ _ ttl => 0 ≤ ttl
  | .remove _ | .clear | .cleanup => True

instance : (call : Timed K V) → Decidable call.NonNegative
  | ⟨_, .put _ _ ttl⟩ => inferInstanceAs (Decidable (0 ≤ ttl))
  | ⟨_, .remove _⟩ | ⟨_, .clear⟩ | ⟨_, .cleanup⟩ => inferInstanceAs (Decidable True)

/-- The clock does not go back during the calls and until `now`. -/
def ClockForward (calls : List (Timed K V)) (now : ℤ) : Prop :=
  (calls.map Timed.now ++ [now]).Pairwise (· ≤ ·)

instance (calls : List (Timed K V)) (now : ℤ) : Decidable (ClockForward calls now) :=
  inferInstanceAs (Decidable ((calls.map Timed.now ++ [now]).Pairwise (· ≤ ·)))

/-! ## The map -/

/-- The call decides what is under `key`. -/
def Timed.concerns (key : K) (call : Timed K V) : Bool :=
  match call.op with
  | .put k _ _ | .remove k => k = key
  | .clear => true
  | .cleanup => false

/-- The entry that a call leaves under the key that it concerns. -/
def Timed.entry (call : Timed K V) : Option (Entry V) :=
  match call.op with
  | .put _ value ttl => some ⟨value, call.now + seconds ttl⟩
  | .remove _ | .clear | .cleanup => none

/-- The entry of the last `put` of the key that no `remove` or `clear` follows. -/
def lastEntry (calls : List (Timed K V)) (key : K) : Option (Entry V) :=
  (lastMatch (Timed.concerns key) calls).bind Timed.entry

/-- Its value, if its time-to-live has not elapsed. -/
def expected (calls : List (Timed K V)) (now : ℤ) (key : K) : Option V :=
  (lastEntry calls key).bind fun e => if now < e.expiresAt then some e.value else none

/-- The reads of a cache agree with the map, a visit sees each key once, and a cleanup returns by
how much the size decreases. -/
structure Agrees (c : Cache K V) (calls : List (Timed K V)) (now : ℤ) : Prop where
  get : ∀ key, c.get now key = expected calls now key
  contains : ∀ key, c.contains now key = (expected calls now key).isSome
  visits : ∀ order, c.Visits now order → (order.map Prod.fst).Nodup ∧
    ∀ key value, (key, value) ∈ order ↔ expected calls now key = some value
  cleanup : (c.cleanup now).1 + (c.cleanup now).2.size = c.size

/-! ## The invariant -/

/-- The cache has the last entry of each key, or no entry where this one has expired by `now`. -/
def Tracks (calls : List (Timed K V)) (now : ℤ) (c : Cache K V) : Prop :=
  ∀ key, c.entries.lookup key = lastEntry calls key ∨
    c.entries.lookup key = none ∧ ∀ e, lastEntry calls key = some e → e.expiresAt ≤ now

theorem lastEntry_concat (calls : List (Timed K V)) (call : Timed K V) (key : K) :
    lastEntry (calls ++ [call]) key =
      if call.concerns key then call.entry else lastEntry calls key := by
  rw [lastEntry, lastMatch_concat]
  split <;> rfl

theorem Tracks.later {calls : List (Timed K V)} {now later : ℤ} {c : Cache K V}
    (h : Tracks calls now c) (hle : now ≤ later) : Tracks calls later c := by
  intro key
  refine (h key).imp_right ?_
  rintro ⟨hnone, hexpired⟩
  exact ⟨hnone, fun e he => Int.le_trans (hexpired e he) hle⟩

/-- What one call preserves. -/
theorem Tracks.perform {calls : List (Timed K V)} {c : Cache K V} {call : Timed K V}
    (h : Tracks calls call.now c) (hfits : call.Fits) :
    Tracks (calls ++ [call]) call.now (perform c call) := by
  intro key
  obtain ⟨now, op⟩ := call
  rw [lastEntry_concat]
  cases op with
  | put k value ttl =>
      simp only [Storage.perform, Cache.put64_eq hfits, Cache.lookup_put, Timed.concerns, Timed.entry,
        decide_eq_true_eq]
      by_cases hk : key = k
      · left
        rw [if_pos hk, if_pos hk.symm]
      · rw [if_neg hk, if_neg (Ne.symm hk)]
        exact h key
  | remove k =>
      simp only [Storage.perform, Cache.lookup_remove, Timed.concerns, Timed.entry, decide_eq_true_eq]
      by_cases hk : key = k
      · left
        rw [if_pos hk, if_pos hk.symm]
      · rw [if_neg hk, if_neg (Ne.symm hk)]
        exact h key
  | clear => exact .inl rfl
  | cleanup =>
      simp only [Storage.perform, Cache.lookup_cleanup, Timed.concerns, Bool.false_eq_true, if_false]
      obtain hentry | ⟨hnone, hexpired⟩ := h key
      · cases hlast : lastEntry calls key with
        | none => exact .inl (by rw [hentry, hlast]; rfl)
        | some e =>
            rw [hentry, hlast, Option.filter_some]
            cases hx : e.isExpired now with
            | true =>
                refine .inr ⟨rfl, fun e' he' => ?_⟩
                cases he'
                exact of_decide_eq_true hx
            | false => exact .inl rfl
      · exact .inr ⟨by rw [hnone]; rfl, hexpired⟩

/-- **What every run preserves.** -/
theorem tracks_run (defaultTtl : ℤ) (calls : List (Timed K V)) {now : ℤ}
    (hfits : ∀ call ∈ calls, call.Fits) (h : ClockForward calls now) :
    Tracks calls now (run perform (Cache.empty defaultTtl) calls) := by
  induction calls using List.reverseRecOn generalizing now with
  | nil => exact fun key => .inl rfl
  | append_singleton calls call ih =>
      rw [ClockForward, List.map_append, List.map_singleton, List.pairwise_append] at h
      obtain ⟨hcalls, _, hlast⟩ := h
      have hnow : call.now ≤ now := hlast call.now (by simp) now (by simp)
      rw [run_append]
      have hbefore := ih (fun e he => hfits e (List.mem_append_left _ he)) hcalls
      exact (hbefore.perform (hfits call (by simp))).later hnow

/-! ## The reads -/

theorem Tracks.agrees {calls : List (Timed K V)} {now : ℤ} {c : Cache K V} (h : Tracks calls now c) :
    Agrees c calls now := by
  have hget : ∀ key, c.get now key = expected calls now key := by
    intro key
    rw [expected, Cache.get]
    obtain hentry | ⟨hnone, hexpired⟩ := h key
    · rw [hentry]
      cases hlast : lastEntry calls key with
      | none => rfl
      | some e => by_cases hx : e.expiresAt ≤ now <;> simp [Entry.isExpired, hx]
    · rw [hnone]
      cases hlast : lastEntry calls key with
      | none => rfl
      | some e => simp [hexpired e hlast]
  refine ⟨hget, fun key => ?_, fun order hvisit => ⟨?_, fun key value => ?_⟩, c.size_cleanup now⟩
  · rw [Cache.contains_eq_isSome_get, hget]
  · exact (hvisit.map Prod.fst).nodup_iff.mpr (c.nodup_live now)
  · rw [Cache.mem_visit_iff hvisit, hget]

/-- Cleanups do not count. -/
theorem lastEntry_unmarked {calls : List (Marked (Timed K V))}
    (h : ∀ e ∈ calls, e.2 = true → e.1.op = .cleanup) (key : K) :
    lastEntry (calls.map Prod.fst) key = lastEntry (unmarked calls) key := by
  induction calls using List.reverseRecOn with
  | nil => rfl
  | append_singleton calls e ih =>
      have hcalls : ∀ e ∈ calls, e.2 = true → e.1.op = .cleanup := fun e he =>
        h e (List.mem_append_left _ he)
      obtain ⟨call, inserted⟩ := e
      rw [unmarked_concat, List.map_append, List.map_singleton, lastEntry_concat, ih hcalls]
      cases inserted with
      | true =>
          have hop : call.op = .cleanup := h (call, true) (by simp) rfl
          have hconcerns : call.concerns key = false := by rw [Timed.concerns, hop]
          rw [hconcerns, if_pos rfl]
          rfl
      | false =>
          simp only [Bool.false_eq_true, if_false, lastEntry_concat]

omit [DecidableEq K] in
/-- The calls that are not inserted are among those that were made, and cleanups always fit. -/
theorem fits_inserted {calls : List (Timed K V)} {inserted : List (Marked (Timed K V))}
    (hcalls : unmarked inserted = calls)
    (hcleanup : ∀ e ∈ inserted, e.2 = true → e.1.op = .cleanup)
    (hfits : ∀ call ∈ calls, call.Fits) : ∀ call ∈ inserted.map Prod.fst, call.Fits := by
  intro call hmem
  obtain ⟨⟨call, mark⟩, he, rfl⟩ := List.mem_map.mp hmem
  cases mark with
  | true =>
      have hop : call.op = .cleanup := hcleanup _ he rfl
      simp only [Timed.Fits, hop]
  | false =>
      refine hfits call (hcalls ▸ ?_)
      exact List.mem_map.mpr ⟨(call, false), List.mem_filter.mpr ⟨he, rfl⟩, rfl⟩

/-- An entry of no duration is never read, but it is there until a cleanup. -/
example : ((Cache.empty : Cache ℕ ℕ).put64 5 1 7 0).get 5 1 = none ∧
    (((Cache.empty : Cache ℕ ℕ).put64 5 1 7 0).cleanup 5).1 = 1 := by decide

/-- **A cache refines a map with expiry**: after every run whose times of expiry fit in 64 bits, and
at every later time, its reads agree with the map, and they do so when cleanups have been inserted
anywhere. -/
theorem cache_refines (defaultTtl : ℤ) (calls : List (Timed K V)) (now : ℤ)
    (hfits : ∀ call ∈ calls, call.Fits) (hforward : ClockForward calls now) :
    Agrees (run perform (Cache.empty defaultTtl) calls) calls now ∧
      ∀ inserted : List (Marked (Timed K V)), unmarked inserted = calls →
        (∀ e ∈ inserted, e.2 = true → e.1.op = .cleanup) →
        ClockForward (inserted.map Prod.fst) now →
          Agrees (run perform (Cache.empty defaultTtl) (inserted.map Prod.fst)) calls now := by
  refine ⟨(tracks_run defaultTtl calls hfits hforward).agrees,
    fun inserted hcalls hcleanup hforward' => ?_⟩
  have htracks := tracks_run defaultTtl (inserted.map Prod.fst)
    (fits_inserted hcalls hcleanup hfits) hforward'
  have hsame : Tracks calls now (run perform (Cache.empty defaultTtl) (inserted.map Prod.fst)) := by
    intro key
    rw [← hcalls, ← lastEntry_unmarked hcleanup]
    exact htracks key
  exact hsame.agrees

/-- Two entries, the first of which a cleanup removes when it has expired. -/
theorem cache_refines_second :
    Agrees (run perform (Cache.empty 60)
        ([(⟨0, .put 1 10 5⟩, false), (⟨1, .put 2 20 9⟩, false), (⟨seconds 5, .cleanup⟩, true)].map
          Prod.fst) : Cache ℕ ℕ)
      [⟨0, .put 1 10 5⟩, ⟨1, .put 2 20 9⟩] (seconds 6) :=
  (cache_refines 60 _ (seconds 6) (by decide) (by decide)).2 _ rfl (by decide) (by decide)

/-- An entry for 9223372037 seconds, which are more nanoseconds than 64 bits hold, has expired one
nanosecond after it was put. -/
theorem not_cache_refines :
    ¬ ∀ (calls : List (Timed ℕ ℕ)) (now : ℤ), (∀ call ∈ calls, call.NonNegative) →
      ClockForward calls now → Agrees (run perform (Cache.empty 60) calls) calls now := by
  intro h
  have hget := (h [⟨0, .put 1 10 9223372037⟩] 1 (by decide) (by decide)).get 1
  revert hget
  decide

end Protogate.Storage
