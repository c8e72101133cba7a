import Mathlib.Algebra.Group.Int.Defs
import Mathlib.Algebra.Group.Nat.Defs
import Protogate.Lib.Assoc

/-!
# The in-memory cache

`Cache` maps keys to values with an expiry on the steady clock.  Expired entries
stay in the map until they are overwritten or removed; every read skips them.
A time is in nanoseconds, a time-to-live in seconds.

The clocks of the source count in 64 bits.  `put64` is `put` with its sum in 64 bits, and
`put64_eq` says from which times the two are the same; `put` takes them to be such.

`forEach` of the source visits the unexpired entries in an unspecified order.
`Visits` says that a list is one such order; results about a visit quantify over
all of them.

## Main definitions

* `Clock` — one reading of the two clocks of the process.
* `Cache.put`, `Cache.get`, `Cache.contains`, `Cache.remove`, `Cache.size`,
  `Cache.clear`, `Cache.cleanup`, `Cache.live` — the operations.
* `Cache.put64`, `Fits` — the sum in 64 bits, and when it is exact.
* `Cache.Visits` — the orders in which `for_each` may run.
* `Cache.mem_live_iff` — what is visited is what `get` finds.
-/

namespace Protogate.Storage

open Protogate.Lib

universe u v

/-- One reading of `std::chrono::steady_clock` and `system_clock`. -/
structure Clock where
  steady : ℤ
  system : ℤ
  deriving DecidableEq, Repr

/-- The nanoseconds of a `std::chrono::seconds`. -/
def seconds (n : ℤ) : ℤ := n * 1000000000

/-- The value of 64 bits: a signed sum or product out of their range wraps around. -/
def int64 (n : ℤ) : ℤ := Int.bmod n (2 ^ 64)

/-- `now() + ttl` in 64 bits, the seconds converted first. -/
def expiry64 (now ttl : ℤ) : ℤ := int64 (now + int64 (seconds ttl))

/-- The value is one of 64 bits. -/
def IsInt64 (n : ℤ) : Prop := -2 ^ 63 ≤ n ∧ n < 2 ^ 63

instance (n : ℤ) : Decidable (IsInt64 n) := inferInstanceAs (Decidable (_ ∧ _))

/-- Neither the conversion to nanoseconds nor the sum leaves the 64 bits. -/
def Fits (now ttl : ℤ) : Prop := IsInt64 (seconds ttl) ∧ IsInt64 (now + seconds ttl)

instance (now ttl : ℤ) : Decidable (Fits now ttl) := inferInstanceAs (Decidable (_ ∧ _))

theorem int64_of_isInt64 {n : ℤ} (h : IsInt64 n) : int64 n = n := by
  obtain ⟨hlow, hhigh⟩ := h
  exact Int.bmod_eq_of_le_mul_two (by omega) (by omega)

/-- A sum that fits is exact. -/
theorem expiry64_of_fits {now ttl : ℤ} (h : Fits now ttl) :
    expiry64 now ttl = now + seconds ttl := by
  rw [expiry64, int64_of_isInt64 h.1, int64_of_isInt64 h.2]

/-- A cached value and the steady-clock time from which it is expired. -/
structure Entry (V : Type v) where
  value : V
  expiresAt : ℤ
  deriving DecidableEq, Repr

/-- `now() >= expires_at`. -/
def Entry.isExpired {V : Type v} (e : Entry V) (now : ℤ) : Bool := decide (e.expiresAt ≤ now)

/-- The entries and the time-to-live used when a caller gives none. -/
structure Cache (K : Type u) (V : Type v) where
  entries : Assoc K (Entry V)
  defaultTtl : ℤ

namespace Cache
variable {K : Type u} {V : Type v} [DecidableEq K]

/-- An empty cache; one hour is the default of the constructor. -/
def empty (defaultTtl : ℤ := 3600) : Cache K V := ⟨∅, defaultTtl⟩

/-- Insert or overwrite with an explicit time-to-live, whose end is representable. -/
def put (c : Cache K V) (now : ℤ) (key : K) (value : V) (ttl : ℤ) : Cache K V :=
  { c with entries := c.entries.insert key ⟨value, now + seconds ttl⟩ }

/-- `put`, with the time of expiry computed in 64 bits. -/
def put64 (c : Cache K V) (now : ℤ) (key : K) (value : V) (ttl : ℤ) : Cache K V :=
  { c with entries := c.entries.insert key ⟨value, expiry64 now ttl⟩ }

/-- The value under `key`, unless absent or expired. -/
def get (c : Cache K V) (now : ℤ) (key : K) : Option V :=
  match c.entries.lookup key with
  | none => none
  | some e => if e.isExpired now then none else some e.value

/-- Remove the entry under `key`, expired or not. -/
def remove (c : Cache K V) (key : K) : Cache K V := { c with entries := c.entries.erase key }

/-- Whether `key` is there and unexpired. -/
def contains (c : Cache K V) (now : ℤ) (key : K) : Bool :=
  match c.entries.lookup key with
  | none => false
  | some e => !e.isExpired now

/-- The number of entries, the expired ones included. -/
def size (c : Cache K V) : ℕ := c.entries.keys.length

/-- Drop all entries. -/
def clear (c : Cache K V) : Cache K V := { c with entries := ∅ }

/-- One turn of the loop of `cleanup`: an expired entry is erased and counted. -/
def cleanupStep (now : ℤ) (r : ℕ × Assoc K (Entry V)) (e : Sigma fun _ : K => Entry V) :
    ℕ × Assoc K (Entry V) :=
  if e.2.isExpired now then (r.1 + 1, r.2.erase e.1) else r

/-- Remove expired entries; their number is returned. -/
def cleanup (c : Cache K V) (now : ℤ) : ℕ × Cache K V :=
  let r := c.entries.entries.foldl (cleanupStep now) (0, c.entries)
  (r.1, { c with entries := r.2 })

/-- The unexpired entries, in one order. -/
def live (c : Cache K V) (now : ℤ) : List (K × V) :=
  c.entries.entries.filterMap fun ⟨k, e⟩ => if e.isExpired now then none else some (k, e.value)

/-- `order` is an order in which `for_each` may visit the unexpired entries. -/
def Visits (c : Cache K V) (now : ℤ) (order : List (K × V)) : Prop := order.Perm (c.live now)

instance [DecidableEq V] (c : Cache K V) (now : ℤ) (order : List (K × V)) :
    Decidable (c.Visits now order) := inferInstanceAs (Decidable (order.Perm (c.live now)))

/-! ## What a lookup finds -/

@[simp] theorem lookup_empty (ttl : ℤ) (k : K) :
    (empty ttl : Cache K V).entries.lookup k = none := rfl

@[simp] theorem lookup_put (c : Cache K V) (now ttl : ℤ) (k k' : K) (v : V) :
    (c.put now k v ttl).entries.lookup k' =
      if k' = k then some ⟨v, now + seconds ttl⟩ else c.entries.lookup k' :=
  Assoc.lookup_insert_ite c.entries k k' _

@[simp] theorem lookup_remove (c : Cache K V) (k k' : K) :
    (c.remove k).entries.lookup k' = if k' = k then none else c.entries.lookup k' :=
  Assoc.lookup_erase_ite c.entries k k'

/-- Where the sum fits, the 64 bits make no difference. -/
theorem put64_eq {now ttl : ℤ} (h : Fits now ttl) (c : Cache K V) (k : K) (v : V) :
    c.put64 now k v ttl = c.put now k v ttl := by
  rw [put64, put, expiry64_of_fits h]

theorem contains_eq_isSome_get (c : Cache K V) (now : ℤ) (k : K) :
    c.contains now k = (c.get now k).isSome := by
  simp only [contains, get]
  cases c.entries.lookup k with
  | none => rfl
  | some e => cases hx : e.isExpired now <;> simp [hx]

/-- A value found comes from an entry that has not expired. -/
theorem get_eq_some_iff {c : Cache K V} {now : ℤ} {k : K} {v : V} :
    c.get now k = some v ↔
      ∃ e, c.entries.lookup k = some e ∧ e.value = v ∧ now < e.expiresAt := by
  simp only [get]
  cases h : c.entries.lookup k with
  | none => simp
  | some e =>
      by_cases hx : e.expiresAt ≤ now
      · simp [Entry.isExpired, hx]
      · simp [Entry.isExpired, hx, Int.not_le.mp hx]

/-- What is found right after an entry was put. -/
theorem get_put {c : Cache K V} {now ttl : ℤ} (httl : 0 < seconds ttl) (k k' : K) (v : V) :
    (c.put now k v ttl).get now k' = if k' = k then some v else c.get now k' := by
  simp only [get, lookup_put]
  by_cases hk : k' = k
  · have hlive : ¬ now + seconds ttl ≤ now := by omega
    simp [hk, Entry.isExpired, hlive]
  · simp only [hk, if_false]

theorem get_remove (c : Cache K V) (now : ℤ) (k k' : K) :
    (c.remove k).get now k' = if k' = k then none else c.get now k' := by
  simp only [get, lookup_remove]
  by_cases hk : k' = k
  · simp only [hk, if_true]
  · simp only [hk, if_false]

/-- A visit sees exactly the pairs that `get` finds at the same time. -/
theorem mem_live_iff {c : Cache K V} {now : ℤ} {k : K} {v : V} :
    (k, v) ∈ c.live now ↔ c.get now k = some v := by
  rw [get_eq_some_iff, live, List.mem_filterMap]
  constructor
  · rintro ⟨⟨k', e⟩, hmem, hv⟩
    by_cases hx : e.expiresAt ≤ now
    · simp [Entry.isExpired, hx] at hv
    · simp only [Entry.isExpired, hx, decide_false, Bool.false_eq_true, if_false,
        Option.some.injEq, Prod.mk.injEq] at hv
      obtain ⟨rfl, rfl⟩ := hv
      exact ⟨e, Assoc.mem_entries_iff.mp hmem, rfl, Int.not_le.mp hx⟩
  · rintro ⟨e, hlook, rfl, hlt⟩
    refine ⟨⟨k, e⟩, Assoc.mem_entries_iff.mpr hlook, ?_⟩
    simp [Entry.isExpired, Int.not_le.mpr hlt]

theorem mem_visit_iff {c : Cache K V} {now : ℤ} {order : List (K × V)}
    (H : c.Visits now order) {k : K} {v : V} :
    (k, v) ∈ order ↔ c.get now k = some v := by
  rw [List.Perm.mem_iff H, mem_live_iff]

omit [DecidableEq K] in
/-- A visit sees each key once. -/
theorem nodup_live (c : Cache K V) (now : ℤ) : ((c.live now).map Prod.fst).Nodup := by
  have hsublist : ∀ es : List (Sigma fun _ : K => Entry V),
      ((es.filterMap fun ⟨k, e⟩ => if e.isExpired now then none else some (k, e.value)).map
        Prod.fst).Sublist (es.map Sigma.fst) := by
    intro es
    induction es with
    | nil => exact List.Sublist.slnil
    | cons a es ih =>
        obtain ⟨k, e⟩ := a
        cases hx : e.isExpired now with
        | true =>
            simp only [List.filterMap_cons, hx, if_true]
            exact ih.cons k
        | false =>
            simp only [List.filterMap_cons, hx, Bool.false_eq_true, if_false]
            exact ih.cons_cons k
  exact (hsublist c.entries.entries).nodup c.entries.nodupKeys

/-- Nothing is visited where every lookup fails. -/
theorem visit_eq_nil {c : Cache K V} {now : ℤ} {order : List (K × V)} (H : c.Visits now order)
    (hnone : ∀ k, c.get now k = none) : order = [] := by
  refine List.eq_nil_iff_forall_not_mem.mpr ?_
  rintro ⟨k, v⟩ hmem
  have hget := (mem_visit_iff H).mp hmem
  rw [hnone k] at hget
  cases hget

/-- The steady clock only removes values from view. -/
theorem get_of_get_later {c : Cache K V} {now later : ℤ} {k : K} {v : V} (h : now ≤ later)
    (H : c.get later k = some v) : c.get now k = some v := by
  obtain ⟨e, hlook, hv, hlt⟩ := get_eq_some_iff.mp H
  exact get_eq_some_iff.mpr ⟨e, hlook, hv, Int.lt_of_le_of_lt h hlt⟩

/-! ## Removing what has expired -/

/-- One turn of the loop, at an entry of the map. -/
theorem cleanupStep_spec {now : ℤ} {a : Sigma fun _ : K => Entry V} {m : Assoc K (Entry V)}
    (ha : m.lookup a.1 = some a.2) (n : ℕ) :
    let r := cleanupStep now (n, m) a
    r.1 + r.2.keys.length = n + m.keys.length ∧ ∀ k, r.2.lookup k =
      (m.lookup k).filter fun e => !(decide (k = a.1) && e.isExpired now) := by
  cases hexpired : a.2.isExpired now with
  | true =>
      have hstep : cleanupStep now (n, m) a = (n + 1, m.erase a.1) := by
        simp only [cleanupStep, hexpired, if_true]
      rw [hstep]
      refine ⟨?_, fun k => ?_⟩
      · have hlength := Assoc.length_keys_erase (Assoc.mem_of_lookup ha)
        dsimp only
        omega
      · rw [Assoc.lookup_erase_ite]
        by_cases hk : k = a.1
        · subst hk
          simp [ha, hexpired, Option.filter_some]
        · cases m.lookup k <;> simp [hk, Option.filter_some]
  | false =>
      have hstep : cleanupStep now (n, m) a = (n, m) := by
        simp only [cleanupStep, hexpired, Bool.false_eq_true, if_false]
      rw [hstep]
      refine ⟨rfl, fun k => ?_⟩
      by_cases hk : k = a.1
      · subst hk
        simp [ha, hexpired, Option.filter_some]
      · cases m.lookup k <;> simp [hk, Option.filter_some]

/-- What the loop leaves, and what it has counted. -/
theorem foldl_cleanupStep (now : ℤ) (es : List (Sigma fun _ : K => Entry V))
    (hnodup : (es.map Sigma.fst).Nodup) (n : ℕ) (m : Assoc K (Entry V))
    (hmem : ∀ e ∈ es, m.lookup e.1 = some e.2) :
    let r := es.foldl (cleanupStep now) (n, m)
    r.1 + r.2.keys.length = n + m.keys.length ∧ ∀ k, r.2.lookup k =
      (m.lookup k).filter fun e => !(decide (k ∈ es.map Sigma.fst) && e.isExpired now) := by
  induction es generalizing n m with
  | nil =>
      refine ⟨rfl, fun k => ?_⟩
      rw [List.foldl_nil]
      cases m.lookup k <;> rfl
  | cons a es ih =>
      obtain ⟨hhead, htail⟩ := List.forall_mem_cons.mp hmem
      rw [List.map_cons, List.nodup_cons] at hnodup
      obtain ⟨hnew, hnodup⟩ := hnodup
      obtain ⟨hcount, hlook⟩ := cleanupStep_spec hhead n
      have hrest : ∀ e ∈ es, (cleanupStep now (n, m) a).2.lookup e.1 = some e.2 := by
        intro e he
        have hne : e.1 ≠ a.1 := fun heq => hnew (heq ▸ List.mem_map_of_mem he)
        rw [hlook, htail e he, Option.filter_some]
        simp [hne]
      obtain ⟨hcountRest, hlookRest⟩ := ih hnodup (cleanupStep now (n, m) a).1 _ hrest
      rw [List.foldl_cons]
      refine ⟨hcountRest.trans hcount, fun k => (hlookRest k).trans ?_⟩
      rw [hlook, Option.filter_filter]
      congr 1
      funext e
      by_cases hk : k = a.1
      · simp [hk, hnew]
      · simp only [hk, decide_false, Bool.false_and, Bool.not_false, Bool.true_and, List.map_cons,
          List.mem_cons, false_or]

theorem lookup_cleanup (c : Cache K V) (now : ℤ) (k : K) :
    (c.cleanup now).2.entries.lookup k = (c.entries.lookup k).filter fun e => !e.isExpired now := by
  have hnodup : (c.entries.entries.map Sigma.fst).Nodup := c.entries.nodupKeys
  obtain ⟨_, hlook⟩ := foldl_cleanupStep now c.entries.entries hnodup 0 c.entries
    fun e he => Assoc.mem_entries_iff.mp he
  rw [cleanup, hlook]
  cases hentry : c.entries.lookup k with
  | none => rfl
  | some e =>
      have hkey : k ∈ c.entries.entries.map Sigma.fst :=
        List.mem_map_of_mem (f := Sigma.fst) (Assoc.mem_entries_iff.mpr hentry)
      simp [hkey]

/-- `cleanup` returns by how much the size has decreased. -/
theorem size_cleanup (c : Cache K V) (now : ℤ) :
    (c.cleanup now).1 + (c.cleanup now).2.size = c.size := by
  have hnodup : (c.entries.entries.map Sigma.fst).Nodup := c.entries.nodupKeys
  obtain ⟨hcount, _⟩ := foldl_cleanupStep now c.entries.entries hnodup 0 c.entries
    fun e he => Assoc.mem_entries_iff.mp he
  rw [Nat.zero_add] at hcount
  exact hcount

end Cache
end Protogate.Storage
