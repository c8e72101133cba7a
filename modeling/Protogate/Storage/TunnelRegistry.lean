import Protogate.Lib.Run
import Protogate.Models.Tunnel
import Protogate.Storage.Cache

/-!
# The tunnel registry

`TunnelRegistry` keeps tunnel configurations in a cache whose default time-to-live
is 0, which its constructor takes to mean none.  The cache does not: an entry put
with it is expired at once.

A registry is compared with a map that holds the tunnels last registered or
updated.  The operations keep the same keys as the map, so sizes agree; what is
read back does not, unless there is nothing to read.

## Main definitions

* `TunnelRegistry` and its operations.
* `System`, `step` — a registry, the time, and the map, under a run of calls.
* `Agrees` — every observation of the registry, now or later, is that of the map.
* `registry_agrees_iff` — when that is so.
-/

namespace Protogate.Registry

open Protogate.Lib Protogate.Models Protogate.Storage

/-! ## The registry -/

/-- The tunnels, by id. -/
structure TunnelRegistry where
  cache : Cache Str Tunnel

namespace TunnelRegistry

/-- No TTL for tunnel configs, says the source of this 0. -/
def init : TunnelRegistry := ⟨Cache.empty 0⟩

/-- `cache_.put` without a time-to-live. -/
def put (r : TunnelRegistry) (now : ℤ) (t : Tunnel) : TunnelRegistry :=
  ⟨r.cache.put now t.tunnelId t r.cache.defaultTtl⟩

def registerTunnel (r : TunnelRegistry) (now : ℤ) (t : Tunnel) : Except Str TunnelRegistry :=
  match t.validate with
  | some what => .error what
  | none => .ok (r.put now t)

def getTunnel (r : TunnelRegistry) (now : ℤ) (tunnelId : Str) : Option Tunnel :=
  r.cache.get now tunnelId

/-- The clock is read for the check and again for the update. -/
def updateTunnel (r : TunnelRegistry) (checked now : ℤ) (t : Tunnel) :
    Except Str (Bool × TunnelRegistry) :=
  match t.validate with
  | some what => .error what
  | none => .ok (if r.cache.contains checked t.tunnelId then (true, r.put now t) else (false, r))

def removeTunnel (r : TunnelRegistry) (tunnelId : Str) : Bool × TunnelRegistry :=
  ((r.cache.entries.lookup tunnelId).isSome, ⟨r.cache.remove tunnelId⟩)

def hasTunnel (r : TunnelRegistry) (now : ℤ) (tunnelId : Str) : Bool :=
  r.cache.contains now tunnelId

/-- The tunnels in the order of the visit. -/
def getAllTunnels (visit : List (Str × Tunnel)) : List Tunnel := visit.map (·.2)

def size (r : TunnelRegistry) : ℕ := r.cache.size

def clear (r : TunnelRegistry) : TunnelRegistry := ⟨r.cache.clear⟩

end TunnelRegistry

/-! ## Runs of calls -/

/-- A call that changes the registry; `meanwhile` passes inside an update. -/
inductive Op
  | registerTunnel (t : Tunnel)
  | updateTunnel (t : Tunnel) (meanwhile : ℕ)
  | removeTunnel (tunnelId : Str)
  | clear
  deriving DecidableEq

/-- A call, and the time since the one before. -/
structure Call where
  elapsed : ℕ
  op : Op
  deriving DecidableEq

/-- A registry, the steady clock after the last call, and the tunnels that were last
registered or updated and not removed or cleared since. -/
structure System where
  registry : TunnelRegistry
  now : ℤ
  expected : Assoc Str Tunnel

def System.init : System := ⟨.init, 0, ∅⟩

/-- What a call does to the map. -/
def expect (m : Assoc Str Tunnel) : Op → Assoc Str Tunnel
  | .registerTunnel t => if t.validate = none then m.insert t.tunnelId t else m
  | .updateTunnel t _ =>
      if t.validate = none ∧ (m.lookup t.tunnelId).isSome then m.insert t.tunnelId t else m
  | .removeTunnel tunnelId => m.erase tunnelId
  | .clear => ∅

/-- What a call does to the registry; where it throws, nothing. -/
def perform (r : TunnelRegistry) (now : ℤ) : Op → TunnelRegistry
  | .registerTunnel t =>
      match r.registerTunnel now t with
      | .ok r => r
      | .error _ => r
  | .updateTunnel t meanwhile =>
      match r.updateTunnel now (now + meanwhile) t with
      | .ok (_, r) => r
      | .error _ => r
  | .removeTunnel tunnelId => (r.removeTunnel tunnelId).2
  | .clear => r.clear

/-- The time that a call takes. -/
def Op.duration : Op → ℕ
  | .updateTunnel _ meanwhile => meanwhile
  | _ => 0

def step (s : System) (call : Call) : System where
  registry := perform s.registry (s.now + call.elapsed) call.op
  now := s.now + call.elapsed + call.op.duration
  expected := expect s.expected call.op

/-- At any time from now on the registry shows what the map holds. -/
def Agrees (s : System) : Prop :=
  ∀ elapsed : ℕ,
    (∀ id, s.registry.getTunnel (s.now + elapsed) id = s.expected.lookup id) ∧
    (∀ id, s.registry.hasTunnel (s.now + elapsed) id = (s.expected.lookup id).isSome) ∧
    (∀ visit, s.registry.cache.Visits (s.now + elapsed) visit →
      (TunnelRegistry.getAllTunnels visit).Perm (s.expected.entries.map (·.2))) ∧
    (∀ (t : Tunnel) (meanwhile : ℕ), t.validate = none →
      ∃ r, s.registry.updateTunnel (s.now + elapsed) (s.now + elapsed + meanwhile) t =
        .ok ((s.expected.lookup t.tunnelId).isSome, r)) ∧
    s.registry.size = s.expected.keys.length

/-! ## Expired registries -/

/-- Every entry has expired, and so will those put from now on. -/
structure Spent (r : TunnelRegistry) (now : ℤ) : Prop where
  ttl : r.cache.defaultTtl = 0
  expired : ∀ id e, r.cache.entries.lookup id = some e → e.expiresAt ≤ now

namespace Spent
variable {r : TunnelRegistry} {now : ℤ}

theorem init (now : ℤ) : Spent .init now where
  ttl := rfl
  expired := by
    intro id e h
    cases h

theorem later (h : Spent r now) (elapsed : ℕ) : Spent r (now + elapsed) where
  ttl := h.ttl
  expired := by
    intro id e hlook
    have hle := h.expired id e hlook
    omega

/-- A tunnel put without a time-to-live has expired when it is in the cache. -/
theorem put (h : Spent r now) (t : Tunnel) : Spent (r.put now t) now where
  ttl := h.ttl
  expired := by
    intro id e hlook
    simp only [TunnelRegistry.put, Cache.lookup_put, h.ttl] at hlook
    split at hlook
    · cases hlook
      simp [seconds]
    · exact h.expired id e hlook

theorem remove (h : Spent r now) (tunnelId : Str) : Spent ⟨r.cache.remove tunnelId⟩ now where
  ttl := h.ttl
  expired := by
    intro id e hlook
    rw [Cache.lookup_remove] at hlook
    split at hlook
    · cases hlook
    · exact h.expired id e hlook

theorem clear (h : Spent r now) : Spent r.clear now where
  ttl := h.ttl
  expired := by
    intro id e hlook
    cases hlook

/-- Nothing can be read back. -/
theorem get_eq_none (h : Spent r now) (id : Str) : r.cache.get now id = none := by
  cases hget : r.cache.get now id with
  | none => rfl
  | some t =>
      obtain ⟨e, hlook, _, hlt⟩ := Cache.get_eq_some_iff.mp hget
      have hle := h.expired id e hlook
      omega

theorem contains_eq_false (h : Spent r now) (id : Str) : r.cache.contains now id = false := by
  rw [Cache.contains_eq_isSome_get, h.get_eq_none]
  rfl

/-- No update finds its tunnel. -/
theorem updateTunnel (h : Spent r now) (later : ℤ) {t : Tunnel} (hvalid : t.validate = none) :
    r.updateTunnel now later t = .ok (false, r) := by
  rw [TunnelRegistry.updateTunnel, hvalid]
  simp only [h.contains_eq_false, Bool.false_eq_true, if_false]

theorem perform_update (h : Spent r now) (t : Tunnel) (meanwhile : ℕ) :
    perform r now (.updateTunnel t meanwhile) = r := by
  cases hvalid : t.validate with
  | none => rw [perform, h.updateTunnel _ hvalid]
  | some what => simp [perform, TunnelRegistry.updateTunnel, hvalid]

end Spent

/-! ## What holds of every run -/

theorem perform_register (r : TunnelRegistry) (now : ℤ) (t : Tunnel) :
    perform r now (.registerTunnel t) = if t.validate = none then r.put now t else r := by
  cases hvalid : t.validate with
  | none => simp [perform, TunnelRegistry.registerTunnel, hvalid]
  | some what => simp [perform, TunnelRegistry.registerTunnel, hvalid]

theorem spent_perform {r : TunnelRegistry} {now : ℤ} (h : Spent r now) (op : Op) :
    Spent (perform r now op) now := by
  cases op with
  | registerTunnel t =>
      rw [perform_register]
      split
      · exact h.put t
      · exact h
  | updateTunnel t meanwhile =>
      rw [h.perform_update]
      exact h
  | removeTunnel tunnelId => exact h.remove tunnelId
  | clear => exact h.clear

/-- Registry and map have the same keys, and every entry has expired. -/
structure Inv (s : System) : Prop extends Spent s.registry s.now where
  keys : ∀ id, (s.registry.cache.entries.lookup id).isSome = (s.expected.lookup id).isSome

theorem inv_init : Inv System.init where
  toSpent := Spent.init 0
  keys := fun _ => rfl

/-- The keys stay the same: a call changes both sides at one key, or empties them. -/
theorem keys_perform {r : TunnelRegistry} {now : ℤ} {m : Assoc Str Tunnel} (h : Spent r now)
    (hkeys : ∀ id, (r.cache.entries.lookup id).isSome = (m.lookup id).isSome) (op : Op) (id : Str) :
    ((perform r now op).cache.entries.lookup id).isSome = ((expect m op).lookup id).isSome := by
  cases op with
  | registerTunnel t =>
      rw [perform_register, expect]
      split
      · rw [TunnelRegistry.put, Cache.lookup_put, Assoc.lookup_insert_ite]
        split
        · rfl
        · exact hkeys id
      · exact hkeys id
  | updateTunnel t meanwhile =>
      rw [h.perform_update, expect, hkeys]
      split
      · rename_i hpresent
        rw [Assoc.lookup_insert_ite]
        split
        · rename_i heq
          rw [heq, hpresent.2]
          rfl
        · rfl
      · rfl
  | removeTunnel tunnelId =>
      rw [perform, TunnelRegistry.removeTunnel, expect, Cache.lookup_remove, Assoc.lookup_erase_ite]
      split
      · rfl
      · exact hkeys id
  | clear => rfl

theorem inv_step {s : System} (h : Inv s) (call : Call) : Inv (step s call) where
  toSpent := (spent_perform (h.later call.elapsed) call.op).later call.op.duration
  keys := keys_perform (h.later call.elapsed) h.keys call.op

theorem inv_run (calls : List Call) : Inv (run step System.init calls) :=
  run_invariant Inv (fun _ call h => inv_step h call) inv_init

/-! ## Agreement -/

/-- The sizes agree in every state: both count the same keys. -/
theorem Inv.size_eq {s : System} (h : Inv s) : s.registry.size = s.expected.keys.length := by
  refine List.Perm.length_eq ((List.perm_ext_iff_of_nodup (AList.keys_nodup _)
    (AList.keys_nodup _)).mpr ?_)
  intro id
  have hkeys := h.keys id
  rw [← AList.mem_keys, ← AList.mem_keys, ← AList.lookup_isSome, ← AList.lookup_isSome, hkeys]

/-- A registry agrees with the map exactly while there is nothing in the map. -/
theorem Inv.agrees_iff {s : System} (h : Inv s) :
    Agrees s ↔ ∀ id, s.expected.lookup id = none := by
  constructor
  · intro hagrees id
    rw [← (hagrees 0).1 id]
    exact (h.later 0).get_eq_none id
  · intro hnone elapsed
    have hentries : s.expected.entries = [] := by
      refine List.eq_nil_iff_forall_not_mem.mpr ?_
      rintro ⟨id, t⟩ hmem
      have hlook := Assoc.mem_entries_iff.mp hmem
      rw [hnone id] at hlook
      cases hlook
    refine ⟨?_, ?_, ?_, ?_, h.size_eq⟩
    · intro id
      rw [hnone]
      exact (h.later elapsed).get_eq_none id
    · intro id
      rw [hnone]
      exact (h.later elapsed).contains_eq_false id
    · intro visit hvisit
      rw [Cache.visit_eq_nil hvisit (h.later elapsed).get_eq_none, hentries]
      rfl
    · intro t meanwhile hvalid
      rw [hnone]
      exact ⟨s.registry, (h.later elapsed).updateTunnel _ hvalid⟩

/-- A call leaves an empty map empty exactly if it does not register a tunnel. -/
theorem expect_empty_iff {m : Assoc Str Tunnel} (hm : ∀ id, m.lookup id = none) (op : Op) :
    (∀ id, (expect m op).lookup id = none) ↔ ∀ t, op = .registerTunnel t → t.validate ≠ none := by
  cases op with
  | registerTunnel t =>
      constructor
      · rintro hnone t' ⟨⟩ hvalid
        have hthere := hnone t.tunnelId
        simp [expect, hvalid] at hthere
      · intro hinvalid
        simpa [expect, hinvalid t rfl] using hm
  | updateTunnel t meanwhile => simp [expect, hm]
  | removeTunnel tunnelId =>
      simp only [expect, Assoc.lookup_erase_ite, reduceCtorEq, false_implies, implies_true, iff_true]
      intro id
      split
      · rfl
      · exact hm id
  | clear =>
      simp only [expect, reduceCtorEq, false_implies, implies_true, iff_true]
      exact fun _ => rfl

/-- The call registers a tunnel that passes the check. -/
def Registers (call : Call) : Prop := ∃ t, call.op = .registerTunnel t ∧ t.validate = none

/-- **The registry is a map exactly while nothing is in it.**  After any run it agrees
with the map if and only if every tunnel registered has been removed or cleared
since, so that it agrees throughout if and only if none is ever registered. -/
theorem registry_agrees_iff (calls : List Call) :
    (Agrees (run step System.init calls) ↔
      ∀ id, (run step System.init calls).expected.lookup id = none) ∧
    (Always step Agrees System.init calls ↔ ∀ call ∈ calls, ¬ Registers call) := by
  refine ⟨(inv_run calls).agrees_iff, ?_⟩
  have hstep : ∀ s call, Inv s → Agrees s → (Agrees (step s call) ↔ ¬ Registers call) := by
    intro s call h hagrees
    rw [(inv_step h call).agrees_iff]
    refine (expect_empty_iff (h.agrees_iff.mp hagrees) call.op).trans ?_
    simp only [Registers, not_exists, not_and]
  have hinit : Agrees System.init := inv_init.agrees_iff.mpr fun _ => rfl
  rw [always_iff_along Inv (fun _ call h => inv_step h call) hstep inv_init hinit]
  exact along_const_iff

/-- A tunnel that passes the check. -/
def sampleTunnel : Tunnel where
  tunnelId := "app".toList
  protocol := .http
  targetHost := "localhost".toList
  targetPort := 5000
  ipAllowlist := ["10.0.0.0/24".toList]
  rateLimitRpm := 60
  createdAt := 1700000000123456789
  updatedAt := 1700000000123456789
  status := .active

/-- A tunnel just registered is not found. -/
theorem registered_not_found :
    let s := run step System.init [⟨0, .registerTunnel sampleTunnel⟩]
    s.registry.getTunnel s.now "app".toList = none ∧ s.registry.size = 1 ∧
    ¬ ∀ calls, Always step Agrees System.init calls := by
  have hget : (run step System.init [⟨0, .registerTunnel sampleTunnel⟩]).registry.getTunnel
      (run step System.init [⟨0, .registerTunnel sampleTunnel⟩]).now "app".toList = none := by
    decide +kernel
  have hlook : (run step System.init [⟨0, .registerTunnel sampleTunnel⟩]).expected.lookup
      "app".toList = some sampleTunnel := by decide +kernel
  refine ⟨hget, by decide +kernel, ?_⟩
  intro hall
  have hagrees : Agrees (run step System.init [⟨0, .registerTunnel sampleTunnel⟩]) :=
    (hall [⟨0, .registerTunnel sampleTunnel⟩]).2
  have hread := (hagrees 0).1 "app".toList
  rw [Nat.cast_zero, Int.add_zero, hget, hlook] at hread
  cases hread

end Protogate.Registry
