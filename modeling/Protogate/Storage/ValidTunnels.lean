import Protogate.Storage.Persistence

/-!
# Which tunnels a registry holds

`register_tunnel` and `update_tunnel` check a tunnel before they put it into the cache.
`load_from_storage` puts what it reads there without that check.

## Main definitions

* `RegistryCall`, `registryStep` — a call on the registry, a load among them.
* `HoldsValid` — each tunnel held is valid, and is under its own id.
* `LoadsValid` — of each id a load brings a valid tunnel last.
* `holdsValid_iff` — the registry holds valid tunnels throughout if each load is such, and only
  then.
-/

namespace Protogate.Registry

open Protogate.Lib Protogate.Models Protogate.Storage

/-- A call, with the steady clock; a load with what the blob storage returns. -/
inductive RegistryCall
  | op (now : ℤ) (op : Op)
  | loadFromStorage (now : ℤ) (blob : Option Str)

/-- The tunnels in the cache are valid and under their own ids. -/
def HoldsValid (r : TunnelRegistry) : Prop :=
  ∀ id e, r.cache.entries.lookup id = some e → e.value.validate = none ∧ e.value.tunnelId = id

variable (parse : Str → Option Json) (dump : Json → Str) (persistenceEnabled : Bool)

/-- What a call does to the registry. -/
def registryStep (r : TunnelRegistry) : RegistryCall → TunnelRegistry
  | .op now op => perform r now op
  | .loadFromStorage now blob => (loadFromStorage parse dump persistenceEnabled blob r now).2

/-- The tunnels that a load puts into the cache, in order. -/
def loadedTunnels (blob : Option Str) : List Tunnel :=
  match persistenceEnabled, blob.bind parse with
  | true, some (.array elements) => restoredTunnels parse dump elements
  | _, _ => []

/-- In a load the last tunnel of each id is valid. -/
def LoadsValid : RegistryCall → Prop
  | .op _ _ => True
  | .loadFromStorage _ blob =>
      ∀ id t, lastMatch (fun t => decide (t.tunnelId = id)) (loadedTunnels parse dump persistenceEnabled blob) =
        some t → t.validate = none

/-! ## The calls with a check -/

namespace HoldsValid
variable {r : TunnelRegistry}

theorem init : HoldsValid .init := by
  intro id e h
  cases h

theorem put (h : HoldsValid r) (now : ℤ) {t : Tunnel} (hvalid : t.validate = none) :
    HoldsValid (r.put now t) := by
  intro id e he
  rw [TunnelRegistry.put, Cache.lookup_put] at he
  split at he
  · rename_i hid
    cases he
    exact ⟨hvalid, hid.symm⟩
  · exact h id e he

theorem perform (h : HoldsValid r) (now : ℤ) (op : Op) : HoldsValid (perform r now op) := by
  cases op with
  | registerTunnel t =>
      rw [Registry.perform, TunnelRegistry.registerTunnel]
      cases hvalid : t.validate with
      | some what => exact h
      | none => exact h.put now hvalid
  | updateTunnel t meanwhile =>
      rw [Registry.perform, TunnelRegistry.updateTunnel]
      cases hvalid : t.validate with
      | some what => exact h
      | none =>
          by_cases hcontains : r.cache.contains now t.tunnelId
          · simp only [hcontains, if_true]
            exact h.put (now + meanwhile) hvalid
          · simp only [hcontains, Bool.false_eq_true, if_false]
            exact h
  | removeTunnel tunnelId =>
      intro id e he
      rw [Registry.perform, TunnelRegistry.removeTunnel, Cache.lookup_remove] at he
      split at he
      · cases he
      · exact h id e he
  | clear =>
      intro id e he
      cases he

/-- What is read from such a registry is valid. -/
theorem getTunnel (h : HoldsValid r) {now : ℤ} {id : Str} {t : Tunnel}
    (hget : r.getTunnel now id = some t) : t.validate = none ∧ t.tunnelId = id := by
  obtain ⟨e, he, rfl, _⟩ := Cache.get_eq_some_iff.mp hget
  exact h id e he

end HoldsValid

/-! ## A load -/

/-- A load puts its tunnels, one after the other. -/
theorem loadFromStorage_eq (blob : Option Str) (r : TunnelRegistry) (now : ℤ) :
    (loadFromStorage parse dump persistenceEnabled blob r now).2 =
      (loadedTunnels parse dump persistenceEnabled blob).foldl (fun r t => r.put now t) r := by
  cases persistenceEnabled with
  | false => rfl
  | true =>
      cases blob with
      | none => rfl
      | some text =>
          simp only [loadFromStorage, deserializeTunnels, loadedTunnels, Option.bind_some, Bool.not_true,
            Bool.false_eq_true, if_false]
          split
          · rename_i elements hparse
            rw [hparse, foldl_restore]
          · rename_i hparse
            split
            · rename_i elements _ hparse'
              exact absurd hparse' (hparse elements)
            · rfl

/-- After a load of tunnels into a registry of valid tunnels these are valid if the last of each id
is. -/
theorem holdsValid_foldl_put_iff {r : TunnelRegistry} (h : HoldsValid r) (now : ℤ) (ts : List Tunnel) :
    HoldsValid (ts.foldl (fun r t => r.put now t) r) ↔
      ∀ id t, lastMatch (fun t => decide (t.tunnelId = id)) ts = some t → t.validate = none := by
  constructor
  · intro hnext id t hlast
    have hlook := lookup_foldl_put ts r now id
    rw [hlast, Option.map_some, Option.some_or] at hlook
    exact (hnext id _ hlook).1
  · intro hvalid id e he
    rw [lookup_foldl_put] at he
    cases hlast : lastMatch (fun t => decide (t.tunnelId = id)) ts with
    | none =>
        rw [hlast, Option.map_none, Option.none_or] at he
        exact h id e he
    | some t =>
        rw [hlast, Option.map_some, Option.some_or] at he
        cases he
        exact ⟨hvalid id t hlast, of_decide_eq_true (mem_of_lastMatch hlast).2⟩

/-- One call. -/
theorem holdsValid_step_iff {r : TunnelRegistry} (h : HoldsValid r) (call : RegistryCall) :
    HoldsValid (registryStep parse dump persistenceEnabled r call) ↔
      LoadsValid parse dump persistenceEnabled call := by
  cases call with
  | op now op => exact iff_of_true (h.perform now op) trivial
  | loadFromStorage now blob =>
      rw [registryStep, loadFromStorage_eq]
      exact holdsValid_foldl_put_iff h now _

/-- **When a registry holds valid tunnels only**: throughout a run in which each load brings a valid
tunnel last of each id, and in no other. -/
theorem holdsValid_iff (calls : List RegistryCall) :
    Always (registryStep parse dump persistenceEnabled) HoldsValid .init calls ↔
      ∀ call ∈ calls, LoadsValid parse dump persistenceEnabled call := by
  have halong : Always (registryStep parse dump persistenceEnabled) HoldsValid .init calls ↔
      Along (registryStep parse dump persistenceEnabled)
        (fun _ => LoadsValid parse dump persistenceEnabled) .init calls := by
    refine always_iff_along (fun _ => True) (fun _ _ _ => trivial) ?_ trivial .init
    exact fun r call _ h => holdsValid_step_iff parse dump persistenceEnabled h call
  exact halong.trans along_const_iff

/-! ## A tunnel without an id -/

/-- A tunnel whose id is empty and whose port is 0. -/
def blankTunnel : Json := .object [
  ("tunnel_id".toList, .str []), ("protocol".toList, .str "HTTP".toList), ("target_host".toList, .str []),
  ("target_port".toList, .number 0), ("ip_allowlist".toList, .array []), ("rate_limit_rpm".toList, .number 0),
  ("created_at".toList, .number 0), ("updated_at".toList, .number 0), ("status".toList, .str "ACTIVE".toList)]

def blankText : Str :=
  ("\x7b\"tunnel_id\":\"\",\"protocol\":\"HTTP\",\"target_host\":\"\",\"target_port\":0," ++
    "\"ip_allowlist\":[],\"rate_limit_rpm\":0,\"created_at\":0,\"updated_at\":0," ++
    "\"status\":\"ACTIVE\"\x7d").toList

/-- The parser on this tunnel, and on the array of it. -/
def blankParse (text : Str) : Option Json :=
  if text = blankText then some blankTunnel
  else if text = '[' :: blankText ++ [']'] then some (.array [blankTunnel])
  else none

/-- It is loaded, and `validate` does not take what is then held. -/
theorem not_holdsValid_blank :
    ¬ ∀ (parse : Str → Option Json) (dump : Json → Str) (persistenceEnabled : Bool)
      (calls : List RegistryCall),
        Always (registryStep parse dump persistenceEnabled) HoldsValid .init calls := by
  intro H
  have hload := (H blankParse (fun _ => blankText) true
    [.loadFromStorage 0 (some ('[' :: blankText ++ [']']))]).2
  have hheld : ∃ e, (registryStep blankParse (fun _ => blankText) true .init
      (.loadFromStorage 0 (some ('[' :: blankText ++ [']'])))).cache.entries.lookup [] = some e ∧
        e.value.validate ≠ none := by
    refine ⟨⟨⟨[], .http, [], 0, [], 0, 0, 0, .active⟩, 0⟩, ?_, ?_⟩
    · decide +kernel
    · decide
  obtain ⟨e, he, hbad⟩ := hheld
  exact hbad (hload [] e he).1

end Protogate.Registry
