import Mathlib.Data.List.AList

/-!
# Finite maps without a fixed iteration order

A hash map is an association list with distinct keys.  Its operations do not
depend on the order of the entries; a loop over it may visit them in any order,
which is a permutation of `entries`.

## Main definitions

* `Assoc K V` — the maps.
* `lookup_insert_ite`, `lookup_erase_ite` — what a later lookup finds.
* `mem_entries_iff` — the entries are the key–value pairs a lookup finds.
* `length_keys_insert`, `length_keys_erase` — the number of entries.
-/

namespace Protogate.Lib

universe u v

/-- A finite map from `K` to `V`. -/
abbrev Assoc (K : Type u) (V : Type v) := AList fun _ : K => V

namespace Assoc
variable {K : Type u} {V : Type v} [DecidableEq K]

theorem lookup_insert_ite (m : Assoc K V) (k k' : K) (v : V) :
    (m.insert k v).lookup k' = if k' = k then some v else m.lookup k' := by
  by_cases h : k' = k
  · subst h; simp
  · simp [h, AList.lookup_insert_ne h]

theorem lookup_erase_ite (m : Assoc K V) (k k' : K) :
    (m.erase k).lookup k' = if k' = k then none else m.lookup k' := by
  by_cases h : k' = k
  · subst h; simp
  · simp [h, AList.lookup_erase_ne h]

theorem lookup_of_lookup_erase {m : Assoc K V} {k k' : K} {v : V}
    (h : (m.erase k).lookup k' = some v) : k' ≠ k ∧ m.lookup k' = some v := by
  rw [lookup_erase_ite] at h
  split at h
  · cases h
  · exact ⟨‹_›, h⟩

theorem mem_of_lookup {m : Assoc K V} {k : K} {v : V} (h : m.lookup k = some v) : k ∈ m :=
  AList.lookup_isSome.mp (Option.isSome_iff_exists.mpr ⟨v, h⟩)

theorem mem_entries_iff {m : Assoc K V} {k : K} {v : V} :
    (⟨k, v⟩ : Sigma fun _ : K => V) ∈ m.entries ↔ m.lookup k = some v := by
  rw [← Option.mem_def, AList.mem_lookup_iff]

/-- An entry that was there is one of the entries before. -/
theorem length_keys_erase {m : Assoc K V} {k : K} (h : k ∈ m) :
    (m.erase k).keys.length + 1 = m.keys.length := by
  have hkey := AList.mem_keys.mp h
  have hpos := List.length_pos_of_mem hkey
  rw [AList.keys_erase, List.length_erase_of_mem hkey]
  omega

/-- A new key makes one entry more. -/
theorem length_keys_insert (m : Assoc K V) (k : K) (v : V) :
    (m.insert k v).keys.length = if k ∈ m then m.keys.length else m.keys.length + 1 := by
  rw [AList.keys_insert, List.length_cons]
  split
  · rename_i hmem
    rw [← AList.keys_erase, length_keys_erase hmem]
  · rename_i hmem
    rw [List.erase_of_not_mem fun hkey => hmem (AList.mem_keys.mpr hkey)]

end Assoc
end Protogate.Lib
