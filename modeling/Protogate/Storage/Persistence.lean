import Protogate.Lib.LastMatch
import Protogate.Models.TunnelJson
import Protogate.Storage.TunnelRegistry

/-!
# Saving and loading the tunnel registry

The registry is saved as a JSON array of its unexpired tunnels and loaded by
registering each element that converts to a tunnel.  `parse`, `dump` and
`dumpPretty` are the JSON library.

## Main definitions

* `serializeTunnels`, `deserializeTunnels`, `saveToStorage`, `loadFromStorage`.
* `RoundTrips` — a registry saved and loaded into an empty one can be read there.
* `RestoresExactly` — loading an array restores its well-formed elements.
* `persistence_iff` — when that is so.
* `restored_of_ttl` — with a positive time-to-live the same code does restore.
-/

namespace Protogate.Registry

open Protogate.Lib Protogate.Models Protogate.Storage

variable (parse : Str → Option Json) (dump dumpPretty : Json → Str)

/-! ## Saving and loading -/

/-- The text of the tunnels visited; `none` where the library throws. -/
def serializeTunnels (visit : List (Str × Tunnel)) : Option Str :=
  (visit.mapM fun p => parse (dump p.2.toJson)).map fun elements => dumpPretty (.array elements)

/-- Register one element, unless it does not convert. -/
def restore (now : ℤ) (r : TunnelRegistry) (element : Json) : TunnelRegistry :=
  match (parse (dump element)).bind Tunnel.fromJson with
  | some t => r.put now t
  | none => r

/-- Whether the text is an array, and the registry with its tunnels. -/
def deserializeTunnels (r : TunnelRegistry) (now : ℤ) (text : Str) : Bool × TunnelRegistry :=
  match parse text with
  | some (.array elements) => (true, elements.foldl (restore parse dump now) r)
  | _ => (false, r)

/-- The result, and the stored text; `upload` says whether the upload succeeds. -/
def saveToStorage (persistenceEnabled upload : Bool) (visit : List (Str × Tunnel))
    (blob : Option Str) : Bool × Option Str :=
  if !persistenceEnabled then (true, blob)
  else
    match serializeTunnels parse dump dumpPretty visit with
    | none => (false, blob)
    | some text => if upload then (true, some text) else (false, blob)

/-- The tunnels that the elements of an array convert to. -/
def restoredTunnels (elements : List Json) : List Tunnel :=
  elements.filterMap fun element => (parse (dump element)).bind Tunnel.fromJson

/-- The number reported as loaded, and the registry. -/
def loadFromStorage (persistenceEnabled : Bool) (blob : Option Str) (r : TunnelRegistry)
    (now : ℤ) : ℕ × TunnelRegistry :=
  if !persistenceEnabled then (0, r)
  else
    match blob with
    | none => (0, r)
    | some text =>
        let loaded := deserializeTunnels parse dump r now text
        (if loaded.1 then loaded.2.size else 0, loaded.2)

/-! ## What is put -/

theorem foldl_restore (r : TunnelRegistry) (now : ℤ) (elements : List Json) :
    elements.foldl (restore parse dump now) r =
      (restoredTunnels parse dump elements).foldl (fun r t => r.put now t) r := by
  rw [restoredTunnels, List.foldl_filterMap]
  refine List.foldl_ext _ _ _ fun r element _ => ?_
  rw [restore]
  cases (parse (dump element)).bind Tunnel.fromJson <;> rfl

theorem defaultTtl_foldl_put (ts : List Tunnel) (r : TunnelRegistry) (now : ℤ) :
    (ts.foldl (fun r t => r.put now t) r).cache.defaultTtl = r.cache.defaultTtl := by
  induction ts generalizing r with
  | nil => rfl
  | cons t ts ih => exact ih (r.put now t)

/-- Under an id there is the last tunnel put there, or what was there before. -/
theorem lookup_foldl_put (ts : List Tunnel) (r : TunnelRegistry) (now : ℤ) (id : Str) :
    (ts.foldl (fun r t => r.put now t) r).cache.entries.lookup id =
      ((lastMatch (fun t => decide (t.tunnelId = id)) ts).map fun t =>
        ⟨t, now + seconds r.cache.defaultTtl⟩).or (r.cache.entries.lookup id) := by
  induction ts using List.reverseRecOn with
  | nil => rfl
  | append_singleton ts t ih =>
      rw [List.foldl_append, List.foldl_cons, List.foldl_nil, lastMatch_concat, TunnelRegistry.put,
        Cache.lookup_put, ih, defaultTtl_foldl_put]
      by_cases hid : t.tunnelId = id
      · simp [hid]
      · simp [hid, Ne.symm hid]

/-! ## What should come back -/

/-- Saved at any later time and loaded into an empty registry, every tunnel
registered can be read there, its times truncated. -/
def RoundTrips (s : System) : Prop :=
  ∀ (elapsed : ℕ) (visit : List (Str × Tunnel)),
    s.registry.cache.Visits (s.now + elapsed) visit →
      ∃ text, serializeTunnels parse dump dumpPretty visit = some text ∧
        ∀ transfer later : ℕ, ∀ id t, s.expected.lookup id = some t →
          (deserializeTunnels parse dump .init (s.now + elapsed + transfer) text).2.getTunnel
            (s.now + elapsed + transfer + later) id = some t.truncated

/-- The tunnels among the elements, later ones in the place of earlier ones. -/
def wellFormed (elements : List Json) : Assoc Str Tunnel :=
  (elements.filterMap Tunnel.fromJson).foldl (fun m t => m.insert t.tunnelId t) ∅

/-- Loading the text into an empty registry restores exactly these tunnels. -/
def RestoresExactly (text : Str) (elements : List Json) : Prop :=
  ∀ (now : ℤ) (later : ℕ) (id : Str),
    (deserializeTunnels parse dump .init now text).2.getTunnel (now + later) id =
      (wellFormed elements).lookup id

/-! ## Nothing loaded can be read -/

theorem spent_restore {r : TunnelRegistry} {now : ℤ} (h : Spent r now) (element : Json) :
    Spent (restore parse dump now r element) now := by
  rw [restore]
  split
  · exact h.put _
  · exact h

theorem spent_deserialize {r : TunnelRegistry} {now : ℤ} (h : Spent r now) (text : Str) :
    Spent (deserializeTunnels parse dump r now text).2 now := by
  rw [deserializeTunnels]
  split
  · rename_i elements htext
    clear htext
    induction elements generalizing r with
    | nil => exact h
    | cons element elements ih => exact ih (spent_restore parse dump h element)
  · exact h

theorem spent_load {r : TunnelRegistry} {now : ℤ} (h : Spent r now) (persistenceEnabled : Bool)
    (blob : Option Str) :
    Spent (loadFromStorage parse dump persistenceEnabled blob r now).2 now := by
  cases persistenceEnabled with
  | false => exact h
  | true =>
      cases blob with
      | none => exact h
      | some text => exact spent_deserialize parse dump h text

/-- Whatever number it reports, no tunnel loaded at the start is found. -/
theorem loaded_not_found (persistenceEnabled : Bool) (blob : Option Str) (now : ℤ) (later : ℕ)
    (id : Str) :
    (loadFromStorage parse dump persistenceEnabled blob .init now).2.getTunnel (now + later) id =
      none :=
  ((spent_load parse dump (Spent.init now) persistenceEnabled blob).later later).get_eq_none id

theorem restored_not_found (text : Str) (now : ℤ) (later : ℕ) (id : Str) :
    (deserializeTunnels parse dump .init now text).2.getTunnel (now + later) id = none :=
  ((spent_deserialize parse dump (Spent.init now) text).later later).get_eq_none id

theorem Inv.roundTrips_iff {s : System} (h : Inv s) :
    RoundTrips parse dump dumpPretty s ↔ ∀ id, s.expected.lookup id = none := by
  have hvisit : s.registry.cache.Visits (s.now + (0 : ℕ)) [] := by
    have hlive : s.registry.cache.live (s.now + (0 : ℕ)) = [] :=
      Cache.visit_eq_nil (List.Perm.refl _) (h.later 0).get_eq_none
    rw [Cache.Visits, hlive]
  constructor
  · intro hround id
    cases hlook : s.expected.lookup id with
    | none => rfl
    | some t =>
        obtain ⟨text, _, hread⟩ := hround 0 [] hvisit
        have hget := hread 0 0 id t hlook
        rw [restored_not_found] at hget
        cases hget
  · intro hnone elapsed visit hvisit
    have hnil : visit = [] := Cache.visit_eq_nil hvisit (h.later elapsed).get_eq_none
    rw [hnil]
    refine ⟨dumpPretty (.array []), rfl, ?_⟩
    intro transfer later id t hlook
    rw [hnone id] at hlook
    cases hlook

theorem lookup_wellFormed (elements : List Json) (id : Str) :
    (wellFormed elements).lookup id =
      lastMatch (fun t => decide (t.tunnelId = id)) (elements.filterMap Tunnel.fromJson) := by
  rw [wellFormed, lookup_foldl_insert Tunnel.tunnelId fun t => t]
  exact Option.map_id'

theorem wellFormed_eq_empty_iff {elements : List Json} :
    (∀ id, (wellFormed elements).lookup id = none) ↔
      ∀ element ∈ elements, Tunnel.fromJson element = none := by
  simp only [lookup_wellFormed, lastMatch_eq_none_iff, decide_eq_false_iff_not]
  constructor
  · intro h element helement
    cases hconv : Tunnel.fromJson element with
    | none => rfl
    | some t =>
        exact absurd rfl (h t.tunnelId t (List.mem_filterMap.mpr ⟨element, helement, hconv⟩))
  · intro h id t ht
    obtain ⟨element, helement, hconv⟩ := List.mem_filterMap.mp ht
    rw [h element helement] at hconv
    cases hconv

/-- **Persistence restores exactly what it has nothing to restore of**: a registry comes
back if nothing is registered, and an array is restored if no element is a tunnel. -/
theorem persistence_iff :
    (∀ calls, RoundTrips parse dump dumpPretty (run step System.init calls) ↔
      ∀ id, (run step System.init calls).expected.lookup id = none) ∧
    (∀ (text : Str) (elements : List Json), parse text = some (.array elements) →
      (RestoresExactly parse dump text elements ↔
        ∀ element ∈ elements, Tunnel.fromJson element = none)) := by
  refine ⟨fun calls => (inv_run calls).roundTrips_iff parse dump dumpPretty, ?_⟩
  intro text elements _
  rw [← wellFormed_eq_empty_iff]
  constructor
  · intro hexact id
    rw [← hexact 0 0 id]
    exact restored_not_found parse dump text 0 0 id
  · intro hnone now later id
    rw [hnone id]
    exact restored_not_found parse dump text now later id

/-- The text of the tunnel `app`. -/
def appText : Str :=
  "\x7b\"created_at\":1700000000123,\"ip_allowlist\":[\"10.0.0.0/24\"],\"protocol\":\"HTTP\",".toList ++
    ("\"rate_limit_rpm\":60,\"status\":\"ACTIVE\",\"target_host\":\"localhost\",".toList ++
      "\"target_port\":5000,\"tunnel_id\":\"app\",\"updated_at\":1700000000123\x7d".toList)

/-- The text of the array with this tunnel. -/
def appsText : Str := '[' :: (appText ++ "]".toList)

/-- The JSON library on the values used below. -/
def sampleParse (text : Str) : Option Json :=
  if text = "[]".toList then some (.array [])
  else if text = "null".toList then some .null
  else if text = "[null]".toList then some (.array [.null])
  else if text = appText then some sampleTunnel.toJson
  else if text = appsText then some (.array [sampleTunnel.toJson])
  else none

/-- The texts of the same values. -/
def sampleDump : Json → Str
  | .array [] => "[]".toList
  | .array [.null] => "[null]".toList
  | .array _ => appsText
  | .null => "null".toList
  | _ => appText

/-- A tunnel that was registered and removed again has not to be restored, and one that is
still registered is not; neither is an element `null`, nor the object of a tunnel. -/
theorem persistence_iff_app :
    (RoundTrips sampleParse sampleDump sampleDump
        (run step System.init [⟨0, .registerTunnel sampleTunnel⟩, ⟨5, .removeTunnel "app".toList⟩]) ∧
      ¬ RoundTrips sampleParse sampleDump sampleDump
        (run step System.init [⟨0, .registerTunnel sampleTunnel⟩])) ∧
    RestoresExactly sampleParse sampleDump "[null]".toList [.null] ∧
    ¬ RestoresExactly sampleParse sampleDump appsText [sampleTunnel.toJson] := by
  obtain ⟨hround, hrestore⟩ := persistence_iff sampleParse sampleDump sampleDump
  have hremoved : (run step System.init [⟨0, .registerTunnel sampleTunnel⟩,
      ⟨5, .removeTunnel "app".toList⟩]).expected = ∅ := by rfl
  have hkept : (run step System.init [⟨0, .registerTunnel sampleTunnel⟩]).expected.lookup
      "app".toList ≠ none := by decide +kernel
  have hnull : sampleParse "[null]".toList = some (.array [.null]) := by
    rw [sampleParse, if_neg (by decide), if_neg (by decide), if_pos rfl]
  have happs : sampleParse appsText = some (.array [sampleTunnel.toJson]) := by
    have hne : appsText ≠ appText := fun h => by
      have hlength := congrArg List.length h
      rw [appsText, List.length_cons, List.length_append] at hlength
      omega
    rw [sampleParse, if_neg (by decide +kernel), if_neg (by decide +kernel),
      if_neg (by decide +kernel), if_neg hne, if_pos rfl]
  have hread : Tunnel.fromJson sampleTunnel.toJson ≠ none := by decide +kernel
  refine ⟨⟨(hround _).mpr fun id => ?_, fun h => hkept ((hround _).mp h _)⟩, ?_, fun h => ?_⟩
  · rw [hremoved]
    rfl
  · refine (hrestore _ _ hnull).mpr fun element helement => ?_
    rw [List.mem_singleton.mp helement]
    rfl
  · exact hread ((hrestore _ _ happs).mp h _ List.mem_cons_self)

/-- One registered tunnel is saved as the empty array and is not there after the load. -/
theorem backup_empty :
    let s := run step System.init [⟨0, .registerTunnel sampleTunnel⟩]
    s.registry.cache.Visits s.now [] ∧
    serializeTunnels sampleParse sampleDump sampleDump [] = some "[]".toList ∧
    (deserializeTunnels sampleParse sampleDump .init s.now "[]".toList).2.getTunnel s.now
      "app".toList = none ∧
    ¬ ∀ calls, RoundTrips sampleParse sampleDump sampleDump (run step System.init calls) := by
  have hvisit : (run step System.init [⟨0, .registerTunnel sampleTunnel⟩]).registry.cache.Visits
      (run step System.init [⟨0, .registerTunnel sampleTunnel⟩]).now [] := by decide +kernel
  have hlook : (run step System.init [⟨0, .registerTunnel sampleTunnel⟩]).expected.lookup
      "app".toList = some sampleTunnel := by decide +kernel
  refine ⟨hvisit, by decide, by decide +kernel, ?_⟩
  intro hall
  obtain ⟨text, _, hread⟩ := hall [⟨0, .registerTunnel sampleTunnel⟩] 0 []
    (by rwa [Nat.cast_zero, Int.add_zero])
  have hget := hread 0 0 "app".toList sampleTunnel hlook
  rw [restored_not_found] at hget
  cases hget

/-! ## With a time-to-live -/

section Ttl

variable {parse dump dumpPretty} (ttl : ℤ)

/-- What loading puts into an empty registry, whatever its time-to-live. -/
theorem lookup_foldl_restore (hparse : ∀ j, parse (dump j) = some j) (now : ℤ)
    (elements : List Json) (id : Str) :
    (elements.foldl (restore parse dump now) ⟨Cache.empty ttl⟩).cache.defaultTtl = ttl ∧
    (elements.foldl (restore parse dump now) ⟨Cache.empty ttl⟩).cache.entries.lookup id =
      ((wellFormed elements).lookup id).map fun t => ⟨t, now + seconds ttl⟩ := by
  have hrestored : restoredTunnels parse dump elements = elements.filterMap Tunnel.fromJson := by
    simp only [restoredTunnels, hparse, Option.bind_some]
  rw [foldl_restore, hrestored, lookup_wellFormed]
  refine ⟨defaultTtl_foldl_put _ _ _, ?_⟩
  rw [lookup_foldl_put, Cache.lookup_empty, Option.or_none]
  rfl

/-- With a positive time-to-live the tunnels that are visited by the save can be read
after the load, until they expire. -/
theorem restored_of_ttl (hparse : ∀ j, parse (dump j) = some j)
    (hpretty : ∀ j, parse (dumpPretty j) = some j) {visit : List (Str × Tunnel)}
    (hkey : ∀ p ∈ visit, p.2.tunnelId = p.1 ∧ p.2.Fits) (hnodup : (visit.map (·.1)).Nodup)
    {now : ℤ} {later : ℕ} (hlater : later < seconds ttl) :
    ∃ text, serializeTunnels parse dump dumpPretty visit = some text ∧
      ∀ id t, (id, t) ∈ visit →
        (deserializeTunnels parse dump ⟨Cache.empty ttl⟩ now text).2.getTunnel (now + later) id =
          some t.truncated := by
  have hmapM : visit.mapM (fun p => parse (dump p.2.toJson)) =
      some (visit.map fun p => p.2.toJson) := by
    simp only [hparse]
    clear hkey hnodup
    induction visit with
    | nil => rfl
    | cons p visit ih => simp [List.mapM_cons, ih]
  refine ⟨dumpPretty (.array (visit.map fun p => p.2.toJson)), ?_, ?_⟩
  · rw [serializeTunnels, hmapM]
    rfl
  · intro id t hmem
    have hconv : (visit.map fun p => p.2.toJson).filterMap Tunnel.fromJson =
        visit.map fun p => p.2.truncated := by
      rw [List.filterMap_map, ← List.filterMap_eq_map]
      refine List.filterMap_congr ?_
      intro p hp
      exact Tunnel.fromJson_toJson (hkey p hp).2
    have hlook : (wellFormed (visit.map fun p => p.2.toJson)).lookup id = some t.truncated := by
      rw [lookup_wellFormed, hconv]
      have hfound : (lastMatch (fun u : Tunnel => decide (u.tunnelId = id))
          (visit.map fun p => p.2.truncated)).isSome := by
        refine lastMatch_isSome_iff.mpr ⟨t.truncated, List.mem_map.mpr ⟨(id, t), hmem, rfl⟩, ?_⟩
        exact decide_eq_true (hkey (id, t) hmem).1
      obtain ⟨u, hu⟩ := Option.isSome_iff_exists.mp hfound
      obtain ⟨humem, huid⟩ := mem_of_lastMatch hu
      obtain ⟨p, hp, rfl⟩ := List.mem_map.mp humem
      -- The keys of a visit are distinct, so only this tunnel has the id.
      have hpid : p.1 = id := (hkey p hp).1.symm.trans (of_decide_eq_true huid)
      have hsame : p = (id, t) := List.inj_on_of_nodup_map hnodup hp hmem hpid
      rw [hu, hsame]
    have hentry := (lookup_foldl_restore ttl hparse now (visit.map fun p => p.2.toJson) id).2
    rw [hlook] at hentry
    rw [deserializeTunnels, hpretty]
    have hexpires : now + later < now + seconds ttl := by omega
    exact Cache.get_eq_some_iff.mpr ⟨_, hentry, rfl, hexpires⟩

end Ttl

end Protogate.Registry
