import Protogate.Proxy.HandleRequest

/-!
# Routing by hostname

`match_tunnel` looks for a key that is the hostname, or its beginning up to a dot.  While no key
contains a dot, both rules say the same: the key is the first label of the hostname.  So at most
one key matches, and it does not matter that the scan keeps the last match of an unspecified
order.

## Main definitions

* `firstLabel` — the hostname up to its first dot.
* `matchTunnel_eq` — what is found.
* `matchTunnel_unambiguous` — no order and no other key matters.
-/

namespace Protogate.Proxy

open Protogate.Lib Protogate.Models Protogate.Storage

/-- The text before the first dot; all of it if there is none. -/
def firstLabel (hostname : Str) : Str := hostname.takeWhile (· ≠ '.')

section
variable {tunnelCache : Cache Str Tunnel} {now : ℤ} {order : List (Str × Tunnel)}

/-- A key without a dot matches exactly if it is the first label. -/
theorem matches_iff {key : Str} (hkey : '.' ∉ key) (hostname : Str) :
    (hasPrefix (key ++ ".".toList) hostname || key == hostname) = true ↔ key = firstLabel hostname := by
  rw [firstLabel, eq_takeWhile_ne_iff hkey, Bool.or_eq_true, beq_iff_eq]
  rfl

/-- What is visited is a live key. -/
theorem contains_of_mem_visit (H : tunnelCache.Visits now order) {e : Str × Tunnel} (he : e ∈ order) :
    tunnelCache.contains now e.1 = true := by
  have hget : tunnelCache.get now e.1 = some e.2 := (Cache.mem_visit_iff H).mp he
  rw [Cache.contains_eq_isSome_get, hget]
  rfl

theorem mem_of_contains {key : Str} (h : tunnelCache.contains now key = true) :
    key ∈ tunnelCache.entries := by
  rw [Cache.contains] at h
  cases hlookup : tunnelCache.entries.lookup key with
  | none =>
      rw [hlookup] at h
      cases h
  | some e => exact Assoc.mem_of_lookup hlookup

/-- **What is found**: the first label, if it is a live key. -/
theorem matchTunnel_eq (H : tunnelCache.Visits now order)
    (hkeys : ∀ key ∈ tunnelCache.entries, '.' ∉ key) (hostname : Str) :
    matchTunnel order hostname =
      if tunnelCache.contains now (firstLabel hostname) then firstLabel hostname else [] := by
  have hlabel : ∀ e ∈ order, (hasPrefix (e.1 ++ ".".toList) hostname || e.1 == hostname) = true →
      e.1 = firstLabel hostname := by
    intro e he
    exact (matches_iff (hkeys _ (mem_of_contains (contains_of_mem_visit H he))) hostname).mp
  rw [matchTunnel]
  cases hlast : lastMatch
      (fun e : Str × Tunnel => hasPrefix (e.1 ++ ".".toList) hostname || e.1 == hostname) order with
  | some e =>
      obtain ⟨he, hmatch⟩ := mem_of_lastMatch hlast
      have heq := hlabel e he hmatch
      have hlive := contains_of_mem_visit H he
      rw [heq] at hlive
      rw [if_pos hlive]
      exact heq
  | none =>
      rw [if_neg]
      intro hlive
      have hkey := hkeys _ (mem_of_contains hlive)
      rw [Cache.contains_eq_isSome_get, Option.isSome_iff_exists] at hlive
      obtain ⟨tunnel, hget⟩ := hlive
      have hnot := lastMatch_eq_none_iff.mp hlast _ ((Cache.mem_visit_iff H).mpr hget)
      rw [(matches_iff hkey hostname).mpr rfl] at hnot
      cases hnot

/-- **Routing is unambiguous** while no key contains a dot: what is found is the first label of
the hostname, whatever the order; and the hosts of a live tunnel are its own. -/
theorem matchTunnel_unambiguous (tunnelCache : Cache Str Tunnel)
    (hkeys : ∀ key ∈ tunnelCache.entries, '.' ∉ key) (now : ℤ) (order : List (Str × Tunnel))
    (H : tunnelCache.Visits now order) (hostname : Str) :
    (matchTunnel order hostname =
      if tunnelCache.contains now (firstLabel hostname) then firstLabel hostname else []) ∧
    (∀ order', tunnelCache.Visits now order' →
      matchTunnel order' hostname = matchTunnel order hostname) ∧
    ∀ id, tunnelCache.contains now id = true →
      hostname = id ∨ hasPrefix (id ++ ".".toList) hostname = true → matchTunnel order hostname = id := by
  refine ⟨matchTunnel_eq H hkeys hostname, ?_, ?_⟩
  · intro order' H'
    rw [matchTunnel_eq H hkeys, matchTunnel_eq H' hkeys]
  · intro id hlive hhost
    have hmatch : (hasPrefix (id ++ ".".toList) hostname || id == hostname) = true := by
      rcases hhost with rfl | hbegins
      · rw [beq_self_eq_true, Bool.or_true]
      · rw [hbegins, Bool.true_or]
    have hid := (matches_iff (hkeys id (mem_of_contains hlive)) hostname).mp hmatch
    rw [matchTunnel_eq H hkeys, ← hid, if_pos hlive]

end

/-! ## A tunnel whose id begins another one -/

/-- The tunnels `api` and `api-v2`, and the entry of a TCP port. -/
def prefixedCache : Cache Str Tunnel :=
  let tunnel : Tunnel := ⟨"api".toList, .http, "localhost".toList, 3000, [], 0, 0, 0, .active⟩
  ((Cache.empty.put 0 "api".toList tunnel 3600).put 0 "api-v2".toList
    { tunnel with tunnelId := "api-v2".toList } 3600).put 0 "api:tcp:8080".toList
      { tunnel with protocol := .tcp } 86400

theorem matchTunnel_unambiguous_prefixed :
    matchTunnel (prefixedCache.live 1) "api-v2.tunnel.example.com:8080".toList = "api-v2".toList := by
  refine (matchTunnel_unambiguous prefixedCache (by decide) 1 (prefixedCache.live 1) (List.Perm.refl _)
    "api-v2.tunnel.example.com:8080".toList).1.trans ?_
  decide

end Protogate.Proxy
