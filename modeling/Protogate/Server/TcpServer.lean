import Protogate.Lib.LastMatch
import Protogate.Lib.Run
import Protogate.Lib.Text
import Protogate.Models.Tunnel
import Protogate.Storage.Cache

/-!
# From a TCP port to a tunnel

`TCPServer` finds the tunnel of a port among the entries of the tunnel cache whose key
ends in `:tcp:` and the port.  It scans the entries once, the last match wins, and
remembers what it has found for good; nothing tells it when an entry is gone.

## Main definitions

* `keyPort`, `claims` — which entries are for a port.
* `scanPort`, `findTunnelForPort` — the scan, and the memo in front of it.
* `Claims`, `AtMostOne` — the tunnels that claim a port.
* `scanPort_unique_iff` — the scan does not depend on the order of the visit exactly if
  at most one tunnel claims the port.
* `memo_coherent_iff` — the memo answers like a scan exactly while what it remembers is
  still claimed.
-/

namespace Protogate.Server

open Protogate.Lib Protogate.Models Protogate.Storage

/-! ## The scan -/

/-- What follows the first `:tcp:` of a key. -/
def afterTcp : Str → Option Str
  | [] => none
  | c :: key =>
      if hasPrefix ":tcp:".toList (c :: key) then some ((c :: key).drop 5) else afterTcp key

/-- The port in a key; `none` when there is no `:tcp:` or `std::stoi` throws. -/
def keyPort (key : Str) : Option ℕ :=
  ((afterTcp key).bind stoi).map fun n => (n % 65536).toNat

/-- The entry is a TCP tunnel for the port. -/
def claims (port : ℕ) (entry : Str × Tunnel) : Bool :=
  keyPort entry.1 = some port && entry.2.protocol = .tcp

/-- The tunnel id of the last match, or nothing. -/
def scanPort (visit : List (Str × Tunnel)) (port : ℕ) : Str :=
  ((lastMatch (claims port) visit).map fun entry => entry.2.tunnelId).getD []

/-- The answer, and the memo, which keeps every answer that is not empty. -/
def findTunnelForPort (memo : Assoc ℕ Str) (visit : List (Str × Tunnel)) (port : ℕ) :
    Str × Assoc ℕ Str :=
  match memo.lookup port with
  | some tunnelId => (tunnelId, memo)
  | none =>
      let matched := scanPort visit port
      if matched.isEmpty then ([], memo) else (matched, memo.insert port matched)

/-! ## Claims -/

/-- An unexpired entry for the port names the tunnel. -/
def Claims (cache : Cache Str Tunnel) (now : ℤ) (port : ℕ) (tunnelId : Str) : Prop :=
  ∃ key tunnel, cache.get now key = some tunnel ∧ claims port (key, tunnel) = true ∧
    tunnel.tunnelId = tunnelId

def AtMostOne (cache : Cache Str Tunnel) (now : ℤ) (port : ℕ) : Prop :=
  ∀ t u, Claims cache now port t → Claims cache now port u → t = u

section
variable {cache : Cache Str Tunnel} {now : ℤ} {visit : List (Str × Tunnel)} {port : ℕ}

/-- Later no more tunnels claim a port. -/
theorem Claims.earlier {later : ℤ} {t : Str} (hle : now ≤ later) (h : Claims cache later port t) :
    Claims cache now port t := by
  obtain ⟨key, tunnel, hget, hport, ht⟩ := h
  exact ⟨key, tunnel, Cache.get_of_get_later hle hget, hport, ht⟩

theorem AtMostOne.later {later : ℤ} (hle : now ≤ later) (h : AtMostOne cache now port) :
    AtMostOne cache later port :=
  fun t u ht hu => h t u (ht.earlier hle) (hu.earlier hle)

/-- What a scan finds is a claim. -/
theorem claims_scanPort (hvisit : cache.Visits now visit) (h : scanPort visit port ≠ []) :
    Claims cache now port (scanPort visit port) := by
  rw [scanPort] at h ⊢
  cases hlast : lastMatch (claims port) visit with
  | none =>
      rw [hlast] at h
      exact absurd rfl h
  | some entry =>
      obtain ⟨key, tunnel⟩ := entry
      obtain ⟨hmem, hport⟩ := mem_of_lastMatch hlast
      exact ⟨key, tunnel, (Cache.mem_visit_iff hvisit).mp hmem, hport, rfl⟩

/-- A scan finds the only tunnel that claims the port. -/
theorem scanPort_eq (hvisit : cache.Visits now visit) {t : Str} (h : Claims cache now port t)
    (hone : AtMostOne cache now port) : scanPort visit port = t := by
  have hfound : (lastMatch (claims port) visit).isSome := by
    obtain ⟨key, tunnel, hget, hport, _⟩ := h
    exact lastMatch_isSome_iff.mpr ⟨(key, tunnel), (Cache.mem_visit_iff hvisit).mpr hget, hport⟩
  obtain ⟨⟨key, tunnel⟩, hlast⟩ := Option.isSome_iff_exists.mp hfound
  obtain ⟨hmem, hport⟩ := mem_of_lastMatch hlast
  have hclaims : Claims cache now port tunnel.tunnelId :=
    ⟨key, tunnel, (Cache.mem_visit_iff hvisit).mp hmem, hport, rfl⟩
  rw [scanPort, hlast, hone t tunnel.tunnelId h hclaims]
  rfl

/-- Every claim is found by a scan in some order. -/
theorem exists_scanPort {t : Str} (h : Claims cache now port t) :
    ∃ visit, cache.Visits now visit ∧ scanPort visit port = t := by
  obtain ⟨key, tunnel, hget, hport, ht⟩ := h
  obtain ⟨visit, hperm, hlast⟩ := exists_perm_lastMatch (Cache.mem_live_iff.mpr hget) hport
  refine ⟨visit, hperm, ?_⟩
  rw [scanPort, hlast, ← ht]
  rfl

/-- The scan does not depend on the order of the visit exactly if at most one tunnel
claims the port. -/
theorem scanPort_unique_iff :
    (∀ visit visit', cache.Visits now visit → cache.Visits now visit' →
      scanPort visit port = scanPort visit' port) ↔ AtMostOne cache now port := by
  constructor
  · intro h t u ht hu
    obtain ⟨visit, hvisit, hscan⟩ := exists_scanPort ht
    obtain ⟨visit', hvisit', hscan'⟩ := exists_scanPort hu
    rw [← hscan, ← hscan', h visit visit' hvisit hvisit']
  · intro hone visit visit' hvisit hvisit'
    by_cases hclaimed : ∃ t, Claims cache now port t
    · obtain ⟨t, ht⟩ := hclaimed
      rw [scanPort_eq hvisit ht hone, scanPort_eq hvisit' ht hone]
    · have hempty : ∀ visit, cache.Visits now visit → scanPort visit port = [] := by
        intro visit hvisit
        by_contra hne
        exact hclaimed ⟨_, claims_scanPort hvisit hne⟩
      rw [hempty visit hvisit, hempty visit' hvisit']

end

/-! ## Keys -/

theorem hasPrefix_tcp_eq_false {c : Char} (hc : c ≠ ':') (key : Str) :
    hasPrefix ":tcp:".toList (c :: key) = false := by
  by_contra hyes
  rw [Bool.not_eq_false] at hyes
  have hhead := congrArg List.head? (beq_iff_eq.mp hyes)
  exact hc (Option.some.inj hhead)

theorem afterTcp_eq_none {key : Str} (h : ':' ∉ key) : afterTcp key = none := by
  induction key with
  | nil => rfl
  | cons c key ih =>
      rw [List.mem_cons, not_or] at h
      rw [afterTcp, hasPrefix_tcp_eq_false (Ne.symm h.1)]
      exact ih h.2

theorem afterTcp_append {t : Str} (h : ':' ∉ t) (rest : Str) :
    afterTcp (t ++ ":tcp:".toList ++ rest) = some rest := by
  induction t with
  | nil => rfl
  | cons c t ih =>
      rw [List.mem_cons, not_or] at h
      rw [List.cons_append, List.cons_append, afterTcp, hasPrefix_tcp_eq_false (Ne.symm h.1)]
      exact ih h.2

/-- A key without a colon is for no port. -/
theorem claims_eq_false {key : Str} (h : ':' ∉ key) (port : ℕ) (tunnel : Tunnel) :
    claims port (key, tunnel) = false := by
  simp [claims, keyPort, afterTcp_eq_none h]

/-- Where no key holds a colon no port is claimed. -/
theorem atMostOne_of_keys {cache : Cache Str Tunnel} {now : ℤ}
    (h : ∀ key tunnel, cache.get now key = some tunnel → ':' ∉ key) (port : ℕ) :
    AtMostOne cache now port := by
  rintro t u ⟨key, tunnel, hget, hport, _⟩ _
  rw [claims_eq_false (h key tunnel hget)] at hport
  cases hport

/-! ## Changes of the cache -/

/-- An unexpired entry under another key names the tunnel for the port. -/
def OtherClaim (cache : Cache Str Tunnel) (now : ℤ) (key : Str) (port : ℕ) (tunnelId : Str) :
    Prop :=
  ∃ key' tunnel, key' ≠ key ∧ cache.get now key' = some tunnel ∧
    claims port (key', tunnel) = true ∧ tunnel.tunnelId = tunnelId

section
variable {cache : Cache Str Tunnel} {now ttl : ℤ} {key t : Str} {tunnel : Tunnel} {port : ℕ}

theorem OtherClaim.claims (h : OtherClaim cache now key port t) : Claims cache now port t := by
  obtain ⟨key', tunnel', _, hget, hport, ht⟩ := h
  exact ⟨key', tunnel', hget, hport, ht⟩

theorem claims_put_iff (httl : 0 < seconds ttl) :
    Claims (cache.put now key tunnel ttl) now port t ↔
      Server.claims port (key, tunnel) = true ∧ tunnel.tunnelId = t ∨
        OtherClaim cache now key port t := by
  constructor
  · rintro ⟨key', tunnel', hget, hport, ht⟩
    rw [Cache.get_put httl] at hget
    split at hget
    · rename_i hkey
      cases hget
      exact .inl ⟨hkey ▸ hport, ht⟩
    · rename_i hkey
      exact .inr ⟨key', tunnel', hkey, hget, hport, ht⟩
  · rintro (⟨hport, ht⟩ | ⟨key', tunnel', hkey, hget, hport, ht⟩)
    · exact ⟨key, tunnel, by rw [Cache.get_put httl, if_pos rfl], hport, ht⟩
    · exact ⟨key', tunnel', by rw [Cache.get_put httl, if_neg hkey, hget], hport, ht⟩

/-- A new entry leaves one owner of a port if the other entries for the port are of the
same tunnel. -/
theorem AtMostOne.put_iff (h : AtMostOne cache now port) (httl : 0 < seconds ttl) :
    AtMostOne (cache.put now key tunnel ttl) now port ↔
      (Server.claims port (key, tunnel) = true →
        ∀ t, OtherClaim cache now key port t → t = tunnel.tunnelId) := by
  constructor
  · intro hone hport t hother
    exact hone t tunnel.tunnelId ((claims_put_iff httl).mpr (.inr hother))
      ((claims_put_iff httl).mpr (.inl ⟨hport, rfl⟩))
  · intro hsame t u ht hu
    rcases (claims_put_iff httl).mp ht with ⟨hport, rfl⟩ | ht
    · rcases (claims_put_iff httl).mp hu with ⟨_, rfl⟩ | hu
      · rfl
      · exact (hsame hport u hu).symm
    · rcases (claims_put_iff httl).mp hu with ⟨hport, rfl⟩ | hu
      · exact hsame hport t ht
      · exact h t u ht.claims hu.claims

theorem AtMostOne.remove (h : AtMostOne cache now port) (key : Str) :
    AtMostOne (cache.remove key) now port := by
  have hmono : ∀ t, Claims (cache.remove key) now port t → Claims cache now port t := by
    rintro t ⟨key', tunnel', hget, hport, ht⟩
    rw [Cache.get_remove] at hget
    split at hget
    · cases hget
    · exact ⟨key', tunnel', hget, hport, ht⟩
  exact fun t u ht hu => h t u (hmono t ht) (hmono u hu)

end

/-! ## The memo -/

/-- The tunnel cache, which other components change, and the memo. -/
structure TcpServer where
  tunnelCache : Cache Str Tunnel
  portToTunnel : Assoc ℕ Str

namespace TcpServer

def init (tunnelCache : Cache Str Tunnel) : TcpServer := ⟨tunnelCache, ∅⟩

/-- A change of the cache by another component, or a lookup at some time, with the order
in which it visits the cache. -/
inductive Event
  | put (now : ℤ) (key : Str) (tunnel : Tunnel) (ttl : ℤ)
  | remove (key : Str)
  | find (now : ℤ) (visit : List (Str × Tunnel)) (port : ℕ)

def step (s : TcpServer) : Event → TcpServer
  | .put now key tunnel ttl => { s with tunnelCache := s.tunnelCache.put now key tunnel ttl }
  | .remove key => { s with tunnelCache := s.tunnelCache.remove key }
  | .find now visit port =>
      if s.tunnelCache.Visits now visit then
        { s with portToTunnel := (findTunnelForPort s.portToTunnel visit port).2 }
      else s

/-- A lookup of a port that at most one tunnel claims answers as a scan does, so with
the empty string if none does. -/
def Coherent (s : TcpServer) : Event → Prop
  | .find now visit port => s.tunnelCache.Visits now visit → AtMostOne s.tunnelCache now port →
      (findTunnelForPort s.portToTunnel visit port).1 = scanPort visit port
  | _ => True

/-- The tunnel remembered for the port still claims it, or more than one tunnel does. -/
def MemoCurrent (s : TcpServer) : Event → Prop
  | .find now visit port => s.tunnelCache.Visits now visit → AtMostOne s.tunnelCache now port →
      ∀ t, s.portToTunnel.lookup port = some t → Claims s.tunnelCache now port t
  | _ => True

/-- Empty answers are not remembered. -/
def Nonempty (s : TcpServer) : Prop := ∀ port t, s.portToTunnel.lookup port = some t → t ≠ []

theorem nonempty_find {memo : Assoc ℕ Str} (H : ∀ port t, memo.lookup port = some t → t ≠ [])
    (visit : List (Str × Tunnel)) (port : ℕ) :
    ∀ q t, (findTunnelForPort memo visit port).2.lookup q = some t → t ≠ [] := by
  intro q t hlook
  rw [findTunnelForPort] at hlook
  cases hmemo : memo.lookup port with
  | some t' =>
      simp only [hmemo] at hlook
      exact H q t hlook
  | none =>
      simp only [hmemo] at hlook
      split at hlook
      · exact H q t hlook
      · rename_i hne
        rw [Assoc.lookup_insert_ite] at hlook
        split at hlook
        · cases hlook
          simpa using hne
        · exact H q t hlook

theorem nonempty_step (s : TcpServer) (e : Event) (H : Nonempty s) : Nonempty (step s e) := by
  cases e with
  | put now key tunnel ttl => exact H
  | remove key => exact H
  | find now visit port =>
      simp only [step]
      split
      · exact nonempty_find H visit port
      · exact H

/-- One lookup. -/
theorem coherent_iff {s : TcpServer} (H : Nonempty s) (e : Event) :
    Coherent s e ↔ MemoCurrent s e := by
  cases e with
  | put now key tunnel ttl => exact Iff.rfl
  | remove key => exact Iff.rfl
  | find now visit port =>
      refine forall_congr' fun hvisit => forall_congr' fun hone => ?_
      rw [findTunnelForPort]
      cases hmemo : s.portToTunnel.lookup port with
      | none =>
          refine iff_of_true ?_ (by simp)
          dsimp only
          split
          · rename_i hempty
            exact (List.isEmpty_iff.mp hempty).symm
          · rfl
      | some t =>
          constructor
          · rintro hscan t' ⟨⟩
            have hne : scanPort visit port ≠ [] := hscan ▸ H port t hmemo
            have hclaims := claims_scanPort hvisit hne
            rwa [← hscan] at hclaims
          · intro hclaims
            exact (scanPort_eq hvisit (hclaims t rfl) hone).symm

/-- **The memo is coherent exactly while what it remembers is still claimed**, throughout
any run of lookups among changes of the cache. -/
theorem memo_coherent_iff (tunnelCache : Cache Str Tunnel) (evs : List Event) :
    Along step Coherent (init tunnelCache) evs ↔ Along step MemoCurrent (init tunnelCache) evs := by
  refine along_congr Nonempty nonempty_step (fun s e H => coherent_iff H e) ?_
  intro port t hlook
  cases hlook

/-- The entry of a tunnel for port 9100. -/
def sampleEntry : Str × Tunnel :=
  ("app:tcp:9100".toList, ⟨"app".toList, .tcp, "localhost".toList, 5000, [], 0, 0, 0, .active⟩)

/-- A lookup that finds the entry, and one after the entry has been removed. -/
def sampleEvents : List Event :=
  [.put 0 sampleEntry.1 sampleEntry.2 86400, .find 1 [sampleEntry] 9100, .remove sampleEntry.1,
    .find 2 [] 9100]

/-- The memo answers with the tunnel although no entry is left. -/
theorem removed_still_found :
    let s := run step (init Cache.empty) (sampleEvents.take 3)
    s.tunnelCache.Visits 2 [] ∧ (findTunnelForPort s.portToTunnel [] 9100).1 = "app".toList ∧
    ¬ ∀ evs, Along step Coherent (init Cache.empty) evs := by
  have hvisit : (run step (init Cache.empty) (sampleEvents.take 3)).tunnelCache.Visits 2 [] := by
    decide +kernel
  have hfind : (findTunnelForPort
      (run step (init Cache.empty) (sampleEvents.take 3)).portToTunnel [] 9100).1 =
        "app".toList := by decide +kernel
  refine ⟨hvisit, hfind, ?_⟩
  intro hall
  have hone : AtMostOne (run step (init Cache.empty) (sampleEvents.take 3)).tunnelCache 2 9100 := by
    rintro t u ⟨key, tunnel, hget, _⟩ _
    have hmem := (Cache.mem_visit_iff hvisit).mpr hget
    cases hmem
  have hanswer := hfind.symm.trans ((hall sampleEvents).2.2.2.1 hvisit hone)
  exact absurd hanswer (by decide)

end TcpServer

end Protogate.Server
