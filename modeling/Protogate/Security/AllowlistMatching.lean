import Protogate.Security.AllowlistPrinting
import Mathlib.Data.List.Forall2

/-!
# What an allowlist matches

The parser clears the bits behind the prefix of an entry, and the check compares full bytes and
a masked rest.  Together they compare the first bits of two addresses: an entry matches the
addresses of its family that begin with the bits of its prefix, and the bits behind the prefix
do not matter, neither those of the client nor those written in the entry.

## Main definitions

* `SameNetwork` — entries that differ in the bits behind their prefixes only.
* `isAllowed_exact` — the check, on the bits of addresses.
-/

namespace Protogate.Security

open Protogate.Lib

/-- The entries stand for addresses of one family that have the same first bits, up to a prefix of
the same length. -/
def SameNetwork (pton : InetPton) (entry entry' : Str) : Prop :=
  ∃ type address address' n, Denotes pton entry type address n ∧
    Denotes pton entry' type address' n ∧ address.take n = address'.take n

section
variable {pton : InetPton} {entries : List Str} {ranges : List CIDRRange}

/-- An entry parses as long as it stands for the same network, and matches the same addresses. -/
theorem SameNetwork.exists_ranges {entry entry' : Str} (h : SameNetwork pton entry entry') :
    ∃ range range', parseCidr pton entry = some range ∧ parseCidr pton entry' = some range' ∧
      ∀ ip, range.Matches pton ip ↔ range'.Matches pton ip := by
  obtain ⟨type, address, address', n, hdenotes, hdenotes', hsame⟩ := h
  obtain ⟨range, hrange, hmeans, _⟩ := exists_of_denotes hdenotes
  obtain ⟨range', hrange', hmeans', _⟩ := exists_of_denotes hdenotes'
  refine ⟨range, range', hrange, hrange', fun ip => ?_⟩
  rw [hmeans.matches_iff, hmeans'.matches_iff, hsame]

/-- Lists of such entries are accepted together. -/
theorem exists_of_sameNetworks {entries' : List Str}
    (h : List.Forall₂ (SameNetwork pton) entries entries') :
    ∃ ranges ranges', fromCidrList pton entries = some ranges ∧
      fromCidrList pton entries' = some ranges' ∧
        ∀ ip, (∃ range ∈ ranges, range.Matches pton ip) ↔ ∃ range ∈ ranges', range.Matches pton ip := by
  induction h with
  | nil => exact ⟨[], [], rfl, rfl, fun _ => Iff.rfl⟩
  | cons hentry _ ih =>
      obtain ⟨range, range', hrange, hrange', hmatches⟩ := hentry.exists_ranges
      obtain ⟨ranges, ranges', hranges, hranges', hrest⟩ := ih
      refine ⟨range :: ranges, range' :: ranges', ?_, ?_, fun ip => ?_⟩
      · rw [fromCidrList, hrange, hranges]
        rfl
      · rw [fromCidrList, hrange', hranges']
        rfl
      · simp only [List.exists_mem_cons_iff, hmatches, hrest]

/-- The bits behind the prefixes do not matter. -/
theorem isAllowed_of_sameNetworks {entries' : List Str}
    (h : fromCidrList pton entries = some ranges)
    (hsame : List.Forall₂ (SameNetwork pton) entries entries') :
    ∃ ranges', fromCidrList pton entries' = some ranges' ∧
      ∀ ip, isAllowed pton ranges' ip = isAllowed pton ranges ip := by
  obtain ⟨found, ranges', hfound, hranges', hmatches⟩ := exists_of_sameNetworks hsame
  obtain rfl : ranges = found := Option.some.inj (h.symm.trans hfound)
  have hnil : ranges' = [] ↔ ranges = [] := by
    rw [nil_iff_of_fromCidrList h, nil_iff_of_fromCidrList hranges']
    have hlength := hsame.length_eq
    rw [← List.length_eq_zero_iff, ← List.length_eq_zero_iff, hlength]
  refine ⟨ranges', hranges', fun ip => Bool.eq_iff_iff.mpr ?_⟩
  rw [isAllowed_iff, isAllowed_iff, hnil, hmatches]

end

/-- **Matching is exact.**  A list that is accepted allows an address exactly if it is empty or
has an entry of the family of the address with the same first bits; and the bits of an entry
behind its prefix may be any. -/
theorem isAllowed_exact (pton : InetPton) (entries : List Str) (ranges : List CIDRRange)
    (h : fromCidrList pton entries = some ranges) (ip : Str) :
    (isAllowed pton ranges ip = true ↔ entries = [] ∨ ∃ entry ∈ entries, Covers pton entry ip) ∧
    ∀ entries', List.Forall₂ (SameNetwork pton) entries entries' →
      ∃ ranges', fromCidrList pton entries' = some ranges' ∧
        isAllowed pton ranges' ip = isAllowed pton ranges ip := by
  refine ⟨isAllowed_iff_covers h, fun entries' hsame => ?_⟩
  obtain ⟨ranges', hranges', hallowed⟩ := isAllowed_of_sameNetworks h hsame
  exact ⟨ranges', hranges', hallowed ip⟩

/-- The entry `10.200.0.7/9` stands for the addresses from `10.128.0.0` to `10.255.255.255`. -/
theorem isAllowed_exact_sample :
    fromCidrList fullPton ["10.200.0.7/9".toList] = some [⟨.ipv4, [10, 128, 0, 0], 9⟩] ∧
      Covers fullPton "10.200.0.7/9".toList "10.128.1.1".toList := by
  have hlist : fromCidrList fullPton ["10.200.0.7/9".toList] = some [⟨.ipv4, [10, 128, 0, 0], 9⟩] := by
    decide +kernel
  have hallowed : isAllowed fullPton [⟨.ipv4, [10, 128, 0, 0], 9⟩] "10.128.1.1".toList = true := by
    decide +kernel
  refine ⟨hlist, ?_⟩
  simpa using (isAllowed_exact fullPton _ _ hlist "10.128.1.1".toList).1.mp hallowed

end Protogate.Security
