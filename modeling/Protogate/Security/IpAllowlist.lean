import Protogate.Lib.PrefixBits
import Protogate.Lib.Text
import Mathlib.Tactic.Common

/-!
# IP allowlists

`from_cidr_list` parses every entry of a list or fails; `is_allowed` compares an address
with the entries of its kind.  An entry is an address, with or without a number of bits,
of which the parser clears what is behind these bits.

`inet_pton` of the C library is a parameter.  It reads a text up to its first NUL.

## Main definitions

* `CIDRRange`, `parseCidr`, `fromCidrList`, `isAllowed`, `matchesCidr`.
* `Denotes`, `Covers` — what an entry means, on the bits of addresses.
* `allows_iff` — the code allows an address exactly when all entries parse and one covers it.
-/

namespace Protogate.Security

open Protogate.Lib

/-! ## Addresses -/

/-- IP address type. -/
inductive IPType
  | ipv4
  | ipv6
  deriving DecidableEq, Repr

/-- The number of bits of an address. -/
def IPType.width : IPType → ℕ
  | .ipv4 => 32
  | .ipv6 => 128

/-- `inet_pton` for the two address families, on C strings. -/
structure InetPton where
  ipv4 : Str → Option (Vector UInt8 4)
  ipv6 : Str → Option (Vector UInt8 16)

/-- `c_str()`. -/
def cStr (s : Str) : Str := s.takeWhile (· ≠ '\x00')

/-- CIDR range representation. -/
structure CIDRRange where
  type : IPType
  network : List UInt8
  prefixLength : ℕ
  deriving DecidableEq, Repr

section
variable (pton : InetPton)

def parseIpv4 (ip : Str) : Option (List UInt8) := (pton.ipv4 (cStr ip)).map Vector.toList

def parseIpv6 (ip : Str) : Option (List UInt8) := (pton.ipv6 (cStr ip)).map Vector.toList

/-! ## Parsing -/

/-- The range of an address whose bits behind the prefix are cleared, if the prefix is not
too long. -/
def rangeOf (type : IPType) (address : List UInt8) (prefixLength : ℤ) : Option CIDRRange :=
  if prefixLength < 0 ∨ (type.width : ℤ) < prefixLength then none
  else some ⟨type, clearFrom prefixLength.toNat address, prefixLength.toNat⟩

/-- `parse_cidr`. -/
def parseCidr (cidr : Str) : Option CIDRRange :=
  if '/' ∉ cidr then
    match parseIpv4 pton cidr with
    | some address => some ⟨.ipv4, address, 32⟩
    | none =>
        match parseIpv6 pton cidr with
        | some address => some ⟨.ipv6, address, 128⟩
        | none => none
  else
    let ipPart := cidr.takeWhile (· ≠ '/')
    let prefixPart := (cidr.dropWhile (· ≠ '/')).drop 1
    match stoi prefixPart with
    | none => none
    | some prefixLength =>
        match parseIpv4 pton ipPart with
        | some address => rangeOf .ipv4 address prefixLength
        | none =>
            match parseIpv6 pton ipPart with
            | some address => rangeOf .ipv6 address prefixLength
            | none => none

/-- `from_cidr_list` stops at the first entry that does not parse. -/
def fromCidrList : List Str → Option (List CIDRRange)
  | [] => some []
  | cidr :: cidrs =>
      match parseCidr pton cidr with
      | none => none
      | some range => (fromCidrList cidrs).map (range :: ·)

/-! ## Checking -/

/-- `matches_cidr`. -/
def matchesCidr (ip : List UInt8) (range : CIDRRange) : Bool :=
  ip.length == range.network.length && agreeUpTo range.prefixLength ip range.network

/-- `is_allowed`. -/
def isAllowed (ranges : List CIDRRange) (ip : Str) : Bool :=
  if ranges.isEmpty then true
  else
    match parseIpv4 pton ip with
    | some address => ranges.any fun range => range.type == .ipv4 && matchesCidr address range
    | none =>
        match parseIpv6 pton ip with
        | some address => ranges.any fun range => range.type == .ipv6 && matchesCidr address range
        | none => false

/-- The list parses and allows the address. -/
def allows (cidrs : List Str) (ip : Str) : Bool :=
  (fromCidrList pton cidrs).any (isAllowed pton · ip)

/-! ## What an entry means -/

/-- The bits an address text stands for; IPv4 is tried first. -/
inductive Address (ip : Str) : IPType → List Bool → Prop
  | ipv4 {address : List UInt8} (h : parseIpv4 pton ip = some address) : Address ip .ipv4 (bits address)
  | ipv6 {address : List UInt8} (h4 : parseIpv4 pton ip = none) (h : parseIpv6 pton ip = some address) :
      Address ip .ipv6 (bits address)

/-- An entry stands for the first `n` bits of an address: all of them if it is an address
alone, as many as the number behind the slash says otherwise. -/
inductive Denotes : Str → IPType → List Bool → ℕ → Prop
  | address {ip : Str} {type : IPType} {address : List Bool} (hslash : '/' ∉ ip)
      (h : Address pton ip type address) : Denotes ip type address type.width
  | cidr {ip number : Str} {type : IPType} {address : List Bool} {n : ℕ} (hslash : '/' ∉ ip)
      (h : Address pton ip type address) (hnumber : stoi number = some (n : ℤ))
      (hwidth : n ≤ type.width) : Denotes (ip ++ '/' :: number) type address n

/-- The entry parses. -/
def Parses (entry : Str) : Prop := ∃ type address n, Denotes pton entry type address n

/-- The client's address is of the same kind as the entry's and begins with the same bits. -/
def Covers (entry ip : Str) : Prop :=
  ∃ type address n client, Denotes pton entry type address n ∧ Address pton ip type client ∧
    client.take n = address.take n

/-- The address cannot be read. -/
def Unparsable (ip : Str) : Prop := parseIpv4 pton ip = none ∧ parseIpv6 pton ip = none

end

/-! ## Parsing gives the meaning -/

section
variable {pton : InetPton}

theorem length_of_parseIpv4 {ip : Str} {address : List UInt8} (h : parseIpv4 pton ip = some address) :
    8 * address.length = IPType.ipv4.width := by
  obtain ⟨v, _, rfl⟩ := Option.map_eq_some_iff.mp h
  rw [Vector.length_toList]
  rfl

theorem length_of_parseIpv6 {ip : Str} {address : List UInt8} (h : parseIpv6 pton ip = some address) :
    8 * address.length = IPType.ipv6.width := by
  obtain ⟨v, _, rfl⟩ := Option.map_eq_some_iff.mp h
  rw [Vector.length_toList]
  rfl

/-- A range that stands for the first `n` bits of an address. -/
structure CIDRRange.Means (range : CIDRRange) (type : IPType) (address : List Bool) (n : ℕ) : Prop where
  type_eq : range.type = type
  length_eq : 8 * range.network.length = type.width
  agrees : ∀ client : List UInt8, client.length = range.network.length →
    (agreeUpTo range.prefixLength client range.network = true ↔
      (bits client).take n = address.take n)

/-- Comparing with a range that has not been cleared: nothing was behind the prefix. -/
theorem clearFrom_length (bs : List UInt8) : clearFrom (8 * bs.length) bs = bs := by
  have hfull : (8 * bs.length) / 8 = bs.length := by omega
  have htake := take_clearFrom (8 * bs.length) bs
  rw [hfull, List.take_of_length_le (by rw [length_clearFrom]), List.take_length] at htake
  exact htake

theorem means_clearFrom {type : IPType} {address : List UInt8}
    (hlength : 8 * address.length = type.width) {n : ℕ} (hn : n ≤ type.width) :
    CIDRRange.Means ⟨type, clearFrom n address, n⟩ type (bits address) n where
  type_eq := rfl
  length_eq := by rw [length_clearFrom, hlength]
  agrees := by
    intro client hclient
    rw [length_clearFrom] at hclient
    exact agreeUpTo_iff hclient (by rw [hclient, hlength]; exact hn)

theorem means_whole {type : IPType} {address : List UInt8}
    (hlength : 8 * address.length = type.width) :
    CIDRRange.Means ⟨type, address, type.width⟩ type (bits address) type.width := by
  have hmeans := means_clearFrom hlength (le_refl type.width)
  rw [← hlength, clearFrom_length] at hmeans
  rw [hlength] at hmeans
  exact hmeans

theorem rangeOf_eq_some_iff {type : IPType} {address : List UInt8} {k : ℤ} {range : CIDRRange} :
    rangeOf type address k = some range ↔
      ∃ n : ℕ, k = n ∧ n ≤ type.width ∧ range = ⟨type, clearFrom n address, n⟩ := by
  simp only [rangeOf]
  split
  · rename_i hbad
    constructor
    · intro h
      cases h
    · rintro ⟨n, rfl, hn, _⟩
      omega
  · rename_i hgood
    obtain ⟨n, rfl⟩ : ∃ n : ℕ, k = n := ⟨k.toNat, by omega⟩
    constructor
    · intro h
      cases h
      exact ⟨n, rfl, by omega, rfl⟩
    · rintro ⟨m, hm, _, rfl⟩
      have hnm : n = m := by omega
      subst hnm
      rfl

/-- An entry that parses means the range it is parsed to. -/
theorem exists_of_parseCidr {cidr : Str} {range : CIDRRange} (h : parseCidr pton cidr = some range) :
    ∃ type address n, Denotes pton cidr type address n ∧ range.Means type address n := by
  simp only [parseCidr] at h
  split at h
  · rename_i hslash
    split at h
    · rename_i address h4
      cases h
      exact ⟨.ipv4, _, _, .address hslash (.ipv4 h4), means_whole (length_of_parseIpv4 h4)⟩
    · rename_i h4
      split at h
      · rename_i address h6
        cases h
        exact ⟨.ipv6, _, _, .address hslash (.ipv6 h4 h6), means_whole (length_of_parseIpv6 h6)⟩
      · cases h
  · rename_i hslash
    obtain ⟨hcut, hcidr⟩ := eq_append_of_mem (not_not.mp hslash)
    split at h
    · cases h
    · rename_i k hnumber
      split at h
      · rename_i address h4
        obtain ⟨n, rfl, hn, rfl⟩ := rangeOf_eq_some_iff.mp h
        have hdenotes := Denotes.cidr hcut (.ipv4 h4) hnumber hn
        rw [← hcidr] at hdenotes
        exact ⟨.ipv4, _, n, hdenotes, means_clearFrom (length_of_parseIpv4 h4) hn⟩
      · rename_i h4
        split at h
        · rename_i address h6
          obtain ⟨n, rfl, hn, rfl⟩ := rangeOf_eq_some_iff.mp h
          have hdenotes := Denotes.cidr hcut (.ipv6 h4 h6) hnumber hn
          rw [← hcidr] at hdenotes
          exact ⟨.ipv6, _, n, hdenotes, means_clearFrom (length_of_parseIpv6 h6) hn⟩
        · cases h

/-- An entry with a meaning is parsed to a range that means it. -/
theorem exists_of_denotes {cidr : Str} {type : IPType} {address : List Bool} {n : ℕ}
    (h : Denotes pton cidr type address n) :
    ∃ range, parseCidr pton cidr = some range ∧ range.Means type address n ∧
      range.prefixLength = n := by
  cases h with
  | address hslash h =>
      rw [parseCidr, if_pos hslash]
      cases h with
      | ipv4 h4 =>
          rw [h4]
          exact ⟨_, rfl, means_whole (length_of_parseIpv4 h4), rfl⟩
      | ipv6 h4 h6 =>
          rw [h4, h6]
          exact ⟨_, rfl, means_whole (length_of_parseIpv6 h6), rfl⟩
  | @cidr ip number type address n hslash h hnumber hwidth =>
      have hmem : ¬ '/' ∉ ip ++ '/' :: number := by simp
      rw [parseCidr, if_neg hmem, takeWhile_ne_append hslash, dropWhile_ne_append hslash,
        List.drop_one, List.tail_cons]
      simp only [hnumber]
      cases h with
      | ipv4 h4 =>
          rw [h4]
          exact ⟨_, rangeOf_eq_some_iff.mpr ⟨n, rfl, hwidth, rfl⟩,
            means_clearFrom (length_of_parseIpv4 h4) hwidth, rfl⟩
      | ipv6 h4 h6 =>
          rw [h4, h6]
          exact ⟨_, rangeOf_eq_some_iff.mpr ⟨n, rfl, hwidth, rfl⟩,
            means_clearFrom (length_of_parseIpv6 h6) hwidth, rfl⟩

theorem parses_iff {cidr : Str} : Parses pton cidr ↔ ∃ range, parseCidr pton cidr = some range := by
  constructor
  · rintro ⟨type, address, n, h⟩
    obtain ⟨range, hrange, _⟩ := exists_of_denotes h
    exact ⟨range, hrange⟩
  · rintro ⟨range, h⟩
    obtain ⟨type, address, n, hdenotes, _⟩ := exists_of_parseCidr h
    exact ⟨type, address, n, hdenotes⟩

/-! ## Allowing -/

/-- The range matches an address text. -/
def CIDRRange.Matches (pton : InetPton) (range : CIDRRange) (ip : Str) : Prop :=
  ∃ client, (range.type = .ipv4 ∧ parseIpv4 pton ip = some client ∨
    range.type = .ipv6 ∧ parseIpv4 pton ip = none ∧ parseIpv6 pton ip = some client) ∧
      matchesCidr client range = true

theorem isAllowed_iff {ranges : List CIDRRange} {ip : Str} :
    isAllowed pton ranges ip = true ↔ ranges = [] ∨ ∃ range ∈ ranges, range.Matches pton ip := by
  cases ranges with
  | nil => simp [isAllowed]
  | cons r rs =>
      simp only [isAllowed, List.isEmpty_cons, Bool.false_eq_true, if_false, reduceCtorEq, false_or,
        CIDRRange.Matches]
      cases h4 : parseIpv4 pton ip with
      | some client => simp
      | none =>
          cases h6 : parseIpv6 pton ip with
          | some client => simp
          | none => simp

/-- A range matches the addresses that begin with the bits it means. -/
theorem CIDRRange.Means.matches_iff {range : CIDRRange} {type : IPType} {address : List Bool}
    {n : ℕ} (h : range.Means type address n) {ip : Str} :
    range.Matches pton ip ↔
      ∃ client, Address pton ip type client ∧ client.take n = address.take n := by
  have hmatches : ∀ client : List UInt8, 8 * client.length = type.width →
      (matchesCidr client range = true ↔ (bits client).take n = address.take n) := by
    intro client hclient
    have hlength : client.length = range.network.length := by
      have hwidth := h.length_eq
      omega
    rw [matchesCidr, ← h.agrees client hlength]
    simp [hlength]
  rw [CIDRRange.Matches, h.type_eq]
  constructor
  · rintro ⟨client, ⟨rfl, h4⟩ | ⟨rfl, h4, h6⟩, hmatch⟩
    · exact ⟨_, .ipv4 h4, (hmatches client (length_of_parseIpv4 h4)).mp hmatch⟩
    · exact ⟨_, .ipv6 h4 h6, (hmatches client (length_of_parseIpv6 h6)).mp hmatch⟩
  · rintro ⟨_, haddress, hagree⟩
    cases haddress with
    | @ipv4 client h4 =>
        exact ⟨client, .inl ⟨rfl, h4⟩, (hmatches client (length_of_parseIpv4 h4)).mpr hagree⟩
    | @ipv6 client h4 h6 =>
        exact ⟨client, .inr ⟨rfl, h4, h6⟩, (hmatches client (length_of_parseIpv6 h6)).mpr hagree⟩

theorem covers_iff {cidr ip : Str} :
    Covers pton cidr ip ↔ ∃ range, parseCidr pton cidr = some range ∧ range.Matches pton ip := by
  constructor
  · rintro ⟨type, address, n, client, hdenotes, hclient, hagree⟩
    obtain ⟨range, hrange, hmeans, _⟩ := exists_of_denotes hdenotes
    exact ⟨range, hrange, hmeans.matches_iff.mpr ⟨client, hclient, hagree⟩⟩
  · rintro ⟨range, hrange, hmatches⟩
    obtain ⟨type, address, n, hdenotes, hmeans⟩ := exists_of_parseCidr hrange
    obtain ⟨client, hclient, hagree⟩ := hmeans.matches_iff.mp hmatches
    exact ⟨type, address, n, client, hdenotes, hclient, hagree⟩

/-- A list parses exactly when its entries do, to the ranges of its entries. -/
theorem fromCidrList_eq_some_iff {cidrs : List Str} {ranges : List CIDRRange} :
    fromCidrList pton cidrs = some ranges ↔ cidrs.map (parseCidr pton) = ranges.map some := by
  induction cidrs generalizing ranges with
  | nil => cases ranges <;> simp [fromCidrList]
  | cons cidr cidrs ih =>
      cases hparse : parseCidr pton cidr with
      | none => cases ranges <;> simp [fromCidrList, hparse]
      | some range =>
          cases ranges with
          | nil => simp [fromCidrList, hparse]
          | cons r rs =>
              rw [fromCidrList, hparse, List.map_cons, List.map_cons, hparse]
              simp only [Option.map_eq_some_iff, List.cons.injEq, Option.some.injEq]
              constructor
              · rintro ⟨rs', hrs, rfl, rfl⟩
                exact ⟨rfl, ih.mp hrs⟩
              · rintro ⟨rfl, hrs⟩
                exact ⟨rs, ih.mpr hrs, rfl, rfl⟩

/-- A list that does not parse has an entry that does not. -/
theorem exists_of_fromCidrList_eq_none {cidrs : List Str} (h : fromCidrList pton cidrs = none) :
    ∃ entry ∈ cidrs, ¬ Parses pton entry := by
  induction cidrs with
  | nil => cases h
  | cons cidr cidrs ih =>
      cases hparse : parseCidr pton cidr with
      | none =>
          refine ⟨cidr, List.mem_cons_self, ?_⟩
          rw [parses_iff, hparse]
          simp
      | some range =>
          simp only [fromCidrList, hparse, Option.map_eq_none_iff] at h
          obtain ⟨entry, hentry, hbad⟩ := ih h
          exact ⟨entry, List.mem_cons_of_mem cidr hentry, hbad⟩

section
variable {cidrs : List Str} {ranges : List CIDRRange} {ip : Str}

theorem nil_iff_of_fromCidrList (h : fromCidrList pton cidrs = some ranges) :
    ranges = [] ↔ cidrs = [] := by
  rw [← List.map_eq_nil_iff (f := some), ← fromCidrList_eq_some_iff.mp h, List.map_eq_nil_iff]

/-- The entries of a list that is accepted parse. -/
theorem parses_of_fromCidrList (h : fromCidrList pton cidrs = some ranges) :
    ∀ entry ∈ cidrs, Parses pton entry := by
  intro entry hentry
  have hmem : parseCidr pton entry ∈ ranges.map some := by
    rw [← fromCidrList_eq_some_iff.mp h]
    exact List.mem_map_of_mem hentry
  obtain ⟨range, _, hrange⟩ := List.mem_map.mp hmem
  exact parses_iff.mpr ⟨range, hrange.symm⟩

/-- **What is allowed** by a list that is accepted: every address if there is no entry, and those
that an entry covers. -/
theorem isAllowed_iff_covers (h : fromCidrList pton cidrs = some ranges) :
    isAllowed pton ranges ip = true ↔ cidrs = [] ∨ ∃ entry ∈ cidrs, Covers pton entry ip := by
  have hmaps := fromCidrList_eq_some_iff.mp h
  rw [isAllowed_iff, nil_iff_of_fromCidrList h]
  refine or_congr_right ?_
  constructor
  · rintro ⟨range, hrange, hmatches⟩
    have hmem : some range ∈ cidrs.map (parseCidr pton) := by
      rw [hmaps]
      exact List.mem_map_of_mem hrange
    obtain ⟨entry, hentry, hparse⟩ := List.mem_map.mp hmem
    exact ⟨entry, hentry, covers_iff.mpr ⟨range, hparse, hmatches⟩⟩
  · rintro ⟨entry, hentry, hcovers⟩
    obtain ⟨range, hparse, hmatches⟩ := covers_iff.mp hcovers
    have hmem : some range ∈ ranges.map some := by
      rw [← hmaps, ← hparse]
      exact List.mem_map_of_mem hentry
    exact ⟨range, by simpa using hmem, hmatches⟩

end

/-- **Allowing.**  A list allows an address exactly if it is empty, or all its entries parse
and one of them covers the address. -/
theorem allows_iff {cidrs : List Str} {ip : Str} :
    allows pton cidrs ip = true ↔
      cidrs = [] ∨ (∀ entry ∈ cidrs, Parses pton entry) ∧ ∃ entry ∈ cidrs, Covers pton entry ip := by
  cases hlist : fromCidrList pton cidrs with
  | none =>
      have hbad : ∃ entry ∈ cidrs, ¬ Parses pton entry := exists_of_fromCidrList_eq_none hlist
      obtain ⟨entry, hentry, hparses⟩ := hbad
      have hne : cidrs ≠ [] := List.ne_nil_of_mem hentry
      simp only [allows, hlist, Option.any_none, Bool.false_eq_true, hne, false_or, false_iff]
      intro h
      exact hparses (h.1 entry hentry)
  | some ranges =>
      rw [allows, hlist, Option.any_some, isAllowed_iff_covers hlist]
      exact or_congr_right (iff_and_self.mpr fun _ => parses_of_fromCidrList hlist)

/-- An address that cannot be read is covered by no entry. -/
theorem not_covers_of_unparsable {entry ip : Str} (h : Unparsable pton ip) :
    ¬ Covers pton entry ip := by
  rintro ⟨type, address, n, client, _, hclient, _⟩
  cases hclient with
  | ipv4 h4 =>
      rw [h.1] at h4
      cases h4
  | ipv6 _ h6 =>
      rw [h.2] at h6
      cases h6

end

end Protogate.Security
