import Protogate.Lib.Run
import Protogate.Security.IpAllowlist

/-!
# Printing allowlists

An allowlist is built by `add_cidr` and `add_ip`; `to_strings` prints each of its ranges as an
address and the length of its prefix.  What is printed is read back to the same ranges: the
bits behind the prefix were cleared when the range was made, so clearing them again changes
nothing.

`inet_ntop` of the C library is a parameter, as `inet_pton` is.

## Main definitions

* `InetNtop`, `ReadsBack` — printing addresses, and what `inet_pton` makes of it.
* `addCidr`, `addIp`, `cidrToString`, `toStrings`.
* `CIDRRange.Normal` — the ranges that an allowlist may hold.
* `fromCidrList_toStrings` — the round trip.
-/

namespace Protogate.Security

open Protogate.Lib

/-! ## Addresses as text -/

/-- `inet_ntop` for the two address families. -/
structure InetNtop where
  ipv4 : Vector UInt8 4 → Str
  ipv6 : Vector UInt8 16 → Str

/-- What is printed is read back, is no address of the other family, and has neither a slash nor
a NUL in it. -/
structure ReadsBack (pton : InetPton) (ntop : InetNtop) : Prop where
  ipv4 : ∀ a, pton.ipv4 (ntop.ipv4 a) = some a
  ipv6 : ∀ a, pton.ipv6 (ntop.ipv6 a) = some a
  ipv6_only : ∀ a, pton.ipv4 (ntop.ipv6 a) = none
  ipv4_plain : ∀ a, '/' ∉ ntop.ipv4 a ∧ '\x00' ∉ ntop.ipv4 a
  ipv6_plain : ∀ a, '/' ∉ ntop.ipv6 a ∧ '\x00' ∉ ntop.ipv6 a

/-! ## Building and printing -/

/-- `memcpy` of `n` bytes into an address. -/
def addressBytes (n : ℕ) (network : List UInt8) : Vector UInt8 n :=
  Vector.ofFn fun i => network.getD i 0

/-- `cidr_to_string`. -/
def cidrToString (ntop : InetNtop) (range : CIDRRange) : Str :=
  match range.type with
  | .ipv4 => ntop.ipv4 (addressBytes 4 range.network) ++ '/' :: decimal range.prefixLength
  | .ipv6 => ntop.ipv6 (addressBytes 16 range.network) ++ '/' :: decimal range.prefixLength

/-- `to_strings`. -/
def toStrings (ntop : InetNtop) (ranges : List CIDRRange) : List Str :=
  ranges.map (cidrToString ntop)

section
variable (pton : InetPton)

/-- `add_cidr`: whether the entry was added, and the ranges. -/
def addCidr (ranges : List CIDRRange) (cidr : Str) : Bool × List CIDRRange :=
  match parseCidr pton cidr with
  | none => (false, ranges)
  | some range => (true, ranges ++ [range])

/-- `add_ip`. -/
def addIp (ranges : List CIDRRange) (ip : Str) : Bool × List CIDRRange :=
  match parseIpv4 pton ip with
  | some address => (true, ranges ++ [⟨.ipv4, address, 32⟩])
  | none =>
      match parseIpv6 pton ip with
      | some address => (true, ranges ++ [⟨.ipv6, address, 128⟩])
      | none => (false, ranges)

/-- A call that adds to an allowlist. -/
inductive AllowlistCall
  | addCidr (cidr : Str)
  | addIp (ip : Str)
  deriving DecidableEq, Repr

def allowlistStep (ranges : List CIDRRange) : AllowlistCall → List CIDRRange
  | .addCidr cidr => (addCidr pton ranges cidr).2
  | .addIp ip => (addIp pton ranges ip).2

/-- The allowlist that the calls build from an empty one. -/
def built (calls : List AllowlistCall) : List CIDRRange := run (allowlistStep pton) [] calls

end

/-! ## The ranges of an allowlist -/

/-- An address of its family, with nothing behind a prefix that is not too long. -/
structure CIDRRange.Normal (range : CIDRRange) : Prop where
  length_eq : 8 * range.network.length = range.type.width
  prefix_le : range.prefixLength ≤ range.type.width
  cleared : clearFrom range.prefixLength range.network = range.network

section
variable {pton : InetPton}

theorem normal_clearFrom {type : IPType} {address : List UInt8}
    (hlength : 8 * address.length = type.width) {n : ℕ} (hn : n ≤ type.width) :
    CIDRRange.Normal ⟨type, clearFrom n address, n⟩ where
  length_eq := by rw [length_clearFrom, hlength]
  prefix_le := hn
  cleared := clearFrom_clearFrom n address

theorem normal_whole {type : IPType} {address : List UInt8}
    (hlength : 8 * address.length = type.width) : CIDRRange.Normal ⟨type, address, type.width⟩ where
  length_eq := hlength
  prefix_le := le_refl _
  cleared := by rw [← hlength, clearFrom_length]

theorem normal_of_rangeOf {type : IPType} {address : List UInt8}
    (hlength : 8 * address.length = type.width) {k : ℤ} {range : CIDRRange}
    (h : rangeOf type address k = some range) : range.Normal := by
  obtain ⟨n, _, hn, rfl⟩ := rangeOf_eq_some_iff.mp h
  exact normal_clearFrom hlength hn

theorem normal_of_parseCidr {cidr : Str} {range : CIDRRange} (h : parseCidr pton cidr = some range) :
    range.Normal := by
  simp only [parseCidr] at h
  split at h
  · split at h
    · rename_i address h4
      cases h
      exact normal_whole (length_of_parseIpv4 h4)
    · split at h
      · rename_i address h6
        cases h
        exact normal_whole (length_of_parseIpv6 h6)
      · cases h
  · split at h
    · cases h
    · split at h
      · rename_i address h4
        exact normal_of_rangeOf (length_of_parseIpv4 h4) h
      · split at h
        · rename_i address h6
          exact normal_of_rangeOf (length_of_parseIpv6 h6) h
        · cases h

/-- A call adds nothing, or a normal range. -/
theorem allowlistStep_cases (pton : InetPton) (ranges : List CIDRRange) (call : AllowlistCall) :
    allowlistStep pton ranges call = ranges ∨
      ∃ range, range.Normal ∧ allowlistStep pton ranges call = ranges ++ [range] := by
  cases call with
  | addCidr cidr =>
      simp only [allowlistStep, addCidr]
      cases hparse : parseCidr pton cidr with
      | none => exact .inl rfl
      | some range => exact .inr ⟨range, normal_of_parseCidr hparse, rfl⟩
  | addIp ip =>
      simp only [allowlistStep, addIp]
      cases h4 : parseIpv4 pton ip with
      | some address => exact .inr ⟨_, normal_whole (length_of_parseIpv4 h4), rfl⟩
      | none =>
          cases h6 : parseIpv6 pton ip with
          | some address => exact .inr ⟨_, normal_whole (length_of_parseIpv6 h6), rfl⟩
          | none => exact .inl rfl

/-- Every range of an allowlist is normal. -/
theorem normal_of_mem_built (pton : InetPton) (calls : List AllowlistCall) :
    ∀ range ∈ built pton calls, range.Normal := by
  refine run_invariant (fun ranges : List CIDRRange => ∀ range ∈ ranges, range.Normal) ?_ ?_
  · intro ranges call hranges range hrange
    rcases allowlistStep_cases pton ranges call with hsame | ⟨new, hnew, hadded⟩
    · exact hranges range (hsame ▸ hrange)
    · rw [hadded, List.mem_append, List.mem_singleton] at hrange
      rcases hrange with hold | rfl
      · exact hranges range hold
      · exact hnew
  · intro range hrange
    cases hrange

/-! ## Reading what was printed -/

theorem cStr_of_not_mem {s : Str} (h : '\x00' ∉ s) : cStr s = s := by
  rw [cStr, List.takeWhile_eq_self_iff]
  intro c hc
  simpa using ne_of_mem_of_not_mem hc h

theorem toList_addressBytes {n : ℕ} {network : List UInt8} (h : network.length = n) :
    (addressBytes n network).toList = network := by
  subst h
  refine List.ext_getElem (by simp) fun i h₁ h₂ => ?_
  simp [addressBytes]

variable {ntop : InetNtop}

theorem parseIpv4_printed (H : ReadsBack pton ntop) (network : List UInt8) (h : network.length = 4) :
    parseIpv4 pton (ntop.ipv4 (addressBytes 4 network)) = some network := by
  rw [parseIpv4, cStr_of_not_mem (H.ipv4_plain _).2, H.ipv4, Option.map_some, toList_addressBytes h]

theorem parseIpv6_printed (H : ReadsBack pton ntop) (network : List UInt8) (h : network.length = 16) :
    parseIpv4 pton (ntop.ipv6 (addressBytes 16 network)) = none ∧
      parseIpv6 pton (ntop.ipv6 (addressBytes 16 network)) = some network := by
  have hplain := cStr_of_not_mem (H.ipv6_plain (addressBytes 16 network)).2
  rw [parseIpv4, parseIpv6, hplain, H.ipv6, H.ipv6_only, Option.map_some, toList_addressBytes h]
  exact ⟨rfl, rfl⟩

/-- A normal range is what an address and the length of its prefix are parsed to. -/
theorem CIDRRange.Normal.rangeOf_eq {range : CIDRRange} (h : range.Normal) :
    rangeOf range.type range.network range.prefixLength = some range :=
  rangeOf_eq_some_iff.mpr ⟨range.prefixLength, rfl, h.prefix_le, by rw [h.cleared]⟩

/-- **A range survives printing.** -/
theorem parseCidr_cidrToString (H : ReadsBack pton ntop) {range : CIDRRange} (h : range.Normal) :
    parseCidr pton (cidrToString ntop range) = some range := by
  have hnumber : stoi (decimal range.prefixLength) = some (range.prefixLength : ℤ) := by
    have hle := h.prefix_le
    refine stoi_decimal ?_
    cases htype : range.type <;> simp only [htype, IPType.width] at hle <;> omega
  have hrange := h.rangeOf_eq
  have hlength := h.length_eq
  cases htype : range.type with
  | ipv4 =>
      rw [htype] at hrange hlength
      simp only [IPType.width] at hlength
      have h4 := parseIpv4_printed H range.network (by omega)
      have hslash := (H.ipv4_plain (addressBytes 4 range.network)).1
      simp only [cidrToString, htype, parseCidr]
      rw [if_neg (by simp), takeWhile_ne_append hslash, dropWhile_ne_append hslash, List.drop_one,
        List.tail_cons, hnumber, h4]
      exact hrange
  | ipv6 =>
      rw [htype] at hrange hlength
      simp only [IPType.width] at hlength
      obtain ⟨h4, h6⟩ := parseIpv6_printed H range.network (by omega)
      have hslash := (H.ipv6_plain (addressBytes 16 range.network)).1
      simp only [cidrToString, htype, parseCidr]
      rw [if_neg (by simp), takeWhile_ne_append hslash, dropWhile_ne_append hslash, List.drop_one,
        List.tail_cons, hnumber, h4, h6]
      exact hrange

/-- An allowlist whose entries parse lets somebody in. -/
theorem exists_isAllowed (H : ReadsBack pton ntop) {cidrs : List Str} {ranges : List CIDRRange}
    (h : fromCidrList pton cidrs = some ranges) : ∃ ip, isAllowed pton ranges ip = true := by
  cases hranges : ranges with
  | nil => exact ⟨[], rfl⟩
  | cons range rest =>
      -- the first range matches its own network address
      have hmem : some range ∈ cidrs.map (parseCidr pton) := by
        rw [fromCidrList_eq_some_iff.mp h, hranges]
        exact List.mem_map_of_mem List.mem_cons_self
      obtain ⟨entry, _, hparse⟩ := List.mem_map.mp hmem
      have hself : matchesCidr range.network range = true := by simp [matchesCidr, agreeUpTo]
      have hlength := (normal_of_parseCidr hparse).length_eq
      cases htype : range.type with
      | ipv4 =>
          rw [htype] at hlength
          simp only [IPType.width] at hlength
          have h4 := parseIpv4_printed H range.network (by omega)
          exact ⟨_, isAllowed_iff.mpr (.inr ⟨range, List.mem_cons_self, _, .inl ⟨htype, h4⟩, hself⟩)⟩
      | ipv6 =>
          rw [htype] at hlength
          simp only [IPType.width] at hlength
          have h6 := parseIpv6_printed H range.network (by omega)
          exact ⟨_, isAllowed_iff.mpr (.inr ⟨range, List.mem_cons_self, _, .inr ⟨htype, h6⟩, hself⟩)⟩

/-- `from_cidr_list` adds the entries one after the other, until one is refused. -/
theorem fromCidrList_eq_foldlM (pton : InetPton) (cidrs : List Str) (ranges : List CIDRRange) :
    cidrs.foldlM (fun ranges cidr =>
        if (addCidr pton ranges cidr).1 then some (addCidr pton ranges cidr).2 else none) ranges =
      (fromCidrList pton cidrs).map (ranges ++ ·) := by
  induction cidrs generalizing ranges with
  | nil => simp [fromCidrList]
  | cons cidr cidrs ih =>
      rw [List.foldlM_cons, fromCidrList, addCidr]
      cases parseCidr pton cidr with
      | none => rfl
      | some range =>
          simp only [if_true, Option.bind_eq_bind, Option.bind_some, ih, Option.map_map]
          congr 1
          funext rest
          simp

/-- **Allowlists survive printing.**  What is printed of an allowlist is read as the same ranges
in the same order; so it allows the same addresses, and is printed as before. -/
theorem fromCidrList_toStrings (pton : InetPton) (ntop : InetNtop) (H : ReadsBack pton ntop)
    (calls : List AllowlistCall) :
    ∃ ranges, fromCidrList pton (toStrings ntop (built pton calls)) = some ranges ∧
      ranges = built pton calls ∧
      (∀ ip, isAllowed pton ranges ip = isAllowed pton (built pton calls) ip) ∧
      toStrings ntop ranges = toStrings ntop (built pton calls) := by
  refine ⟨built pton calls, ?_, rfl, fun _ => rfl, rfl⟩
  rw [fromCidrList_eq_some_iff, toStrings, List.map_map]
  refine List.map_congr_left fun range hrange => ?_
  exact parseCidr_cidrToString H (normal_of_mem_built pton calls range hrange)

end

/-! ## Addresses in full -/

/-- One number of a dotted address, without leading zeros. -/
def octetOf (s : Str) : Option UInt8 :=
  if s ≠ [] ∧ s.all Char.isDigit ∧ (s.head? ≠ some '0' ∨ s.length = 1) ∧ digitsValue s ≤ 255 then
    some (UInt8.ofNat (digitsValue s))
  else none

def hexDigits : Str := "0123456789abcdef".toList

/-- Two hexadecimal digits. -/
def hexByteOf : Str → Option UInt8
  | [a, b] =>
      if a ∈ hexDigits ∧ b ∈ hexDigits then
        some (UInt8.ofNat (16 * hexDigits.idxOf a + hexDigits.idxOf b))
      else none
  | _ => none

/-- The two bytes of a group of four hexadecimal digits. -/
def groupOf (s : Str) : Option (UInt8 × UInt8) := do
  let high ← hexByteOf (s.take 2)
  let low ← hexByteOf (s.drop 2)
  return (high, low)

/-- The bytes, if there are as many as an address has. -/
def addressOf (n : ℕ) (bytes : List UInt8) : Option (Vector UInt8 n) :=
  if h : bytes.toArray.size = n then some ⟨bytes.toArray, h⟩ else none

/-- Dotted addresses, and addresses of eight groups of four digits. -/
def fullPton : InetPton where
  ipv4 s := ((s.splitOn '.').mapM octetOf).bind (addressOf 4)
  ipv6 s := ((s.splitOn ':').mapM groupOf).bind fun groups => addressOf 16 (groups.flatMap fun g => [g.1, g.2])

def octetText (b : UInt8) : Str := decimal b.toNat

def groupText (a b : UInt8) : Str := hexFixed 2 a.toNat ++ hexFixed 2 b.toNat

/-- Addresses printed in full: no zeros are left out. -/
def fullNtop : InetNtop where
  ipv4 a := ['.'].intercalate [octetText a[0], octetText a[1], octetText a[2], octetText a[3]]
  ipv6 a := [':'].intercalate
    [groupText a[0] a[1], groupText a[2] a[3], groupText a[4] a[5], groupText a[6] a[7],
      groupText a[8] a[9], groupText a[10] a[11], groupText a[12] a[13], groupText a[14] a[15]]

theorem mem_of_mem_intercalate {sep c : Char} {ls : List Str} (h : c ∈ [sep].intercalate ls) :
    c = sep ∨ ∃ l ∈ ls, c ∈ l := by
  induction ls with
  | nil => simp at h
  | cons l ls ih =>
      cases ls with
      | nil => exact .inr ⟨l, List.mem_cons_self, by simpa using h⟩
      | cons m ls =>
          simp only [List.intercalate_cons_cons, List.mem_append, List.mem_singleton] at h
          rcases h with (hl | hsep) | hrest
          · exact .inr ⟨l, List.mem_cons_self, hl⟩
          · exact .inl hsep
          · obtain hsep | ⟨k, hk, hc⟩ := ih hrest
            · exact .inl hsep
            · exact .inr ⟨k, List.mem_cons_of_mem _ hk, hc⟩

theorem octetOf_octetText (b : UInt8) : octetOf (octetText b) = some b := by
  have hlt := b.toNat_lt
  obtain ⟨hne, hdigits⟩ := isNumeral_decimal b.toNat
  have hzero : (decimal b.toNat).head? ≠ some '0' ∨ (decimal b.toNat).length = 1 := by
    by_cases hpos : 0 < b.toNat
    · exact .inl (head?_decimal hpos)
    · have hb : b.toNat = 0 := by omega
      rw [hb]
      exact .inr rfl
  have hvalue : digitsValue (decimal b.toNat) ≤ 255 := by
    rw [digitsValue_decimal]
    omega
  rw [octetOf, octetText, if_pos ⟨hne, List.all_eq_true.mpr hdigits, hzero, hvalue⟩, digitsValue_decimal,
    UInt8.ofNat_toNat]

theorem isDigit_of_mem_octetText (b : UInt8) : ∀ c ∈ octetText b, c.isDigit = true :=
  (isNumeral_decimal b.toNat).2

theorem hexByteOf_hexFixed (b : UInt8) : hexByteOf (hexFixed 2 b.toNat) = some b := by
  have hlt := b.toNat_lt
  have hdigit : ∀ d : Fin 16, Nat.digitChar d ∈ hexDigits ∧ hexDigits.idxOf (Nat.digitChar d) = d := by
    decide
  obtain ⟨hhigh, hhighIdx⟩ := hdigit ⟨b.toNat / 16 % 16, Nat.mod_lt _ (by decide)⟩
  obtain ⟨hlow, hlowIdx⟩ := hdigit ⟨b.toNat % 16, Nat.mod_lt _ (by decide)⟩
  have htext : hexFixed 2 b.toNat = [Nat.digitChar (b.toNat / 16 % 16), Nat.digitChar (b.toNat % 16)] := rfl
  have hvalue : 16 * (b.toNat / 16 % 16) + b.toNat % 16 = b.toNat := by omega
  rw [htext, hexByteOf, if_pos ⟨hhigh, hlow⟩, hhighIdx, hlowIdx, hvalue, UInt8.ofNat_toNat]

theorem groupOf_groupText (a b : UInt8) : groupOf (groupText a b) = some (a, b) := by
  have htake : (groupText a b).take 2 = hexFixed 2 a.toNat := List.take_left' (length_hexFixed 2 _)
  have hdrop : (groupText a b).drop 2 = hexFixed 2 b.toNat := List.drop_left' (length_hexFixed 2 _)
  rw [groupOf, htake, hdrop, hexByteOf_hexFixed, hexByteOf_hexFixed]
  rfl

theorem mem_groupText {a b : UInt8} {c : Char} (hc : c ∈ groupText a b) :
    c ∈ hexDigits := by
  rw [groupText, List.mem_append] at hc
  rcases hc with hc | hc
  · exact mem_hexFixed _ _ c hc
  · exact mem_hexFixed _ _ c hc

/-- A dotted address has digits and dots in it. -/
theorem mem_fullNtop_ipv4 {a : Vector UInt8 4} {c : Char} (hc : c ∈ fullNtop.ipv4 a) :
    c = '.' ∨ c.isDigit = true := by
  obtain hsep | ⟨l, hl, hc⟩ := mem_of_mem_intercalate hc
  · exact .inl hsep
  · right
    simp only [List.mem_cons, List.not_mem_nil, or_false] at hl
    rcases hl with rfl | rfl | rfl | rfl <;> exact isDigit_of_mem_octetText _ c hc

/-- A text in groups has hexadecimal digits and colons in it. -/
theorem mem_fullNtop_ipv6 {a : Vector UInt8 16} {c : Char} (hc : c ∈ fullNtop.ipv6 a) :
    c = ':' ∨ c ∈ hexDigits := by
  obtain hsep | ⟨l, hl, hc⟩ := mem_of_mem_intercalate hc
  · exact .inl hsep
  · right
    simp only [List.mem_cons, List.not_mem_nil, or_false] at hl
    rcases hl with rfl | rfl | rfl | rfl | rfl | rfl | rfl | rfl <;> exact mem_groupText hc

/-- **Addresses in full are read back.** -/
theorem readsBack_full : ReadsBack fullPton fullNtop where
  ipv4 a := by
    have hsplit : (fullNtop.ipv4 a).splitOn '.' =
        [octetText a[0], octetText a[1], octetText a[2], octetText a[3]] := by
      refine List.splitOn_intercalate '.' (fun l hl hdot => ?_) (by simp)
      simp only [List.mem_cons, List.not_mem_nil, or_false] at hl
      rcases hl with rfl | rfl | rfl | rfl <;>
        exact absurd (isDigit_of_mem_octetText _ _ hdot) (by decide)
    simp only [fullPton, hsplit, List.mapM_cons, List.mapM_nil, octetOf_octetText,
      Option.bind_eq_bind, Option.bind_some, Option.pure_def, addressOf]
    refine congrArg some (Vector.ext fun i hi => ?_)
    match i with
    | 0 | 1 | 2 | 3 => rfl
  ipv6 a := by
    have hsplit : (fullNtop.ipv6 a).splitOn ':' =
        [groupText a[0] a[1], groupText a[2] a[3], groupText a[4] a[5], groupText a[6] a[7],
          groupText a[8] a[9], groupText a[10] a[11], groupText a[12] a[13],
          groupText a[14] a[15]] := by
      refine List.splitOn_intercalate ':' (fun l hl hcolon => ?_) (by simp)
      simp only [List.mem_cons, List.not_mem_nil, or_false] at hl
      rcases hl with rfl | rfl | rfl | rfl | rfl | rfl | rfl | rfl <;>
        exact absurd (mem_groupText hcolon) (by decide)
    simp only [fullPton, hsplit, List.mapM_cons, List.mapM_nil, groupOf_groupText,
      Option.bind_eq_bind, Option.bind_some, Option.pure_def, addressOf]
    refine congrArg some (Vector.ext fun i hi => ?_)
    match i with
    | 0 | 1 | 2 | 3 | 4 | 5 | 6 | 7 | 8 | 9 | 10 | 11 | 12 | 13 | 14 | 15 => rfl
    | n + 16 => omega
  ipv6_only a := by
    have hdot : '.' ∉ fullNtop.ipv6 a := by
      intro hmem
      rcases mem_fullNtop_ipv6 hmem with hsep | hdigit
      · cases hsep
      · exact absurd hdigit (by decide)
    simp only [fullPton, List.splitOn_eq_singleton hdot, List.mapM_cons, List.mapM_nil]
    cases octetOf (fullNtop.ipv6 a) with
    | none => rfl
    | some b => rfl
  ipv4_plain a := by
    refine ⟨fun hmem => ?_, fun hmem => ?_⟩ <;>
      rcases mem_fullNtop_ipv4 hmem with hsep | hdigit
    · cases hsep
    · cases hdigit
    · cases hsep
    · cases hdigit
  ipv6_plain a := by
    refine ⟨fun hmem => ?_, fun hmem => ?_⟩ <;>
      rcases mem_fullNtop_ipv6 hmem with hsep | hdigit
    · cases hsep
    · exact absurd hdigit (by decide)
    · cases hsep
    · exact absurd hdigit (by decide)

/-- Addresses with host bits, and one without a prefix. -/
def sampleCalls : List AllowlistCall :=
  [.addCidr "10.1.2.3/8".toList, .addIp "192.168.0.7".toList, .addCidr "10.0.0.0/33".toList]

theorem fromCidrList_toStrings_sample :
    ∃ ranges, fromCidrList fullPton (toStrings fullNtop (built fullPton sampleCalls)) = some ranges ∧
      ranges = built fullPton sampleCalls ∧
      (∀ ip, isAllowed fullPton ranges ip = isAllowed fullPton (built fullPton sampleCalls) ip) ∧
      toStrings fullNtop ranges = ["10.0.0.0/8".toList, "192.168.0.7/32".toList] := by
  obtain ⟨ranges, hranges, heq, hallowed, hprinted⟩ :=
    fromCidrList_toStrings fullPton fullNtop readsBack_full sampleCalls
  exact ⟨ranges, hranges, heq, hallowed, hprinted.trans (by decide)⟩

end Protogate.Security
