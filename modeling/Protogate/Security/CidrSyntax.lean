import Protogate.Security.AllowlistPrinting

/-!
# The syntax of entries

An entry is an address, or an address, a slash and the number of bits of its prefix.  The number
is read by `std::stoi`, which also takes white space and a sign before the digits, and anything
behind them; so `10.0.0.0/8` may be written `10.0.0.0/ +8` or `10.0.0.0/8.0.0.0`, and a slip like
`10.0.0.0/2 4` is read as the much wider `10.0.0.0/2`.

## Main definitions

* `Written` — the entries whose number is written in digits, and what they say.
* `Strict` — `parse_cidr` accepts these and no others.
* `Sloppy` — a number in bounds with something around its digits.
* `strict_iff` — the two exclude each other.
-/

namespace Protogate.Security

open Protogate.Lib

section
variable (pton : InetPton)

/-- An address, or an address and the number of bits in decimal digits. -/
inductive Written : Str → IPType → ℕ → Prop
  | address {ip : Str} {type : IPType} {address : List Bool} (hslash : '/' ∉ ip)
      (h : Address pton ip type address) : Written ip type type.width
  | cidr {ip digits : Str} {type : IPType} {address : List Bool} (hslash : '/' ∉ ip)
      (h : Address pton ip type address) (hdigits : IsNumeral digits)
      (hwidth : digitsValue digits ≤ type.width) : Written (ip ++ '/' :: digits) type (digitsValue digits)

/-- The text is accepted exactly if it is written so, with the family and the number it says. -/
def Strict (s : Str) : Prop :=
  ∀ type n, (∃ range, parseCidr pton s = some range ∧ range.type = type ∧ range.prefixLength = n) ↔
    Written pton s type n

/-- An address, a slash and a number in bounds that is not written in digits alone. -/
def Sloppy (s : Str) : Prop :=
  ∃ ip number type address, ∃ n : ℕ, s = ip ++ '/' :: number ∧ '/' ∉ ip ∧ Address pton ip type address ∧
    IntegerText number n ∧ n ≤ type.width ∧ ¬ IsNumeral number

end

section
variable {pton : InetPton} {s : Str} {type : IPType} {n : ℕ}

theorem width_le (type : IPType) : type.width ≤ 128 := by
  cases type <;> simp [IPType.width]

/-- The number behind an address, if it is in bounds, is what `std::stoi` reads. -/
theorem stoi_eq_iff_integerText {number : Str} (hn : n ≤ type.width) :
    stoi number = some (n : ℤ) ↔ IntegerText number n := by
  have hwidth := width_le type
  rw [stoi_eq_some_iff]
  exact and_iff_left ⟨by omega, by omega⟩

/-- What is written so has the meaning it says. -/
theorem Written.denotes (h : Written pton s type n) : ∃ address, Denotes pton s type address n := by
  cases h with
  | address hslash h => exact ⟨_, .address hslash h⟩
  | cidr hslash h hdigits hwidth =>
      have hbound := width_le type
      exact ⟨_, .cidr hslash h (hdigits.stoi_eq_some_iff.mpr ⟨rfl, by omega⟩) hwidth⟩

/-- What has a meaning is written so, or sloppily. -/
theorem written_or_sloppy {address : List Bool} (h : Denotes pton s type address n) :
    Written pton s type n ∨ Sloppy pton s := by
  cases h with
  | address hslash h => exact .inl (.address hslash h)
  | @cidr ip number type address n hslash h hnumber hwidth =>
      by_cases hdigits : IsNumeral number
      · have hvalue := (hdigits.stoi_eq_some_iff.mp hnumber).1
        obtain rfl : n = digitsValue number := by omega
        exact .inl (.cidr hslash h hdigits hwidth)
      · exact .inr ⟨ip, number, type, address, n, rfl, hslash, h,
          (stoi_eq_iff_integerText hwidth).mp hnumber, hwidth, hdigits⟩

/-- An entry is parsed to the family and the number of its meaning. -/
theorem exists_parseCidr_iff : (∃ range, parseCidr pton s = some range ∧ range.type = type ∧
    range.prefixLength = n) ↔ ∃ address, Denotes pton s type address n := by
  constructor
  · rintro ⟨range, hrange, rfl, rfl⟩
    obtain ⟨type, address, n, hdenotes, _⟩ := exists_of_parseCidr hrange
    obtain ⟨range', hrange', hmeans, hlength⟩ := exists_of_denotes hdenotes
    obtain rfl : range' = range := Option.some.inj (hrange'.symm.trans hrange)
    rw [hmeans.type_eq, hlength]
    exact ⟨address, hdenotes⟩
  · rintro ⟨address, hdenotes⟩
    obtain ⟨range, hrange, hmeans, hlength⟩ := exists_of_denotes hdenotes
    exact ⟨range, hrange, hmeans.type_eq, hlength⟩

/-- A text is cut at its first slash in one way. -/
theorem append_slash_inj {ip ip' number number' : Str} (hslash : '/' ∉ ip) (hslash' : '/' ∉ ip')
    (h : ip ++ '/' :: number = ip' ++ '/' :: number') : number = number' := by
  have hdrop := congrArg (fun t : Str => (t.dropWhile (· ≠ '/')).drop 1) h
  simpa only [dropWhile_ne_append hslash, dropWhile_ne_append hslash', List.drop_one,
    List.tail_cons] using hdrop

/-- What is written in digits is not sloppy. -/
theorem Written.not_sloppy (h : Written pton s type n) : ¬ Sloppy pton s := by
  rintro ⟨ip, number, _, _, _, rfl, hslash, _, _, _, hnumber⟩
  generalize htext : ip ++ '/' :: number = text at h
  cases h with
  | address hnot _ =>
      rw [← htext] at hnot
      exact hnot (by simp)
  | cidr hslash' _ hdigits _ =>
      obtain rfl := append_slash_inj hslash hslash' htext
      exact hnumber hdigits

end

/-- **When the syntax is strict**: a text is accepted exactly if it is written as it should be,
unless it is an address, a slash and a number in bounds with something around its digits. -/
theorem strict_iff (pton : InetPton) (s : Str) : Strict pton s ↔ ¬ Sloppy pton s := by
  constructor
  · intro hstrict hsloppy
    obtain ⟨ip, number, type, address, n, rfl, hslash, haddress, htext, hwidth, _⟩ := id hsloppy
    have hdenotes := Denotes.cidr hslash haddress ((stoi_eq_iff_integerText hwidth).mpr htext) hwidth
    exact ((hstrict type n).mp (exists_parseCidr_iff.mpr ⟨address, hdenotes⟩)).not_sloppy hsloppy
  · intro hsloppy type n
    rw [exists_parseCidr_iff]
    constructor
    · rintro ⟨address, hdenotes⟩
      exact (written_or_sloppy hdenotes).resolve_right hsloppy
    · exact Written.denotes

/-- A prefix of 24 bits with a blank in its number is read as one of 2 bits. -/
theorem not_strict_blank :
    parseCidr fullPton "10.0.0.0/2 4".toList = some ⟨.ipv4, [0, 0, 0, 0], 2⟩ ∧
      ¬ ∀ (pton : InetPton) (s : Str), Strict pton s := by
  have hparse : parseCidr fullPton "10.0.0.0/2 4".toList = some ⟨.ipv4, [0, 0, 0, 0], 2⟩ := by
    decide +kernel
  refine ⟨hparse, fun H => ?_⟩
  have h4 : parseIpv4 fullPton "10.0.0.0".toList = some [10, 0, 0, 0] := by decide +kernel
  have htext : IntegerText "2 4".toList 2 :=
    (stoi_eq_some_iff.mp (by decide : stoi "2 4".toList = some 2)).1
  have hsloppy : Sloppy fullPton "10.0.0.0/2 4".toList :=
    ⟨"10.0.0.0".toList, "2 4".toList, .ipv4, _, 2, rfl, by decide, .ipv4 h4, htext, by decide, by decide⟩
  exact ((H fullPton "10.0.0.0/2 4".toList .ipv4 2).mp ⟨_, hparse, rfl, rfl⟩).not_sloppy hsloppy

end Protogate.Security
