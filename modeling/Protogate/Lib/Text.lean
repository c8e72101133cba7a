import Mathlib.Data.List.DropRight
import Mathlib.Tactic.NormNum

/-!
# Strings and streams of the C++ standard library

The operations on `std::string` and `std::istream` that a text protocol uses, on
lists of characters.  A stream is the part of its buffer not yet read.

## Main definitions

* `hexFixed w n` — `hex << setfill('0') << setw(w) << n`, for `n < 16 ^ w`.
* `decimal n`, `stoi`, `stoul` — `std::to_string`, `std::stoi` and `std::stoul`.
* `IntegerText`, `stoi_eq_some_iff` — the texts that `std::stoi` reads.
* `hasPrefix`, `trim` — `compare(0, n, p) == 0` and the two-sided `erase` idiom.
* `getline`, `fields`, `extractWord` — `std::getline`, also with a delimiter, and
  `operator>>` into a string.
-/

namespace Protogate.Lib

/-- A `std::string`, first character first. -/
abbrev Str := List Char

/-- A character for a byte. -/
def byteChar (b : UInt8) : Char := Char.ofNat b.toNat

/-! ## Numbers as text -/

/-- `w` hexadecimal digits of `n`, most significant first. -/
def hexFixed : ℕ → ℕ → Str
  | 0, _ => []
  | w + 1, n => hexFixed w (n / 16) ++ [Nat.digitChar (n % 16)]

@[simp] theorem length_hexFixed (w n : ℕ) : (hexFixed w n).length = w := by
  induction w generalizing n with
  | zero => rfl
  | succ w ih => simp [hexFixed, ih]

/-- Every character printed is a lower-case hexadecimal digit. -/
theorem mem_hexFixed (w n : ℕ) : ∀ c ∈ hexFixed w n, c ∈ "0123456789abcdef".toList := by
  have hdigit : ∀ d : Fin 16, Nat.digitChar d ∈ "0123456789abcdef".toList := by decide
  induction w generalizing n with
  | zero => simp [hexFixed]
  | succ w ih =>
      intro c hc
      rcases List.mem_append.mp hc with hc | hc
      · exact ih (n / 16) c hc
      · rw [List.mem_singleton.mp hc]
        exact hdigit ⟨n % 16, Nat.mod_lt n (by norm_num)⟩

/-- `std::to_string` of an integer. -/
def decimal : ℤ → Str
  | .ofNat n => Nat.toDigits 10 n
  | .negSucc n => '-' :: Nat.toDigits 10 (n + 1)

/-! ## Prefixes and trimming -/

/-- `s.compare(0, p.size(), p) == 0`. -/
def hasPrefix (p s : Str) : Bool := s.take p.length == p

/-- Remove the characters satisfying `ws` from both ends, as the pair
`erase(0, find_first_not_of)` and `erase(find_last_not_of + 1)` does. -/
def trim (ws : Char → Bool) (s : Str) : Str := (s.dropWhile ws).rdropWhile ws

/-- Trimming adds no character. -/
theorem mem_of_mem_trim {ws : Char → Bool} {c : Char} {s : Str} (h : c ∈ trim ws s) : c ∈ s := by
  have hfront : c ∈ s.dropWhile ws := (List.rdropWhile_prefix ws _).subset h
  exact (List.dropWhile_suffix ws).subset hfront

theorem mem_of_hasPrefix {p s : Str} (h : hasPrefix p s = true) {c : Char} (hc : c ∈ p) :
    c ∈ s := by
  have htake : s.take p.length = p := by simpa [hasPrefix] using h
  rw [← htake] at hc
  exact List.mem_of_mem_take hc

@[simp] theorem hasPrefix_append (p s : Str) : hasPrefix p (p ++ s) = true := by
  simp [hasPrefix]

/-! ## Cutting at a character -/

section
variable {c : Char} {s : Str}

/-- A text that is cut at the first `c`. -/
theorem takeWhile_ne_append (h : c ∉ s) (rest : Str) : (s ++ c :: rest).takeWhile (· ≠ c) = s := by
  rw [List.takeWhile_append_of_pos]
  · simp
  · intro d hd
    simpa using ne_of_mem_of_not_mem hd h

theorem dropWhile_ne_append (h : c ∉ s) (rest : Str) :
    (s ++ c :: rest).dropWhile (· ≠ c) = c :: rest := by
  rw [List.dropWhile_append_of_pos]
  · simp
  · intro d hd
    simpa using ne_of_mem_of_not_mem hd h

/-- A text with a `c` is what is before the first one, and what follows it. -/
theorem eq_append_of_mem (h : c ∈ s) :
    c ∉ s.takeWhile (· ≠ c) ∧ s = s.takeWhile (· ≠ c) ++ c :: (s.dropWhile (· ≠ c)).drop 1 := by
  have hcut : c ∉ s.takeWhile (· ≠ c) := by
    intro hmem
    simpa using List.mem_takeWhile_imp hmem
  refine ⟨hcut, ?_⟩
  cases hrest : s.dropWhile (· ≠ c) with
  | nil =>
      have hall := List.dropWhile_eq_nil_iff.mp hrest c h
      simp at hall
  | cons d rest =>
      have hd : d = c := by
        have hne : s.dropWhile (· ≠ c) ≠ [] := by
          rw [hrest]
          exact List.cons_ne_nil d rest
        have hhead : (s.dropWhile (· ≠ c)).head hne = c := by
          simpa using List.head_dropWhile_not (· ≠ c) hne
        simpa only [hrest, List.head_cons] using hhead
      rw [List.drop_one, List.tail_cons]
      conv_lhs => rw [← List.takeWhile_append_dropWhile (p := (· ≠ c)) (l := s), hrest, hd]

/-- From the first `c` on, a text begins with `c`. -/
theorem dropWhile_ne_of_mem (h : c ∈ s) :
    s.dropWhile (· ≠ c) = c :: (s.dropWhile (· ≠ c)).drop 1 := by
  have hsplit : s.takeWhile (· ≠ c) ++ s.dropWhile (· ≠ c) =
      s.takeWhile (· ≠ c) ++ c :: (s.dropWhile (· ≠ c)).drop 1 := by
    rw [List.takeWhile_append_dropWhile]
    exact (eq_append_of_mem h).2
  exact List.append_cancel_left hsplit

/-- A text without `c` is what is before the first `c` of another one exactly if it is the other
one, or its beginning up to a `c`. -/
theorem eq_takeWhile_ne_iff {t : Str} (h : c ∉ t) :
    t = s.takeWhile (· ≠ c) ↔ hasPrefix (t ++ [c]) s = true ∨ t = s := by
  constructor
  · intro ht
    by_cases hc : c ∈ s
    · have hcut := (eq_append_of_mem hc).2
      rw [← ht] at hcut
      have happend : s = (t ++ [c]) ++ (s.dropWhile (· ≠ c)).drop 1 := by simpa using hcut
      left
      rw [happend]
      exact hasPrefix_append _ _
    · right
      rw [ht, List.takeWhile_eq_self_iff]
      intro d hd
      simpa using ne_of_mem_of_not_mem hd hc
  · rintro (hbegins | rfl)
    · have htake : s.take (t ++ [c]).length = t ++ [c] := by simpa [hasPrefix] using hbegins
      have happend : s = t ++ c :: s.drop (t ++ [c]).length := by
        conv_lhs => rw [← List.take_append_drop (t ++ [c]).length s, htake]
        simp
      rw [happend, takeWhile_ne_append h]
    · symm
      rw [List.takeWhile_eq_self_iff]
      intro d hd
      simpa using ne_of_mem_of_not_mem hd h

end

/-! ## Streams -/

/-- `std::isspace` in the "C" locale. -/
def isSpace (c : Char) : Bool :=
  c = ' ' || c = '\t' || c = '\n' || c = '\x0b' || c = '\x0c' || c = '\r'

/-- `std::getline(stream, line)`: the line and what is left, or `none` when the
stream is at its end and the extraction fails. -/
def getline : Str → Option (Str × Str)
  | [] => none
  | s => some (s.takeWhile (· ≠ '\n'), (s.dropWhile (· ≠ '\n')).drop 1)

/-- The pieces that `std::getline(stream, piece, delim)` gives until it fails: no piece
follows a delimiter at the end. -/
def fields (delim : Char) (s : Str) : List Str :=
  let pieces := s.splitOn delim
  if pieces.getLast? = some [] then pieces.dropLast else pieces

/-- `stream >> word`: skip white space and take the characters up to the next. -/
def extractWord (s : Str) : Str × Str :=
  let s := s.dropWhile isSpace
  (s.takeWhile (! isSpace ·), s.dropWhile (! isSpace ·))

/-- The value of decimal digits. -/
def digitsValue (digits : Str) : ℕ := digits.foldl (fun n c => 10 * n + (c.toNat - '0'.toNat)) 0

/-- `std::stoi`: the number at the front, or `none` for an exception, when there is none
or it does not fit into an `int`. -/
def stoi (s : Str) : Option ℤ :=
  let s := s.dropWhile isSpace
  let (negative, s) :=
    match s with
    | '-' :: s => (true, s)
    | '+' :: s => (false, s)
    | s => (false, s)
  let digits := s.takeWhile Char.isDigit
  let n : ℤ := if negative then -(digitsValue digits : ℤ) else digitsValue digits
  if digits.isEmpty ∨ n < -2147483648 ∨ 2147483647 < n then none else some n

/-- Whether there is a minus in front, and what follows the sign. -/
def splitSign : Str → Bool × Str
  | '-' :: s => (true, s)
  | '+' :: s => (false, s)
  | s => (false, s)

/-- `std::stoul`: the number at the front, negated in 64 bits where it has a minus, or `none`
for an exception. -/
def stoul (s : Str) : Option ℕ :=
  let (negative, s) := splitSign (s.dropWhile isSpace)
  let digits := s.takeWhile Char.isDigit
  let n := digitsValue digits
  if digits.isEmpty ∨ 2 ^ 64 ≤ n then none else some (if negative then (2 ^ 64 - n) % 2 ^ 64 else n)

/-- A nonempty text of decimal digits alone. -/
def IsNumeral (s : Str) : Prop := s ≠ [] ∧ ∀ c ∈ s, c.isDigit = true

instance (s : Str) : Decidable (IsNumeral s) :=
  decidable_of_iff ((! s.isEmpty && s.all Char.isDigit) = true) (by simp [IsNumeral])

/-- The texts that are read as a number: white space, a sign, digits, and anything that does not
go on with a digit. -/
inductive IntegerText : Str → ℤ → Prop
  | plain {blanks digits rest : Str} (hblanks : ∀ c ∈ blanks, isSpace c = true)
      (hdigits : IsNumeral digits) (hrest : ∀ c ∈ rest.head?, c.isDigit = false) :
      IntegerText (blanks ++ (digits ++ rest)) (digitsValue digits)
  | plus {blanks digits rest : Str} (hblanks : ∀ c ∈ blanks, isSpace c = true)
      (hdigits : IsNumeral digits) (hrest : ∀ c ∈ rest.head?, c.isDigit = false) :
      IntegerText (blanks ++ '+' :: (digits ++ rest)) (digitsValue digits)
  | minus {blanks digits rest : Str} (hblanks : ∀ c ∈ blanks, isSpace c = true)
      (hdigits : IsNumeral digits) (hrest : ∀ c ∈ rest.head?, c.isDigit = false) :
      IntegerText (blanks ++ '-' :: (digits ++ rest)) (-(digitsValue digits))

section
variable {s u : Str} {c : Char}

theorem isSpace_of_isDigit (h : c.isDigit = true) : isSpace c = false := by
  by_contra hspace
  simp only [isSpace, Bool.not_eq_false, Bool.or_eq_true, decide_eq_true_eq] at hspace
  rcases hspace with ((((rfl | rfl) | rfl) | rfl) | rfl) | rfl <;> exact absurd h (by decide)

/-- The number, unless there are no digits or it does not fit. -/
def intOf (digits : Str) (n : ℤ) : Option ℤ :=
  if digits.isEmpty ∨ n < -2147483648 ∨ 2147483647 < n then none else some n

theorem stoi_minus (h : s.dropWhile isSpace = '-' :: u) :
    stoi s = intOf (u.takeWhile Char.isDigit) (-(digitsValue (u.takeWhile Char.isDigit))) := by
  simp only [stoi, h, intOf, if_true]

theorem stoi_plus (h : s.dropWhile isSpace = '+' :: u) :
    stoi s = intOf (u.takeWhile Char.isDigit) (digitsValue (u.takeWhile Char.isDigit)) := by
  simp only [stoi, h, intOf, Bool.false_eq_true, if_false]

theorem stoi_plain (hminus : (s.dropWhile isSpace).head? ≠ some '-')
    (hplus : (s.dropWhile isSpace).head? ≠ some '+') :
    stoi s = intOf ((s.dropWhile isSpace).takeWhile Char.isDigit)
      (digitsValue ((s.dropWhile isSpace).takeWhile Char.isDigit)) := by
  have hsign : (match s.dropWhile isSpace with
      | '-' :: s => (true, s)
      | '+' :: s => (false, s)
      | s => (false, s)) = (false, s.dropWhile isSpace) := by
    split
    · rename_i heq
      exact absurd (by rw [heq]; rfl) hminus
    · rename_i heq
      exact absurd (by rw [heq]; rfl) hplus
    · rfl
  rw [stoi, hsign]
  simp only [intOf, Bool.false_eq_true, if_false]

theorem intOf_eq_some_iff {digits : Str} {n k : ℤ} :
    intOf digits n = some k ↔ digits ≠ [] ∧ n = k ∧ -2147483648 ≤ k ∧ k ≤ 2147483647 := by
  simp only [intOf]
  split
  · rename_i hbad
    simp only [reduceCtorEq, false_iff, List.isEmpty_iff] at hbad ⊢
    rintro ⟨hne, rfl, hlow, hhigh⟩
    rcases hbad with hnil | hlt | hlt
    · exact hne hnil
    · omega
    · omega
  · rename_i hgood
    simp only [not_or, List.isEmpty_iff, not_lt] at hgood
    simp only [Option.some.injEq]
    constructor
    · rintro rfl
      exact ⟨hgood.1, rfl, hgood.2⟩
    · exact fun h => h.2.1

/-- Skipping white space. -/
theorem dropWhile_blanks {blanks : Str} (hblanks : ∀ c ∈ blanks, isSpace c = true)
    (hc : isSpace c = false) : (blanks ++ c :: u).dropWhile isSpace = c :: u := by
  rw [List.dropWhile_append_of_pos hblanks, List.dropWhile_cons_of_neg (by simp [hc])]

/-- Digits up to the first character that is none. -/
theorem takeWhile_digits {digits rest : Str} (hdigits : ∀ c ∈ digits, c.isDigit = true)
    (hrest : ∀ c ∈ rest.head?, c.isDigit = false) :
    (digits ++ rest).takeWhile Char.isDigit = digits := by
  rw [List.takeWhile_append_of_pos hdigits]
  cases rest with
  | nil => simp
  | cons d rest =>
      have hd := hrest d rfl
      simp [hd]

theorem isNumeral_takeWhile (h : u.takeWhile Char.isDigit ≠ []) :
    IsNumeral (u.takeWhile Char.isDigit) := ⟨h, fun _ => List.mem_takeWhile_imp⟩

theorem head?_dropWhile_digits (u : Str) :
    ∀ c ∈ (u.dropWhile Char.isDigit).head?, c.isDigit = false := by
  intro c hc
  have hhead := List.head?_dropWhile_not Char.isDigit u
  rw [Option.mem_def.mp hc] at hhead
  simpa using hhead

/-- White space in front is skipped. -/
theorem stoi_blanks {blanks : Str} (hblanks : ∀ c ∈ blanks, isSpace c = true) (s : Str) :
    stoi (blanks ++ s) = stoi s := by
  simp only [stoi, List.dropWhile_append_of_pos hblanks]

/-- A numeral is read as its value, if that fits, whatever follows it. -/
theorem IsNumeral.stoi_append_eq_some_iff (h : IsNumeral s) (hrest : ∀ c ∈ u.head?, c.isDigit = false)
    {k : ℤ} : stoi (s ++ u) = some k ↔ k = digitsValue s ∧ k ≤ 2147483647 := by
  obtain ⟨hne, hall⟩ := h
  obtain ⟨d, rest, rfl⟩ := List.exists_cons_of_ne_nil hne
  have hdigit := hall d List.mem_cons_self
  have hdrop : (d :: rest ++ u).dropWhile isSpace = d :: rest ++ u :=
    List.dropWhile_cons_of_neg (by simp [isSpace_of_isDigit hdigit])
  have hsign : ∀ c : Char, c.isDigit = false → ((d :: rest ++ u).dropWhile isSpace).head? ≠ some c := by
    rintro c hc heq
    rw [hdrop] at heq
    cases heq
    rw [hdigit] at hc
    cases hc
  rw [stoi_plain (hsign '-' rfl) (hsign '+' rfl), hdrop, takeWhile_digits hall hrest, intOf_eq_some_iff]
  constructor
  · rintro ⟨_, rfl, _, hhigh⟩
    exact ⟨rfl, hhigh⟩
  · rintro ⟨rfl, hhigh⟩
    exact ⟨hne, rfl, by omega, hhigh⟩

theorem IsNumeral.stoi_eq_some_iff (h : IsNumeral s) {k : ℤ} :
    stoi s = some k ↔ k = digitsValue s ∧ k ≤ 2147483647 := by
  have happend := h.stoi_append_eq_some_iff (u := []) (k := k) (by simp)
  rwa [List.append_nil] at happend

/-- What is read was written there. -/
theorem integerText_of_stoi {k : ℤ} (h : stoi s = some k) :
    IntegerText s k ∧ -2147483648 ≤ k ∧ k ≤ 2147483647 := by
  have hblanks : ∀ c ∈ s.takeWhile isSpace, isSpace c = true := fun _ => List.mem_takeWhile_imp
  have hcut : s.takeWhile isSpace ++ s.dropWhile isSpace = s := List.takeWhile_append_dropWhile
  by_cases hminus : (s.dropWhile isSpace).head? = some '-'
  · obtain ⟨u, hu⟩ := List.head?_eq_some_iff.mp hminus
    rw [stoi_minus hu, intOf_eq_some_iff] at h
    obtain ⟨hne, rfl, hfits⟩ := h
    have htext := IntegerText.minus hblanks (isNumeral_takeWhile hne) (head?_dropWhile_digits u)
    rw [List.takeWhile_append_dropWhile, ← hu, hcut] at htext
    exact ⟨htext, hfits⟩
  · by_cases hplus : (s.dropWhile isSpace).head? = some '+'
    · obtain ⟨u, hu⟩ := List.head?_eq_some_iff.mp hplus
      rw [stoi_plus hu, intOf_eq_some_iff] at h
      obtain ⟨hne, rfl, hfits⟩ := h
      have htext := IntegerText.plus hblanks (isNumeral_takeWhile hne) (head?_dropWhile_digits u)
      rw [List.takeWhile_append_dropWhile, ← hu, hcut] at htext
      exact ⟨htext, hfits⟩
    · rw [stoi_plain hminus hplus, intOf_eq_some_iff] at h
      obtain ⟨hne, rfl, hfits⟩ := h
      have htext := IntegerText.plain hblanks (isNumeral_takeWhile hne)
        (head?_dropWhile_digits (s.dropWhile isSpace))
      rw [List.takeWhile_append_dropWhile, hcut] at htext
      exact ⟨htext, hfits⟩

/-- What was written there is read, if it fits. -/
theorem IntegerText.stoi_eq {k : ℤ} (htext : IntegerText s k)
    (hfits : -2147483648 ≤ k ∧ k ≤ 2147483647) : stoi s = some k := by
  cases htext with
  | plain hblanks hdigits hrest =>
      rw [stoi_blanks hblanks, hdigits.stoi_append_eq_some_iff hrest]
      exact ⟨rfl, hfits.2⟩
  | plus hblanks hdigits hrest =>
      rw [stoi_plus (dropWhile_blanks hblanks rfl), takeWhile_digits hdigits.2 hrest, intOf_eq_some_iff]
      exact ⟨hdigits.1, rfl, hfits⟩
  | minus hblanks hdigits hrest =>
      rw [stoi_minus (dropWhile_blanks hblanks rfl), takeWhile_digits hdigits.2 hrest, intOf_eq_some_iff]
      exact ⟨hdigits.1, rfl, hfits⟩

/-- **What `std::stoi` reads**: the texts of integers that fit into an `int`. -/
theorem stoi_eq_some_iff {k : ℤ} :
    stoi s = some k ↔ IntegerText s k ∧ -2147483648 ≤ k ∧ k ≤ 2147483647 :=
  ⟨integerText_of_stoi, fun h => h.1.stoi_eq h.2⟩

end

/-! ## Printed numbers -/

theorem isNumeral_decimal (n : ℕ) : IsNumeral (decimal n) :=
  ⟨Nat.toDigits_ne_nil, fun _ hc => Nat.isDigit_of_mem_toDigits (by decide) (by decide) hc⟩

@[simp] theorem digitsValue_decimal (n : ℕ) : digitsValue (decimal n) = n :=
  Nat.ofDigitChars_ten_toDigits

/-- Only the number 0 is printed with a zero in front. -/
theorem head?_decimal {n : ℕ} (h : 0 < n) : (decimal n).head? ≠ some '0' := by
  show (Nat.toDigits 10 n).head? ≠ some '0'
  induction n using Nat.strongRecOn with
  | ind n ih =>
      by_cases hn : n < 10
      · have hdigit : ∀ d : Fin 10, 0 < d.val → Nat.digitChar d ≠ '0' := by decide
        rw [Nat.toDigits_of_lt_base hn, List.head?_cons, ne_eq, Option.some.injEq]
        exact hdigit ⟨n, hn⟩ h
      · rw [Nat.toDigits_of_base_le (by decide) (by omega)]
        have hrest := ih (n / 10) (by omega) (by omega)
        rwa [List.head?_append_of_ne_nil _ Nat.toDigits_ne_nil]

/-- The text of a number that fits into an `int` is read back. -/
theorem stoi_decimal {n : ℕ} (h : n ≤ 2147483647) : stoi (decimal n) = some (n : ℤ) := by
  rw [(isNumeral_decimal n).stoi_eq_some_iff, digitsValue_decimal]
  exact ⟨rfl, by omega⟩

theorem stoul_decimal {n : ℕ} (h : n < 2 ^ 64) : stoul (decimal n) = some n := by
  obtain ⟨hne, hall⟩ := isNumeral_decimal n
  obtain ⟨d, rest, hcons⟩ := List.exists_cons_of_ne_nil hne
  have hdigit : d.isDigit = true := hall d (hcons ▸ List.mem_cons_self)
  have hdrop : (decimal n).dropWhile isSpace = decimal n := by
    rw [hcons]
    exact List.dropWhile_cons_of_neg (by simp [isSpace_of_isDigit hdigit])
  have hsign : splitSign (decimal n) = (false, decimal n) := by
    rw [hcons]
    unfold splitSign
    split
    · rename_i heq
      cases heq
      cases hdigit
    · rename_i heq
      cases heq
      cases hdigit
    · rfl
  have htake : (decimal n).takeWhile Char.isDigit = decimal n := List.takeWhile_eq_self_iff.mpr hall
  rw [stoul, hdrop, hsign]
  simp only [htake, digitsValue_decimal, List.isEmpty_iff, hne, false_or, Nat.not_le.mpr h, if_false,
    Bool.false_eq_true]

end Protogate.Lib
