import Protogate.Lib.Text

/-!
# Formatted output

A `std::ostringstream` as far as numbers are printed to it: the text so far and the state of its
manipulators.  The base and the fill character stay until they are set again, while the width
counts for one item only.

## Main definitions

* `OutStream` — the text, and the base, fill character and width for what follows.
* `putChar`, `putNat` — `operator<<` of a character and of a number.
* `leftpad_toDigits`, `text_putNat_hex` — a number printed with its zeros.
* `text_foldl`, `flatMap_zipIdx_separators` — a loop that prints, and where it puts separators.
-/

namespace Protogate.Lib

structure OutStream where
  text : Str
  base : ℕ
  fill : Char
  width : ℕ

namespace OutStream

/-- A new stream prints decimal numbers. -/
def empty : OutStream := ⟨[], 10, ' ', 0⟩

def hex (s : OutStream) : OutStream := { s with base := 16 }
def setfill (s : OutStream) (c : Char) : OutStream := { s with fill := c }
def setw (s : OutStream) (n : ℕ) : OutStream := { s with width := n }

/-- An item is filled up on the left to the width, which is used up by it. -/
def put (s : OutStream) (item : Str) : OutStream :=
  { s with text := s.text ++ item.leftpad s.width s.fill, width := 0 }

def putChar (s : OutStream) (c : Char) : OutStream := s.put [c]
def putNat (s : OutStream) (n : ℕ) : OutStream := s.put (Nat.toDigits s.base n)

/-- A stream that prints hexadecimal numbers with zeros in front. -/
structure IsHex (s : OutStream) : Prop where
  base : s.base = 16
  fill : s.fill = '0'
  width : s.width = 0

theorem isHex_empty : (empty.hex.setfill '0').IsHex := ⟨rfl, rfl, rfl⟩

theorem leftpad_concat (n : ℕ) (a b : Char) (l : Str) :
    (l ++ [b]).leftpad (n + 1) a = l.leftpad n a ++ [b] := by
  simp [List.leftpad]

theorem hexFixed_zero (w : ℕ) : hexFixed w 0 = List.replicate w '0' := by
  induction w with
  | zero => rfl
  | succ w ih =>
      rw [hexFixed, Nat.zero_div, ih, List.replicate_succ']
      rfl

/-- The digits of a number, filled up with zeros. -/
theorem leftpad_toDigits {w n : ℕ} (hw : 0 < w) (h : n < 16 ^ w) :
    (Nat.toDigits 16 n).leftpad w '0' = hexFixed w n := by
  induction w generalizing n with
  | zero => omega
  | succ w ih =>
      by_cases hn : n < 16
      · rw [Nat.toDigits_of_lt_base hn, hexFixed, Nat.div_eq_of_lt hn, Nat.mod_eq_of_lt hn,
          hexFixed_zero]
        simp [List.leftpad]
      · have hpos : 0 < w := by
          by_contra hzero
          obtain rfl : w = 0 := by omega
          omega
        have hdiv : n / 16 < 16 ^ w := by
          rw [Nat.div_lt_iff_lt_mul (by omega)]
          rwa [pow_succ] at h
        rw [Nat.toDigits_of_base_le (by omega) (by omega), leftpad_concat, ih hpos hdiv, hexFixed]

/-- A hexadecimal number with a width that it fits in. -/
theorem text_putNat_hex {s : OutStream} (h : s.IsHex) {w n : ℕ} (hw : 0 < w) (hn : n < 16 ^ w) :
    ((s.setw w).putNat n).text = s.text ++ hexFixed w n := by
  rw [putNat, put, setw, h.base, h.fill, leftpad_toDigits hw hn]

theorem IsHex.putNat {s : OutStream} (h : s.IsHex) (w n : ℕ) : ((s.setw w).putNat n).IsHex :=
  ⟨h.base, h.fill, rfl⟩

/-- Without a width a character is printed alone. -/
theorem text_putChar {s : OutStream} (h : s.IsHex) (c : Char) :
    (s.putChar c).text = s.text ++ [c] := by
  simp [putChar, put, h.width, List.leftpad]

theorem IsHex.putChar {s : OutStream} (h : s.IsHex) (c : Char) : (s.putChar c).IsHex :=
  ⟨h.base, h.fill, rfl⟩

/-- A loop each of whose rounds prints something prints it all, in order. -/
theorem text_foldl {α : Type*} {body : OutStream → α → OutStream} {printed : α → Str}
    (hbody : ∀ s a, s.IsHex → (body s a).IsHex ∧ (body s a).text = s.text ++ printed a)
    {s : OutStream} (h : s.IsHex) (l : List α) :
    (l.foldl body s).text = s.text ++ l.flatMap printed := by
  induction l generalizing s with
  | nil => simp
  | cons a l ih =>
      obtain ⟨hnext, htext⟩ := hbody s a h
      rw [List.foldl_cons, ih hnext, htext, List.flatMap_cons, List.append_assoc]

end OutStream

/-- Separators after the items, or before the next ones. -/
theorem flatMap_zipIdx_separators {α β : Type*} (separator : ℕ → List β) (item : α → List β)
    (l : List α) (n : ℕ) :
    separator n ++ (l.zipIdx n).flatMap (fun p => item p.1 ++ separator (p.2 + 1)) =
      (l.zipIdx n).flatMap (fun p => separator p.2 ++ item p.1) ++ separator (n + l.length) := by
  induction l generalizing n with
  | nil => simp
  | cons a l ih =>
      have hlength : n + 1 + l.length = n + (a :: l).length := by
        rw [List.length_cons]
        omega
      have htail := ih (n + 1)
      rw [hlength] at htail
      simp only [List.zipIdx_cons, List.flatMap_cons, List.append_assoc, ← htail]

end Protogate.Lib
