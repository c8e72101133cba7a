import Protogate.Lib.Text

/-!
# Texts that can be printed

A JSON library throws when it prints a text that is not encoded in UTF-8.  So a log call whose
fields come from outside may end in an exception.

## Main definitions

* `isAscii` — all characters are below 128.
* `Printer` — which texts are printed.
* `Printer.logs` — whether a log call with given texts returns.
* `asciiPrinter` — the printer of ASCII texts only.
-/

namespace Protogate.Lib

/-- All characters are below 128. -/
def isAscii (s : Str) : Bool := s.all (·.toNat < 128)

theorem isAscii_decimal (n : ℕ) : isAscii (decimal n) = true := by
  rw [isAscii, List.all_eq_true]
  intro c hc
  have hdigit := (isNumeral_decimal n).2 c hc
  simp only [Char.isDigit, Bool.and_eq_true, decide_eq_true_eq, UInt32.le_iff_toNat_le] at hdigit
  have hle : c.toNat ≤ 57 := hdigit.2
  simpa using (by omega : c.toNat < 128)

theorem isAscii_append (s t : Str) : isAscii (s ++ t) = (isAscii s && isAscii t) := List.all_append

theorem isAscii_append_of_isAscii (s t : Str) (h : isAscii t = true) :
    isAscii (s ++ t) = isAscii s := by
  rw [isAscii_append, h, Bool.and_true]

/-- Which texts a library prints: those of ASCII characters, and what it prints with ASCII
characters behind it. -/
structure Printer where
  prints : Str → Bool
  prints_of_isAscii : ∀ s, isAscii s = true → prints s = true
  prints_append : ∀ s t, isAscii t = true → prints (s ++ t) = prints s

/-- A log call with these texts returns; else it throws. -/
def Printer.logs (p : Printer) (texts : List Str) : Bool := texts.all p.prints

/-- Nothing throws where everything is printed. -/
theorem Printer.logs_of_prints {p : Printer} (h : ∀ s, p.prints s = true) (texts : List Str) :
    p.logs texts = true :=
  List.all_eq_true.mpr fun s _ => h s

/-- The printer of ASCII texts only. -/
def asciiPrinter : Printer := ⟨isAscii, fun _ => id, isAscii_append_of_isAscii⟩

end Protogate.Lib
