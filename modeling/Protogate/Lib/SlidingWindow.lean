import Mathlib.Data.List.Basic

/-!
# Sliding windows

A buffer of limited capacity is appended to at one end and consumed at the other;
a counter grows with what is appended.  The buffer is the part of everything
appended that has not been consumed, and the counter is its length and what has
been consumed together.

## Main definitions

* `Window` — the buffer and the counter.
* `Balanced` — the account of a window, given what was appended and consumed.
* `Balanced.append`, `Balanced.consume` — both operations keep the account.
-/

namespace Protogate.Lib

universe u
variable {α : Type u}

/-- The buffered part, and how much was appended in total. -/
structure Window (α : Type u) where
  buffer : List α
  total : ℕ
  deriving DecidableEq

namespace Window

def empty : Window α := ⟨[], 0⟩

def append (w : Window α) (data : List α) : Window α := ⟨w.buffer ++ data, w.total + data.length⟩

def consume (w : Window α) (n : ℕ) : Window α := ⟨w.buffer.drop n, w.total⟩

@[simp] theorem buffer_append (w : Window α) (data : List α) :
    (w.append data).buffer = w.buffer ++ data := rfl
@[simp] theorem total_append (w : Window α) (data : List α) :
    (w.append data).total = w.total + data.length := rfl
@[simp] theorem buffer_consume (w : Window α) (n : ℕ) : (w.consume n).buffer = w.buffer.drop n := rfl
@[simp] theorem total_consume (w : Window α) (n : ℕ) : (w.consume n).total = w.total := rfl

@[simp] theorem append_nil (w : Window α) : w.append [] = w := by simp [append]
@[simp] theorem consume_zero (w : Window α) : w.consume 0 = w := by simp [consume]

end Window

/-- The buffer is within its capacity and holds what of `log` is not consumed, and the
counter agrees. -/
structure Balanced (capacity : ℕ) (log : List α) (consumed : ℕ) (w : Window α) : Prop where
  fits : w.buffer.length ≤ capacity
  consumed_le : consumed ≤ log.length
  buffer_eq : w.buffer = log.drop consumed
  total_eq : w.total = consumed + w.buffer.length

namespace Balanced
variable {capacity consumed : ℕ} {log : List α} {w : Window α}

theorem empty (capacity : ℕ) : Balanced capacity [] 0 (Window.empty : Window α) :=
  ⟨Nat.zero_le _, Nat.le_refl _, rfl, rfl⟩

/-- Appending within the capacity. -/
theorem append (H : Balanced capacity log consumed w) {data : List α}
    (hfits : w.buffer.length + data.length ≤ capacity) :
    Balanced capacity (log ++ data) consumed (w.append data) where
  fits := by simpa using hfits
  consumed_le := by
    have hle := H.consumed_le
    rw [List.length_append]
    omega
  buffer_eq := by
    rw [Window.buffer_append, H.buffer_eq, List.drop_append_of_le_length H.consumed_le]
  total_eq := by
    have htotal := H.total_eq
    simp only [Window.total_append, Window.buffer_append, List.length_append]
    omega

/-- Consuming what is there. -/
theorem consume (H : Balanced capacity log consumed w) {n : ℕ} (hn : n ≤ w.buffer.length) :
    Balanced capacity log (consumed + n) (w.consume n) where
  fits := by
    have hfits := H.fits
    simp only [Window.buffer_consume, List.length_drop]
    omega
  consumed_le := by
    have hle := H.consumed_le
    rw [H.buffer_eq, List.length_drop] at hn
    omega
  buffer_eq := by rw [Window.buffer_consume, H.buffer_eq, List.drop_drop]
  total_eq := by
    have htotal := H.total_eq
    simp only [Window.total_consume, Window.buffer_consume, List.length_drop]
    omega

end Balanced
end Protogate.Lib
