import Protogate.Lib.Bytes

/-!
# Host and network byte order

`htonl` and its relatives are the identity on a big-endian host and reverse the
bytes of a number on a little-endian one.  A value converted twice, or written
and read by two conversions that do not match, comes back only where the
reversal leaves it alone.

## Main definitions

* `ByteOrder` — the order of the host.
* `byteSwap w n` — the `w` bytes of `n` in reverse order.
* `toNetwork order w n` — host to network order, and back.
* `toNetwork_toNetwork` — the two conversions cancel.
* `toNetwork_eq_iff` — which numbers the conversion leaves alone.
* `memory order w n` — the bytes of `n` as the host stores them.
-/

namespace Protogate.Lib

/-- The order in which the host stores the bytes of a number. -/
inductive ByteOrder
  | little
  | big
  deriving DecidableEq, Repr

/-- The number whose `w` bytes are those of `n` in reverse order. -/
def byteSwap (w n : ℕ) : ℕ := ofBe (be w n).reverse

theorem byteSwap_lt (w n : ℕ) : byteSwap w n < 256 ^ w := by
  have h := ofBe_lt (be w n).reverse
  rwa [List.length_reverse, length_be] at h

theorem be_byteSwap (w n : ℕ) : be w (byteSwap w n) = (be w n).reverse := by
  have h := be_ofBe (be w n).reverse
  rwa [List.length_reverse, length_be] at h

/-- Reversing the bytes twice gives the number back. -/
theorem byteSwap_byteSwap {w n : ℕ} (h : n < 256 ^ w) : byteSwap w (byteSwap w n) = n := by
  rw [byteSwap, be_byteSwap, List.reverse_reverse, ofBe_be_of_lt h]

/-- The conversion between host and network order, the same in both directions. -/
def toNetwork (order : ByteOrder) (w n : ℕ) : ℕ :=
  match order with
  | .big => n
  | .little => byteSwap w n

@[simp] theorem toNetwork_big (w n : ℕ) : toNetwork .big w n = n := rfl

@[simp] theorem toNetwork_little (w n : ℕ) : toNetwork .little w n = byteSwap w n := rfl

theorem toNetwork_lt {order : ByteOrder} {w n : ℕ} (h : n < 256 ^ w) :
    toNetwork order w n < 256 ^ w := by
  cases order with
  | big => exact h
  | little => exact byteSwap_lt w n

theorem toNetwork_toNetwork {order : ByteOrder} {w n : ℕ} (h : n < 256 ^ w) :
    toNetwork order w (toNetwork order w n) = n := by
  cases order with
  | big => rfl
  | little => exact byteSwap_byteSwap h

theorem toNetwork_eq_iff {order : ByteOrder} {w n : ℕ} :
    toNetwork order w n = n ↔ order = .big ∨ byteSwap w n = n := by
  cases order <;> simp

/-- The `w` bytes of `n` in the memory of the host. -/
def memory (order : ByteOrder) (w n : ℕ) : Bytes :=
  match order with
  | .big => be w n
  | .little => (be w n).reverse

/-- A converted number lies in memory in network order. -/
theorem memory_toNetwork (order : ByteOrder) (w n : ℕ) :
    memory order w (toNetwork order w n) = be w n := by
  cases order with
  | big => rfl
  | little => rw [memory, toNetwork_little, be_byteSwap, List.reverse_reverse]

end Protogate.Lib
