import Protogate.Lib.Bytes
import Mathlib.Data.List.Infix

/-!
# Exact codecs

A codec is exact if its decoder accepts a buffer, with value `a`, precisely when
the buffer begins with the encoding of `a`.  An exact decoder can be run over a
stream: it takes the encodings off one by one and finds no others.

## Main definitions

* `Codec` — an encoder and a decoder, with exactness as a field.
* `Codec.decode_eq_error` — what begins with no encoding is refused.
* `Codec.decodeAll` — decode, skip the size of what was decoded, and go on.
* `Codec.decodeAll_encodeAll` — a stream of encodings is taken apart again.
-/

namespace Protogate.Lib

universe u v

/-- An encoder and a decoder for the valid values, the decoder exact. -/
structure Codec (α : Type u) (ε : Type v) where
  Valid : α → Prop
  encode : α → Bytes
  decode : Bytes → Except ε α
  encode_ne_nil : ∀ a, encode a ≠ []
  decode_eq_ok : ∀ data a, decode data = .ok a ↔ Valid a ∧ encode a <+: data

namespace Codec

variable {α : Type u} {ε : Type v} (c : Codec α ε)

theorem decode_encode_append {a : α} (h : c.Valid a) (rest : Bytes) :
    c.decode (c.encode a ++ rest) = .ok a :=
  (c.decode_eq_ok _ a).mpr ⟨h, List.prefix_append _ rest⟩

/-- What begins with no encoding of a valid value is refused. -/
theorem decode_eq_error {data : Bytes} (h : ∀ a, c.Valid a → ¬ c.encode a <+: data) :
    ∃ e, c.decode data = .error e := by
  cases hdec : c.decode data with
  | error e => exact ⟨e, rfl⟩
  | ok a =>
      obtain ⟨hvalid, hpre⟩ := (c.decode_eq_ok data a).mp hdec
      exact absurd hpre (h a hvalid)

/-! ## Streams -/

/-- Decode at the front, skip the size of what was decoded, and go on until the
decoder refuses; one unit of fuel for each value. -/
def decodeAll : ℕ → Bytes → List α × Bytes
  | 0, data => ([], data)
  | fuel + 1, data =>
      match c.decode data with
      | .error _ => ([], data)
      | .ok a =>
          let values := decodeAll fuel (data.drop (c.encode a).length)
          (a :: values.1, values.2)

/-- The encodings of several values, one after the other. -/
def encodeAll (values : List α) : Bytes := values.flatMap c.encode

@[simp] theorem encodeAll_nil : c.encodeAll [] = [] := rfl

@[simp] theorem encodeAll_cons (a : α) (values : List α) :
    c.encodeAll (a :: values) = c.encode a ++ c.encodeAll values := rfl

theorem decode_nil_ne_ok (a : α) : c.decode [] ≠ .ok a := by
  intro h
  obtain ⟨-, hpre⟩ := (c.decode_eq_ok [] a).mp h
  exact c.encode_ne_nil a (List.prefix_nil.mp hpre)

/-- A stream of encodings gives the values back and leaves nothing. -/
theorem decodeAll_encodeAll {values : List α} {fuel : ℕ} (hvalid : ∀ a ∈ values, c.Valid a)
    (hfuel : (c.encodeAll values).length ≤ fuel) :
    c.decodeAll fuel (c.encodeAll values) = (values, []) := by
  induction values generalizing fuel with
  | nil =>
      cases fuel with
      | zero => rfl
      | succ fuel =>
          simp only [decodeAll, encodeAll_nil]
          split
          · rfl
          · rename_i a hdec
            exact absurd hdec (c.decode_nil_ne_ok a)
  | cons a values ih =>
      have hpos : 0 < (c.encode a).length := List.length_pos_iff.mpr (c.encode_ne_nil a)
      rw [encodeAll_cons, List.length_append] at hfuel
      cases fuel with
      | zero => omega
      | succ fuel =>
          have hrest : (c.encodeAll values).length ≤ fuel := by omega
          have hrec := ih (fun b hb => hvalid b (List.mem_cons_of_mem a hb)) hrest
          have hdec := c.decode_encode_append (hvalid a List.mem_cons_self) (c.encodeAll values)
          rw [encodeAll_cons]
          simp only [decodeAll, hdec, List.drop_left, hrec]

end Codec

end Protogate.Lib
