import Protogate.Lib.Text
import Protogate.Wire.Frames

/-!
# Connection ids as text

The server keys its TCP connections by the text of a 16-byte id and parses the
text back when it builds a frame.

## Main definitions

* `connectionIdToString`, `stringToConnectionId`.
* `stoi16` — `std::stoi(s, nullptr, 16)`.
* `stringToConnectionId_connectionIdToString` — the text determines the id.
-/

namespace Protogate.Proxy

open Protogate.Lib Protogate.Wire

/-- The id in hexadecimal, with hyphens after bytes 3, 5, 7 and 9. -/
def connectionIdToString (id : ConnectionId) : Str :=
  id.toList.zipIdx.flatMap fun (b, i) =>
    hexFixed 2 b.toNat ++ if i = 3 ∨ i = 5 ∨ i = 7 ∨ i = 9 then ['-'] else []

/-! ## Parsing -/

/-- The value of a hexadecimal digit. -/
def hexValue (c : Char) : Option ℕ :=
  if '0' ≤ c ∧ c ≤ '9' then some (c.toNat - '0'.toNat)
  else if 'a' ≤ c ∧ c ≤ 'f' then some (c.toNat - 'a'.toNat + 10)
  else if 'A' ≤ c ∧ c ≤ 'F' then some (c.toNat - 'A'.toNat + 10)
  else none

/-- A sign, if there is one, and the rest. -/
def readSign : Str → Bool × Str
  | '-' :: s => (true, s)
  | '+' :: s => (false, s)
  | s => (false, s)

/-- Drop `0x` or `0X` before a hexadecimal digit. -/
def skipHexPrefix : Str → Str
  | '0' :: x :: d :: s =>
      if (x = 'x' ∨ x = 'X') ∧ (hexValue d).isSome then d :: s else '0' :: x :: d :: s
  | s => s

/-- `std::stoi(s, nullptr, 16)`: white space, a sign, a prefix, then as many digits
as there are; `none` where it throws. -/
def stoi16 (s : Str) : Option ℤ :=
  let (negative, s) := readSign (s.dropWhile isSpace)
  let digits := (skipHexPrefix s).takeWhile fun c => (hexValue c).isSome
  let n := digits.foldl (fun n c => n * 16 + (hexValue c).getD 0) 0
  if digits.isEmpty then none
  else if negative then if n ≤ 2147483648 then some (-n) else none
  else if n ≤ 2147483647 then some n else none

/-- The substrings of two characters from the even positions. -/
def pairs : Str → List Str
  | a :: b :: s => [a, b] :: pairs s
  | _ => []

/-- 16 bytes as an id. -/
def connectionIdOfBytes (bytes : Bytes) : Option ConnectionId :=
  if h : bytes.length = 16 then some ⟨bytes.toArray, by simpa using h⟩ else none

/-- Remove the hyphens and read 16 pairs of digits; `none` where it throws. -/
def stringToConnectionId (str : Str) : Option ConnectionId :=
  let cleaned := str.filter (· ≠ '-')
  if cleaned.length ≠ 32 then none
  else ((pairs cleaned).mapM stoi16).bind fun values =>
    connectionIdOfBytes (values.map fun n => UInt8.ofNat (n % 256).toNat)

/-! ## Round trip -/

/-- Two digits of a byte are read back as the byte. -/
theorem stoi16_hexFixed (b : UInt8) : stoi16 (hexFixed 2 b.toNat) = some (b.toNat : ℤ) := by
  have hall : ∀ n : Fin 256, stoi16 (hexFixed 2 n.val) = some (n.val : ℤ) := by decide +kernel
  exact hall ⟨b.toNat, b.toNat_lt⟩

/-- Without the hyphens the text is the digits of the bytes. -/
theorem filter_connectionIdToString (id : ConnectionId) :
    (connectionIdToString id).filter (· ≠ '-') = id.toList.flatMap fun b => hexFixed 2 b.toNat := by
  have hhex : ∀ n, (hexFixed 2 n).filter (· ≠ '-') = hexFixed 2 n := by
    intro n
    rw [List.filter_eq_self]
    intro c hc
    have hne : c ≠ '-' := by
      intro heq
      have hmem := mem_hexFixed 2 n c hc
      rw [heq] at hmem
      exact absurd hmem (by decide)
    simpa using hne
  have hbyte : ∀ p : UInt8 × ℕ, (hexFixed 2 p.1.toNat ++
      if p.2 = 3 ∨ p.2 = 5 ∨ p.2 = 7 ∨ p.2 = 9 then ['-'] else []).filter (· ≠ '-') =
        hexFixed 2 p.1.toNat := by
    intro p
    rw [List.filter_append, hhex]
    split <;> simp
  rw [connectionIdToString, List.filter_flatMap]
  simp only [hbyte]
  rw [← List.flatMap_map Prod.fst (fun b : UInt8 => hexFixed 2 b.toNat), List.zipIdx_map_fst]

theorem pairs_flatMap (l : Bytes) :
    pairs (l.flatMap fun b => hexFixed 2 b.toNat) = l.map fun b => hexFixed 2 b.toNat := by
  induction l with
  | nil => rfl
  | cons b l ih =>
      have hpair : ∃ x y, hexFixed 2 b.toNat = [x, y] := ⟨_, _, rfl⟩
      obtain ⟨x, y, hxy⟩ := hpair
      simp only [List.flatMap_cons, List.map_cons, hxy, List.cons_append, List.nil_append, pairs, ih]

theorem mapM_stoi16 (l : Bytes) :
    (l.map fun b => hexFixed 2 b.toNat).mapM stoi16 = some (l.map fun b => (b.toNat : ℤ)) := by
  induction l with
  | nil => rfl
  | cons b l ih => simp [List.mapM_cons, stoi16_hexFixed, ih]

@[simp] theorem connectionIdOfBytes_toList (id : ConnectionId) :
    connectionIdOfBytes id.toList = some id := by
  have hlen : id.toList.length = 16 := by simp
  rw [connectionIdOfBytes, dif_pos hlen]
  rfl

/-- A frame with a whole header has an id. -/
theorem connectionIdOfBytes_of_length {frame : Bytes} (h : 17 ≤ frame.length) :
    ∃ id, connectionIdOfBytes ((frame.drop 1).take 16) = some id := by
  have hlen : ((frame.drop 1).take 16).length = 16 := by
    rw [List.length_take, List.length_drop]
    omega
  exact ⟨_, by rw [connectionIdOfBytes, dif_pos hlen]⟩

/-- **The text of a connection id determines it.** -/
theorem stringToConnectionId_connectionIdToString (id : ConnectionId) :
    stringToConnectionId (connectionIdToString id) = some id := by
  have hlen : (id.toList.flatMap fun b => hexFixed 2 b.toNat).length = 32 := by
    simp [List.length_flatMap]
  have hbytes : (id.toList.map fun b => (b.toNat : ℤ)).map
      (fun n => UInt8.ofNat (n % 256).toNat) = id.toList := by
    rw [List.map_map]
    refine List.map_id'' (fun b => ?_) id.toList
    have hlt := b.toNat_lt
    have hmod : ((b.toNat : ℤ) % 256).toNat = b.toNat := by omega
    simp only [Function.comp_apply, hmod, UInt8.ofNat_toNat]
  rw [stringToConnectionId, filter_connectionIdToString]
  simp only [hlen, ne_eq, not_true_eq_false, if_false, pairs_flatMap, mapM_stoi16,
    Option.bind_some, hbytes, connectionIdOfBytes_toList]

theorem connectionIdToString_ne_nil (uuid : ConnectionId) : connectionIdToString uuid ≠ [] := by
  intro hnil
  have hparse := stringToConnectionId_connectionIdToString uuid
  rw [hnil] at hparse
  cases hparse

end Protogate.Proxy
