import Protogate.Lib.OutStream
import Protogate.Proxy.TcpProtocol
import Protogate.TunnelAgent.TcpForwarder

/-!
# The text of a connection id

Server and agent each print the 16 bytes of an id to a stream.  The server puts a hyphen after
bytes 3, 5, 7 and 9, the agent one before bytes 4, 6, 8 and 10.  The server's TCP connections are
kept under this text.

## Main definitions

* `serverByte`, `printConnectionId` — the loop of the server.
* `agentByte`, `TcpForwarder.connectionIdToString` — the loop of the agent.
* `printConnectionId_eq`, `agent_connectionIdToString_eq` — both print the same text.
* `connectionIdToString_hyphen_iff` — where its hyphens are.
* `connectionId_text_codec` — the text and the ids.
-/

namespace Protogate.TunnelAgent

open Protogate.Lib Protogate.Wire Protogate.Proxy

/-! ## The loops -/

/-- The stream of both loops at their beginning. -/
def idStream : OutStream := OutStream.empty.hex.setfill '0'

def serverByte (oss : OutStream) (p : UInt8 × ℕ) : OutStream :=
  let oss := (oss.setw 2).putNat p.1.toNat
  if p.2 = 3 ∨ p.2 = 5 ∨ p.2 = 7 ∨ p.2 = 9 then oss.putChar '-' else oss

/-- `connection_id_to_string` of the server. -/
def printConnectionId (id : ConnectionId) : Str := (id.toList.zipIdx.foldl serverByte idStream).text

def agentByte (oss : OutStream) (p : UInt8 × ℕ) : OutStream :=
  let oss := if p.2 = 4 ∨ p.2 = 6 ∨ p.2 = 8 ∨ p.2 = 10 then oss.putChar '-' else oss
  (oss.setw 2).putNat p.1.toNat

/-- `TCPForwarder::connection_id_to_string`. -/
def TcpForwarder.connectionIdToString (id : ConnectionId) : Str :=
  (id.toList.zipIdx.foldl agentByte idStream).text

theorem isHex_idStream : idStream.IsHex := OutStream.isHex_empty

/-! ## What they print -/

/-- The hyphen in front of byte `i`. -/
def hyphen (i : ℕ) : Str := if i = 4 ∨ i = 6 ∨ i = 8 ∨ i = 10 then ['-'] else []

theorem toNat_lt_sixteen_pow (b : UInt8) : b.toNat < 16 ^ 2 := b.toNat_lt

theorem serverByte_spec (oss : OutStream) (p : UInt8 × ℕ) (h : oss.IsHex) :
    (serverByte oss p).IsHex ∧
      (serverByte oss p).text = oss.text ++ (hexFixed 2 p.1.toNat ++ hyphen (p.2 + 1)) := by
  have hhex := h.putNat 2 p.1.toNat
  have htext := OutStream.text_putNat_hex h (by omega) (toNat_lt_sixteen_pow p.1)
  simp only [serverByte, hyphen, Nat.reduceEqDiff]
  split
  · refine ⟨hhex.putChar '-', ?_⟩
    rw [OutStream.text_putChar hhex, htext, List.append_assoc]
  · refine ⟨hhex, ?_⟩
    rw [htext, List.append_nil]

theorem agentByte_spec (oss : OutStream) (p : UInt8 × ℕ) (h : oss.IsHex) :
    (agentByte oss p).IsHex ∧
      (agentByte oss p).text = oss.text ++ (hyphen p.2 ++ hexFixed 2 p.1.toNat) := by
  simp only [agentByte, hyphen]
  split
  · have hhyphen := h.putChar '-'
    refine ⟨hhyphen.putNat 2 p.1.toNat, ?_⟩
    rw [OutStream.text_putNat_hex hhyphen (by omega) (toNat_lt_sixteen_pow p.1),
      OutStream.text_putChar h, List.append_assoc]
  · refine ⟨h.putNat 2 p.1.toNat, ?_⟩
    rw [OutStream.text_putNat_hex h (by omega) (toNat_lt_sixteen_pow p.1), List.nil_append]

/-- The server prints the text that is the key of a connection. -/
theorem printConnectionId_eq (id : ConnectionId) : printConnectionId id = connectionIdToString id := by
  rw [printConnectionId, OutStream.text_foldl serverByte_spec isHex_idStream]
  simp only [connectionIdToString, hyphen, Nat.reduceEqDiff]
  rfl

/-- **The agent** prints the same. -/
theorem agent_connectionIdToString_eq (id : ConnectionId) :
    TcpForwarder.connectionIdToString id = printConnectionId id := by
  have hshift := flatMap_zipIdx_separators hyphen (fun b : UInt8 => hexFixed 2 b.toNat) id.toList 0
  have hlast : hyphen (0 + id.toList.length) = [] := by
    rw [Vector.length_toList]
    rfl
  rw [hlast, List.append_nil] at hshift
  rw [TcpForwarder.connectionIdToString, printConnectionId,
    OutStream.text_foldl agentByte_spec isHex_idStream,
    OutStream.text_foldl serverByte_spec isHex_idStream, ← hshift]
  rfl

/-! ## Its form -/

/-- The digits of some bytes. -/
def digits (bytes : Bytes) : Str := bytes.flatMap fun b => hexFixed 2 b.toNat

theorem length_digits (bytes : Bytes) : (digits bytes).length = 2 * bytes.length := by
  rw [digits, List.length_flatMap]
  simp [Nat.mul_comm]

theorem hyphen_not_mem_digits (bytes : Bytes) : '-' ∉ digits bytes := by
  intro hmem
  obtain ⟨b, _, hb⟩ := List.mem_flatMap.mp hmem
  exact absurd (mem_hexFixed 2 b.toNat '-' hb) (by decide)

/-- Four bytes, three times two, and six. -/
theorem connectionIdToString_groups (id : ConnectionId) :
    ∃ a b c d e : Bytes, connectionIdToString id =
        digits a ++ '-' :: (digits b ++ '-' :: (digits c ++ '-' :: (digits d ++ '-' :: digits e))) ∧
      a.length = 4 ∧ b.length = 2 ∧ c.length = 2 ∧ d.length = 2 ∧ e.length = 6 := by
  obtain ⟨⟨bytes⟩, hlength⟩ := id
  match bytes, hlength with
  | [b0, b1, b2, b3, b4, b5, b6, b7, b8, b9, b10, b11, b12, b13, b14, b15], _ =>
      exact ⟨[b0, b1, b2, b3], [b4, b5], [b6, b7], [b8, b9], [b10, b11, b12, b13, b14, b15], rfl, rfl,
        rfl, rfl, rfl, rfl⟩

/-- The first hyphen, and those after it. -/
theorem hyphen_append_iff {front rest : Str} (h : '-' ∉ front) (i : ℕ) :
    (front ++ '-' :: rest)[i]? = some '-' ↔
      i = front.length ∨ front.length < i ∧ rest[i - (front.length + 1)]? = some '-' := by
  obtain hlt | rfl | hgt := Nat.lt_trichotomy i front.length
  · rw [List.getElem?_append_left hlt]
    refine iff_of_false (fun hi => h (List.mem_of_getElem? hi)) ?_
    omega
  · simp
  · have hsplit : i - front.length = i - (front.length + 1) + 1 := by omega
    rw [List.getElem?_append_right (Nat.le_of_lt hgt), hsplit, List.getElem?_cons_succ]
    constructor
    · intro hi
      exact .inr ⟨hgt, hi⟩
    · rintro (hi | hi)
      · omega
      · exact hi.2

theorem connectionIdToString_length (id : ConnectionId) : (connectionIdToString id).length = 36 := by
  obtain ⟨a, b, c, d, e, heq, ha, hb, hc, hd, he⟩ := connectionIdToString_groups id
  simp [heq, length_digits, ha, hb, hc, hd, he]

/-- **The hyphens** are the four of a UUID. -/
theorem connectionIdToString_hyphen_iff (id : ConnectionId) (i : ℕ) :
    (connectionIdToString id)[i]? = some '-' ↔ i = 8 ∨ i = 13 ∨ i = 18 ∨ i = 23 := by
  obtain ⟨a, b, c, d, e, heq, ha, hb, hc, hd, -⟩ := connectionIdToString_groups id
  have hlast : ∀ j, (digits e)[j]? ≠ some '-' :=
    fun j hj => hyphen_not_mem_digits e (List.mem_of_getElem? hj)
  simp only [heq, hyphen_append_iff (hyphen_not_mem_digits _), length_digits, ha, hb, hc, hd, hlast,
    Nat.reduceMul, Nat.reduceAdd, Nat.sub_sub, and_false, or_false]
  omega

/-! ## Text and id -/

/-- A text with too few or too many digits is refused. -/
theorem stringToConnectionId_eq_none {str : Str} (h : (str.filter (· ≠ '-')).length ≠ 32) :
    stringToConnectionId str = none := by
  rw [stringToConnectionId]
  exact if_pos h

/-- **The text of ids.**  It is read back as the id, no two ids have the same text, it has 36
characters with hyphens at 8, 13, 18 and 23, server and agent print the same, and a text that
does not have 32 characters besides the hyphens is refused. -/
theorem connectionId_text_codec :
    (∀ id, stringToConnectionId (printConnectionId id) = some id) ∧
    Function.Injective printConnectionId ∧
    (∀ id, (printConnectionId id).length = 36 ∧
      ∀ i, (printConnectionId id)[i]? = some '-' ↔ i = 8 ∨ i = 13 ∨ i = 18 ∨ i = 23) ∧
    (∀ id, TcpForwarder.connectionIdToString id = printConnectionId id) ∧
    ∀ str : Str, (str.filter (· ≠ '-')).length ≠ 32 → stringToConnectionId str = none := by
  have hread : ∀ id, stringToConnectionId (printConnectionId id) = some id := by
    intro id
    rw [printConnectionId_eq, stringToConnectionId_connectionIdToString]
  refine ⟨hread, ?_, ?_, agent_connectionIdToString_eq, fun str => stringToConnectionId_eq_none⟩
  · intro id id' htext
    have hsame := congrArg stringToConnectionId htext
    rw [hread, hread] at hsame
    exact Option.some.inj hsame
  · intro id
    rw [printConnectionId_eq]
    exact ⟨connectionIdToString_length id, connectionIdToString_hyphen_iff id⟩

end Protogate.TunnelAgent
