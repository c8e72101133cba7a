import Protogate.Agent.AgentConnection
import Protogate.Proxy.TcpProxy
import Protogate.TunnelAgent.TcpForwarder

/-!
# Closing a connection at the agent

`TCPProxy::close_connection` passes the text of the connection id to
`send_tcp_close`, which copies the first 16 characters of the text into the frame.
The agent takes these 16 bytes for the id.

## Main definitions

* `closedId` — the id the agent reads from the frame.
* `CloseArrives` — the agent closes the connection with the id, and no other.
* `asciiId` — the one id whose text starts with its own bytes.
* `close_arrives_iff` — the frame closes this connection only.
-/

namespace Protogate.Proxy

open Protogate.Lib Protogate.Wire Protogate.Agent Protogate.TunnelAgent

/-! ## What the proxy sends -/

theorem sent_closeConnection {p : TcpProxy} {id : Str} {ref : ℕ} {c : Connection}
    (hget : p.getConnection id = some (ref, c)) (graceful : Bool) :
    (closeConnection p id graceful true).sent = p.sent ++ [.tcpClose c.tunnelId id] := by
  simp only [closeConnection, hget, if_true]
  split <;> simp

/-! ## What the agent reads -/

/-- The bytes of `closeId` as an id. -/
def closedId (connectionId : Str) : ConnectionId :=
  ⟨(closeId connectionId).toArray, by simp [closeId]⟩

theorem sendTcpClose_eq_bytes {κ : Type} {s : AgentConnection κ} (hstate : s.state = .connected)
    (connectionId : Str) :
    sendTcpClose s connectionId = some (TcpFrame.tcpClose (closedId connectionId) 0).bytes := by
  simp only [sendTcpClose, hstate, ne_eq, not_true_eq_false, if_false]
  rfl

/-- The id whose bytes are the characters `33333333-3333-33`. -/
def asciiId : ConnectionId :=
  #v[0x33, 0x33, 0x33, 0x33, 0x33, 0x33, 0x33, 0x33, 0x2d, 0x33, 0x33, 0x33, 0x33, 0x2d, 0x33, 0x33]

/-- The byte of the first and of the second digit of a byte. -/
def highDigit (b : UInt8) : UInt8 := charByte (Nat.digitChar (b.toNat / 16 % 16))
def lowDigit (b : UInt8) : UInt8 := charByte (Nat.digitChar (b.toNat % 16))

/-- Only the character `3` has its own code start with its digit. -/
theorem eq_of_highDigit {b : UInt8} (h : highDigit b = b) : b = 0x33 := by
  have hall : ∀ n : Fin 256, highDigit (UInt8.ofNat n.val) = UInt8.ofNat n.val →
      UInt8.ofNat n.val = 0x33 := by decide +kernel
  have hb := hall ⟨b.toNat, b.toNat_lt⟩
  simp only [UInt8.ofNat_toNat] at hb
  exact hb h

/-- The first 16 characters of the text of an id. -/
theorem closeId_connectionIdToString {b0 b1 b2 b3 b4 b5 b6 b7 b8 b9 b10 b11 b12 b13 b14 b15 : UInt8}
    {id : ConnectionId}
    (h : id.toList = [b0, b1, b2, b3, b4, b5, b6, b7, b8, b9, b10, b11, b12, b13, b14, b15]) :
    closeId (connectionIdToString id) =
      [highDigit b0, lowDigit b0, highDigit b1, lowDigit b1, highDigit b2, lowDigit b2,
        highDigit b3, lowDigit b3, 0x2d, highDigit b4, lowDigit b4, highDigit b5, lowDigit b5,
        0x2d, highDigit b6, lowDigit b6] := by
  rw [connectionIdToString, h]
  rfl

theorem exists_toList (id : ConnectionId) :
    ∃ b0 b1 b2 b3 b4 b5 b6 b7 b8 b9 b10 b11 b12 b13 b14 b15,
      id.toList = [b0, b1, b2, b3, b4, b5, b6, b7, b8, b9, b10, b11, b12, b13, b14, b15] := by
  have hlen : id.toList.length = 16 := by simp
  generalize id.toList = l at hlen
  match l, hlen with
  | [b0, b1, b2, b3, b4, b5, b6, b7, b8, b9, b10, b11, b12, b13, b14, b15], _ =>
      exact ⟨b0, b1, b2, b3, b4, b5, b6, b7, b8, b9, b10, b11, b12, b13, b14, b15, rfl⟩

/-- The text of an id starts with the bytes of the id only for `asciiId`: each byte is
the code of a digit of an earlier byte, and the first one of its own. -/
theorem closedId_eq_iff (id : ConnectionId) : closedId (connectionIdToString id) = id ↔ id = asciiId := by
  constructor
  · intro h
    obtain ⟨b0, b1, b2, b3, b4, b5, b6, b7, b8, b9, b10, b11, b12, b13, b14, b15, hlist⟩ :=
      exists_toList id
    have hbytes : closeId (connectionIdToString id) = id.toList := by
      have hcongr := congrArg Vector.toList h
      exact hcongr
    rw [closeId_connectionIdToString hlist, hlist] at hbytes
    simp only [List.cons.injEq, and_true] at hbytes
    obtain ⟨h0, rfl, rfl, rfl, rfl, rfl, rfl, rfl, rfl, rfl, rfl, rfl, rfl, rfl, rfl, rfl⟩ := hbytes
    obtain rfl := eq_of_highDigit h0
    have hascii : id.toList = asciiId.toList := by
      rw [hlist]
      decide
    exact Vector.toList_inj.mp hascii
  · rintro rfl
    decide

/-! ## Closing at the agent -/

/-- The TCP_CLOSE frame that `close_connection` has the connected agent connection
write makes the agent close the connection with this id, and no other. -/
def CloseArrives {κ : Type} (p : TcpProxy) (s : AgentConnection κ) (f : TcpForwarder)
    (id : ConnectionId) (graceful : Bool) : Prop :=
  ∃ tunnelId frame,
    (closeConnection p (connectionIdToString id) graceful true).sent =
        p.sent ++ [.tcpClose tunnelId (connectionIdToString id)] ∧
      sendTcpClose s (connectionIdToString id) = some frame ∧
        ∀ v, (handleTcpRead f frame).connections.lookup v =
          if v = id then none else f.connections.lookup v

/-- **Closing reaches the connection exactly when its id is `asciiId`**, whatever other
connections are open at the agent. -/
theorem close_arrives_iff {κ : Type} (p : TcpProxy) (s : AgentConnection κ) (f : TcpForwarder)
    (id : ConnectionId) (graceful : Bool)
    (hproxy : (p.getConnection (connectionIdToString id)).isSome)
    (hstate : s.state = .connected) (hopen : (f.connections.lookup id).isSome) :
    CloseArrives p s f id graceful ↔ id = asciiId := by
  have hclosed : ∀ v, (handleTcpRead f
      (TcpFrame.tcpClose (closedId (connectionIdToString id)) 0).bytes).connections.lookup v =
        if v = closedId (connectionIdToString id) then none else f.connections.lookup v := by
    intro v
    rw [handleTcpRead_close]
    exact lookup_closeConnection f _ v
  rw [← closedId_eq_iff]
  constructor
  · rintro ⟨tunnelId, frame, _, hframe, hall⟩
    rw [sendTcpClose_eq_bytes hstate] at hframe
    obtain rfl := Option.some.inj hframe
    -- the connection itself is closed only if the frame has its id
    have hid := (hclosed id).symm.trans (hall id)
    rw [if_pos rfl] at hid
    by_contra hne
    rw [if_neg (Ne.symm hne)] at hid
    rw [hid] at hopen
    cases hopen
  · intro heq
    obtain ⟨⟨ref, c⟩, hget⟩ := Option.isSome_iff_exists.mp hproxy
    refine ⟨c.tunnelId, _, sent_closeConnection hget graceful, sendTcpClose_eq_bytes hstate _, ?_⟩
    intro v
    rw [hclosed, heq]

/-- A forwarder with one connection. -/
def sampleForwarder (id : ConnectionId) : TcpForwarder := handleTcpOpen ⟨5432, ∅⟩ id 0

/-- A proxy with one connection of `db` under this id. -/
def sampleProxy (id : ConnectionId) : TcpProxy :=
  createConnection (fun _ _ => true) .init { sampleEnv with uuid := id } "db".toList

/-- The close of the connection with the id `33333333-3333-3333-2d33-3333332d3333` arrives. -/
theorem close_arrives_iff_ascii :
    CloseArrives (sampleProxy asciiId) (AgentConnection.started ℕ) (sampleForwarder asciiId) asciiId
      true :=
  (close_arrives_iff _ _ _ _ true (by decide) rfl (by decide)).mpr rfl

/-- The connection of sixteen bytes 0xab stays open at the agent. -/
theorem not_close_arrives_ab :
    ¬ ∀ (p : TcpProxy) (s : AgentConnection ℕ) (f : TcpForwarder) (id : ConnectionId) (graceful : Bool),
      (p.getConnection (connectionIdToString id)).isSome → s.state = .connected →
        (f.connections.lookup id).isSome → CloseArrives p s f id graceful := by
  intro H
  obtain ⟨tunnelId, frame, _, hframe, hall⟩ := H (sampleProxy sampleEnv.uuid)
    (AgentConnection.started ℕ) (sampleForwarder sampleEnv.uuid) sampleEnv.uuid true (by decide) rfl
    (by decide)
  have hopen : ((handleTcpRead (sampleForwarder sampleEnv.uuid) frame).connections.lookup
      sampleEnv.uuid).isSome := by
    rw [sendTcpClose_eq_bytes rfl] at hframe
    rw [← Option.some.inj hframe, handleTcpRead_close]
    decide
  rw [hall, if_pos rfl] at hopen
  cases hopen

end Protogate.Proxy
