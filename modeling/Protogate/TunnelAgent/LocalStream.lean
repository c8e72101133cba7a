import Protogate.Lib.Run
import Protogate.Lib.Writes
import Protogate.TunnelAgent.TcpForwarder

/-!
# The stream to the local service

Until the local socket is connected the payloads of TCP_DATA frames are queued; then each
queued payload, and each one that arrives later, is given to an `async_write` of its own,
and none of them waits for another one to finish.  An `async_write` is a sequence of
`write_some` calls, between which the calls of the others run.

## Main definitions

* `LocalConnection.receive`, `LocalConnection.flush` — a payload, and the end of the connect.
* `LocalStream`, `streamStep` — the connection with the writes under way.
* `ArrivalOrder` — the socket has a prefix of what arrived.
* `NoOvertaking` — no write puts bytes out before an earlier one is done.
* `localStream_arrivalOrder` — then the socket always has a prefix of what arrived.
-/

namespace Protogate.TunnelAgent

open Protogate.Lib Protogate.Wire Protogate.Proxy

/-! ## One connection -/

/-- `handle_tcp_data` on an open connection. -/
def LocalConnection.receive (c : LocalConnection) (data : Bytes) : LocalConnection :=
  if c.connected then { c with written := c.written ++ [data] }
  else { c with pendingData := c.pendingData ++ [data] }

/-- The handler of `async_connect`: every queued payload is written. -/
def LocalConnection.flush (c : LocalConnection) : LocalConnection :=
  { c with connected := true, written := c.written ++ c.pendingData, pendingData := [] }

/-- A TCP_DATA frame reaches its own connection. -/
theorem lookup_handleTcpData (f : TcpForwarder) (id v : ConnectionId) (data : Bytes) :
    (handleTcpData f id data).connections.lookup v =
      if v = id then (f.connections.lookup id).map (·.receive data)
      else f.connections.lookup v := by
  simp only [handleTcpData]
  cases h : f.connections.lookup id with
  | none =>
      by_cases hv : v = id
      · subst hv
        simp [h]
      · simp [hv]
  | some c => simp [Assoc.lookup_insert_ite, LocalConnection.receive]

/-! ## The writes under way -/

/-- A connection, its `async_write`s in the order of their calls with what is on the socket,
and the payloads that have arrived. -/
structure LocalStream where
  connection : LocalConnection
  socket : Writes UInt8
  arrived : Bytes
  deriving DecidableEq

/-- A connection just opened. -/
def LocalStream.opened (targetPort : UInt16) : LocalStream :=
  ⟨⟨false, [], [], targetPort⟩, .empty, []⟩

/-- A payload arrives, the connect completes, or one call of `write_some` takes `n` bytes of
the `i`-th write. -/
inductive StreamEvent
  | data (payload : Bytes)
  | connected
  | wrote (i n : ℕ)
  deriving DecidableEq, Repr

def streamStep (s : LocalStream) : StreamEvent → LocalStream
  | .data payload =>
      { connection := s.connection.receive payload
        socket := if s.connection.connected then s.socket.start payload else s.socket
        arrived := s.arrived ++ payload }
  | .connected =>
      { s with
        connection := s.connection.flush
        socket := s.connection.pendingData.foldl Writes.start s.socket }
  | .wrote i n => { s with socket := s.socket.put i n }

/-- The socket has a prefix of what arrived. -/
def ArrivalOrder (s : LocalStream) : Prop := s.socket.out <+: s.arrived

instance : DecidablePred ArrivalOrder := fun s => inferInstanceAs (Decidable (s.socket.out <+: s.arrived))

/-- A write puts bytes out only when the earlier ones are done. -/
def NoOvertaking (s : LocalStream) : StreamEvent → Prop
  | .wrote i n => s.socket.InOrder i n
  | _ => True

instance (s : LocalStream) : ∀ e, Decidable (NoOvertaking s e)
  | .data _ => inferInstanceAs (Decidable True)
  | .connected => inferInstanceAs (Decidable True)
  | .wrote i n => inferInstanceAs (Decidable (s.socket.InOrder i n))

/-! ## The invariant -/

/-- What is on the socket, in the writes and in the queue is what arrived. -/
structure Accounted (s : LocalStream) : Prop where
  content : s.socket.total ++ s.connection.pendingData.flatten = s.arrived
  queue : s.connection.connected = true → s.connection.pendingData = []

theorem accounted_opened (targetPort : UInt16) : Accounted (.opened targetPort) :=
  ⟨rfl, fun _ => rfl⟩

/-- **Every step** that does not let a write overtake keeps the account. -/
theorem accounted_step (s : LocalStream) (e : StreamEvent) (H : Accounted s)
    (horder : NoOvertaking s e) : Accounted (streamStep s e) := by
  obtain ⟨hcontent, hqueue⟩ := H
  cases e with
  | data payload =>
      by_cases hconnected : s.connection.connected = true
      · have hpending := hqueue hconnected
        simp only [hpending, List.flatten_nil, List.append_nil] at hcontent
        refine ⟨?_, ?_⟩
        · simp [streamStep, LocalConnection.receive, hconnected, hpending, hcontent]
        · simp [streamStep, LocalConnection.receive, hconnected, hpending]
      · refine ⟨?_, ?_⟩
        · simp [streamStep, LocalConnection.receive, hconnected, ← hcontent]
        · simp [streamStep, LocalConnection.receive, hconnected]
  | connected =>
      refine ⟨?_, fun _ => rfl⟩
      simp [streamStep, LocalConnection.flush, Writes.total_foldl_start, hcontent]
  | wrote i n =>
      refine ⟨?_, hqueue⟩
      simp only [streamStep, Writes.total_put _ i n horder]
      exact hcontent

theorem Accounted.arrivalOrder {s : LocalStream} (H : Accounted s) : ArrivalOrder s := by
  rw [ArrivalOrder, ← H.content]
  exact s.socket.out_prefix_total.trans (List.prefix_append _ _)

/-- What arrives is not forgotten. -/
theorem arrived_prefix_run (s : LocalStream) (evs : List StreamEvent) :
    s.arrived <+: (run streamStep s evs).arrived := by
  refine run_invariant (fun s' : LocalStream => s.arrived <+: s'.arrived) ?_ (List.prefix_refl _)
  intro s' e h
  cases e with
  | data payload => exact h.trans (List.prefix_append _ _)
  | connected => exact h
  | wrote i n => exact h

/-- Where all bytes that arrive are distinct, a write that overtakes is seen on the socket. -/
theorem along_of_always {s : LocalStream} {evs : List StreamEvent} (H : Accounted s)
    (hnodup : (run streamStep s evs).arrived.Nodup) (halways : Always streamStep ArrivalOrder s evs) :
    Along streamStep NoOvertaking s evs := by
  induction evs generalizing s with
  | nil => trivial
  | cons e evs ih =>
      have horder : NoOvertaking s e := by
        cases e with
        | data payload => trivial
        | connected => trivial
        | wrote i n =>
            have hnow := (arrived_prefix_run s _).sublist.nodup hnodup
            have hnext : (s.socket.put i n).out <+: s.arrived := halways.2.head
            rw [← H.content] at hnow hnext
            exact s.socket.inOrder_of_prefix i n (List.nodup_append.mp hnow).1 hnext
      exact ⟨horder, ih (accounted_step s e H horder) hnodup halways.2⟩

/-- **Local stream.**  As long as no write puts bytes out before an earlier one is done, the
socket always has a prefix of what arrived.  Where the bytes that arrive are distinct this is
the only way. -/
theorem localStream_arrivalOrder (targetPort : UInt16) (evs : List StreamEvent) :
    (Along streamStep NoOvertaking (.opened targetPort) evs →
      Always streamStep ArrivalOrder (.opened targetPort) evs) ∧
    ((run streamStep (.opened targetPort) evs).arrived.Nodup →
      (Always streamStep ArrivalOrder (.opened targetPort) evs ↔
        Along streamStep NoOvertaking (.opened targetPort) evs)) := by
  have halways : Along streamStep NoOvertaking (.opened targetPort) evs →
      Always streamStep ArrivalOrder (.opened targetPort) evs := by
    intro halong
    have hinv := always_of_invariant Accounted accounted_step (accounted_opened targetPort) halong
    exact hinv.imp fun _ h => h.arrivalOrder
  refine ⟨halways, fun hnodup => ⟨?_, halways⟩⟩
  exact along_of_always (accounted_opened targetPort) hnodup

/-! ## Runs -/

/-- Two payloads before the connect completes and one after it, each written in two parts. -/
theorem localStream_arrivalOrder_inTurn :
    Always streamStep ArrivalOrder (.opened 22)
      [.data [1, 2], .data [3, 4], .connected, .wrote 0 1, .data [5, 6], .wrote 0 1, .wrote 1 1,
        .wrote 1 1, .wrote 2 1, .wrote 2 1] :=
  (localStream_arrivalOrder 22 _).1 (by decide)

/-- The second of two writes starts when the first has put out one of its two bytes. -/
theorem not_localStream_arrivalOrder :
    (run streamStep (.opened 22)
      [.connected, .data [1, 2], .data [3, 4], .wrote 0 1, .wrote 1 2]).socket.out = [1, 3, 4] ∧
    ¬ ∀ targetPort evs, Always streamStep ArrivalOrder (.opened targetPort) evs := by
  refine ⟨by decide, ?_⟩
  intro H
  have halways := always_iff_run.mp
    (H 22 [.connected, .data [1, 2], .data [3, 4], .wrote 0 1, .wrote 1 2]) _ (List.prefix_refl _)
  exact absurd halways (by decide)

end Protogate.TunnelAgent
