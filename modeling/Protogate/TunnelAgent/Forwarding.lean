import Protogate.Lib.Run
import Protogate.Lib.Writes
import Protogate.TunnelAgent.TcpForwarder

/-!
# The forwarder and its handlers

`TCPForwarder` keeps a shared pointer to each open connection in a map.  The handlers of a
resolve and of a connect hold the connection as well, those of a read and of a write only
hold it weakly: a connection lives as long as the map or a resolve or connect under way
refers to it, whatever has become of its entry.

A connection is numbered by the TCP_OPEN that made it, so that an id used again names
another connection.  Resolving, connecting, reading and writing end when the surroundings
say so, in any order.  Calls of the logger are taken to return.

## Main definitions

* `TcpConnection`, `Forwarder` — a connection and the forwarder.
* `Forwarder.Alive` — something refers to the connection.
* `ForwarderEvent`, `forwarderStep` — a call, or the end of what was under way.
* `handleTcpData_cases`, `resolved_cases`, `connectDone_cases`, `readDone_cases`,
  `writeFailed_cases` — what an operation can do.
* `Forwarder.Sound`, `sound_step` — what every step keeps.
* `Forwarder.Represents` — the connections are those of the model of the frames alone.
-/

namespace Protogate.TunnelAgent

open Protogate.Lib Protogate.Wire Protogate.Proxy

/-! ## State -/

/-- What a connection waits for before it can be used: `settled` once the last handler
that holds it has run. -/
inductive Stage
  | resolving
  | connecting
  | settled
  deriving DecidableEq, Repr

/-- `TCPConnection`, with the operations under way on its socket: a read, and the writes,
the first `flushed` of which write queued data.  `received`, `closeSeen` and `started` are
the account of it: the payloads taken, whether a TCP_CLOSE for it came, and the number of
reads and writes begun. -/
structure TcpConnection where
  connectionId : ConnectionId
  targetPort : UInt16
  socketOpen : Bool
  sequenceNumber : UInt32
  connected : Bool
  pendingData : List Bytes
  stage : Stage
  reading : Bool
  writes : Writes UInt8
  flushed : ℕ
  failed : List ℕ
  received : Bytes
  closeSeen : Bool
  started : ℕ

/-- What is seen of the forwarder: the frames it takes or sends, and data put in a queue. -/
inductive Happening
  | opened (connectionId : ConnectionId)
  | queued (connectionId : ConnectionId) (data : Bytes)
  | sentData (connectionId : ConnectionId) (data : Bytes) (sequenceNumber : UInt32)
  | sentClose (connectionId : ConnectionId) (reasonCode : UInt16)
  deriving DecidableEq, Repr

/-- `TCPForwarder`: the entries of `connections_` name connections by their numbers.  The
history has the latest happening first. -/
structure Forwarder where
  targetPort : UInt16
  sendCallback : Bool
  connections : Assoc ConnectionId ℕ
  objects : List TcpConnection
  history : List Happening

/-- A forwarder just made. -/
def Forwarder.initial (targetPort : UInt16) : Forwarder := ⟨targetPort, false, ∅, [], []⟩

namespace TcpConnection

/-- A connection just made. -/
def new (connectionId : ConnectionId) (targetPort : UInt16) : TcpConnection where
  connectionId := connectionId
  targetPort := targetPort
  socketOpen := false
  sequenceNumber := 0
  connected := false
  pendingData := []
  stage := .resolving
  reading := false
  writes := .empty
  flushed := 0
  failed := []
  received := []
  closeSeen := false
  started := 0

def enqueue (c : TcpConnection) (data : Bytes) : TcpConnection :=
  { c with
    pendingData := c.pendingData ++ [data]
    received := c.received ++ data }

def write (c : TcpConnection) (data : Bytes) : TcpConnection :=
  { c with
    writes := c.writes.start data
    received := c.received ++ data
    started := c.started + 1 }

/-- `start_local_read` begins a read if the socket is open. -/
def startLocalRead (c : TcpConnection) : TcpConnection :=
  if c.socketOpen then { c with reading := true, started := c.started + 1 } else c

/-- Each queued payload is given to a write of its own. -/
def flush (c : TcpConnection) : TcpConnection :=
  { c with
    connected := true
    writes := c.pendingData.foldl Writes.start c.writes
    flushed := c.pendingData.length
    started := c.started + c.pendingData.length
    pendingData := [] }

end TcpConnection

namespace Forwarder

def update (f : Forwarder) (k : ℕ) (g : TcpConnection → TcpConnection) : Forwarder :=
  { f with objects := f.objects.modify k g }

def record (f : Forwarder) (h : Happening) : Forwarder := { f with history := h :: f.history }

/-- The map, or a handler of a resolve or connect, refers to the `k`-th connection `c`. -/
def Alive (f : Forwarder) (k : ℕ) (c : TcpConnection) : Prop :=
  c.stage ≠ .settled ∨ f.connections.lookup c.connectionId = some k

instance (f : Forwarder) (k : ℕ) (c : TcpConnection) : Decidable (f.Alive k c) :=
  inferInstanceAs (Decidable (_ ∨ _))

/-! ## Operations -/

/-- `send_tcp_data_frame`: without a callback there is only a line in the log. -/
def sendTcpDataFrame (f : Forwarder) (id : ConnectionId) (data : Bytes) (seq : UInt32) : Forwarder :=
  if f.sendCallback then f.record (.sentData id data seq) else f

def sendTcpCloseFrame (f : Forwarder) (id : ConnectionId) (reasonCode : UInt16) : Forwarder :=
  if f.sendCallback then f.record (.sentClose id reasonCode) else f

/-- `close_connection`: the socket is shut down and closed if it is open. -/
def closeConnection (f : Forwarder) (id : ConnectionId) : Forwarder :=
  match f.connections.lookup id with
  | none => f
  | some k =>
      { f.update k fun c => { c with socketOpen := false } with
        connections := f.connections.erase id }

/-- The connection is in the map before it is resolved. -/
def handleTcpOpen (f : Forwarder) (id : ConnectionId) (targetPort : UInt16) : Forwarder :=
  let port := if 0 < targetPort then targetPort else f.targetPort
  { f with
    objects := f.objects ++ [.new id port]
    connections := f.connections.insert id f.objects.length
    history := .opened id :: f.history }

def handleTcpData (f : Forwarder) (id : ConnectionId) (data : Bytes) : Forwarder :=
  match f.connections.lookup id with
  | none => f
  | some k =>
      match f.objects[k]? with
      | none => f
      | some c =>
          if c.connected then f.update k (·.write data)
          else (f.update k (·.enqueue data)).record (.queued id data)

/-- The account notes the close on every connection the id was used for. -/
def markClosed (f : Forwarder) (id : ConnectionId) : Forwarder :=
  { f with
    objects := f.objects.map fun c => if c.connectionId = id then { c with closeSeen := true } else c }

def handleTcpClose (f : Forwarder) (id : ConnectionId) : Forwarder :=
  (f.closeConnection id).markClosed id

/-- The code and the message are only logged. -/
def handleTcpError (f : Forwarder) (id : ConnectionId) : Forwarder := f.closeConnection id

def call (f : Forwarder) : ForwarderCall → Forwarder
  | .tcpOpen id port => f.handleTcpOpen id port
  | .tcpData id data => f.handleTcpData id data
  | .tcpClose id => f.handleTcpClose id
  | .tcpError id _ _ => f.handleTcpError id

/-! ## Handlers -/

/-- The handler of `async_resolve`: an error, or endpoints, the first of which opens the
socket or does not. -/
def resolved (f : Forwarder) (k : ℕ) (endpoints : Option Bool) : Forwarder :=
  match f.objects[k]? with
  | none => f
  | some c =>
      if c.stage = .resolving then
        match endpoints with
        | none =>
            (f.update k fun c => { c with stage := .settled }).sendTcpCloseFrame c.connectionId 1
        | some opened => f.update k fun c => { c with stage := .connecting, socketOpen := opened }
      else f

/-- `async_connect` goes on to another endpoint, unless the socket was closed. -/
def nextEndpoint (f : Forwarder) (k : ℕ) (opened : Bool) : Forwarder :=
  match f.objects[k]? with
  | none => f
  | some c =>
      if c.stage = .connecting ∧ c.socketOpen then
        f.update k fun c => { c with socketOpen := opened }
      else f

/-- The handler of `async_connect`: the connection is used even if its entry is gone. -/
def connectDone (f : Forwarder) (k : ℕ) (ok : Bool) : Forwarder :=
  match f.objects[k]? with
  | none => f
  | some c =>
      if c.stage = .connecting then
        -- a socket closed meanwhile ends the connect with an error
        if ok ∧ c.socketOpen then
          f.update k fun c => { c with stage := .settled }.flush.startLocalRead
        else (f.update k fun c => { c with stage := .settled }).sendTcpCloseFrame c.connectionId 1
      else f

/-- The handler of `async_read_some`: an error, the end of the stream, or data. -/
def readDone (f : Forwarder) (k : ℕ) (result : Option Bytes) : Forwarder :=
  match f.objects[k]? with
  | none => f
  | some c =>
      if c.reading ∧ f.Alive k c then
        match result with
        | none =>
            ((f.update k fun c => { c with reading := false }).sendTcpCloseFrame c.connectionId
              0).closeConnection c.connectionId
        | some data =>
            ((f.update k fun c =>
              { c with reading := false, sequenceNumber := c.sequenceNumber + 1 }).sendTcpDataFrame
              c.connectionId data c.sequenceNumber).update k (·.startLocalRead)
      else f

/-- One call of `write_some` takes `n` bytes of the `i`-th write. -/
def wrote (f : Forwarder) (k i n : ℕ) : Forwarder :=
  match f.objects[k]? with
  | none => f
  | some c =>
      if f.Alive k c ∧ c.socketOpen ∧ i ∉ c.failed then
        f.update k fun c => { c with writes := c.writes.put i n }
      else f

/-- The handler of an `async_write` that ended with an error: queued data that could not be
written is only logged. -/
def writeFailed (f : Forwarder) (k i : ℕ) : Forwarder :=
  match f.objects[k]? with
  | none => f
  | some c =>
      if f.Alive k c ∧ i ∉ c.failed ∧ c.writes.remaining.getD i [] ≠ [] then
        let f := f.update k fun c => { c with failed := i :: c.failed }
        if i < c.flushed then f else f.closeConnection c.connectionId
      else f

end Forwarder

/-! ## Steps -/

/-- A call of the forwarder, or the end of something that was under way on the `k`-th
connection, as the surroundings decide it. -/
inductive ForwarderEvent
  | setSendCallback (callback : Bool)
  | call (c : ForwarderCall)
  | resolved (k : ℕ) (endpoints : Option Bool)
  | nextEndpoint (k : ℕ) (opened : Bool)
  | connectDone (k : ℕ) (ok : Bool)
  | readDone (k : ℕ) (result : Option Bytes)
  | wrote (k i n : ℕ)
  | writeFailed (k i : ℕ)
  deriving DecidableEq

def forwarderStep (f : Forwarder) : ForwarderEvent → Forwarder
  | .setSendCallback callback => { f with sendCallback := callback }
  | .call c => f.call c
  | .resolved k endpoints => f.resolved k endpoints
  | .nextEndpoint k opened => f.nextEndpoint k opened
  | .connectDone k ok => f.connectDone k ok
  | .readDone k result => f.readDone k result
  | .wrote k i n => f.wrote k i n
  | .writeFailed k i => f.writeFailed k i

/-! ## What an operation can do -/

namespace Forwarder
variable (f : Forwarder)

/-- Data changes the connection of an entry, or nothing. -/
theorem handleTcpData_cases (id : ConnectionId) (data : Bytes) :
    f.handleTcpData id data = f ∨ ∃ k, f.connections.lookup id = some k ∧
      (f.handleTcpData id data = f.update k (·.write data) ∨
        f.handleTcpData id data = (f.update k (·.enqueue data)).record (.queued id data)) := by
  rw [handleTcpData]
  split
  · exact .inl rfl
  · rename_i k hentry
    split
    · exact .inl rfl
    · split
      · exact .inr ⟨k, hentry, .inl rfl⟩
      · exact .inr ⟨k, hentry, .inr rfl⟩

theorem nextEndpoint_cases (k : ℕ) (opened : Bool) :
    f.nextEndpoint k opened = f ∨
      f.nextEndpoint k opened = f.update k fun c => { c with socketOpen := opened } := by
  rw [nextEndpoint]
  split
  · exact .inl rfl
  · split
    · exact .inr rfl
    · exact .inl rfl

/-- A resolve fails or the connect begins. -/
theorem resolved_cases (k : ℕ) (endpoints : Option Bool) :
    f.resolved k endpoints = f ∨ ∃ c, f.objects[k]? = some c ∧ c.stage = .resolving ∧
      (f.resolved k endpoints =
          (f.update k fun c => { c with stage := .settled }).sendTcpCloseFrame c.connectionId 1 ∨
        ∃ opened, f.resolved k endpoints =
          f.update k fun c => { c with stage := .connecting, socketOpen := opened }) := by
  rw [resolved]
  split
  · exact .inl rfl
  · rename_i c hobject
    split
    · rename_i hstage
      refine .inr ⟨c, hobject, hstage, ?_⟩
      split
      · exact .inl rfl
      · exact .inr ⟨_, rfl⟩
    · exact .inl rfl

/-- A connect succeeds or fails. -/
theorem connectDone_cases (k : ℕ) (ok : Bool) :
    f.connectDone k ok = f ∨
      f.connectDone k ok =
        f.update k (fun c => { c with stage := .settled }.flush.startLocalRead) ∨
      ∃ id, f.connectDone k ok =
        (f.update k fun c => { c with stage := .settled }).sendTcpCloseFrame id 1 := by
  rw [connectDone]
  split
  · exact .inl rfl
  · split
    · split
      · exact .inr (.inl rfl)
      · exact .inr (.inr ⟨_, rfl⟩)
    · exact .inl rfl

/-- A read ends on a connection that something refers to. -/
theorem readDone_cases (k : ℕ) (result : Option Bytes) :
    f.readDone k result = f ∨ ∃ c, f.objects[k]? = some c ∧ c.reading = true ∧ f.Alive k c ∧
      (f.readDone k result =
          ((f.update k fun c => { c with reading := false }).sendTcpCloseFrame c.connectionId
            0).closeConnection c.connectionId ∨
        ∃ data, result = some data ∧ f.readDone k result =
          ((f.update k fun c =>
            { c with reading := false, sequenceNumber := c.sequenceNumber + 1 }).sendTcpDataFrame
            c.connectionId data c.sequenceNumber).update k (·.startLocalRead)) := by
  rw [readDone]
  split
  · exact .inl rfl
  · rename_i c hobject
    split
    · rename_i hread
      refine .inr ⟨c, hobject, hread.1, hread.2, ?_⟩
      split
      · exact .inl rfl
      · exact .inr ⟨_, rfl, rfl⟩
    · exact .inl rfl

theorem wrote_cases (k i n : ℕ) :
    f.wrote k i n = f ∨ f.wrote k i n = f.update k fun c => { c with writes := c.writes.put i n } := by
  rw [wrote]
  split
  · exact .inl rfl
  · split
    · exact .inr rfl
    · exact .inl rfl

/-- A write that failed closes the connection or is only noted. -/
theorem writeFailed_cases (k i : ℕ) :
    f.writeFailed k i = f ∨
      f.writeFailed k i = (f.update k fun c => { c with failed := i :: c.failed }) ∨
      ∃ id, f.writeFailed k i =
        (f.update k fun c => { c with failed := i :: c.failed }).closeConnection id := by
  rw [writeFailed]
  split
  · exact .inl rfl
  · split
    · simp only
      split
      · exact .inr (.inl rfl)
      · exact .inr (.inr ⟨_, rfl⟩)
    · exact .inl rfl

end Forwarder

/-! ## The invariant -/

/-- A connection is read only when its handlers have run, and what was received is on the
socket, in the writes or in the queue. -/
structure TcpConnection.Sound (c : TcpConnection) : Prop where
  settled : c.reading = true → c.stage = .settled
  account : (c.writes.total ++ c.pendingData.flatten).Perm c.received

/-- Every entry of the map names a connection of its id that has not been closed. -/
structure Forwarder.Sound (f : Forwarder) : Prop where
  objects : ∀ c ∈ f.objects, c.Sound
  entry : ∀ id k, f.connections.lookup id = some k →
    ∃ c, f.objects[k]? = some c ∧ c.connectionId = id ∧ c.closeSeen = false

namespace TcpConnection

theorem sound_new (id : ConnectionId) (port : UInt16) : (new id port).Sound :=
  ⟨fun h => Bool.noConfusion h, List.Perm.refl _⟩

theorem Sound.enqueue {c : TcpConnection} (H : c.Sound) (data : Bytes) : (c.enqueue data).Sound := by
  refine ⟨H.settled, ?_⟩
  simpa [TcpConnection.enqueue] using H.account.append_right data

theorem Sound.write {c : TcpConnection} (H : c.Sound) (data : Bytes) : (c.write data).Sound := by
  refine ⟨H.settled, ?_⟩
  have hmoved : (c.writes.total ++ data ++ c.pendingData.flatten).Perm
      (c.writes.total ++ c.pendingData.flatten ++ data) := by
    rw [List.append_assoc, List.append_assoc]
    exact List.perm_append_comm.append_left _
  simpa [TcpConnection.write] using hmoved.trans (H.account.append_right data)

theorem Sound.startLocalRead {c : TcpConnection} (H : c.Sound) (hstage : c.stage = .settled) :
    c.startLocalRead.Sound := by
  rw [TcpConnection.startLocalRead]
  split
  · exact ⟨fun _ => hstage, H.account⟩
  · exact H

theorem Sound.flush {c : TcpConnection} (H : c.Sound) : c.flush.Sound := by
  refine ⟨H.settled, ?_⟩
  simpa [TcpConnection.flush, Writes.total_foldl_start] using H.account

/-- The last handler lets go of the connection. -/
theorem Sound.settle {c : TcpConnection} (H : c.Sound) : { c with stage := .settled }.Sound :=
  ⟨fun _ => rfl, H.account⟩

theorem Sound.put {c : TcpConnection} (H : c.Sound) (i n : ℕ) :
    { c with writes := c.writes.put i n }.Sound :=
  ⟨H.settled, ((c.writes.perm_put i n).append_right _).trans H.account⟩

end TcpConnection

namespace Forwarder

@[simp] theorem objects_update (f : Forwarder) (k : ℕ) (g : TcpConnection → TcpConnection) (j : ℕ) :
    (f.update k g).objects[j]? = if k = j then f.objects[j]?.map g else f.objects[j]? := by
  rw [update, List.getElem?_modify]
  by_cases h : k = j <;> simp [h]

@[simp] theorem connections_update (f : Forwarder) (k : ℕ) (g : TcpConnection → TcpConnection) :
    (f.update k g).connections = f.connections := rfl

@[simp] theorem objects_sendTcpDataFrame (f : Forwarder) (id : ConnectionId) (data : Bytes)
    (seq : UInt32) : (f.sendTcpDataFrame id data seq).objects = f.objects := by
  rw [sendTcpDataFrame]
  split <;> rfl

@[simp] theorem connections_sendTcpDataFrame (f : Forwarder) (id : ConnectionId) (data : Bytes)
    (seq : UInt32) : (f.sendTcpDataFrame id data seq).connections = f.connections := by
  rw [sendTcpDataFrame]
  split <;> rfl

@[simp] theorem objects_sendTcpCloseFrame (f : Forwarder) (id : ConnectionId) (reason : UInt16) :
    (f.sendTcpCloseFrame id reason).objects = f.objects := by
  rw [sendTcpCloseFrame]
  split <;> rfl

@[simp] theorem connections_sendTcpCloseFrame (f : Forwarder) (id : ConnectionId) (reason : UInt16) :
    (f.sendTcpCloseFrame id reason).connections = f.connections := by
  rw [sendTcpCloseFrame]
  split <;> rfl

theorem lookup_closeConnection (f : Forwarder) (id v : ConnectionId) :
    (f.closeConnection id).connections.lookup v =
      if v = id then none else f.connections.lookup v := by
  rw [closeConnection]
  split
  · rename_i hnone
    by_cases hv : v = id
    · rw [if_pos hv, hv, hnone]
    · rw [if_neg hv]
  · exact Assoc.lookup_erase_ite f.connections id v

theorem history_closeConnection (f : Forwarder) (id : ConnectionId) :
    (f.closeConnection id).history = f.history := by
  rw [closeConnection]
  split <;> rfl

/-! ## One operation -/

theorem sound_initial (targetPort : UInt16) : (initial targetPort).Sound :=
  ⟨by simp [initial], by simp [initial]⟩

/-- Soundness sees the connections and the map only. -/
theorem Sound.of_eq {f f' : Forwarder} (H : f.Sound) (hobjects : f'.objects = f.objects)
    (hconnections : f'.connections = f.connections) : f'.Sound := by
  refine ⟨?_, ?_⟩
  · rw [hobjects]
    exact H.objects
  · rw [hobjects, hconnections]
    exact H.entry

/-- A connection changes, but not what it is for nor whether it was closed. -/
theorem Sound.update {f : Forwarder} (H : f.Sound) (k : ℕ) (g : TcpConnection → TcpConnection)
    (hsound : ∀ c, f.objects[k]? = some c → c.Sound → (g c).Sound)
    (hkeep : ∀ c, (g c).connectionId = c.connectionId ∧ (g c).closeSeen = c.closeSeen) :
    (f.update k g).Sound := by
  refine ⟨?_, ?_⟩
  · intro c hc
    obtain ⟨j, hj⟩ := List.getElem?_of_mem hc
    rw [objects_update] at hj
    split at hj
    · rename_i hk
      obtain ⟨d, hd, rfl⟩ := Option.map_eq_some_iff.mp hj
      exact hsound d (hk ▸ hd) (H.objects d (List.mem_of_getElem? hd))
    · exact H.objects c (List.mem_of_getElem? hj)
  · intro id j hlookup
    obtain ⟨c, hc, hid, hclosed⟩ := H.entry id j hlookup
    by_cases hk : k = j
    · refine ⟨g c, by simp [hk, hc], ?_, ?_⟩
      · rw [(hkeep c).1, hid]
      · rw [(hkeep c).2, hclosed]
    · exact ⟨c, by simp [hk, hc], hid, hclosed⟩

theorem Sound.closeConnection {f : Forwarder} (H : f.Sound) (id : ConnectionId) :
    (f.closeConnection id).Sound := by
  rw [Forwarder.closeConnection]
  split
  · exact H
  · rename_i k _
    have hupdate : (f.update k fun c => { c with socketOpen := false }).Sound :=
      H.update k _ (fun c _ hc => ⟨hc.settled, hc.account⟩) fun _ => ⟨rfl, rfl⟩
    refine ⟨hupdate.objects, ?_⟩
    intro v j hlookup
    exact hupdate.entry v j (Assoc.lookup_of_lookup_erase hlookup).2

theorem Sound.handleTcpOpen {f : Forwarder} (H : f.Sound) (id : ConnectionId) (port : UInt16) :
    (f.handleTcpOpen id port).Sound := by
  refine ⟨?_, ?_⟩
  · intro c hc
    obtain hold | hnew := List.mem_append.mp hc
    · exact H.objects c hold
    · rw [List.mem_singleton.mp hnew]
      exact TcpConnection.sound_new _ _
  · intro v k hlookup
    simp only [Forwarder.handleTcpOpen, Assoc.lookup_insert_ite] at hlookup ⊢
    split at hlookup
    · rename_i hv
      cases hlookup
      exact ⟨.new id _, by simp; rfl, hv.symm, rfl⟩
    · obtain ⟨c, hc, hid, hclosed⟩ := H.entry v k hlookup
      have hk : k < f.objects.length := (List.getElem?_eq_some_iff.mp hc).1
      exact ⟨c, by rw [List.getElem?_append_left hk, hc], hid, hclosed⟩

theorem Sound.handleTcpData {f : Forwarder} (H : f.Sound) (id : ConnectionId) (data : Bytes) :
    (f.handleTcpData id data).Sound := by
  obtain h | ⟨k, _, h | h⟩ := f.handleTcpData_cases id data
  · rwa [h]
  · rw [h]
    exact H.update _ _ (fun c _ hc => hc.write data) fun _ => ⟨rfl, rfl⟩
  · rw [h]
    exact (H.update _ _ (fun c _ hc => hc.enqueue data) fun _ => ⟨rfl, rfl⟩).of_eq rfl rfl

/-- The close leaves no entry for the connections it marks. -/
theorem Sound.handleTcpClose {f : Forwarder} (H : f.Sound) (id : ConnectionId) :
    (f.handleTcpClose id).Sound := by
  have hclosed := H.closeConnection id
  refine ⟨?_, ?_⟩
  · intro c hc
    obtain ⟨d, hd, rfl⟩ := List.mem_map.mp hc
    have hsound := hclosed.objects d hd
    split
    · exact ⟨hsound.settled, hsound.account⟩
    · exact hsound
  · intro v k hlookup
    have hne : v ≠ id := by
      intro hv
      simp [Forwarder.handleTcpClose, markClosed, lookup_closeConnection, hv] at hlookup
    obtain ⟨c, hc, hid, hopen⟩ := hclosed.entry v k hlookup
    refine ⟨c, ?_, hid, hopen⟩
    simp [Forwarder.handleTcpClose, markClosed, hc, hid, hne]

theorem Sound.call {f : Forwarder} (H : f.Sound) (c : ForwarderCall) : (f.call c).Sound := by
  cases c with
  | tcpOpen id port => exact H.handleTcpOpen id port
  | tcpData id data => exact H.handleTcpData id data
  | tcpClose id => exact H.handleTcpClose id
  | tcpError id code message => exact H.closeConnection id

theorem Sound.resolved {f : Forwarder} (H : f.Sound) (k : ℕ) (endpoints : Option Bool) :
    (f.resolved k endpoints).Sound := by
  obtain h | ⟨c, hc, hstage, h | ⟨opened, h⟩⟩ := f.resolved_cases k endpoints
  · rwa [h]
  · rw [h]
    have hupdate := H.update k _ (fun c _ hc => hc.settle) fun _ => ⟨rfl, rfl⟩
    exact hupdate.of_eq (objects_sendTcpCloseFrame _ _ _) (connections_sendTcpCloseFrame _ _ _)
  · rw [h]
    refine H.update k _ (fun d hd hsound => ⟨?_, hsound.account⟩) fun _ => ⟨rfl, rfl⟩
    intro hreading
    rw [hc] at hd
    cases hd
    rw [hsound.settled hreading] at hstage
    cases hstage

theorem Sound.nextEndpoint {f : Forwarder} (H : f.Sound) (k : ℕ) (opened : Bool) :
    (f.nextEndpoint k opened).Sound := by
  obtain h | h := f.nextEndpoint_cases k opened
  · rwa [h]
  · rw [h]
    exact H.update k _ (fun c _ hc => ⟨hc.settled, hc.account⟩) fun _ => ⟨rfl, rfl⟩

theorem keep_startLocalRead (c : TcpConnection) :
    c.startLocalRead.connectionId = c.connectionId ∧ c.startLocalRead.closeSeen = c.closeSeen := by
  rw [TcpConnection.startLocalRead]
  split <;> exact ⟨rfl, rfl⟩

theorem Sound.connectDone {f : Forwarder} (H : f.Sound) (k : ℕ) (ok : Bool) :
    (f.connectDone k ok).Sound := by
  obtain h | h | ⟨id, h⟩ := f.connectDone_cases k ok
  · rwa [h]
  · rw [h]
    refine H.update k _ (fun c _ hc => hc.settle.flush.startLocalRead rfl) fun c => ?_
    exact keep_startLocalRead _
  · rw [h]
    have hupdate := H.update k _ (fun c _ hc => hc.settle) fun _ => ⟨rfl, rfl⟩
    exact hupdate.of_eq (objects_sendTcpCloseFrame _ _ _) (connections_sendTcpCloseFrame _ _ _)

theorem Sound.readDone {f : Forwarder} (H : f.Sound) (k : ℕ) (result : Option Bytes) :
    (f.readDone k result).Sound := by
  obtain h | ⟨c, hc, hreading, -, h | ⟨data, -, h⟩⟩ := f.readDone_cases k result
  · rwa [h]
  · rw [h]
    have hupdate := H.update k (fun c => { c with reading := false })
      (fun c _ hc => ⟨fun h => Bool.noConfusion h, hc.account⟩) fun _ => ⟨rfl, rfl⟩
    exact (hupdate.of_eq (objects_sendTcpCloseFrame _ _ _)
      (connections_sendTcpCloseFrame _ _ _)).closeConnection _
  · rw [h]
    have hstage : c.stage = .settled := (H.objects c (List.mem_of_getElem? hc)).settled hreading
    have hupdate := H.update k
      (fun c => { c with reading := false, sequenceNumber := c.sequenceNumber + 1 })
      (fun c _ hc => ⟨fun h => Bool.noConfusion h, hc.account⟩) fun _ => ⟨rfl, rfl⟩
    refine (hupdate.of_eq (objects_sendTcpDataFrame _ _ _ _)
      (connections_sendTcpDataFrame _ _ _ _)).update k _ ?_ keep_startLocalRead
    intro d hd hsound
    refine hsound.startLocalRead ?_
    simp only [objects_sendTcpDataFrame, objects_update, hc] at hd
    cases hd
    exact hstage

theorem Sound.wrote {f : Forwarder} (H : f.Sound) (k i n : ℕ) : (f.wrote k i n).Sound := by
  obtain h | h := f.wrote_cases k i n
  · rwa [h]
  · rw [h]
    exact H.update k _ (fun c _ hc => hc.put i n) fun _ => ⟨rfl, rfl⟩

theorem Sound.writeFailed {f : Forwarder} (H : f.Sound) (k i : ℕ) : (f.writeFailed k i).Sound := by
  have hupdate := H.update k (fun c => { c with failed := i :: c.failed })
    (fun c _ hc => ⟨hc.settled, hc.account⟩) fun _ => ⟨rfl, rfl⟩
  obtain h | h | ⟨id, h⟩ := f.writeFailed_cases k i
  · rwa [h]
  · rwa [h]
  · rw [h]
    exact hupdate.closeConnection id

end Forwarder

/-- **Every step** keeps the forwarder sound. -/
theorem sound_step (f : Forwarder) (e : ForwarderEvent) (H : f.Sound) : (forwarderStep f e).Sound := by
  cases e with
  | setSendCallback callback => exact H.of_eq rfl rfl
  | call c => exact H.call c
  | resolved k endpoints => exact H.resolved k endpoints
  | nextEndpoint k opened => exact H.nextEndpoint k opened
  | connectDone k ok => exact H.connectDone k ok
  | readDone k result => exact H.readDone k result
  | wrote k i n => exact H.wrote k i n
  | writeFailed k i => exact H.writeFailed k i

/-- A connection that is read and referred to is the one its entry names. -/
theorem Forwarder.Sound.lookup_of_reading {f : Forwarder} (H : f.Sound) {k : ℕ} {c : TcpConnection}
    (hc : f.objects[k]? = some c) (hreading : c.reading = true) (halive : f.Alive k c) :
    f.connections.lookup c.connectionId = some k := by
  obtain hstage | hlookup := halive
  · exact absurd ((H.objects c (List.mem_of_getElem? hc)).settled hreading) hstage
  · exact hlookup

/-! ## What the frames decide -/

/-- Whether it is connected, its queue and its port. -/
def TcpConnection.shown (c : TcpConnection) : Bool × List Bytes × UInt16 :=
  (c.connected, c.pendingData, c.targetPort)

def LocalConnection.shown (c : LocalConnection) : Bool × List Bytes × UInt16 :=
  (c.connected, c.pendingData, c.targetPort)

/-- What the entry of an id names. -/
def Forwarder.shown (f : Forwarder) (id : ConnectionId) : Option (Bool × List Bytes × UInt16) :=
  (f.connections.lookup id).bind fun k => f.objects[k]?.map (·.shown)

/-- The forwarder without its handlers has the same connections. -/
structure Forwarder.Represents (f : Forwarder) (t : TcpForwarder) : Prop where
  targetPort : f.targetPort = t.targetPort
  shown : ∀ id, f.shown id = (t.connections.lookup id).map (·.shown)

namespace Forwarder
variable {f : Forwarder} {t : TcpForwarder}

theorem shown_closeConnection (f : Forwarder) (id v : ConnectionId) :
    (f.closeConnection id).shown v = if v = id then none else f.shown v := by
  rw [shown, lookup_closeConnection]
  split
  · rfl
  · rw [shown, closeConnection]
    split
    · rfl
    · rename_i hne k _
      cases hv : f.connections.lookup v with
      | none => rfl
      | some j =>
          simp only [Option.bind_some, objects_update]
          split <;> cases f.objects[j]? <;> rfl

/-- A change of the connection an entry names is seen under its id only. -/
theorem shown_update (hsound : f.Sound) {id : ConnectionId} {k : ℕ} {c : TcpConnection}
    (hentry : f.connections.lookup id = some k) (hobject : f.objects[k]? = some c)
    (g : TcpConnection → TcpConnection) (v : ConnectionId) :
    (f.update k g).shown v = if v = id then some (g c).shown else f.shown v := by
  rw [shown, connections_update]
  split
  · rename_i hv
    rw [hv]
    simp [hentry, hobject]
  · rename_i hne
    rw [shown]
    cases hv : f.connections.lookup v with
    | none => rfl
    | some j =>
        -- two entries never name one connection
        have hdistinct : k ≠ j := by
          rintro rfl
          obtain ⟨d, hd, hid, -⟩ := hsound.entry id k hentry
          obtain ⟨d', hd', hid', -⟩ := hsound.entry v k hv
          rw [hd] at hd'
          cases hd'
          exact hne (hid'.symm.trans hid)
        simp [hdistinct]

theorem Represents.handleTcpOpen (hsound : f.Sound) (H : f.Represents t) (id : ConnectionId)
    (port : UInt16) : (f.handleTcpOpen id port).Represents (TunnelAgent.handleTcpOpen t id port) := by
  refine ⟨H.targetPort, fun v => ?_⟩
  rw [Forwarder.shown, Forwarder.handleTcpOpen, TunnelAgent.handleTcpOpen, Assoc.lookup_insert_ite,
    Assoc.lookup_insert_ite, H.targetPort]
  split
  · simp [TcpConnection.shown, LocalConnection.shown, TcpConnection.new]
  · rw [← H.shown v, Forwarder.shown]
    cases hv : f.connections.lookup v with
    | none => rfl
    | some k =>
        obtain ⟨c, hc, -, -⟩ := hsound.entry v k hv
        have hk : k < f.objects.length := (List.getElem?_eq_some_iff.mp hc).1
        simp [List.getElem?_append_left hk]

theorem Represents.handleTcpData (hsound : f.Sound) (H : f.Represents t) (id : ConnectionId)
    (data : Bytes) : (f.handleTcpData id data).Represents (TunnelAgent.handleTcpData t id data) := by
  have hid := H.shown id
  rw [Forwarder.handleTcpData, TunnelAgent.handleTcpData]
  cases hentry : f.connections.lookup id with
  | none =>
      rw [Forwarder.shown, hentry, Option.bind_none, eq_comm, Option.map_eq_none_iff] at hid
      simpa only [hid] using H
  | some k =>
      obtain ⟨c, hobject, -, -⟩ := hsound.entry id k hentry
      rw [Forwarder.shown, hentry, Option.bind_some, hobject, Option.map_some, eq_comm,
        Option.map_eq_some_iff] at hid
      obtain ⟨l, hl, hshown⟩ := hid
      simp only [TcpConnection.shown, LocalConnection.shown, Prod.mk.injEq] at hshown
      obtain ⟨hconnected, hpending, hport⟩ := hshown
      simp only [hobject, hl]
      by_cases hc : c.connected = true
      · simp only [hc, if_true]
        refine ⟨H.targetPort, fun v => ?_⟩
        rw [shown_update hsound hentry hobject, Assoc.lookup_insert_ite]
        split
        · simp [TcpConnection.write, TcpConnection.shown, LocalConnection.shown, hc, hconnected,
            hpending, hport]
        · exact H.shown v
      · simp only [hc, hconnected, Bool.false_eq_true, if_false]
        refine ⟨H.targetPort, fun v => ?_⟩
        have hrecord : ((f.update k (·.enqueue data)).record (.queued id data)).shown v =
            (f.update k (·.enqueue data)).shown v := rfl
        rw [hrecord, shown_update hsound hentry hobject, Assoc.lookup_insert_ite]
        split
        · simp [TcpConnection.enqueue, TcpConnection.shown, LocalConnection.shown, hc, hpending, hport]
        · exact H.shown v

theorem Represents.closeConnection (H : f.Represents t) (id : ConnectionId) :
    (f.closeConnection id).Represents (t.closeConnection id) := by
  refine ⟨?_, fun v => ?_⟩
  · rw [Forwarder.closeConnection, TcpForwarder.closeConnection]
    split <;> split <;> exact H.targetPort
  · rw [shown_closeConnection, TunnelAgent.lookup_closeConnection]
    split
    · rfl
    · exact H.shown v

/-- **The calls** do the same with and without the handlers. -/
theorem Represents.call (hsound : f.Sound) (H : f.Represents t) (c : ForwarderCall) :
    (f.call c).Represents (t.perform c) := by
  cases c with
  | tcpOpen id port => exact H.handleTcpOpen hsound id port
  | tcpData id data => exact H.handleTcpData hsound id data
  | tcpError id code message => exact H.closeConnection id
  | tcpClose id =>
      have hclosed := H.closeConnection id
      refine ⟨hclosed.targetPort, fun v => ?_⟩
      have hmark : ((f.closeConnection id).markClosed id).shown v = (f.closeConnection id).shown v := by
        rw [Forwarder.shown, Forwarder.shown]
        refine Option.bind_congr fun k _ => ?_
        simp only [markClosed, List.getElem?_map, Option.map_map]
        refine Option.map_congr fun c _ => ?_
        simp only [Function.comp_apply]
        split <;> rfl
      exact hmark.trans (hclosed.shown v)

/-- The same for any calls in a row. -/
theorem Represents.calls (calls : List ForwarderCall) (hsound : f.Sound) (H : f.Represents t) :
    (calls.foldl Forwarder.call f).Represents (calls.foldl TcpForwarder.perform t) := by
  induction calls generalizing f t with
  | nil => exact H
  | cons c calls ih => exact ih (hsound.call c) (H.call hsound c)

end Forwarder
end Protogate.TunnelAgent
