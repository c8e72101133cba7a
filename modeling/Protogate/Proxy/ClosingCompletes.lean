import Protogate.Proxy.SendWindow

/-!
# The end of a connection

Four things end a connection: a TCP_CLOSE or TCP_ERROR frame from the agent, and the end of
the stream or an error at the client.  `close_connection` removes it from the map at once,
or, if it is to be graceful and bytes are left in the send buffer, leaves it in `CLOSING`
"for pending data to be sent".  Nothing takes it from there: `update_window`, which empties
the buffer, does not look at the state.

Nor is the client's socket closed.  It is a shared pointer, which the connection and the
handlers of its outstanding operations hold; the socket is closed when the last of them is
gone.

## Main definitions

* `EndingCall`, `Endings`, `endingStep` — the proxy, and the connections that were ended.
* `Absent`, `Released` — no key leads to a connection, and no handler holds it.
* `ClosingCompletes` — connections that were ended and drained are gone.
* `Finishes` — the condition on a call.
* `closing_completes_iff` — runs close completely exactly if every call meets it.
-/

namespace Protogate.Proxy

open Protogate.Lib Protogate.Models Protogate.Wire

/-! ## Runs -/

/-- The completion handler of the `i`-th outstanding write, with an error. -/
def writeError (p : TcpProxy) (ref i : ℕ) (agent : Bool) : TcpProxy :=
  match p.objects.lookup ref with
  | none => p
  | some c =>
      if c.writes.length ≤ i then p
      else
        handleError (p.update ref fun c => { c with writes := c.writes.eraseIdx i }) c.connectionId
          agent

/-- A call, or a write to a client that fails. -/
inductive EndingCall
  | call (c : Call)
  | writeError (ref i : ℕ) (agent : Bool)

def endingCall (allows : List Str → Str → Bool) (p : TcpProxy) : EndingCall → TcpProxy
  | .call c => call allows p c
  | .writeError ref i agent => writeError p ref i agent

/-- The connections that have the id, whatever key they are stored under. -/
def TcpProxy.withId (p : TcpProxy) (id : Str) : List ℕ :=
  p.objects.keys.filter fun ref => (p.objects.lookup ref).any fun c => c.connectionId = id

/-- The connections that a frame from the agent ends; the frame names them by their id. -/
def namedBy (p : TcpProxy) : EndingCall → List ℕ
  | .call (.event (.agentFrame frame _)) =>
      match decodeAgentFrame frame with
      | some (.close id) | some (.error id) => p.withId id
      | _ => []
  | _ => []

/-- The connection of which a handler is called with the end of the stream or an error. -/
def failedBy (p : TcpProxy) : EndingCall → List ℕ
  | .call (.event (.clientEnd ref _ _)) =>
      match p.objects.lookup ref with
      | none => []
      | some c => if c.reading then [ref] else []
  | .writeError ref i _ =>
      match p.objects.lookup ref with
      | none => []
      | some c => if c.writes.length ≤ i then [] else [ref]
  | _ => []

/-- The connections whose end a call processes. -/
def endedBy (p : TcpProxy) (e : EndingCall) : List ℕ := namedBy p e ++ failedBy p e

/-- The connection of which `send_data` accepts bytes without an agent to send them to. -/
def withheldBy (p : TcpProxy) : EndingCall → Option ℕ
  | .call (.sendData id data none) =>
      if 0 < (sendData p id data none).1 then p.connections.lookup id else none
  | .call (.event (.clientRead ref data none)) =>
      match p.objects.lookup ref with
      | none => none
      | some c =>
          if c.reading ∧ 0 < (sendData (p.update ref (·.finishRead data)) c.connectionId data none).1
          then p.connections.lookup c.connectionId else none
  | _ => none

/-- The proxy, the connections whose end was processed, and those with accepted bytes that
were not passed to `send_tcp_data`. -/
structure Endings where
  proxy : TcpProxy
  ended : List ℕ
  withheld : List ℕ

def Endings.init : Endings := ⟨.init, [], []⟩

def endingStep (allows : List Str → Str → Bool) (s : Endings) (e : EndingCall) : Endings where
  proxy := endingCall allows s.proxy e
  ended := s.ended ++ endedBy s.proxy e
  withheld := s.withheld ++ (withheldBy s.proxy e).toList

/-! ## What should hold, and when it does -/

/-- No entry of `connections_` is the connection. -/
def Absent (p : TcpProxy) (ref : ℕ) : Prop := ∀ id, p.connections.lookup id ≠ some ref

/-- No handler of an outstanding read or write holds the connection and its socket. -/
def Released (c : Connection) : Prop := c.reading = false ∧ c.writes = []

/-- A connection that was ended, with all accepted bytes passed on and the send buffer
empty, is not in the map, and its socket is closed, for nothing holds it; and no connection
in `CLOSING` has an empty send buffer. -/
structure ClosingCompletes (s : Endings) : Prop where
  gone : ∀ ref c, ref ∈ s.ended → ref ∉ s.withheld → s.proxy.objects.lookup ref = some c →
    c.sendBuffer = [] → Absent s.proxy ref ∧ Released c
  drained : ∀ ref c, s.proxy.objects.lookup ref = some c → c.state = .closing → c.sendBuffer ≠ []

/-- The connection can be given up: it is stored under its own id if at all, and nothing
holds it. -/
def GivenUp (p : TcpProxy) (ref : ℕ) (c : Connection) : Prop :=
  (∀ id, p.connections.lookup id = some ref → id = c.connectionId) ∧ Released c

/-- When the end of a connection is processed while its send buffer is empty, no other
operation on its socket is outstanding, and it is stored under its own id; and no update
empties the send buffer of a connection that is closing or was ended. -/
def Finishes (s : Endings) : EndingCall → Prop
  | .call (.event (.agentFrame frame _)) =>
      ∀ id, decodeAgentFrame frame = some (.close id) ∨ decodeAgentFrame frame = some (.error id) →
        ∀ ref c, s.proxy.objects.lookup ref = some c → c.connectionId = id → c.sendBuffer = [] →
          ref ∉ s.withheld → GivenUp s.proxy ref c
  | .call (.event (.clientEnd ref _ _)) =>
      ∀ c, s.proxy.objects.lookup ref = some c → c.reading = true → c.sendBuffer = [] →
        ref ∉ s.withheld → GivenUp s.proxy ref { c with reading := false }
  | .writeError ref i _ =>
      ∀ c, s.proxy.objects.lookup ref = some c → i < c.writes.length → c.sendBuffer = [] →
        ref ∉ s.withheld → GivenUp s.proxy ref { c with writes := c.writes.eraseIdx i }
  | .call (.event (.updateWindow id n)) =>
      ∀ ref c, s.proxy.getConnection id = some (ref, c) → c.sendBuffer ≠ [] →
        n = c.sendBuffer.length → c.state ≠ .closing ∧ (ref ∈ s.ended → ref ∈ s.withheld)
  | _ => True

/-! ## Objects and keys after a call -/

section
variable {p q : TcpProxy}

/-- A write that fails closes the connection. -/
theorem writeError_rule {P : TcpProxy → Prop} {ref i : ℕ} {agent : Bool} (hself : P p)
    (hend : ∀ c, p.objects.lookup ref = some c → i < c.writes.length → P (closeConnection
      (p.update ref fun c => { c with writes := c.writes.eraseIdx i }) c.connectionId false agent)) :
    P (writeError p ref i agent) := by
  simp only [writeError]
  split
  · exact hself
  · rename_i c hc
    split
    · exact hself
    · exact hend c hc (by omega)

theorem narrows_writeError (p : TcpProxy) (ref i : ℕ) (agent : Bool) :
    Narrows p (writeError p ref i agent) := by
  refine writeError_rule (.refl p) fun c _ _ => ?_
  have hend : Narrows p (p.update ref fun c => { c with writes := c.writes.eraseIdx i }) :=
    narrows_update p ref fun c => ⟨rfl, fun h => h⟩
  exact hend.trans (narrows_closeConnection _ _ false agent)

theorem narrows_or_adds (allows : List Str → Str → Bool) (p : TcpProxy) (e : EndingCall) :
    Narrows p (endingCall allows p e) ∨ ∃ c, Adds p (endingCall allows p e) c := by
  cases e with
  | writeError ref i agent => exact .inl (narrows_writeError p ref i agent)
  | call c => exact narrows_or_adds_call allows p c

/-- An older object was there before. -/
theorem object_before (allows : List Str → Str → Bool) {e : EndingCall} {ref : ℕ} {c : Connection}
    (hlt : ref < p.created) (hobj : (endingCall allows p e).objects.lookup ref = some c) :
    ∃ d, p.objects.lookup ref = some d := by
  obtain hnarrows | ⟨d, hadds⟩ := narrows_or_adds allows p e
  · obtain ⟨d, hd, _⟩ := hnarrows.objects ref c hobj
    exact ⟨d, hd⟩
  · rw [hadds.objects, if_neg (Nat.ne_of_lt hlt)] at hobj
    exact ⟨c, hobj⟩

/-- What is not in the map stays out of it. -/
theorem Absent.endingCall {ref : ℕ} (h : Absent p ref) (hlt : ref < p.created)
    (allows : List Str → Str → Bool) (e : EndingCall) : Absent (endingCall allows p e) ref := by
  intro id hkey
  obtain hnarrows | ⟨c, hadds⟩ := narrows_or_adds allows p e
  · exact h id (hnarrows.keys id ref hkey)
  · obtain heq | hold := hadds.keys id ref hkey
    · exact Nat.ne_of_lt hlt heq
    · exact h id hold

/-! ## What changes an object -/

/-- `close_connection` changes the state of objects only, and takes no other key away. -/
theorem object_closeConnection (p : TcpProxy) (id : Str) (graceful agent : Bool) {ref : ℕ}
    {c : Connection} (hobj : p.objects.lookup ref = some c) :
    ∃ state, (closeConnection p id graceful agent).objects.lookup ref = some { c with state } := by
  obtain ⟨_, hsame⟩ | ⟨r, d, extra, _, _, ⟨_, _, hclose⟩ | ⟨_, hclose⟩⟩ :=
    closeConnection_cases p id graceful agent
  · exact ⟨c.state, by rw [hsame, hobj]⟩
  all_goals
    rw [hclose]
    dsimp only
    rw [lookup_update, hobj]
    split
    · exact ⟨_, rfl⟩
    · exact ⟨c.state, rfl⟩

theorem key_closeConnection (p : TcpProxy) {id key : Str} (hne : key ≠ id) (graceful agent : Bool) :
    (closeConnection p id graceful agent).connections.lookup key = p.connections.lookup key := by
  obtain ⟨_, hsame⟩ | ⟨r, d, extra, _, _, ⟨_, _, hclose⟩ | ⟨_, hclose⟩⟩ :=
    closeConnection_cases p id graceful agent
  · rw [hsame]
  · rw [hclose]
    dsimp only
    rw [connections_update]
  · rw [hclose]
    exact AList.lookup_erase_ne hne

/-- Closing under an id removes a connection with an empty send buffer exactly if it is
stored under no other. -/
theorem absent_closeConnection_iff {id : Str} {ref : ℕ} {c : Connection}
    (hobj : p.objects.lookup ref = some c) (hempty : c.sendBuffer = []) (graceful agent : Bool) :
    Absent (closeConnection p id graceful agent) ref ↔
      ∀ key, p.connections.lookup key = some ref → key = id := by
  constructor
  · intro habsent key hkey
    by_contra hne
    exact habsent key ((key_closeConnection p hne graceful agent).trans hkey)
  · intro hkeys key hkey
    have hold := (narrows_closeConnection p id graceful agent).keys key ref hkey
    obtain rfl := hkeys key hold
    have hget := getConnection_eq_some_iff.mpr ⟨hold, hobj⟩
    obtain ⟨hnone, _⟩ | ⟨r, d, extra, hfound, _, ⟨_, hne, _⟩ | ⟨_, hclose⟩⟩ :=
      closeConnection_cases p key graceful agent
    · rw [hget] at hnone
      cases hnone
    · rw [hget] at hfound
      cases hfound
      exact hne hempty
    · rw [hclose] at hkey
      simp at hkey

/-- What is found in the map is another object. -/
theorem Absent.ne_of_get {ref r : ℕ} {c : Connection} {id : Str} (h : Absent p ref)
    (hget : p.getConnection id = some (r, c)) : ref ≠ r := by
  rintro rfl
  exact h id (getConnection_eq_some_iff.mp hget).1

theorem Absent.update {ref : ℕ} (h : Absent p ref) (r : ℕ) (f : Connection → Connection) :
    Absent (p.update r f) ref := by
  intro id
  rw [connections_update]
  exact h id

theorem Absent.lookup_close {ref : ℕ} (h : Absent p ref) (id : Str) (graceful agent : Bool) :
    (closeConnection p id graceful agent).objects.lookup ref = p.objects.lookup ref := by
  obtain ⟨_, hsame⟩ | ⟨r, d, extra, hget, _, ⟨_, _, hclose⟩ | ⟨_, hclose⟩⟩ :=
    closeConnection_cases p id graceful agent
  · rw [hsame]
  all_goals
    rw [hclose]
    dsimp only
    rw [lookup_update, if_neg (h.ne_of_get hget)]

theorem Absent.lookup_send {ref : ℕ} (h : Absent p ref) (id : Str) (data : Bytes)
    (agent : Option Bool) : (sendData p id data agent).2.objects.lookup ref = p.objects.lookup ref := by
  have hqueue : ∀ r c data, p.getConnection id = some (r, c) →
      (p.update r (·.queue data)).objects.lookup ref = p.objects.lookup ref := by
    intro r c data hget
    rw [lookup_update, if_neg (h.ne_of_get hget)]
  exact sendData_rule (P := fun q => q.objects.lookup ref = p.objects.lookup ref) rfl hqueue
    (fun r c data _ _ hget _ => hqueue r c data hget) data agent

/-- A connection that is in no map and held by no handler is not touched any more. -/
theorem lookup_step_of_gone (allows : List Str → Str → Bool) {ref : ℕ} {c : Connection}
    (hlt : ref < p.created) (habsent : Absent p ref) (hobj : p.objects.lookup ref = some c)
    (hreleased : Released c) (ev : Event) :
    (step allows p ev).objects.lookup ref = some c := by
  obtain ⟨hreading, hwrites⟩ := hreleased
  have hother : ∀ r f, ref ≠ r → (p.update r f).objects.lookup ref = some c := by
    intro r f hne
    rw [lookup_update, if_neg hne, hobj]
  have hread : ∀ r d, p.objects.lookup r = some d → d.reading = true → ref ≠ r := by
    rintro r d hr hd rfl
    obtain rfl := Option.some.inj (hr.symm.trans hobj)
    rw [hreading] at hd
    cases hd
  by_cases hcreates : ev.creates = true
  · obtain hsame | ⟨d, hadds⟩ := same_or_adds hcreates allows p
    · rw [hsame, hobj]
    · rw [hadds.objects, if_neg (Nat.ne_of_lt hlt), hobj]
  cases ev with
  | create env t => exact absurd rfl hcreates
  | createByPort env order port digits => exact absurd rfl hcreates
  | clientRead r data agent =>
      refine clientRead_rule (P := fun q => q.objects.lookup ref = some c) hobj fun d hr hd => ?_
      have hne := hread r d hr hd
      rw [lookup_update, if_neg hne, (habsent.update _ _).lookup_send, hother r _ hne]
  | clientEnd r eof agent =>
      refine clientEnd_rule (P := fun q => q.objects.lookup ref = some c) hobj fun d hr hd => ?_
      rw [(habsent.update _ _).lookup_close, hother r _ (hread r d hr hd)]
  | writeDone r i =>
      rw [step, writeDone, lookup_update]
      split
      · rw [hobj]
        simp [hwrites]
      · exact hobj
  | agentFrame frame agent =>
      refine handleAgentTcpFrame_rule (P := fun q => q.objects.lookup ref = some c) hobj ?_ ?_ ?_
      · exact fun id r d hget => hother r _ (habsent.ne_of_get hget)
      · exact fun id r d data length hget => hother r _ (habsent.ne_of_get hget)
      · exact fun id graceful => (habsent.lookup_close id graceful agent).trans hobj
  | updateWindow id n =>
      refine updateWindow_rule (P := fun q => q.objects.lookup ref = some c) hobj fun r d hget _ => ?_
      exact hother r _ (habsent.ne_of_get hget)
  | close id graceful agent => exact (habsent.lookup_close id graceful agent).trans hobj

theorem lookup_of_gone (allows : List Str → Str → Bool) {ref : ℕ} {c : Connection}
    (hlt : ref < p.created) (habsent : Absent p ref) (hobj : p.objects.lookup ref = some c)
    (hreleased : Released c) (e : EndingCall) :
    (endingCall allows p e).objects.lookup ref = some c := by
  cases e with
  | writeError r i agent =>
      refine writeError_rule (P := fun q => q.objects.lookup ref = some c) hobj fun d hd hi => ?_
      have hne : ref ≠ r := by
        rintro rfl
        obtain rfl := Option.some.inj (hd.symm.trans hobj)
        simp [hreleased.2] at hi
      rw [(habsent.update _ _).lookup_close, lookup_update, if_neg hne, hobj]
  | call k =>
      cases k with
      | event ev => exact lookup_step_of_gone allows hlt habsent hobj hreleased ev
      | sendData id data agent => exact (habsent.lookup_send id data agent).trans hobj
      | receiveData id data =>
          refine receiveData_rule (P := fun q => q.objects.lookup ref = some c) hobj
            fun r d hget _ => ?_
          rw [lookup_update, if_neg (habsent.ne_of_get hget), hobj]

/-! ## Send buffers -/

theorem windowAt_writeError (p : TcpProxy) (r i : ℕ) (agent : Bool) (ref : ℕ) :
    windowAt (writeError p r i agent) ref = windowAt p ref := by
  refine writeError_rule (P := fun q => windowAt q ref = windowAt p ref) rfl fun c _ _ => ?_
  rw [windowAt_closeConnection]
  exact windowAt_update_of_same p r ref fun _ => rfl

/-- Who consumes is `update_window`. -/
theorem consumedBy_cases {c : Call} {ref n : ℕ} (h : consumedBy p c = some (ref, n)) :
    ∃ id d, c = .event (.updateWindow id n) ∧ p.getConnection id = some (ref, d) := by
  cases c with
  | event e =>
      cases e with
      | updateWindow id m =>
          simp only [consumedBy, updateAccepts] at h
          split at h
          · cases h
          · rename_i r d hget
            split at h
            · cases h
              exact ⟨id, d, rfl, hget⟩
            · cases h
      | _ => cases h
  | _ => cases h

/-- A send buffer that is empty after a call was so before, or the call was an
`update_window` of its length. -/
theorem empty_before (allows : List Str → Str → Bool) {e : EndingCall} {ref : ℕ}
    {c d : Connection} (hlt : ref < p.created) (hobj : p.objects.lookup ref = some c)
    (hafter : (endingCall allows p e).objects.lookup ref = some d) (hempty : d.sendBuffer = []) :
    c.sendBuffer = [] ∨ ∃ id, e = .call (.event (.updateWindow id c.sendBuffer.length)) ∧
      p.getConnection id = some (ref, c) := by
  have hwindow : windowAt p ref = some (sendWindow c) := by rw [windowAt, hobj, Option.map_some]
  have hwindow' : windowAt (endingCall allows p e) ref = some (sendWindow d) := by
    rw [windowAt, hafter, Option.map_some]
  cases e with
  | writeError r i agent =>
      left
      have hsame := (windowAt_writeError p r i agent ref).symm.trans hwindow'
      rw [hwindow] at hsame
      have hbuffer := congrArg Window.buffer (Option.some.inj hsame)
      exact hbuffer.trans hempty
  | call k =>
      obtain ⟨hnew, _⟩ | hold := windowAt_call allows p k ref
      · exact absurd hnew (Nat.ne_of_lt hlt)
      have hsame := hold.symm.trans hwindow'
      rw [hwindow, Option.map_some] at hsame
      have hbuffer := congrArg Window.buffer (Option.some.inj hsame)
      rw [Window.buffer_consume, Window.buffer_append] at hbuffer
      replace hbuffer := hbuffer.trans hempty
      rw [List.drop_eq_nil_iff, List.length_append] at hbuffer
      have hle : share 0 ref (consumedBy p k) ≤ c.sendBuffer.length := consumedBy_le hwindow k
      have hlength : share 0 ref (consumedBy p k) = c.sendBuffer.length := by
        have hc : (sendWindow c).buffer.length = c.sendBuffer.length := rfl
        omega
      cases hconsumed : consumedBy p k with
      | none =>
          left
          rw [hconsumed] at hlength
          exact List.length_eq_zero_iff.mp hlength.symm
      | some found =>
          obtain ⟨r, n⟩ := found
          rw [hconsumed, share] at hlength
          split at hlength
          · rename_i hr
            obtain ⟨id, d', rfl, hget⟩ := consumedBy_cases hconsumed
            right
            obtain rfl := hr
            obtain rfl := Option.some.inj ((getConnection_eq_some_iff.mp hget).2.symm.trans hobj)
            exact ⟨id, by rw [hlength], hget⟩
          · left
            exact List.length_eq_zero_iff.mp hlength.symm

/-- A connection in `CLOSING` waits for something. -/
def Waiting (c : Connection) : Prop := c.state = .closing → c.sendBuffer ≠ []

theorem waiting_close (H : AllObjects Waiting p) (id : Str) (graceful agent : Bool) :
    AllObjects Waiting (closeConnection p id graceful agent) := by
  obtain ⟨_, hsame⟩ | ⟨r, d, extra, hget, _, ⟨_, hne, hclose⟩ | ⟨_, hclose⟩⟩ :=
    closeConnection_cases p id graceful agent
  · rw [hsame]
    exact H
  · have hupdate : AllObjects Waiting (p.update r fun c => { c with state := .closing }) := by
      refine allObjects_update H r fun c hc _ _ => ?_
      obtain rfl := Option.some.inj (hc.symm.trans (getConnection_eq_some_iff.mp hget).2)
      exact hne
    rw [hclose]
    exact hupdate
  · have hupdate : AllObjects Waiting (p.update r fun c => { c with state := .closed }) :=
      allObjects_update H r fun c _ _ h => by cases h
    rw [hclose]
    exact hupdate

theorem sendBuffer_startWrite (c : Connection) : c.startWrite.sendBuffer = c.sendBuffer := by
  rw [Connection.startWrite]
  split <;> rfl

theorem waiting_startWrite {c : Connection} (h : Waiting c) : Waiting c.startWrite := by
  rw [Waiting, state_startWrite, sendBuffer_startWrite]
  exact h

theorem waiting_queue {c : Connection} (h : Waiting c) (data : Bytes) : Waiting (c.queue data) := by
  intro hstate hnil
  exact h hstate (List.append_eq_nil_iff.mp hnil).1

theorem waiting_newConnection (id tunnelId ip : Str) (port : ℕ) (state : ConnectionState)
    (h : state = .connecting ∨ state = .established) :
    Waiting (newConnection id tunnelId ip port state) := by
  rintro (rfl : state = .closing)
  obtain h | h := h
  · cases h
  · cases h

theorem waiting_step (allows : List Str → Str → Bool) (H : AllObjects Waiting p) {ev : Event}
    (hev : ∀ id n ref c, ev = .updateWindow id n → p.getConnection id = some (ref, c) →
      c.state = .closing → n ≠ c.sendBuffer.length) :
    AllObjects Waiting (step allows p ev) := by
  cases ev with
  | create env t => exact allObjects_create H waiting_newConnection allows env t
  | createByPort env order port digits =>
      exact allObjects_createByPort H waiting_newConnection allows env order port digits
  | clientRead ref data agent =>
      refine clientRead_rule (P := AllObjects Waiting) H fun c _ _ => ?_
      refine allObjects_update ?_ _ fun c _ hc => hc
      refine allObjects_sendData ?_ (fun c data hc => waiting_queue hc data) _ _ _
      exact allObjects_update H _ fun c _ hc => hc
  | clientEnd ref eof agent =>
      refine clientEnd_rule (P := AllObjects Waiting) H fun c _ _ => ?_
      refine waiting_close ?_ c.connectionId eof agent
      exact allObjects_update H ref fun c _ hc => hc
  | writeDone ref i =>
      refine allObjects_update H _ fun c _ hc => ?_
      split
      · exact hc
      · exact waiting_startWrite hc
  | agentFrame frame agent =>
      refine handleAgentTcpFrame_rule (P := AllObjects Waiting) H ?_ ?_ ?_
      · exact fun id r _ _ => allObjects_update H r fun c _ hc => waiting_startWrite hc
      · exact fun id r _ data length _ =>
          allObjects_update H r fun c _ hc => waiting_startWrite (c := c.accept data length) hc
      · exact fun id graceful => waiting_close H id graceful agent
  | updateWindow id n =>
      refine updateWindow_rule (P := AllObjects Waiting) H fun ref c hget hle => ?_
      refine allObjects_update H ref fun d hd hwaiting hclosing hempty => ?_
      obtain rfl := Option.some.inj (hd.symm.trans (getConnection_eq_some_iff.mp hget).2)
      have hne := hev id n ref d rfl hget hclosing
      have hdrop : d.sendBuffer.length ≤ n := List.drop_eq_nil_iff.mp hempty
      omega
  | close id graceful agent => exact waiting_close H id graceful agent

theorem waiting_endingCall (allows : List Str → Str → Bool) (H : AllObjects Waiting p)
    {e : EndingCall} (he : ∀ id n ref c, e = .call (.event (.updateWindow id n)) →
      p.getConnection id = some (ref, c) → c.state = .closing → n ≠ c.sendBuffer.length) :
    AllObjects Waiting (endingCall allows p e) := by
  cases e with
  | writeError r i agent =>
      refine writeError_rule (P := AllObjects Waiting) H fun c _ _ => ?_
      refine waiting_close ?_ c.connectionId false agent
      exact allObjects_update H r fun c _ hc => hc
  | call k =>
      cases k with
      | event ev => exact waiting_step allows H fun id n ref c heq => he id n ref c (by rw [heq])
      | sendData id data agent =>
          exact allObjects_sendData H (fun c data hc => waiting_queue hc data) id data agent
      | receiveData id data =>
          refine receiveData_rule (P := AllObjects Waiting) H fun ref c _ _ => ?_
          exact allObjects_update H ref fun c _ hc => hc

end

/-! ## One call -/

/-- What holds of every run: the objects are numbered, and only old connections were ended. -/
structure EndingInv (s : Endings) : Prop where
  numbered : Numbered s.proxy
  ended_lt : ∀ ref ∈ s.ended, ref < s.proxy.created

theorem mem_withId_iff {p : TcpProxy} {id : Str} {ref : ℕ} :
    ref ∈ p.withId id ↔ ∃ c, p.objects.lookup ref = some c ∧ c.connectionId = id := by
  rw [TcpProxy.withId, List.mem_filter, Option.any_eq_true]
  constructor
  · rintro ⟨_, c, hobj, hid⟩
    exact ⟨c, hobj, of_decide_eq_true hid⟩
  · rintro ⟨c, hobj, hid⟩
    exact ⟨Assoc.mem_of_lookup hobj, c, hobj, decide_eq_true hid⟩

theorem mem_namedBy_iff {p : TcpProxy} {e : EndingCall} {ref : ℕ} :
    ref ∈ namedBy p e ↔ ∃ frame agent id c, e = .call (.event (.agentFrame frame agent)) ∧
      (decodeAgentFrame frame = some (.close id) ∨ decodeAgentFrame frame = some (.error id)) ∧
      p.objects.lookup ref = some c ∧ c.connectionId = id := by
  constructor
  · intro h
    unfold namedBy at h
    split at h
    · rename_i frame agent
      split at h
      · rename_i id hframe
        obtain ⟨c, hobj, hid⟩ := mem_withId_iff.mp h
        exact ⟨frame, agent, id, c, rfl, .inl hframe, hobj, hid⟩
      · rename_i id hframe
        obtain ⟨c, hobj, hid⟩ := mem_withId_iff.mp h
        exact ⟨frame, agent, id, c, rfl, .inr hframe, hobj, hid⟩
      · cases h
    · cases h
  · rintro ⟨frame, agent, id, c, rfl, hframe | hframe, hobj, hid⟩
    all_goals
      simp only [namedBy, hframe]
      exact mem_withId_iff.mpr ⟨c, hobj, hid⟩

theorem object_of_failedBy {p : TcpProxy} {e : EndingCall} {ref : ℕ} (h : ref ∈ failedBy p e) :
    ∃ c, p.objects.lookup ref = some c := by
  unfold failedBy at h
  split at h
  · split at h
    · cases h
    · rename_i r _ _ _ c hc
      split at h
      · obtain rfl := List.mem_singleton.mp h
        exact ⟨c, hc⟩
      · cases h
  · split at h
    · cases h
    · rename_i r _ _ _ c hc
      split at h
      · cases h
      · obtain rfl := List.mem_singleton.mp h
        exact ⟨c, hc⟩
  · cases h

theorem endedBy_lt {p : TcpProxy} (hp : Numbered p) {e : EndingCall} {ref : ℕ}
    (h : ref ∈ endedBy p e) : ref < p.created := by
  obtain h | h := List.mem_append.mp h
  · obtain ⟨_, _, _, c, _, _, hobj, _⟩ := mem_namedBy_iff.mp h
    exact hp.objects ref c hobj
  · obtain ⟨c, hobj⟩ := object_of_failedBy h
    exact hp.objects ref c hobj

theorem endingInv_init : EndingInv .init where
  numbered := numbered_init
  ended_lt := by simp [Endings.init]

theorem endingInv_step (allows : List Str → Str → Bool) (s : Endings) (e : EndingCall)
    (H : EndingInv s) : EndingInv (endingStep allows s e) where
  numbered := H.numbered.next (narrows_or_adds allows s.proxy e)
  ended_lt := by
    intro ref href
    have hlt : ref < s.proxy.created := by
      rcases List.mem_append.mp href with hold | hnew
      · exact H.ended_lt ref hold
      · exact endedBy_lt H.numbered hnew
    exact Nat.lt_of_lt_of_le hlt (created_le_next (narrows_or_adds allows s.proxy e))

/-- Once its send buffer is empty the connection is gone. -/
def GoneWhenEmpty (p : TcpProxy) (ref : ℕ) : Prop :=
  ∀ c, p.objects.lookup ref = some c → c.sendBuffer = [] → Absent p ref ∧ Released c

theorem goneWhenEmpty_close_iff {p : TcpProxy} {id : Str} {ref : ℕ} {c : Connection}
    (hobj : p.objects.lookup ref = some c) (graceful agent : Bool) :
    GoneWhenEmpty (closeConnection p id graceful agent) ref ↔
      (c.sendBuffer = [] → (∀ key, p.connections.lookup key = some ref → key = id) ∧ Released c) := by
  obtain ⟨state, hafter⟩ := object_closeConnection p id graceful agent hobj
  constructor
  · intro h hempty
    obtain ⟨habsent, hreleased⟩ := h _ hafter hempty
    exact ⟨(absent_closeConnection_iff hobj hempty graceful agent).mp habsent, hreleased⟩
  · intro h d hd hempty
    obtain rfl := Option.some.inj (hafter.symm.trans hd)
    obtain ⟨hkeys, hreleased⟩ := h hempty
    exact ⟨(absent_closeConnection_iff hobj hempty graceful agent).mpr hkeys, hreleased⟩

/-- No update empties the send buffer of a connection that is closing or was ended. -/
def EmptiesNone (s : Endings) (e : EndingCall) : Prop :=
  ∀ id n ref c, e = .call (.event (.updateWindow id n)) →
    s.proxy.getConnection id = some (ref, c) → c.sendBuffer ≠ [] → n = c.sendBuffer.length →
      c.state ≠ .closing ∧ (ref ∈ s.ended → ref ∈ s.withheld)

/-- The connection whose end is processed will be gone. -/
def EndsWell (allows : List Str → Str → Bool) (s : Endings) (e : EndingCall) : Prop :=
  ∀ ref ∈ endedBy s.proxy e, ref ∉ s.withheld →
    GoneWhenEmpty (endingCall allows s.proxy e) ref

section
variable {s : Endings}

/-- A call that ends a connection withholds nothing. -/
theorem withheldBy_of_endedBy {p : TcpProxy} {e : EndingCall} {ref : ℕ}
    (h : ref ∈ endedBy p e) : withheldBy p e = none := by
  cases e with
  | writeError r i agent => rfl
  | call k =>
      cases k with
      | event ev =>
          cases ev with
          | clientRead r data agent => cases h
          | _ => rfl
      | sendData id data agent => cases h
      | receiveData id data => rfl

theorem emptiesNone_of_completes {allows : List Str → Str → Bool}
    {e : EndingCall} (P' : ClosingCompletes (endingStep allows s e)) : EmptiesNone s e := by
  rintro id n ref c rfl hget _ rfl
  obtain ⟨hkey, hobj⟩ := getConnection_eq_some_iff.mp hget
  have hstep : updateWindow s.proxy id c.sendBuffer.length =
      s.proxy.update ref fun c' => { c' with sendBuffer := c'.sendBuffer.drop c.sendBuffer.length } := by
    simp only [updateWindow, hget, Nat.le_refl, if_true]
  have hafter : (endingStep allows s (.call (.event (.updateWindow id c.sendBuffer.length)))).proxy =
      s.proxy.update ref fun c' => { c' with sendBuffer := c'.sendBuffer.drop c.sendBuffer.length } :=
    hstep
  have hempty : c.sendBuffer.drop c.sendBuffer.length = [] := List.drop_length
  have hobj' := lookup_update_self hobj
    fun c' => { c' with sendBuffer := c'.sendBuffer.drop c.sendBuffer.length }
  rw [← hafter] at hobj'
  refine ⟨fun hclosing => P'.drained ref _ hobj' hclosing hempty, fun hended => ?_⟩
  by_contra hwithheld
  have hgone := P'.gone ref _ (List.mem_append_left _ hended) (by simpa [endingStep, withheldBy]) hobj'
    hempty
  refine hgone.1 id ?_
  rw [hafter, connections_update, hkey]

theorem endsWell_of_completes {allows : List Str → Str → Bool} {e : EndingCall}
    (P' : ClosingCompletes (endingStep allows s e)) : EndsWell allows s e := by
  intro ref hends hwithheld c hobj hempty
  have hnone := withheldBy_of_endedBy hends
  refine P'.gone ref c ?_ ?_ hobj hempty
  · simp [endingStep, hends]
  · simpa [endingStep, hnone] using hwithheld

/-- What was gone stays so, and what was ended before is gone when its buffer is empty. -/
theorem completes_step (H : EndingInv s) (P : ClosingCompletes s) (allows : List Str → Str → Bool)
    {e : EndingCall} (hempties : EmptiesNone s e) (hends : EndsWell allows s e) :
    ClosingCompletes (endingStep allows s e) where
  gone := by
    intro ref c hended hwithheld hobj hempty
    have hwithheld' : ref ∉ s.withheld := fun hmem => hwithheld (List.mem_append_left _ hmem)
    rcases List.mem_append.mp hended with hold | hnew
    · have hlt := H.ended_lt ref hold
      obtain ⟨d, hd⟩ := object_before allows hlt hobj
      have hbefore : d.sendBuffer = [] := by
        obtain hbefore | ⟨id, rfl, hget⟩ := empty_before allows hlt hd hobj hempty
        · exact hbefore
        · by_contra hne
          exact hwithheld' ((hempties id _ ref d rfl hget hne rfl).2 hold)
      obtain ⟨habsent, hreleased⟩ := P.gone ref d hold hwithheld' hd hbefore
      have hsame := lookup_of_gone allows hlt habsent hd hreleased e
      obtain rfl := Option.some.inj (hsame.symm.trans hobj)
      exact ⟨habsent.endingCall hlt allows e, hreleased⟩
    · exact hends ref hnew hwithheld' c hobj hempty
  drained := by
    refine waiting_endingCall allows P.drained fun id n ref c heq hget hclosing hn => ?_
    have hne := P.drained ref c (getConnection_eq_some_iff.mp hget).2 hclosing
    exact (hempties id n ref c heq hget hne hn).1 hclosing

theorem emptiesNone_of_ne {e : EndingCall} (h : ∀ id n, e ≠ .call (.event (.updateWindow id n))) :
    EmptiesNone s e :=
  fun id n _ _ heq => absurd heq (h id n)

theorem endsWell_of_none (allows : List Str → Str → Bool) {e : EndingCall}
    (h : endedBy s.proxy e = []) : EndsWell allows s e := by
  intro ref hends
  rw [h] at hends
  cases hends

/-- One connection is ended, by closing it under an id. -/
theorem endsWell_close_iff (allows : List Str → Str → Bool) {e : EndingCall} {p : TcpProxy}
    {id : Str} {graceful agent : Bool} {ref : ℕ} {c : Connection}
    (hends : endedBy s.proxy e = [ref])
    (hstep : endingCall allows s.proxy e = closeConnection p id graceful agent)
    (hobj : p.objects.lookup ref = some c) :
    EndsWell allows s e ↔ (c.sendBuffer = [] → ref ∉ s.withheld →
      (∀ key, p.connections.lookup key = some ref → key = id) ∧ Released c) := by
  rw [EndsWell, hends, hstep]
  constructor
  · intro h hempty hwithheld
    exact (goneWhenEmpty_close_iff hobj graceful agent).mp (h ref (List.mem_singleton.mpr rfl) hwithheld)
      hempty
  · intro h r hr hwithheld
    obtain rfl := List.mem_singleton.mp hr
    exact (goneWhenEmpty_close_iff hobj graceful agent).mpr fun hempty => h hempty hwithheld

theorem finishes_writeError_iff (allows : List Str → Str → Bool) (ref i : ℕ) (agent : Bool) :
    Finishes s (.writeError ref i agent) ↔ EndsWell allows s (.writeError ref i agent) := by
  simp only [Finishes]
  cases hobj : s.proxy.objects.lookup ref with
  | none => exact iff_of_true (by simp) (endsWell_of_none allows (by simp [endedBy, namedBy, failedBy, hobj]))
  | some c =>
      by_cases hi : c.writes.length ≤ i
      · refine iff_of_true ?_ (endsWell_of_none allows (by simp [endedBy, namedBy, failedBy, hobj, hi]))
        rintro d ⟨⟩ hlt
        omega
      · have hends : endedBy s.proxy (.writeError ref i agent) = [ref] := by
          simp [endedBy, namedBy, failedBy, hobj, hi]
        have hobj' := lookup_update_self hobj fun c => { c with writes := c.writes.eraseIdx i }
        have hstep : endingCall allows s.proxy (.writeError ref i agent) = closeConnection
            (s.proxy.update ref fun c => { c with writes := c.writes.eraseIdx i }) c.connectionId
            false agent := by
          simp only [endingCall, writeError, hobj, hi, if_false]
          rfl
        rw [endsWell_close_iff allows hends hstep hobj', connections_update]
        constructor
        · intro h
          exact h c rfl (by omega)
        · rintro h d ⟨⟩ _
          exact h

theorem finishes_clientEnd_iff (allows : List Str → Str → Bool) (ref : ℕ) (eof agent : Bool) :
    Finishes s (.call (.event (.clientEnd ref eof agent))) ↔
      EndsWell allows s (.call (.event (.clientEnd ref eof agent))) := by
  simp only [Finishes]
  cases hobj : s.proxy.objects.lookup ref with
  | none => exact iff_of_true (by simp) (endsWell_of_none allows (by simp [endedBy, namedBy, failedBy, hobj]))
  | some c =>
      by_cases hreading : c.reading = true
      · have hends : endedBy s.proxy (.call (.event (.clientEnd ref eof agent))) = [ref] := by
          simp [endedBy, namedBy, failedBy, hobj, hreading]
        have hobj' := lookup_update_self hobj fun c => { c with reading := false }
        have hstep : endingCall allows s.proxy (.call (.event (.clientEnd ref eof agent))) =
            closeConnection (s.proxy.update ref fun c => { c with reading := false }) c.connectionId
              eof agent := by
          simp only [endingCall, call, step, clientEnd, hobj, hreading, Bool.not_true,
            Bool.false_eq_true, if_false]
        rw [endsWell_close_iff allows hends hstep hobj', connections_update]
        constructor
        · intro h
          exact h c rfl hreading
        · rintro h d ⟨⟩ _
          exact h
      · refine iff_of_true ?_ (endsWell_of_none allows (by simp [endedBy, namedBy, failedBy, hobj, hreading]))
        rintro d ⟨⟩ hd
        exact absurd hd hreading

/-- A frame closes what is stored under the id that it names. -/
theorem finishes_agentFrame_iff (allows : List Str → Str → Bool) (frame : Bytes)
    (agent : Bool) : Finishes s (.call (.event (.agentFrame frame agent))) ↔
      EndsWell allows s (.call (.event (.agentFrame frame agent))) := by
  have hclose : ∀ id graceful,
      endedBy s.proxy (.call (.event (.agentFrame frame agent))) = s.proxy.withId id →
      endingCall allows s.proxy (.call (.event (.agentFrame frame agent))) =
        closeConnection s.proxy id graceful agent →
      ((∀ ref c, s.proxy.objects.lookup ref = some c → c.connectionId = id → c.sendBuffer = [] →
          ref ∉ s.withheld → GivenUp s.proxy ref c) ↔
        EndsWell allows s (.call (.event (.agentFrame frame agent)))) := by
    intro id graceful hends hstep
    rw [EndsWell, hends, hstep]
    constructor
    · intro h ref href hwithheld
      obtain ⟨c, hobj, rfl⟩ := mem_withId_iff.mp href
      exact (goneWhenEmpty_close_iff hobj graceful agent).mpr fun hempty =>
        h ref c hobj rfl hempty hwithheld
    · rintro h ref c hobj rfl hempty hwithheld
      have hgone := h ref (mem_withId_iff.mpr ⟨c, hobj, rfl⟩) hwithheld
      exact (goneWhenEmpty_close_iff hobj graceful agent).mp hgone hempty
  have hnone : (∀ id, decodeAgentFrame frame ≠ some (.close id)) →
      (∀ id, decodeAgentFrame frame ≠ some (.error id)) →
      endedBy s.proxy (.call (.event (.agentFrame frame agent))) = [] →
      (Finishes s (.call (.event (.agentFrame frame agent))) ↔
        EndsWell allows s (.call (.event (.agentFrame frame agent)))) := by
    intro hne hne' hends
    refine iff_of_true ?_ (endsWell_of_none allows hends)
    rintro id (hid | hid)
    · exact absurd hid (hne id)
    · exact absurd hid (hne' id)
  cases hframe : decodeAgentFrame frame with
  | none => exact hnone (by simp [hframe]) (by simp [hframe]) (by simp only [endedBy, namedBy, failedBy, hframe, List.append_nil])
  | some f =>
      cases f with
      | data id data length =>
          exact hnone (by simp [hframe]) (by simp [hframe]) (by simp only [endedBy, namedBy, failedBy, hframe, List.append_nil])
      | close id =>
          rw [← hclose id true (by simp only [endedBy, namedBy, failedBy, hframe, List.append_nil])
            (by simp only [endingCall, call, step, handleAgentTcpFrame, hframe])]
          simp only [Finishes, hframe, Option.some.injEq, AgentFrame.close.injEq, reduceCtorEq,
            or_false, forall_eq']
      | error id =>
          rw [← hclose id false (by simp only [endedBy, namedBy, failedBy, hframe, List.append_nil])
            (by simp only [endingCall, call, step, handleAgentTcpFrame, hframe, handleError])]
          simp only [Finishes, hframe, Option.some.injEq, AgentFrame.error.injEq, reduceCtorEq,
            false_or, forall_eq']

theorem finishes_updateWindow_iff (id : Str) (n : ℕ) :
    Finishes s (.call (.event (.updateWindow id n))) ↔
      EmptiesNone s (.call (.event (.updateWindow id n))) := by
  constructor
  · rintro h id' n' ref c ⟨⟩ hget
    exact h ref c hget
  · intro h ref c hget
    exact h id n ref c rfl hget

/-- The condition, call by call. -/
theorem finishes_iff (allows : List Str → Str → Bool) (e : EndingCall) :
    Finishes s e ↔ EmptiesNone s e ∧ EndsWell allows s e := by
  have hother : endedBy s.proxy e = [] → (∀ id n, e ≠ .call (.event (.updateWindow id n))) →
      EmptiesNone s e ∧ EndsWell allows s e :=
    fun hends hne => ⟨emptiesNone_of_ne hne, endsWell_of_none allows hends⟩
  cases e with
  | writeError ref i agent =>
      rw [and_iff_right (emptiesNone_of_ne (by simp))]
      exact finishes_writeError_iff allows ref i agent
  | call k =>
      cases k with
      | sendData id data agent => exact iff_of_true trivial (hother rfl (by simp))
      | receiveData id data => exact iff_of_true trivial (hother rfl (by simp))
      | event ev =>
          cases ev with
          | agentFrame frame agent =>
              rw [and_iff_right (emptiesNone_of_ne (by simp))]
              exact finishes_agentFrame_iff allows frame agent
          | clientEnd ref eof agent =>
              rw [and_iff_right (emptiesNone_of_ne (by simp))]
              exact finishes_clientEnd_iff allows ref eof agent
          | updateWindow id n =>
              rw [and_iff_left (endsWell_of_none allows rfl)]
              exact finishes_updateWindow_iff id n
          | _ => exact iff_of_true trivial (hother rfl (by simp))

end

/-! ## Runs -/

theorem closingCompletes_init : ClosingCompletes .init where
  gone := by simp [Endings.init]
  drained := by simp [Endings.init, TcpProxy.init]

/-- **Closing completes** throughout a run exactly if, whenever the end of a connection is
processed while its send buffer is empty, no other operation on its socket is outstanding and
it is stored under its own id, and no update empties the send buffer of a connection that is
closing or was ended. -/
theorem closing_completes_iff (allows : List Str → Str → Bool) (calls : List EndingCall) :
    Always (endingStep allows) ClosingCompletes .init calls ↔
      Along (endingStep allows) Finishes .init calls := by
  refine always_iff_along EndingInv (endingInv_step allows) (fun s e H P => ?_) endingInv_init
    closingCompletes_init
  rw [finishes_iff allows]
  constructor
  · exact fun P' => ⟨emptiesNone_of_completes P', endsWell_of_completes P'⟩
  · exact fun h => completes_step H P allows h.1 h.2

/-- `sampleEnv` opens a connection, and the agent closes it after the client has sent `sent`. -/
def sampleClosed (sent : Bytes) : List EndingCall :=
  [.call (.event (.create sampleEnv "db".toList)),
    .call (.sendData (connectionIdToString sampleEnv.uuid) sent (some true)),
    .call (.event (.agentFrame (TcpFrame.tcpClose sampleEnv.uuid 0).bytes true))]

/-- The connection after that. -/
def sampleClosedConnection (state : ConnectionState) (bytesSent : ℕ) : Connection :=
  { newConnection (connectionIdToString sampleEnv.uuid) "db".toList "10.0.0.1".toList 0 state with
    bytesSent := bytesSent
    reading := true }

/-- With a byte in the send buffer the connection is in `CLOSING`, and stays so when
`update_window` takes the byte; with none it is removed, but the read that is outstanding
keeps the socket open. -/
theorem not_closing_completes :
    ¬ Always (endingStep fun _ _ => false) ClosingCompletes .init (sampleClosed [65] ++
        [.call (.event (.updateWindow (connectionIdToString sampleEnv.uuid) 1))]) ∧
      ¬ Always (endingStep fun _ _ => false) ClosingCompletes .init (sampleClosed []) := by
  constructor
  · intro H
    have hdrained := H.2.2.2.2.drained 0 (sampleClosedConnection .closing 1) (by decide +kernel) rfl
    exact hdrained rfl
  · intro H
    have hgone := H.2.2.2.gone 0 (sampleClosedConnection .closed 0) (by decide +kernel)
      (by decide +kernel) (by decide +kernel) rfl
    exact absurd hgone.2.1 (by decide)

end Protogate.Proxy
