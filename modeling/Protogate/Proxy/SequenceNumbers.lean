import Protogate.Proxy.SendWindow
import Protogate.Wire.TcpCodec

/-!
# Sequence numbers

`send_data` numbers a TCP_DATA frame with `bytes_sent` less the length of its payload, in
32 bits.  As long as the agent of a connection is registered, every byte that is counted is
sent, so the number is the length of all the payloads before, and the payloads tile what
was accepted.

The connection is followed from its creation on, through calls for any connections and
whatever else happens at the proxy.

## Main definitions

* `dataFrames` — the TCP_DATA frames sent under an id.
* `returned` — what a call of `send_data` was given and what it returned.
* `Upload`, `uploadStep` — the proxy with the calls made for one connection.
* `AgentStays` — the agent is registered whenever something is sent for the connection.
* `sequence_numbers_tile` — the frames of the connection tile what was accepted.
-/

namespace Protogate.Proxy

open Protogate.Lib Protogate.Models Protogate.Wire

/-! ## Frames and calls -/

/-- The bytes given to `send_tcp_data`. -/
def TCPDataFrame.bytes (f : TCPDataFrame) : Bytes :=
  TcpProtocol.TCPDataFrame.serialize
    { connectionId := f.connectionId, sequenceNumber := f.sequenceNumber, data := f.data }

/-- The TCP_DATA frames sent under an id, in order. -/
def dataFrames (id : Str) (sent : List AgentSend) : List TCPDataFrame :=
  sent.filterMap fun
    | .tcpData _ id' frame _ => if id' = id then some frame else none
    | _ => none

/-- The total length of the payloads. -/
def totalLength (frames : List TCPDataFrame) : ℕ := (frames.map fun f => f.data.length).sum

/-- The data and the return value of the `send_data` for `id` in a call. -/
def returned (p : TcpProxy) (id : Str) : Call → Option (Bytes × ℕ)
  | .sendData id' data agent => if id' = id then some (data, (sendData p id data agent).1) else none
  | .event (.clientRead ref data agent) =>
      match p.objects.lookup ref with
      | none => none
      | some c =>
          if c.reading && c.connectionId = id then
            some (data, (sendData (p.update ref (·.finishRead data)) id data agent).1)
          else none
  | _ => none

/-- The accepted prefixes of the calls that accept something. -/
def acceptedBy (returns : List (Bytes × ℕ)) : List Bytes :=
  (returns.filter (0 < ·.2)).map fun r => r.1.take r.2

/-- The proxy, and the calls of `send_data` for one connection with what they returned. -/
structure Upload where
  proxy : TcpProxy
  returns : List (Bytes × ℕ)

def uploadStep (allows : List Str → Str → Bool) (id : Str) (s : Upload) (c : Call) : Upload where
  proxy := call allows s.proxy c
  returns := s.returns ++ (returned s.proxy id c).toList

/-- Whenever `send_data` is called for the connection its agent is registered, and no other
connection is given its id. -/
def AgentStays (id : Str) (p : TcpProxy) : Call → Prop
  | .sendData id' _ agent => id' = id → agent.isSome
  | .event (.clientRead ref _ agent) =>
      ∀ c ∈ p.objects.lookup ref, c.connectionId = id → agent.isSome
  | .event (.create env _) => connectionIdToString env.uuid ≠ id
  | _ => True

instance (id : Str) (p : TcpProxy) : (c : Call) → Decidable (AgentStays id p c)
  | .sendData id' _ agent => inferInstanceAs (Decidable (id' = id → agent.isSome))
  | .event (.clientRead ref _ agent) =>
      inferInstanceAs (Decidable (∀ c ∈ p.objects.lookup ref, c.connectionId = id → agent.isSome))
  | .event (.create env _) => inferInstanceAs (Decidable (connectionIdToString env.uuid ≠ id))
  | .receiveData _ _ | .event (.createByPort _ _ _ _) | .event (.clientEnd _ _ _)
  | .event (.writeDone _ _) | .event (.agentFrame _ _) | .event (.updateWindow _ _)
  | .event (.close _ _ _) => inferInstanceAs (Decidable True)

/-! ## Numbered segments -/

/-- Every payload is non-empty and numbered by the length of those before. -/
def Tiled (frames : List TCPDataFrame) : Prop :=
  ∀ k f, frames[k]? = some f →
    f.data ≠ [] ∧ f.sequenceNumber = UInt32.ofNat (totalLength (frames.take k))

theorem totalLength_append (frames frames' : List TCPDataFrame) :
    totalLength (frames ++ frames') = totalLength frames + totalLength frames' := by
  simp [totalLength]

theorem tiled_nil : Tiled [] := by
  intro k f hk
  simp at hk

/-- The next segment is numbered by the length of all the others. -/
theorem Tiled.concat {frames : List TCPDataFrame} (H : Tiled frames) {f : TCPDataFrame}
    (hdata : f.data ≠ []) (hnumber : f.sequenceNumber = UInt32.ofNat (totalLength frames)) :
    Tiled (frames ++ [f]) := by
  intro k g hk
  rw [List.getElem?_append] at hk
  split at hk
  · rename_i hlt
    rw [List.take_append_of_le_length (by omega)]
    exact H k g hk
  · rename_i hge
    obtain ⟨hzero, rfl⟩ : k - frames.length = 0 ∧ f = g := by
      simpa [List.getElem?_singleton] using hk
    have hk : k = frames.length := by omega
    rw [hk, List.take_left]
    exact ⟨hdata, hnumber⟩

/-- The sequence number is in bytes 17 to 20 of the frame. -/
theorem field_bytes (f : TCPDataFrame) : field 17 4 f.bytes = f.sequenceNumber.toNat := by
  rw [TCPDataFrame.bytes, TcpProtocol.TCPDataFrame.serialize]
  rw [field_append _ (by simp [TcpFrame.header]) (length_be 4 _), ofBe_be_of_lt (UInt32.toNat_lt _)]

/-! ## What leaves the connection alone -/

@[simp] theorem dataFrames_append (id : Str) (sent extra : List AgentSend) :
    dataFrames id (sent ++ extra) = dataFrames id sent ++ dataFrames id extra :=
  List.filterMap_append

/-- Nothing is sent in TCP_DATA frames under `id`, the counter of the object `ref` stays, and
neither `id` nor `ref` gets a new entry in the map. -/
structure Quiet (id : Str) (ref : ℕ) (p q : TcpProxy) : Prop where
  created : p.created ≤ q.created
  keys : ∀ id', q.connections.lookup id' = some ref → p.connections.lookup id' = some ref
  own : ∀ r, q.connections.lookup id = some r → p.connections.lookup id = some r
  counter : (windowAt q ref).map Window.total = (windowAt p ref).map Window.total
  sent : ∃ extra, q.sent = p.sent ++ extra ∧ dataFrames id extra = []

section
variable {id : Str} {ref : ℕ} {p q r : TcpProxy}

theorem Quiet.refl (p : TcpProxy) : Quiet id ref p p :=
  ⟨Nat.le_refl _, fun _ h => h, fun _ h => h, rfl, [], (List.append_nil _).symm, rfl⟩

theorem Quiet.trans (h : Quiet id ref p q) (h' : Quiet id ref q r) : Quiet id ref p r where
  created := Nat.le_trans h.created h'.created
  keys := fun id' hkey => h.keys id' (h'.keys id' hkey)
  own := fun r hkey => h.own r (h'.own r hkey)
  counter := h'.counter.trans h.counter
  sent := by
    obtain ⟨extra, hsent, hnone⟩ := h.sent
    obtain ⟨extra', hsent', hnone'⟩ := h'.sent
    exact ⟨extra ++ extra', by rw [hsent', hsent, List.append_assoc], by simp [hnone, hnone']⟩

/-- A change of another object, or of other fields. -/
theorem Quiet.update (p : TcpProxy) (r : ℕ) {f : Connection → Connection}
    (hf : r = ref → ∀ c, (f c).bytesSent = c.bytesSent) : Quiet id ref p (p.update r f) where
  created := by rw [created_update]
  keys := by simp
  own := by simp
  counter := by
    rw [windowAt_update]
    split
    · rename_i heq
      rw [windowAt, Option.map_map, Option.map_map]
      refine Option.map_congr fun c _ => ?_
      simpa [sendWindow] using hf heq.symm c
    · rfl
  sent := ⟨[], by simp, rfl⟩

theorem Quiet.erase (p : TcpProxy) (key : Str) :
    Quiet id ref p { p with connections := p.connections.erase key } :=
  ⟨Nat.le_refl _, fun _ h => (Assoc.lookup_of_lookup_erase h).2,
    fun _ h => (Assoc.lookup_of_lookup_erase h).2, rfl, [], (List.append_nil _).symm, rfl⟩

theorem Quiet.send (h : Quiet id ref p q) {a : AgentSend} (ha : dataFrames id [a] = []) :
    Quiet id ref p { q with sent := q.sent ++ [a] } := by
  refine h.trans ?_
  exact ⟨Nat.le_refl _, fun _ h => h, fun _ h => h, rfl, [a], rfl, ha⟩

theorem Quiet.addObject (hlt : ref < p.created) (c : Connection) :
    Quiet id ref p (p.addObject c) where
  created := Nat.le_succ _
  keys := fun _ h => h
  own := fun _ h => h
  counter := by rw [windowAt, windowAt, lookup_addObject, if_neg (Nat.ne_of_lt hlt)]
  sent := ⟨[], (List.append_nil _).symm, rfl⟩

/-- A new object under another key. -/
theorem Quiet.addKeyed (hlt : ref < p.created) (c : Connection) {key : Str} (hkey : key ≠ id) :
    Quiet id ref p { p.addObject c with connections := p.connections.insert key p.created } := by
  refine (Quiet.addObject hlt c).trans ⟨Nat.le_refl _, ?_, ?_, rfl, [], (List.append_nil _).symm, rfl⟩
  · intro id' h
    rw [Assoc.lookup_insert_ite] at h
    split at h
    · cases h
      exact absurd hlt (Nat.lt_irrefl _)
    · exact h
  · intro r h
    rwa [AList.lookup_insert_ne (Ne.symm hkey)] at h

theorem quiet_closeConnection (p : TcpProxy) (id' : Str) (graceful agent : Bool) :
    Quiet id ref p (closeConnection p id' graceful agent) := by
  refine closeConnection_rule (.refl p) ?_ ?_ ?_ graceful agent
  · exact fun r => .update p r fun _ _ => rfl
  · intro r
    have hclosed : Quiet id ref p (p.update r fun c => { c with state := .closed }) :=
      .update p r fun _ _ => rfl
    have herased := hclosed.trans (.erase _ id')
    rwa [connections_update] at herased
  · exact fun q t hq => hq.send rfl

theorem bytesSent_startWrite (c : Connection) : c.startWrite.bytesSent = c.bytesSent := by
  rw [Connection.startWrite]
  split <;> rfl

theorem quiet_agentFrame (p : TcpProxy) (frame : Bytes) (agent : Bool) :
    Quiet id ref p (handleAgentTcpFrame p frame agent) := by
  refine handleAgentTcpFrame_rule (.refl p) ?_ ?_ ?_
  · exact fun _ r _ _ => .update p r fun _ => bytesSent_startWrite
  · exact fun _ r _ data length _ =>
      .update p r fun _ c => bytesSent_startWrite (c.accept data length)
  · exact fun id' graceful => quiet_closeConnection p id' graceful agent

/-! ## Calls -/

/-- A call for another connection, when `ref` is found under `id` at most. -/
theorem quiet_sendData (hsole : ∀ id', p.connections.lookup id' = some ref → id' = id) {id' : Str}
    (hne : id' ≠ id) (data : Bytes) (agent : Option Bool) :
    Quiet id ref p (sendData p id' data agent).2 := by
  have hother : ∀ r c data, p.getConnection id' = some (r, c) →
      Quiet id ref p (p.update r (·.queue data)) := by
    intro r c data hget
    refine .update p r fun heq => ?_
    have hkey := (getConnection_eq_some_iff.mp hget).1
    exact absurd (hsole id' (heq ▸ hkey)) hne
  refine sendData_rule (.refl p) hother ?_ data agent
  intro r c data frame ok hget _
  refine (hother r c data hget).send ?_
  simp [dataFrames, hne]

/-- A call without a `send_data` for `id` is quiet. -/
theorem quiet_call (allows : List Str → Str → Bool)
    (hsole : ∀ id', p.connections.lookup id' = some ref → id' = id) (hlt : ref < p.created)
    {uuid : Wire.ConnectionId} (hid : id = connectionIdToString uuid) {c : Call}
    (hstays : AgentStays id p c) (hnone : returned p id c = none) :
    Quiet id ref p (call allows p c) := by
  cases c with
  | sendData id' data agent =>
      have hne : id' ≠ id := by
        intro heq
        simp [returned, heq] at hnone
      exact quiet_sendData hsole hne data agent
  | receiveData id' data =>
      exact receiveData_rule (.refl p) fun r c _ _ => .update p r fun _ _ => rfl
  | event e =>
      cases e with
      | create env t =>
          refine createConnection_rule (.refl p) (fun ip ok => ?_) (fun ip => .addObject hlt _) allows
          exact (Quiet.addKeyed hlt _ hstays).send (a := .tcpOpen _ _ _ ok) rfl
      | createByPort env order port digits =>
          have hkey : generateConnectionId digits ≠ id := hid ▸ generateConnectionId_ne digits uuid
          refine createConnectionByPort_rule (.refl p) (fun ip ok => ?_)
            (fun ip => .addKeyed hlt _ hkey) allows
          exact (Quiet.addKeyed hlt _ hkey).send (a := .tcpOpen _ _ _ ok) rfl
      | clientRead r data agent =>
          refine clientRead_rule (.refl p) fun c hobj hreading => ?_
          have hne : c.connectionId ≠ id := by
            intro heq
            simp [returned, hobj, hreading, heq] at hnone
          have hread : Quiet id ref p (p.update r (·.finishRead data)) := .update p r fun _ _ => rfl
          refine (hread.trans (quiet_sendData ?_ ?_ data agent)).trans (.update _ r fun _ _ => rfl)
          · simpa using hsole
          · exact hne
      | clientEnd r eof agent =>
          refine clientEnd_rule (.refl p) fun c _ _ => ?_
          have hend : Quiet id ref p (p.update r fun c => { c with reading := false }) :=
            .update p r fun _ _ => rfl
          exact hend.trans (quiet_closeConnection _ c.connectionId eof agent)
      | writeDone r i =>
          refine .update p r fun _ c => ?_
          split
          · rfl
          · rw [Connection.finishWrite, bytesSent_startWrite]
      | agentFrame frame agent => exact quiet_agentFrame p frame agent
      | updateWindow id' n => exact updateWindow_rule (.refl p) fun r c _ _ => .update p r fun _ _ => rfl
      | close id' graceful agent => exact quiet_closeConnection p id' graceful agent

/-- A call with a `send_data` for `id` is quiet before and after it. -/
theorem call_of_returned (allows : List Str → Str → Bool) {c : Call} (hstays : AgentStays id p c)
    {data : Bytes} {n : ℕ} (hsome : returned p id c = some (data, n)) :
    ∃ q agent, Quiet id ref p q ∧ agent.isSome ∧ n = (sendData q id data agent).1 ∧
      Quiet id ref (sendData q id data agent).2 (call allows p c) := by
  cases c with
  | sendData id' data' agent =>
      simp only [returned, Option.ite_none_right_eq_some, Option.some.injEq, Prod.mk.injEq] at hsome
      obtain ⟨rfl, rfl, rfl⟩ := hsome
      exact ⟨p, agent, .refl p, hstays rfl, rfl, .refl _⟩
  | receiveData id' data' => cases hsome
  | event e =>
      cases e with
      | clientRead r data' agent =>
          cases hobj : p.objects.lookup r with
          | none => simp [returned, hobj] at hsome
          | some c =>
              simp only [returned, hobj, Bool.and_eq_true, decide_eq_true_eq,
                Option.ite_none_right_eq_some, Option.some.injEq, Prod.mk.injEq] at hsome
              obtain ⟨⟨hreading, hid⟩, rfl, rfl⟩ := hsome
              refine ⟨p.update r (·.finishRead data'), agent, .update p r fun _ _ => rfl,
                hstays c hobj hid, rfl, ?_⟩
              simp only [call, step]
              rw [clientRead_eq hobj hreading]
              have hsame : (c.finishRead data').connectionId = id := hid
              rw [hsame]
              exact .update _ r fun _ _ => rfl
      | _ => cases hsome

/-! ## The invariant -/

/-- The TCP_DATA frames sent under `id` after the first `base` frames. -/
def framesSince (id : Str) (base : ℕ) (p : TcpProxy) : List TCPDataFrame :=
  dataFrames id (p.sent.drop base)

/-- The object `ref` is found under `id` if at all, and nothing else is; its counter is the
length of the payloads, which are numbered so and are what was accepted. -/
structure Tiles (id : Str) (ref base : ℕ) (p : TcpProxy) (returns : List (Bytes × ℕ)) : Prop where
  lt : ref < p.created
  sole : ∀ id', p.connections.lookup id' = some ref → id' = id
  own : ∀ r, p.connections.lookup id = some r → r = ref
  counter : (windowAt p ref).map Window.total = some (totalLength (framesSince id base p))
  base_le : base ≤ p.sent.length
  payloads : (framesSince id base p).map TCPDataFrame.data = acceptedBy returns
  tiled : Tiled (framesSince id base p)

theorem framesSince_append {base : ℕ} (hbase : base ≤ p.sent.length) {extra : List AgentSend}
    (hsent : q.sent = p.sent ++ extra) :
    framesSince id base q = framesSince id base p ++ dataFrames id extra := by
  rw [framesSince, hsent, List.drop_append_of_le_length hbase, dataFrames_append, framesSince]

theorem Tiles.quiet {base : ℕ} {returns : List (Bytes × ℕ)} (H : Tiles id ref base p returns)
    (h : Quiet id ref p q) : Tiles id ref base q returns := by
  obtain ⟨extra, hsent, hnone⟩ := h.sent
  have hframes : framesSince id base q = framesSince id base p := by
    rw [framesSince_append H.base_le hsent, hnone, List.append_nil]
  refine ⟨?_, fun id' hkey => H.sole id' (h.keys id' hkey), fun r hkey => H.own r (h.own r hkey),
    ?_, ?_, ?_, ?_⟩
  · exact Nat.lt_of_lt_of_le H.lt h.created
  · rw [h.counter, hframes, H.counter]
  · rw [hsent, List.length_append]
    have hle := H.base_le
    omega
  · rw [hframes, H.payloads]
  · rw [hframes]
    exact H.tiled

/-- A call that accepts `n` bytes sends them in one frame, one that accepts none sends none. -/
theorem Tiles.sendData {base : ℕ} {returns : List (Bytes × ℕ)} (H : Tiles id ref base p returns)
    (hparse : (stringToConnectionId id).isSome) (data : Bytes) {agent : Option Bool}
    (hagent : agent.isSome) :
    Tiles id ref base (sendData p id data agent).2
      (returns ++ [(data, (sendData p id data agent).1)]) := by
  obtain ⟨hsame, _⟩ | ⟨r, c, n, hget, _, hn, hpos, hcase⟩ := sendData_cases p id data agent
  · rw [hsame]
    refine ⟨H.lt, H.sole, H.own, H.counter, H.base_le, ?_, H.tiled⟩
    rw [H.payloads]
    simp [acceptedBy]
  obtain ⟨hkey, hobj⟩ := getConnection_eq_some_iff.mp hget
  obtain rfl := H.own r hkey
  obtain ⟨hnone, _⟩ | ⟨_, hnone, _⟩ | ⟨ok, uuid, _, _, hsend⟩ := hcase
  · rw [hnone] at hagent
    cases hagent
  · rw [hnone] at hparse
    cases hparse
  rw [hsend]
  have hlength : (data.take n).length = n := by
    rw [List.length_take]
    omega
  have hframes : framesSince id base { p.update r (·.queue (data.take n)) with
        sent := p.sent ++ [.tcpData c.tunnelId id ⟨uuid, UInt32.ofNat c.bytesSent, data.take n⟩ ok] } =
      framesSince id base p ++ [⟨uuid, UInt32.ofNat c.bytesSent, data.take n⟩] := by
    rw [framesSince_append (q := { p.update r (·.queue (data.take n)) with
      sent := p.sent ++ [.tcpData c.tunnelId id ⟨uuid, UInt32.ofNat c.bytesSent, data.take n⟩ ok] })
      H.base_le rfl]
    simp [dataFrames]
  have hcounter : c.bytesSent = totalLength (framesSince id base p) := by
    have hcount := H.counter
    rw [windowAt, hobj] at hcount
    exact Option.some.inj hcount
  refine ⟨?_, ?_, ?_, ?_, ?_, ?_, ?_⟩
  · simpa using H.lt
  · simpa using H.sole
  · simpa using H.own
  · rw [hframes, totalLength_append, ← hcounter]
    show (windowAt (p.update r (·.queue (data.take n))) r).map Window.total = _
    rw [windowAt_update, if_pos rfl, hobj]
    simp [sendWindow, Connection.queue, totalLength]
  · have hle := H.base_le
    simp only [List.length_append]
    omega
  · rw [hframes, List.map_append, H.payloads]
    simp [acceptedBy, hpos]
  · rw [hframes]
    refine H.tiled.concat ?_ ?_
    · intro hnil
      simp only at hnil
      rw [hnil] at hlength
      simp at hlength
      omega
    · rw [hcounter]

theorem tiles_step (allows : List Str → Str → Bool) {base : ℕ} {uuid : Wire.ConnectionId}
    (hid : id = connectionIdToString uuid) (s : Upload) (c : Call)
    (H : Tiles id ref base s.proxy s.returns) (hstays : AgentStays id s.proxy c) :
    Tiles id ref base (uploadStep allows id s c).proxy (uploadStep allows id s c).returns := by
  simp only [uploadStep]
  cases hcall : returned s.proxy id c with
  | none =>
      rw [Option.toList_none, List.append_nil]
      exact H.quiet (quiet_call allows H.sole H.lt hid hstays hcall)
  | some r =>
      obtain ⟨data, n⟩ := r
      obtain ⟨q, agent, hbefore, hagent, rfl, hafter⟩ := call_of_returned allows hstays hcall
      have hparse : (stringToConnectionId id).isSome := by
        rw [hid, stringToConnectionId_connectionIdToString]
        rfl
      rw [Option.toList_some]
      exact ((H.quiet hbefore).sendData hparse data hagent).quiet hafter

end

/-! ## From the creation on -/

/-- A new connection. -/
theorem tiles_create (allows : List Str → Str → Bool) {p : TcpProxy} (hp : Numbered p)
    {env : CreateEnv} (tunnelId : Str) (hadmitted : (admitClient allows env).isSome)
    (hagent : env.agent.isSome) :
    Tiles (connectionIdToString env.uuid) p.created (createConnection allows p env tunnelId).sent.length
      (createConnection allows p env tunnelId) [] := by
  obtain ⟨ip, hip⟩ := Option.isSome_iff_exists.mp hadmitted
  obtain ⟨ok, hok⟩ := Option.isSome_iff_exists.mp hagent
  simp only [createConnection, hip, hok]
  refine ⟨Nat.lt_succ_self _, ?_, ?_, ?_, Nat.le_refl _, ?_, ?_⟩
  · intro id' hkey
    rw [Assoc.lookup_insert_ite] at hkey
    split at hkey
    · assumption
    · exact absurd (hp.keys id' _ hkey) (Nat.lt_irrefl _)
  · intro r hkey
    rw [AList.lookup_insert] at hkey
    exact (Option.some.inj hkey).symm
  · simp [windowAt, lookup_addObject, framesSince, dataFrames, totalLength, sendWindow, newConnection]
  · simp [framesSince, dataFrames, acceptedBy]
  · simp [framesSince, dataFrames, tiled_nil]

theorem numbered_run (allows : List Str → Str → Bool) (calls : List Call) :
    Numbered (run (call allows) .init calls) :=
  run_invariant Numbered (fun _ c => numbered_call allows c) numbered_init

/-- What is accepted in no call that returns 0. -/
theorem flatten_acceptedBy (returns : List (Bytes × ℕ)) :
    (acceptedBy returns).flatten = (returns.map fun r => r.1.take r.2).flatten := by
  induction returns with
  | nil => rfl
  | cons r returns ih =>
      obtain ⟨data, n⟩ := r
      rw [List.map_cons, List.flatten_cons, ← ih, acceptedBy, List.filter_cons]
      cases n with
      | zero => simp [acceptedBy]
      | succ n => simp [acceptedBy]

/-- **The sequence numbers tile the stream.**  After a connection was created in any reachable
state, whatever calls follow: as long as its agent is registered, there is one TCP_DATA frame
for each `send_data` that returned a positive number, with the accepted prefix as its payload;
no payload is empty, and the sequence number of each frame is the length of the payloads before
it, modulo 2³². -/
theorem sequence_numbers_tile (allows : List Str → Str → Bool) (before : List Call)
    (env : CreateEnv) (tunnelId : Str) (hadmitted : (admitClient allows env).isSome)
    (hagent : env.agent.isSome) (calls : List Call) :
    let id := connectionIdToString env.uuid
    let p := createConnection allows (run (call allows) .init before) env tunnelId
    let s := run (uploadStep allows id) ⟨p, []⟩ calls
    let frames := dataFrames id (s.proxy.sent.drop p.sent.length)
    Along (uploadStep allows id) (fun s c => AgentStays id s.proxy c) ⟨p, []⟩ calls →
      s.proxy = run (call allows) p calls ∧
      frames.map TCPDataFrame.data = acceptedBy s.returns ∧
      (frames.map TCPDataFrame.data).flatten = (s.returns.map fun r => r.1.take r.2).flatten ∧
      ∀ k f, frames[k]? = some f → f.data ≠ [] ∧
        field 17 4 f.bytes = ((frames.take k).map fun g => g.data.length).sum % 2 ^ 32 := by
  intro id p s frames H
  have hproxy : s.proxy = run (call allows) p calls :=
    run_map (uploadStep allows id) Upload.proxy (fun _ _ => rfl) ⟨p, []⟩ calls
  have hcreated := tiles_create allows (numbered_run allows before) tunnelId hadmitted hagent
  have htiles : Tiles id _ p.sent.length s.proxy s.returns :=
    run_induction (fun s => Tiles id _ p.sent.length s.proxy s.returns)
      (fun s c hs hstays => tiles_step allows rfl s c hs hstays) hcreated H
  refine ⟨hproxy, htiles.payloads, ?_, ?_⟩
  · rw [← flatten_acceptedBy, ← htiles.payloads]
    rfl
  · intro k f hk
    obtain ⟨hdata, hnumber⟩ := htiles.tiled k f hk
    refine ⟨hdata, ?_⟩
    rw [field_bytes, hnumber]
    exact UInt32.toNat_ofNat

/-- Calls for the connection `sampleEnv` opens: two sends with an update between them. -/
def sampleCalls : List Call :=
  [.sendData (connectionIdToString sampleEnv.uuid) [65, 66] (some true),
    .event (.updateWindow (connectionIdToString sampleEnv.uuid) 2),
    .sendData (connectionIdToString sampleEnv.uuid) [67] (some true)]

/-- Two sends are two frames. -/
theorem sequence_numbers_tile_two :
    let p := createConnection (fun _ _ => false) .init sampleEnv "db".toList
    (dataFrames (connectionIdToString sampleEnv.uuid)
      ((run (uploadStep (fun _ _ => false) (connectionIdToString sampleEnv.uuid)) ⟨p, []⟩
        sampleCalls).proxy.sent.drop p.sent.length)).map TCPDataFrame.data = [[65, 66], [67]] :=
  (sequence_numbers_tile (fun _ _ => false) [] sampleEnv "db".toList rfl rfl sampleCalls
    (by decide +kernel)).2.1.trans (by decide +kernel)

end Protogate.Proxy
