import Protogate.Lib.Reader
import Protogate.Proxy.TcpProxy
import Protogate.Wire.Frames

/-!
# The read loop of the server

`start_read` looks at the first byte of each read.  If it is the type of a TCP
frame the whole read goes to `handle_agent_tcp_frame`, which acts on the frame at
its front; otherwise the whole read goes to nghttp2.  So two frames in one read, or
a frame in two, are not seen as such.

What happens is recorded with its position in the stream: the bytes given to
nghttp2, and the calls into the TCP proxy at the first byte of the read they come
from.  nghttp2 is a parameter: whether `nghttp2_session_mem_recv` and the
`nghttp2_session_send` after it succeed, given all the bytes fed so far.

## Main definitions

* `AgentReader`, `startRead` — one read.
* `stream`, `trace` — what the agent sends, and what should be made of it.
* `Aligned` — each read is a part of one frame that is enough of it.
* `serverDemultiplexed_iff` — the reads are demultiplexed exactly when aligned.
-/

namespace Protogate.Agent

open Protogate.Lib Protogate.Wire Protogate.Proxy

/-! ## One read -/

/-- What happens at a position of the stream. -/
abbrev Happening := ℕ × Delivery AgentFrame

/-- The part of an `AgentConnection` that reads: whether it reads on, whether
`tcp_frame_handler_` is set, `bytes_received_`, and what has happened. -/
structure AgentReader where
  reading : Bool
  tcpFrameHandler : Bool
  bytesReceived : ℕ
  log : List Happening
  deriving DecidableEq, Repr

/-- A connection whose handler is set; `create_connection` does so. -/
def AgentReader.init : AgentReader := ⟨true, true, 0, []⟩

/-- A read that starts with the type of a TCP frame. -/
def isTcpRead (data : Bytes) : Bool :=
  match data with
  | [] => false
  | b :: _ => isTcpType b

/-- Bytes from position `n` on. -/
def bytesAt (n : ℕ) (data : Bytes) : List Happening := (data.zipIdx n).map fun (b, i) => (i, .byte b)

/-- What is made of a read at position `n`. -/
def readAt (handler : Bool) (n : ℕ) (data : Bytes) : List Happening :=
  if isTcpRead data then
    if handler then (decodeAgentFrame data).toList.map fun frame => (n, .frame frame) else []
  else bytesAt n data

/-- The bytes nghttp2 has been fed. -/
def fed (log : List Happening) : Bytes := http2Bytes (log.map Prod.snd)

/-- The completion of one read without error; after a failure of nghttp2 no read
follows. -/
def startRead (recv send : Bytes → Bool) (s : AgentReader) (data : Bytes) : AgentReader :=
  if !s.reading then s
  else
    let log := s.log ++ readAt s.tcpFrameHandler s.bytesReceived data
    let received := isTcpRead data || data.isEmpty || recv (fed log)
    { s with
      reading := received && send (fed log)
      bytesReceived := s.bytesReceived + data.length
      log }

/-! ## The agent's stream -/

/-- The frames an agent sends to the server. -/
def FromAgent : TcpFrame → Prop
  | .tcpData _ _ _ _ | .tcpClose _ _ | .tcpError _ _ _ _ => True
  | .tcpOpen _ _ | .tcpAck _ _ _ => False

instance : DecidablePred FromAgent
  | .tcpData _ _ _ _ | .tcpClose _ _ | .tcpError _ _ _ _ => inferInstanceAs (Decidable True)
  | .tcpOpen _ _ | .tcpAck _ _ _ => inferInstanceAs (Decidable False)

/-- The call into the proxy that a frame asks for. -/
def action : TcpFrame → Option AgentFrame
  | .tcpData id _ data _ => some (.data (connectionIdToString id) data data.length)
  | .tcpClose id _ => some (.close (connectionIdToString id))
  | .tcpError id _ _ _ => some (.error (connectionIdToString id))
  | .tcpOpen _ _ | .tcpAck _ _ _ => none

/-- The stream as single bytes for nghttp2 and whole TCP frames. -/
def units (items : List (Item FromAgent)) : List (Delivery TcpFrame) :=
  items.flatMap fun
    | .http2 f => f.bytes.map .byte
    | .tcp f _ => [.frame f]

def unitBytes : Delivery TcpFrame → Bytes
  | .byte b => [b]
  | .frame f => f.bytes

/-- The bytes the agent sends. -/
def stream (items : List (Item FromAgent)) : Bytes := (units items).flatMap unitBytes

/-- What should be made of units from position `n` on. -/
def traceFrom : ℕ → List (Delivery TcpFrame) → List Happening
  | _, [] => []
  | n, .byte b :: us => (n, .byte b) :: traceFrom (n + 1) us
  | n, .frame f :: us =>
      (action f).toList.map (fun a => (n, .frame a)) ++ traceFrom (n + f.bytes.length) us

/-- What should be made of the stream: every TCP frame once, in order, and the other
bytes to nghttp2. -/
def trace (items : List (Item FromAgent)) : List Happening := traceFrom 0 (units items)

/-- nghttp2 takes every part of the HTTP/2 bytes of the stream. -/
def Accepts (recv send : Bytes → Bool) (items : List (Item FromAgent)) : Prop :=
  ∀ part, part <+: fed (trace items) → recv part = true ∧ send part = true

/-! ## Aligned reads -/

/-- How much of a frame is enough to act on it: all of a data frame, the connection
id of a close, and the header of an error. -/
def needed : TcpFrame → ℕ
  | .tcpClose _ _ => 17
  | .tcpError _ _ _ _ => 21
  | f => f.bytes.length

/-- The read is long enough to be acted on as the frame its first byte says. -/
def LongEnough (data : Bytes) : Prop :=
  17 ≤ data.length ∧
    (data.headD 0 = 0x11 ∧ 25 ≤ data.length ∧ (25 + field 21 4 data) % 2 ^ 32 ≤ data.length ∨
      data.headD 0 = 0x12 ∨ data.headD 0 = 0x13 ∧ 21 ≤ data.length)

/-- `Aligned pending us reads`: the reads cut what is `pending` of the last frame and
then `us` into
* HTTP/2 bytes that do not start with the type of a TCP frame,
* enough of a TCP frame, from its first byte on,
* more of a frame that has been acted on, which looks like the start of a TCP frame
  but is not long enough to be acted on. -/
inductive Aligned : Bytes → List (Delivery TcpFrame) → List Bytes → Prop
  | done : Aligned [] [] []
  | http2 {data : Bytes} {us : List (Delivery TcpFrame)} {reads : List Bytes}
      (hhead : isTcpRead data = false) (hrest : Aligned [] us reads) :
      Aligned [] (data.map .byte ++ us) (data :: reads)
  | start {f : TcpFrame} {data pending : Bytes} {us : List (Delivery TcpFrame)} {reads : List Bytes}
      (hcut : f.bytes = data ++ pending) (hneeded : needed f ≤ data.length)
      (hrest : Aligned pending us reads) : Aligned [] (.frame f :: us) (data :: reads)
  | tail {data pending : Bytes} {us : List (Delivery TcpFrame)} {reads : List Bytes}
      (hhead : isTcpRead data = true) (hshort : ¬ LongEnough data)
      (hrest : Aligned pending us reads) : Aligned (data ++ pending) us (data :: reads)

/-! ## What a read is taken for -/

/-- A read is acted on if and only if it is long enough. -/
theorem decodeAgentFrame_isSome_iff (data : Bytes) :
    (decodeAgentFrame data).isSome ↔ LongEnough data := by
  by_cases hlen : 17 ≤ data.length
  · obtain ⟨uuid, huuid⟩ := connectionIdOfBytes_of_length hlen
    simp only [decodeAgentFrame, if_neg (Nat.not_lt.mpr hlen), huuid, LongEnough, hlen, true_and]
    generalize data.headD 0 = b
    by_cases hdata : b = 0x11
    · subst hdata
      simp only [if_true]
      split_ifs <;> simp_all
    · by_cases hclose : b = 0x12
      · subst hclose
        simp
      · simp only [hdata, hclose, if_false, false_and, false_or]
        split_ifs <;> simp_all
  · simp [decodeAgentFrame, LongEnough, Nat.lt_of_not_le hlen, hlen]

/-- The header of a frame is read as its type and connection id. -/
theorem decodeAgentFrame_header (t : UInt8) (id : ConnectionId) (more : Bytes) :
    decodeAgentFrame (TcpFrame.header t id ++ more) =
      if t = 0x11 then
        if 8 ≤ more.length then
          if (25 + field 4 4 more) % 2 ^ 32 ≤ 17 + more.length then
            some (.data (connectionIdToString id) ((more.drop 8).take (field 4 4 more)) (field 4 4 more))
          else none
        else none
      else if t = 0x12 then some (.close (connectionIdToString id))
      else if t = 0x13 then if 4 ≤ more.length then some (.error (connectionIdToString id)) else none
      else none := by
  have hid : ((TcpFrame.header t id ++ more).drop 1).take 16 = id.toList := by
    rw [TcpFrame.header, List.cons_append, List.drop_one, List.tail_cons]
    exact List.take_left' (by simp)
  have hdrop : ∀ k, (TcpFrame.header t id ++ more).drop (17 + k) = more.drop k := by
    intro k
    rw [← List.drop_drop, List.drop_left' (TcpFrame.length_header t id)]
  have hfield : field 21 4 (TcpFrame.header t id ++ more) = field 4 4 more := by
    rw [field, hdrop 4, field]
  have hlen : (TcpFrame.header t id ++ more).length = 17 + more.length := by simp
  have hhead : (TcpFrame.header t id ++ more).headD 0 = t := rfl
  have hlong : ¬ 17 + more.length < 17 := by omega
  have hdata : 25 ≤ 17 + more.length ↔ 8 ≤ more.length := by omega
  have herror : 21 ≤ 17 + more.length ↔ 4 ≤ more.length := by omega
  simp only [decodeAgentFrame, hlen, hlong, if_false, hid, connectionIdOfBytes_toList, hhead,
    hfield, hdata, herror, hdrop 8]

/-- A part of a frame that has the header has it in front. -/
theorem header_of_cut {t : UInt8} {id : ConnectionId} {more data pending : Bytes}
    (hcut : TcpFrame.header t id ++ more = data ++ pending) (hlen : 17 ≤ data.length) :
    ∃ part, data = TcpFrame.header t id ++ part ∧ more = part ++ pending := by
  rcases List.append_eq_append_iff.mp hcut with ⟨part, hdata, hmore⟩ | ⟨part, hheader, hpending⟩
  · exact ⟨part, hdata, hmore⟩
  · have hsum := congrArg List.length hheader
    rw [TcpFrame.length_header, List.length_append] at hsum
    have hnil : part = [] := List.eq_nil_of_length_eq_zero (by omega)
    subst hnil
    rw [List.append_nil] at hheader
    exact ⟨[], by rw [List.append_nil, hheader], hpending.symm⟩

/-- A part of a data frame is taken for the frame if it is all of it. -/
theorem decodeAgentFrame_data (id : ConnectionId) (seq : UInt32) {payload part pending : Bytes}
    (hlt : payload.length < 2 ^ 32)
    (hpart : be 4 seq.toNat ++ (be 4 payload.length ++ payload) = part ++ pending) :
    decodeAgentFrame (TcpFrame.header 0x11 id ++ part) =
        some (.data (connectionIdToString id) payload payload.length) ↔
      8 + payload.length ≤ part.length := by
  have hsum := congrArg List.length hpart
  simp only [List.length_append, length_be] at hsum
  rw [decodeAgentFrame_header, if_pos rfl]
  constructor
  · intro hdecode
    split_ifs at hdecode with hhead hall
    have hpayload := congrArg List.length (AgentFrame.data.inj (Option.some.inj hdecode)).2.1
    rw [List.length_take, List.length_drop] at hpayload
    omega
  · intro hall
    have hnil : pending = [] := List.eq_nil_of_length_eq_zero (by omega)
    rw [hnil, List.append_nil] at hpart
    subst hpart
    have hfield : field 4 4 (be 4 seq.toNat ++ (be 4 payload.length ++ payload)) = payload.length := by
      rw [field_append _ (by simp) (by simp), ofBe_be_of_lt (by omega)]
    have hdrop : (be 4 seq.toNat ++ (be 4 payload.length ++ payload)).drop 8 = payload := by
      rw [← List.append_assoc]
      exact List.drop_left' (by simp)
    have hmod : (25 + payload.length) % 2 ^ 32 ≤ 25 + payload.length := Nat.mod_le _ _
    have hlong : (be 4 seq.toNat ++ (be 4 payload.length ++ payload)).length = 8 + payload.length := by
      simp only [List.length_append, length_be]
      omega
    rw [hfield, hdrop, List.take_length, hlong, if_pos (by omega), if_pos (by omega)]

theorem le_needed (f : TcpFrame) : 17 ≤ needed f := by
  cases f <;> simp [needed, TcpFrame.bytes]

theorem exists_action {f : TcpFrame} (hf : FromAgent f) : ∃ a, action f = some a := by
  cases f <;> first | exact hf.elim | exact ⟨_, rfl⟩

/-- **A part of a frame is taken for the frame** if and only if it is enough of it. -/
theorem decodeAgentFrame_cut {f : TcpFrame} (hf : FromAgent f) {data pending : Bytes}
    (hcut : f.bytes = data ++ pending) :
    decodeAgentFrame data = action f ↔ needed f ≤ data.length := by
  by_cases hlen : 17 ≤ data.length
  · cases f with
    | tcpOpen id port => exact hf.elim
    | tcpAck id ack window => exact hf.elim
    | tcpClose id reason =>
        obtain ⟨part, rfl, _⟩ := header_of_cut hcut hlen
        rw [decodeAgentFrame_header]
        simp [action, needed]
    | tcpError id code message hlt =>
        obtain ⟨part, rfl, _⟩ := header_of_cut hcut hlen
        rw [decodeAgentFrame_header]
        have hpart : 21 ≤ 17 + part.length ↔ 4 ≤ part.length := by omega
        simp [action, needed, hpart]
    | tcpData id seq payload hlt =>
        obtain ⟨part, rfl, hpart⟩ := header_of_cut hcut hlen
        have hneeded : needed (.tcpData id seq payload hlt) = 25 + payload.length := by
          simp [needed, TcpFrame.bytes]
          omega
        rw [action, decodeAgentFrame_data id seq hlt hpart, hneeded, List.length_append,
          TcpFrame.length_header]
        omega
  · -- too short for the connection id
    obtain ⟨a, ha⟩ := exists_action hf
    have hneeded := le_needed f
    have hnone : decodeAgentFrame data = none := by
      rw [decodeAgentFrame, if_pos (by omega)]
    rw [hnone, ha]
    constructor
    · intro h
      cases h
    · intro h
      omega

/-! ## Positions -/

/-- What the reads say from position `n` on. -/
def readLog (n : ℕ) (reads : List Bytes) : List Happening :=
  emitted (readAt true) List.length n reads

theorem le_of_mem_bytesAt {n : ℕ} {data : Bytes} {x : Happening} (hx : x ∈ bytesAt n data) :
    n ≤ x.1 := by
  obtain ⟨⟨b, i⟩, hmem, rfl⟩ := List.mem_map.mp hx
  exact (List.mem_zipIdx hmem).1

theorem le_of_mem_readAt {n : ℕ} {data : Bytes} {x : Happening} (hx : x ∈ readAt true n data) :
    n ≤ x.1 := by
  unfold readAt at hx
  split at hx
  · rw [if_pos rfl] at hx
    obtain ⟨a, _, rfl⟩ := List.mem_map.mp hx
    exact le_refl _
  · exact le_of_mem_bytesAt hx

/-- Nothing happens before the position of the first read. -/
theorem le_of_mem_readLog {n : ℕ} {reads : List Bytes} {x : Happening} (hx : x ∈ readLog n reads) :
    n ≤ x.1 := by
  induction reads generalizing n with
  | nil => simp [readLog] at hx
  | cons data reads ih =>
      rcases List.mem_append.mp hx with hx | hx
      · exact le_of_mem_readAt hx
      · have hle : n + data.length ≤ x.1 := ih hx
        omega

/-- The first thing that should happen. -/
theorem traceFrom_ne_nil {n : ℕ} {us : List (Delivery TcpFrame)} (hus : us ≠ [])
    (hfrom : ∀ f, .frame f ∈ us → FromAgent f) : ∃ d rest, traceFrom n us = (n, d) :: rest := by
  cases us with
  | nil => exact absurd rfl hus
  | cons u us =>
      cases u with
      | byte b => exact ⟨_, _, rfl⟩
      | frame f =>
          obtain ⟨a, ha⟩ := exists_action (hfrom f List.mem_cons_self)
          exact ⟨.frame a, traceFrom (n + f.bytes.length) us, by rw [traceFrom, ha]; rfl⟩

/-- What happens from a later position on does not start with what should happen
first, and there is nothing else to expect only at the end. -/
theorem eq_nil_of_readLog_eq {n m : ℕ} {reads : List Bytes} {us : List (Delivery TcpFrame)}
    (h : readLog m reads = traceFrom n us) (hlt : n < m) (hfrom : ∀ f, .frame f ∈ us → FromAgent f) :
    us = [] := by
  by_contra hne
  obtain ⟨d, rest, hrest⟩ := traceFrom_ne_nil (n := n) hne hfrom
  have hmem : (n, d) ∈ readLog m reads := by
    rw [h, hrest]
    exact List.mem_cons_self
  have hle := le_of_mem_readLog hmem
  omega

theorem unitBytes_ne_nil (u : Delivery TcpFrame) : unitBytes u ≠ [] := by
  cases u with
  | byte b => exact List.cons_ne_nil _ _
  | frame f => exact f.bytes_ne_nil

theorem bytesAt_cons (n : ℕ) (b : UInt8) (data : Bytes) :
    bytesAt n (b :: data) = (n, .byte b) :: bytesAt (n + 1) data := by
  simp [bytesAt, List.zipIdx_cons]

theorem traceFrom_bytes (n : ℕ) (data : Bytes) (us : List (Delivery TcpFrame)) :
    traceFrom n (data.map .byte ++ us) = bytesAt n data ++ traceFrom (n + data.length) us := by
  induction data generalizing n with
  | nil => rfl
  | cons b data ih =>
      rw [List.map_cons, List.cons_append, traceFrom, ih, bytesAt_cons, List.cons_append,
        List.length_cons, Nat.add_right_comm]
      rfl

/-- If bytes happen, these bytes are what comes next. -/
theorem units_of_bytesAt {n : ℕ} {data : Bytes} {us : List (Delivery TcpFrame)}
    {later : List Happening} (hfrom : ∀ f, .frame f ∈ us → FromAgent f)
    (h : bytesAt n data ++ later = traceFrom n us) :
    ∃ us', us = data.map .byte ++ us' ∧ later = traceFrom (n + data.length) us' := by
  induction data generalizing n us with
  | nil => exact ⟨us, rfl, h⟩
  | cons b data ih =>
      rw [bytesAt_cons, List.cons_append] at h
      cases us with
      | nil => cases h
      | cons u us =>
          cases u with
          | byte c =>
              rw [traceFrom, List.cons.injEq] at h
              obtain ⟨us', hus, hlater⟩ := ih (fun f hf => hfrom f (List.mem_cons_of_mem _ hf)) h.2
              have hbyte : c = b := by simpa using h.1.symm
              subst hbyte
              refine ⟨us', by rw [hus]; rfl, ?_⟩
              rw [hlater, List.length_cons, Nat.add_right_comm, Nat.add_assoc]
          | frame f =>
              obtain ⟨a, ha⟩ := exists_action (hfrom f List.mem_cons_self)
              rw [traceFrom, ha] at h
              cases h

/-! ## Aligned reads -/

theorem readAt_of_not_tcp {data : Bytes} (h : isTcpRead data = false) (n : ℕ) :
    readAt true n data = bytesAt n data := by
  simp only [readAt, h, Bool.false_eq_true, if_false]

theorem readAt_of_tcp {data : Bytes} (h : isTcpRead data = true) (n : ℕ) :
    readAt true n data = (decodeAgentFrame data).toList.map fun a => (n, .frame a) := by
  simp only [readAt, h, if_true]

theorem isTcpRead_of_cut {f : TcpFrame} {data pending : Bytes} (hcut : f.bytes = data ++ pending)
    (hne : data ≠ []) : isTcpRead data = true := by
  obtain ⟨b, rest, hbytes, hb⟩ := isTcpType_head f
  cases data with
  | nil => exact absurd rfl hne
  | cons c data =>
      rw [hbytes, List.cons_append, List.cons.injEq] at hcut
      rw [isTcpRead, ← hcut.1, hb]

/-- Aligned reads say what should be made of the stream. -/
theorem readLog_of_aligned {pending : Bytes} {us : List (Delivery TcpFrame)} {reads : List Bytes}
    (H : Aligned pending us reads) (hfrom : ∀ f, .frame f ∈ us → FromAgent f) (n : ℕ) :
    readLog n reads = traceFrom (n + pending.length) us := by
  induction H generalizing n with
  | done => rfl
  | @http2 data us reads hhead _ ih =>
      have hrest := ih (fun f hf => hfrom f (List.mem_append_right _ hf)) (n + data.length)
      rw [readLog, emitted_cons, readAt_of_not_tcp hhead, ← readLog, hrest]
      exact (traceFrom_bytes n data us).symm
  | @start f data pending us reads hcut hneeded _ ih =>
      have hf := hfrom f List.mem_cons_self
      have hne : data ≠ [] := by
        intro hnil
        have hle := le_needed f
        rw [hnil, List.length_nil] at hneeded
        omega
      have hrest := ih (fun g hg => hfrom g (List.mem_cons_of_mem _ hg)) (n + data.length)
      rw [readLog, emitted_cons, readAt_of_tcp (isTcpRead_of_cut hcut hne),
        (decodeAgentFrame_cut hf hcut).mpr hneeded, ← readLog, hrest, List.length_nil, Nat.add_zero,
        traceFrom, hcut, List.length_append, Nat.add_assoc]
  | @tail data pending us reads hhead hshort _ ih =>
      have hnone : decodeAgentFrame data = none := by
        rwa [← decodeAgentFrame_isSome_iff, Option.not_isSome_iff_eq_none] at hshort
      rw [readLog, emitted_cons, readAt_of_tcp hhead, hnone, ← readLog, ih hfrom,
        List.length_append, Nat.add_assoc]
      rfl

/-- Whatever a nonempty read says, it says at its first byte. -/
theorem readAt_eq_nil_or {n : ℕ} {data : Bytes} (hne : data ≠ []) :
    (isTcpRead data = true ∧ decodeAgentFrame data = none ∧ readAt true n data = []) ∨
      ∃ d rest, readAt true n data = (n, d) :: rest := by
  by_cases htcp : isTcpRead data = true
  · rw [readAt_of_tcp htcp]
    cases hdecode : decodeAgentFrame data with
    | none => exact .inl ⟨htcp, rfl, rfl⟩
    | some a => exact .inr ⟨_, _, rfl⟩
  · rw [readAt_of_not_tcp (by simpa using htcp)]
    cases data with
    | nil => exact absurd rfl hne
    | cons b data => exact .inr ⟨_, _, bytesAt_cons n b data⟩

/-- A read within a part of the stream leaves the rest of that part. -/
theorem exists_rest {data before later after : Bytes} (h : data ++ later = before ++ after)
    (hle : data.length ≤ before.length) : ∃ rest, before = data ++ rest ∧ later = rest ++ after := by
  rcases List.append_eq_append_iff.mp h with ⟨rest, hbefore, hlater⟩ | ⟨rest, hdata, hafter⟩
  · exact ⟨rest, hbefore, hlater⟩
  · have hnil : rest = [] := by
      have hsum := congrArg List.length hdata
      rw [List.length_append] at hsum
      exact List.eq_nil_of_length_eq_zero (by omega)
    subst hnil
    exact ⟨[], by rw [List.append_nil, hdata, List.append_nil], by rw [hafter]; rfl⟩

section
variable {n : ℕ} {data : Bytes} {reads : List Bytes}

/-- If after a read of a part of the stream comes what should follow the part, the
read is within the part. -/
theorem exists_rest_of_readLog {part : Bytes} {us : List (Delivery TcpFrame)} (hne : data ≠ [])
    (hfrom : ∀ f, .frame f ∈ us → FromAgent f)
    (hflat : data ++ reads.flatten = part ++ us.flatMap unitBytes)
    (h : readLog (n + data.length) reads = traceFrom (n + part.length) us) :
    ∃ rest, part = data ++ rest ∧ reads.flatten = rest ++ us.flatMap unitBytes ∧
      readLog (n + data.length) reads = traceFrom (n + data.length + rest.length) us := by
  have hpos : 0 < data.length := List.length_pos_of_ne_nil hne
  have hle : data.length ≤ part.length := by
    by_contra hlong
    have hnil := eq_nil_of_readLog_eq h (by omega) hfrom
    rw [hnil, List.flatMap_nil, List.append_nil] at hflat
    have hsum := congrArg List.length hflat
    rw [List.length_append] at hsum
    omega
  obtain ⟨rest, hpart, hlater⟩ := exists_rest hflat hle
  refine ⟨rest, hpart, hlater, ?_⟩
  rw [h, hpart, List.length_append, Nat.add_assoc]

/-- The reads after this one are aligned if they say what should be made of the rest. -/
def AlignedAfter (reads : List Bytes) : Prop :=
  ∀ {pending : Bytes} {us : List (Delivery TcpFrame)} {n : ℕ},
    (∀ f, .frame f ∈ us → FromAgent f) → reads.flatten = pending ++ us.flatMap unitBytes →
      readLog n reads = traceFrom (n + pending.length) us → Aligned pending us reads

/-- A read at the start of a unit. -/
theorem aligned_cons_start {us : List (Delivery TcpFrame)} (hne : data ≠ [])
    (hafter : AlignedAfter reads) (hfrom : ∀ f, .frame f ∈ us → FromAgent f)
    (hflat : data ++ reads.flatten = us.flatMap unitBytes)
    (h : readAt true n data ++ readLog (n + data.length) reads = traceFrom n us) :
    Aligned [] us (data :: reads) := by
  have hpos : 0 < data.length := List.length_pos_of_ne_nil hne
  by_cases htcp : isTcpRead data = true
  · rw [readAt_of_tcp htcp] at h
    cases hdecode : decodeAgentFrame data with
    | none =>
        rw [hdecode] at h
        have hnil := eq_nil_of_readLog_eq h (by omega) hfrom
        rw [hnil] at hflat
        exact absurd (List.append_eq_nil_iff.mp hflat).1 hne
    | some a =>
        rw [hdecode] at h
        cases us with
        | nil => cases h
        | cons u us =>
            cases u with
            | byte b => cases h
            | frame f =>
                have hf := hfrom f List.mem_cons_self
                have hus : ∀ g, .frame g ∈ us → FromAgent g :=
                  fun g hg => hfrom g (List.mem_cons_of_mem _ hg)
                obtain ⟨a', ha'⟩ := exists_action hf
                rw [traceFrom, ha'] at h
                obtain ⟨hhead, hlog⟩ := List.cons.inj h
                have haction : decodeAgentFrame data = action f := by
                  rw [hdecode, ha']
                  simpa using hhead
                rw [List.flatMap_cons] at hflat
                obtain ⟨rest, hcut, hrest, hlog⟩ := exists_rest_of_readLog hne hus hflat hlog
                exact .start hcut ((decodeAgentFrame_cut hf hcut).mp haction) (hafter hus hrest hlog)
  · have hhead : isTcpRead data = false := by simpa using htcp
    rw [readAt_of_not_tcp hhead] at h
    obtain ⟨us', rfl, hlog⟩ := units_of_bytesAt hfrom h
    have hbytes : (data.map Delivery.byte ++ us').flatMap unitBytes =
        data ++ us'.flatMap unitBytes := by
      simp [List.flatMap_map, unitBytes]
    rw [hbytes, List.append_cancel_left_eq] at hflat
    exact .http2 hhead (hafter (fun f hf => hfrom f (List.mem_append_right _ hf)) hflat hlog)

/-- A read that starts within a frame. -/
theorem aligned_cons_tail {pending : Bytes} {us : List (Delivery TcpFrame)} (hne : data ≠ [])
    (hpending : pending ≠ []) (hafter : AlignedAfter reads)
    (hfrom : ∀ f, .frame f ∈ us → FromAgent f)
    (hflat : data ++ reads.flatten = pending ++ us.flatMap unitBytes)
    (h : readAt true n data ++ readLog (n + data.length) reads =
      traceFrom (n + pending.length) us) : Aligned pending us (data :: reads) := by
  have hpos : 0 < pending.length := List.length_pos_of_ne_nil hpending
  rcases readAt_eq_nil_or (n := n) hne with ⟨htcp, hdecode, hnone⟩ | ⟨d, rest, hsome⟩
  · rw [hnone] at h
    obtain ⟨rest, rfl, hrest, hlog⟩ := exists_rest_of_readLog hne hfrom hflat h
    refine .tail htcp ?_ (hafter hfrom hrest hlog)
    rw [← decodeAgentFrame_isSome_iff, hdecode]
    simp
  · rw [hsome] at h
    cases us with
    | nil => cases h
    | cons u us =>
        obtain ⟨d', rest', hfirst⟩ := traceFrom_ne_nil (n := n + pending.length)
          (List.cons_ne_nil u us) hfrom
        rw [hfirst] at h
        have hposition : n = n + pending.length := congrArg Prod.fst (List.cons.inj h).1
        omega

end

/-- Only aligned reads say what should be made of the stream. -/
theorem aligned_of_readLog {reads : List Bytes} (hreads : ∀ data ∈ reads, data ≠ []) :
    AlignedAfter reads := by
  induction reads with
  | nil =>
      intro pending us n hfrom hflat h
      obtain ⟨hpending, hus⟩ := List.append_eq_nil_iff.mp hflat.symm
      have hnone : us = [] := by
        cases us with
        | nil => rfl
        | cons u us =>
            rw [List.flatMap_cons] at hus
            exact absurd (List.append_eq_nil_iff.mp hus).1 (unitBytes_ne_nil u)
      rw [hpending, hnone]
      exact .done
  | cons data reads ih =>
      intro pending us n hfrom hflat h
      have hne : data ≠ [] := hreads data List.mem_cons_self
      have hafter : AlignedAfter reads := ih fun d hd => hreads d (List.mem_cons_of_mem _ hd)
      rw [List.flatten_cons] at hflat
      rw [readLog, emitted_cons, ← readLog] at h
      by_cases hpending : pending = []
      · subst hpending
        exact aligned_cons_start hne hafter hfrom hflat h
      · exact aligned_cons_tail hne hpending hafter hfrom hflat h

/-! ## Runs of reads -/

theorem fromAgent_units (items : List (Item FromAgent)) :
    ∀ f, .frame f ∈ units items → FromAgent f := by
  intro f hf
  obtain ⟨item, _, hitem⟩ := List.mem_flatMap.mp hf
  cases item with
  | http2 g => simp at hitem
  | tcp g hg =>
      have heq : f = g := by simpa using hitem
      rwa [heq]

theorem log_startRead (recv send : Bytes → Bool) {s : AgentReader} (hreading : s.reading = true)
    (data : Bytes) :
    (startRead recv send s data).log = s.log ++ readAt s.tcpFrameHandler s.bytesReceived data := by
  simp only [startRead, hreading, Bool.not_true, Bool.false_eq_true, if_false]

/-- Reading is cut short only by nghttp2. -/
theorem reader_startRead {recv send : Bytes → Bool} {items : List (Item FromAgent)}
    (haccept : Accepts recv send items) :
    Reader (startRead recv send) (fun s => s.reading = true ∧ s.tcpFrameHandler = true)
      AgentReader.log AgentReader.bytesReceived (readAt true) List.length (trace items) where
  log_step := by
    rintro s data ⟨hreading, hhandler⟩
    rw [log_startRead recv send hreading, hhandler]
  position_step := by
    rintro s data ⟨hreading, _⟩
    simp only [startRead, hreading, Bool.not_true, Bool.false_eq_true, if_false]
  log_mono := by
    intro s data
    by_cases hreading : s.reading = true
    · rw [log_startRead recv send hreading]
      exact List.prefix_append _ _
    · simp [startRead, hreading]
  active_step := by
    rintro s data ⟨hreading, hhandler⟩ ⟨later, hpart⟩
    have hfed : fed (startRead recv send s data).log <+: fed (trace items) := by
      rw [← hpart, fed, fed, List.map_append, http2Bytes_append]
      exact List.prefix_append _ _
    obtain ⟨hrecv, hsend⟩ := haccept _ hfed
    rw [log_startRead recv send hreading, hhandler] at hrecv hsend
    simp only [startRead, hreading, Bool.not_true, Bool.false_eq_true, if_false, hrecv, hsend,
      Bool.or_true, Bool.and_true, hhandler, and_self]

/-- **When the server demultiplexes.**  Whatever the agent sends, and however it
arrives in reads, every TCP frame is acted on once and in order and nghttp2 gets
exactly the HTTP/2 bytes, if and only if the reads are aligned. -/
theorem serverDemultiplexed_iff (recv send : Bytes → Bool) (items : List (Item FromAgent))
    (haccept : Accepts recv send items) (reads : List Bytes) (hreads : ∀ data ∈ reads, data ≠ [])
    (hflat : reads.flatten = stream items) :
    (run (startRead recv send) AgentReader.init reads).log = trace items ↔
      Aligned [] (units items) reads := by
  have hrun := (reader_startRead haccept).run_log_iff (s := .init) ⟨rfl, rfl⟩ reads
  rw [hrun]
  constructor
  · intro h
    exact aligned_of_readLog hreads (fromAgent_units items) hflat h
  · intro h
    exact readLog_of_aligned h (fromAgent_units items) 0

/-- A TCP_CLOSE frame for the connection id 00…00. -/
def sampleClose : Item FromAgent := .tcp (.tcpClose (Vector.replicate 16 0) 0) trivial

/-- The SETTINGS frame with which the agent opens its HTTP/2 connection: a hundred streams. -/
def agentSettings : Item FromAgent := .http2 ⟨4, 0, 0, [0, 3, 0, 0, 0, 100], by decide⟩

/-- A TCP_ERROR frame for the same connection, with a message of two bytes. -/
def sampleError : Item FromAgent :=
  .tcp (.tcpError (Vector.replicate 16 0) 3 [66, 16] (by decide)) trivial

/-- Two frames with the SETTINGS between them.  The last byte of the second frame comes in a
read of its own; it is the type of a frame and too short for one. -/
theorem serverDemultiplexed_iff_mixed :
    (run (startRead (fun _ => true) fun _ => true) AgentReader.init
      [stream [sampleClose], stream [agentSettings], (stream [sampleError]).take 22, [16]]).log =
        trace [sampleClose, agentSettings, sampleError] := by
  have hend : Aligned [16] [] [[16]] :=
    @Aligned.tail [16] [] [] [] (by decide) (fun h => absurd h.1 (by decide)) .done
  have herror : Aligned [] (units [sampleError]) [(stream [sampleError]).take 22, [16]] :=
    .start (by decide) (by decide) hend
  have hclose : needed (.tcpClose (Vector.replicate 16 0) 0) ≤ (stream [sampleClose]).length := by
    decide
  have haligned : Aligned [] (units [sampleClose, agentSettings, sampleError])
      [stream [sampleClose], stream [agentSettings], (stream [sampleError]).take 22, [16]] :=
    .start (List.append_nil _).symm hclose (.http2 (by decide) herror)
  exact (serverDemultiplexed_iff (fun _ => true) (fun _ => true)
    [sampleClose, agentSettings, sampleError] (fun _ _ => ⟨rfl, rfl⟩) _ (by decide)
    (by decide)).mpr haligned

/-- Of two frames in one read the second is not acted on. -/
theorem not_serverDemultiplexed_two :
    ¬ ∀ (recv send : Bytes → Bool) (items : List (Item FromAgent)) (reads : List Bytes),
      Accepts recv send items → reads.flatten = stream items →
        (∀ data ∈ reads, 1 ≤ data.length ∧ data.length ≤ 16384) →
          (run (startRead recv send) AgentReader.init reads).log = trace items := by
  intro H
  have hlog := H (fun _ => true) (fun _ => true) [sampleClose, sampleClose]
    [stream [sampleClose, sampleClose]] (fun _ _ => ⟨rfl, rfl⟩) (by decide) (by decide)
  exact absurd hlog (by decide)

end Protogate.Agent
