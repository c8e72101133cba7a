import Protogate.Lib.Framing
import Protogate.Lib.Reader
import Protogate.Wire.Frames
import Mathlib.Data.List.Chain

/-!
# The read loop of the agent

`handle_read` gets the bytes of one read.  If the first byte looks like the type
of a TCP frame it takes whole TCP frames off the front; what is left goes to
nghttp2.  Nothing is kept for the next read, so the outcome depends on where the
server's stream is cut.

nghttp2 is a parameter: whether `nghttp2_session_mem_recv` and the
`nghttp2_session_send` after it succeed, given all the bytes fed so far.  Calls of the
logger are taken to return.

## Main definitions

* `frameSize`, `processTcpFrames` — the splitter.
* `Session`, `handleRead` — one read.
* `stream`, `trace` — what the server sends, and what should be made of it.
* `Separated` — each read holds TCP frames first, then HTTP/2 bytes.
* `demultiplexed_iff` — the reads are demultiplexed exactly when separated.
-/

namespace Protogate.TunnelAgent

open Protogate.Lib Protogate.Wire

/-! ## The splitter -/

/-- The size of the TCP frame at the front, or 0 if it is not known yet, refused,
or the first byte is not a frame type. -/
def frameSize (current : Bytes) : ℕ :=
  match current with
  | [] => 0
  | type :: _ =>
      if type = 0x10 then 19
      else if type = 0x11 then
        if 25 ≤ current.length then
          -- the sanity check on the length
          if 65536 < field 21 4 current then 0 else 25 + field 21 4 current
        else 0
      else if type = 0x12 then 19
      else if type = 0x13 then
        if 21 ≤ current.length then 21 + field 19 2 current else 0
      else if type = 0x14 then 25
      else 0

/-- The frames given to `handle_tcp_frame`, and the bytes not consumed. -/
def processTcpFrames (data : Bytes) : List Bytes × Bytes := splitFrames frameSize data.length data

/-! ## One read -/

/-- Whether the session still reads, and what it has delivered: TCP frames to
`handle_tcp_frame`, bytes to nghttp2. -/
structure Session where
  active : Bool
  log : List (Delivery Bytes)
  deriving DecidableEq, Repr

def Session.init : Session := ⟨true, []⟩

def isTcpFrame (data : Bytes) : Bool :=
  match data with
  | [] => false
  | b :: _ => isTcpType b

/-- The frames and the HTTP/2 bytes of one read. -/
def classify (data : Bytes) : List Bytes × Bytes :=
  if isTcpFrame data then processTcpFrames data else ([], data)

/-- The deliveries of TCP frames followed by HTTP/2 bytes. -/
def deliveries (group : List Bytes × Bytes) : List (Delivery Bytes) :=
  group.1.map .frame ++ group.2.map .byte

section
variable (recv send : Bytes → Bool)

/-- `handle_read` without error: after a failure of nghttp2 no read follows. -/
def handleRead (s : Session) (data : Bytes) : Session :=
  if !s.active then s
  else
    let log := s.log ++ deliveries (classify data)
    if (classify data).2.isEmpty then { s with log }
    else { active := recv (http2Bytes log) && send (http2Bytes log), log }

end

/-! ## The server's stream -/

/-- The magic with which the HTTP/2 client, here the server, opens the connection. -/
def connectionPreface : Bytes := [
  0x50, 0x52, 0x49, 0x20, 0x2a, 0x20, 0x48, 0x54, 0x54, 0x50, 0x2f, 0x32,
  0x2e, 0x30, 0x0d, 0x0a, 0x0d, 0x0a, 0x53, 0x4d, 0x0d, 0x0a, 0x0d, 0x0a]

/-- The payloads the splitter takes. -/
def PayloadFits (f : TcpFrame) : Prop := f.payload.length ≤ 65536

instance (f : TcpFrame) : Decidable (PayloadFits f) :=
  inferInstanceAs (Decidable (f.payload.length ≤ 65536))

/-- What should be made of one frame. -/
def itemTrace : Item PayloadFits → List (Delivery Bytes)
  | .http2 f => f.bytes.map .byte
  | .tcp f _ => [.frame f.bytes]

/-- What should be made of the stream: every TCP frame once, in order, and the
other bytes to nghttp2. -/
def trace (items : List (Item PayloadFits)) : List (Delivery Bytes) :=
  connectionPreface.map .byte ++ items.flatMap itemTrace

/-- The bytes of deliveries. -/
def bytesOf (ds : List (Delivery Bytes)) : Bytes :=
  ds.flatMap fun
    | .byte b => [b]
    | .frame f => f

/-- The bytes the server sends. -/
def stream (items : List (Item PayloadFits)) : Bytes := bytesOf (trace items)

/-- nghttp2 takes every part of the HTTP/2 bytes of the stream. -/
def Accepts (recv send : Bytes → Bool) (items : List (Item PayloadFits)) : Prop :=
  ∀ fed, fed <+: http2Bytes (trace items) → recv fed = true ∧ send fed = true

/-- The stream is cut so that each read consists of whole TCP frames followed by
HTTP/2 bytes, either of them possibly absent, and a read without TCP frames does
not start with HTTP/2 bytes that look like a whole TCP frame. -/
def Separated (items : List (Item PayloadFits)) (reads : List Bytes) : Prop :=
  ∃ groups : List (List Bytes × Bytes), groups.flatMap deliveries = trace items ∧
    List.Forall₂ (fun group data => data = group.1.flatten ++ group.2 ∧
      (group.1 = [] → takeFrame frameSize data = none)) groups reads

/-! ## The splitter on whole frames -/

theorem frameSize_of_not_tcpType {b : UInt8} {rest : Bytes} (hb : isTcpType b = false) :
    frameSize (b :: rest) = 0 := by
  have hne : ∀ t, isTcpType t = true → b ≠ t := by
    intro t ht heq
    rw [heq, ht] at hb
    cases hb
  simp only [frameSize, hne 0x10 rfl, hne 0x11 rfl, hne 0x12 rfl, hne 0x13 rfl, hne 0x14 rfl,
    if_false]

theorem takeFrame_of_not_tcpType {b : UInt8} {rest : Bytes} (hb : isTcpType b = false) :
    takeFrame frameSize (b :: rest) = none := by
  rw [takeFrame, if_pos (.inl (frameSize_of_not_tcpType hb))]

/-- The size read off a frame is its length, whatever follows. -/
theorem frameSize_bytes {f : TcpFrame} (hfit : PayloadFits f) (rest : Bytes) :
    frameSize (f.bytes ++ rest) = f.bytes.length := by
  cases f with
  | tcpOpen id port => simp [TcpFrame.bytes, TcpFrame.header, frameSize]
  | tcpData id seq data hlt =>
      have hfield : field 21 4 ((TcpFrame.tcpData id seq data hlt).bytes ++ rest) = data.length := by
        have hbytes : (TcpFrame.tcpData id seq data hlt).bytes ++ rest =
            (TcpFrame.header 0x11 id ++ be 4 seq.toNat) ++ (be 4 data.length ++ (data ++ rest)) := by
          simp [TcpFrame.bytes]
        rw [hbytes, field_append _ (by simp) (by simp), ofBe_be_of_lt (by omega)]
      have hle : data.length ≤ 65536 := hfit
      have hlen : (TcpFrame.tcpData id seq data hlt).bytes.length = 25 + data.length := by
        simp [TcpFrame.bytes]
        omega
      have hhead : (TcpFrame.tcpData id seq data hlt).bytes ++ rest =
          0x11 :: ((TcpFrame.tcpData id seq data hlt).bytes ++ rest).tail := rfl
      have hlong : 25 ≤ ((TcpFrame.tcpData id seq data hlt).bytes ++ rest).length := by
        rw [List.length_append, hlen]
        omega
      rw [hhead, frameSize, ← hhead, hfield]
      simp only [hlong, if_neg (Nat.not_lt.mpr hle), hlen, if_true]
      rfl
  | tcpClose id reason => simp [TcpFrame.bytes, TcpFrame.header, frameSize]
  | tcpError id code message hlt =>
      have hfield : field 19 2 ((TcpFrame.tcpError id code message hlt).bytes ++ rest) =
          message.length := by
        have hbytes : (TcpFrame.tcpError id code message hlt).bytes ++ rest =
            (TcpFrame.header 0x13 id ++ be 2 code.toNat) ++
              (be 2 message.length ++ (message ++ rest)) := by
          simp [TcpFrame.bytes]
        rw [hbytes, field_append _ (by simp) (by simp), ofBe_be_of_lt (by omega)]
      have hlen : (TcpFrame.tcpError id code message hlt).bytes.length = 21 + message.length := by
        simp [TcpFrame.bytes]
        omega
      have hhead : (TcpFrame.tcpError id code message hlt).bytes ++ rest =
          0x13 :: ((TcpFrame.tcpError id code message hlt).bytes ++ rest).tail := rfl
      have hlong : 21 ≤ ((TcpFrame.tcpError id code message hlt).bytes ++ rest).length := by
        rw [List.length_append, hlen]
        omega
      rw [hhead, frameSize, ← hhead, hfield]
      simp only [hlong, hlen, if_true]
      rfl
  | tcpAck id ack window => simp [TcpFrame.bytes, TcpFrame.header, frameSize]

theorem whole_bytes {f : TcpFrame} (hfit : PayloadFits f) : Whole frameSize f.bytes :=
  whole_of_size f.bytes_ne_nil (frameSize_bytes hfit)

/-! ## One read and what it delivers -/

/-- Looking at the first byte before splitting changes nothing. -/
theorem classify_eq (data : Bytes) : classify data = processTcpFrames data := by
  simp only [classify]
  split
  · rfl
  · rename_i hno
    cases data with
    | nil => rfl
    | cons b rest =>
        have hb : isTcpType b = false := by simpa [isTcpFrame] using hno
        simp [processTcpFrames, splitFrames, takeFrame_of_not_tcpType hb]

/-- A read is separated into its whole TCP frames and the HTTP/2 bytes after them. -/
theorem classify_flatten (data : Bytes) : (classify data).1.flatten ++ (classify data).2 = data := by
  rw [classify_eq]
  exact splitFrames_flatten data.length data

theorem takeFrame_classify (data : Bytes) : takeFrame frameSize (classify data).2 = none := by
  rw [classify_eq]
  exact takeFrame_splitFrames (Nat.le_refl _)

theorem classify_append {frames : List Bytes} {rest : Bytes}
    (hwhole : ∀ f ∈ frames, Whole frameSize f) (hrest : takeFrame frameSize rest = none) :
    classify (frames.flatten ++ rest) = (frames, rest) := by
  rw [classify_eq, processTcpFrames]
  exact splitFrames_append hwhole hrest (Nat.le_refl _)

section
variable (recv send : Bytes → Bool)

theorem log_handleRead (s : Session) (data : Bytes) (hactive : s.active = true) :
    (handleRead recv send s data).log = s.log ++ deliveries (classify data) := by
  simp only [handleRead]
  rw [hactive]
  simp only [Bool.not_true, Bool.false_eq_true, if_false]
  split <;> rfl

/-- Reads only add to the log. -/
theorem log_subset_handleRead (s : Session) (data : Bytes) :
    s.log <+: (handleRead recv send s data).log := by
  cases hactive : s.active with
  | true =>
      rw [log_handleRead recv send s data hactive]
      exact List.prefix_append _ _
  | false => simp [handleRead, hactive]

variable {recv send}

/-- A read whose bytes nghttp2 takes keeps the session alive. -/
theorem active_handleRead {s : Session} {data : Bytes} (hactive : s.active = true)
    (haccept : recv (http2Bytes (handleRead recv send s data).log) = true ∧
      send (http2Bytes (handleRead recv send s data).log) = true) :
    (handleRead recv send s data).active = true := by
  rw [log_handleRead recv send s data hactive] at haccept
  simp only [handleRead]
  rw [hactive]
  simp only [Bool.not_true, Bool.false_eq_true, if_false]
  split
  · rfl
  · simp only [haccept.1, haccept.2, Bool.and_true]

end

/-! ## Runs of reads -/

/-- Reading is cut short only by nghttp2. -/
theorem reader_handleRead {recv send : Bytes → Bool} {items : List (Item PayloadFits)}
    (haccept : Accepts recv send items) :
    Reader (handleRead recv send) (fun s => s.active = true) Session.log (fun _ => 0)
      (fun _ data => deliveries (classify data)) (fun _ => 0) (trace items) where
  log_step := log_handleRead recv send
  position_step := fun _ _ _ => rfl
  log_mono := log_subset_handleRead recv send
  active_step := by
    rintro s data hactive ⟨later, hpart⟩
    have hfed : http2Bytes (handleRead recv send s data).log <+: http2Bytes (trace items) := by
      rw [← hpart, http2Bytes_append]
      exact List.prefix_append _ _
    exact active_handleRead hactive (haccept _ hfed)

/-! ## Separated reads -/

/-- A byte right after a TCP frame starts an HTTP/2 frame. -/
def Adjacent : Delivery Bytes → Delivery Bytes → Prop
  | .frame _, .byte b => b = 0
  | _, _ => True

theorem isChain_bytes (data : Bytes) : (data.map Delivery.byte).IsChain Adjacent := by
  induction data with
  | nil => exact List.isChain_nil
  | cons b rest ih =>
      cases rest with
      | nil => exact List.isChain_singleton _
      | cons c rest => exact List.isChain_cons_cons.mpr ⟨trivial, ih⟩

/-- A stream of frames starts with a TCP frame or with the byte 0. -/
theorem head_itemTrace (items : List (Item PayloadFits)) :
    ∀ d ∈ (items.flatMap itemTrace).head?, ∀ b, d = .byte b → b = 0 := by
  intro d hd b hb
  cases items with
  | nil => cases hd
  | cons item items =>
      cases item with
      | http2 f =>
          obtain ⟨rest, hrest⟩ := f.bytes_head
          simp only [List.flatMap_cons, itemTrace, hrest, List.map_cons, List.cons_append,
            List.head?_cons, Option.mem_some_iff] at hd
          rw [← hd] at hb
          exact (Delivery.byte.inj hb).symm
      | tcp f hf =>
          simp only [List.flatMap_cons, itemTrace, List.cons_append, List.head?_cons,
            Option.mem_some_iff] at hd
          rw [← hd] at hb
          cases hb

theorem isChain_trace (items : List (Item PayloadFits)) : (trace items).IsChain Adjacent := by
  have hitems : (items.flatMap itemTrace).IsChain Adjacent := by
    induction items with
    | nil => exact List.isChain_nil
    | cons item items ih =>
        rw [List.flatMap_cons, List.isChain_append]
        have hhead := head_itemTrace items
        cases item with
        | http2 f =>
            refine ⟨isChain_bytes _, ih, ?_⟩
            intro x hx y hy
            obtain ⟨b, _, rfl⟩ := List.mem_map.mp (List.mem_of_getLast? hx)
            trivial
        | tcp f hf =>
            refine ⟨List.isChain_singleton _, ih, ?_⟩
            intro x hx y hy
            have hxf : x = .frame f.bytes := by simpa [itemTrace] using hx.symm
            rw [hxf]
            cases y with
            | byte b => exact hhead _ hy b rfl
            | frame g => trivial
  rw [trace, List.isChain_append]
  refine ⟨isChain_bytes _, hitems, ?_⟩
  intro x hx y hy
  obtain ⟨b, _, rfl⟩ := List.mem_map.mp (List.mem_of_getLast? hx)
  trivial

/-- The TCP frames of the trace are whole. -/
theorem whole_of_mem_trace {items : List (Item PayloadFits)} {f : Bytes}
    (hf : Delivery.frame f ∈ trace items) : Whole frameSize f := by
  simp only [trace, List.mem_append, List.mem_map, reduceCtorEq, and_false, exists_false,
    false_or, List.mem_flatMap] at hf
  obtain ⟨item, _, hitem⟩ := hf
  cases item with
  | http2 g => simp [itemTrace] at hitem
  | tcp g hg =>
      simp only [itemTrace, List.mem_singleton, Delivery.frame.injEq] at hitem
      rw [hitem]
      exact whole_bytes hg

/-- A read that is one group of the trace is classified into this group. -/
theorem classify_group {items : List (Item PayloadFits)} {group : List Bytes × Bytes}
    (hin : deliveries group <:+: trace items)
    (hfirst : group.1 = [] → takeFrame frameSize (group.1.flatten ++ group.2) = none) :
    classify (group.1.flatten ++ group.2) = group := by
  have hwhole : ∀ f ∈ group.1, Whole frameSize f := by
    intro f hf
    have hmem : Delivery.frame f ∈ deliveries group := by
      simp [deliveries, hf]
    exact whole_of_mem_trace (hin.subset hmem)
  have hrest : takeFrame frameSize group.2 = none := by
    cases hframes : group.1 with
    | nil =>
        have hnone := hfirst hframes
        simpa [hframes] using hnone
    | cons f frames =>
        cases hbytes : group.2 with
        | nil => exact takeFrame_nil
        | cons b rest =>
            have hchain : (deliveries group).IsChain Adjacent := by
              obtain ⟨before, after, hall⟩ := hin
              have htrace := isChain_trace items
              rw [← hall, List.isChain_append, List.isChain_append] at htrace
              exact htrace.1.2.1
            rw [deliveries, List.isChain_append] at hchain
            have hlast : (group.1.map Delivery.frame).getLast? ≠ none := by
              simp [hframes]
            obtain ⟨x, hx⟩ := Option.ne_none_iff_exists'.mp hlast
            have hadj := hchain.2.2 x hx (.byte b) (by simp [hbytes])
            obtain ⟨g, _, rfl⟩ := List.mem_map.mp (List.mem_of_getLast? hx)
            have hb : b = 0 := hadj
            rw [hb]
            exact takeFrame_of_not_tcpType rfl
  exact classify_append hwhole hrest

/-- The reads classify to the trace exactly when they are separated. -/
theorem flatMap_classify_iff {items : List (Item PayloadFits)} {reads : List Bytes} :
    reads.flatMap (fun data => deliveries (classify data)) = trace items ↔
      Separated items reads := by
  constructor
  · intro h
    refine ⟨reads.map classify, by rw [← h, List.flatMap_map], ?_⟩
    rw [List.forall₂_map_left_iff, List.forall₂_same]
    intro data hdata
    refine ⟨(classify_flatten data).symm, fun hnil => ?_⟩
    have hall := classify_flatten data
    rw [hnil] at hall
    have hnone := takeFrame_classify data
    rwa [show (classify data).2 = data by simpa using hall] at hnone
  · rintro ⟨groups, hgroups, hreads⟩
    have hsame : reads.map classify = groups := by
      have hpart : ∀ g ∈ groups, deliveries g <:+: trace items := by
        intro g hg
        rw [← hgroups, List.flatMap_def]
        exact List.infix_of_mem_flatten (List.mem_map_of_mem hg)
      clear hgroups
      induction hreads with
      | nil => rfl
      | cons hread _ ih =>
          rename_i group data groups reads hrest
          have hgroup := classify_group (hpart group List.mem_cons_self)
            (fun hnil => by rw [← hread.1]; exact hread.2 hnil)
          rw [List.map_cons, hread.1, hgroup, ih fun g hg => hpart g (List.mem_cons_of_mem _ hg)]
    rw [← hgroups, ← hsame, List.flatMap_map]

/-- **When the agent demultiplexes.**  Whatever the server sends, and however it
arrives in reads, every TCP frame reaches the handler once and in order and
nghttp2 gets exactly the HTTP/2 bytes, if and only if the reads are separated. -/
theorem demultiplexed_iff (recv send : Bytes → Bool) (items : List (Item PayloadFits))
    (haccept : Accepts recv send items) (reads : List Bytes) :
    (run (handleRead recv send) Session.init reads).log = trace items ↔
      Separated items reads := by
  have hrun := (reader_handleRead haccept).run_log_iff (s := .init) rfl reads
  rw [hrun, emitted_const, ← flatMap_classify_iff]
  rfl

/-- A TCP_OPEN frame for the connection id 00…00. -/
def sampleOpen : Item PayloadFits := .tcp (.tcpOpen (Vector.replicate 16 0) 0) (by decide)

/-- A read that holds the preface and one that holds the frame are separated. -/
theorem demultiplexed_iff_open :
    (run (handleRead (fun _ => true) fun _ => true) Session.init
      [connectionPreface, bytesOf (itemTrace sampleOpen)]).log = trace [sampleOpen] := by
  refine (demultiplexed_iff (fun _ => true) (fun _ => true) [sampleOpen]
    (fun _ _ => ⟨rfl, rfl⟩) _).mpr
      ⟨[([], connectionPreface), ([bytesOf (itemTrace sampleOpen)], [])], by decide, ?_⟩
  exact .cons ⟨rfl, fun _ => by decide⟩ (.cons ⟨by decide, fun h => by cases h⟩ .nil)

/-- The same frame in two reads, of 10 and 9 bytes, goes to nghttp2. -/
theorem not_demultiplexed_cut :
    ¬ ∀ (recv send : Bytes → Bool) (items : List (Item PayloadFits)) (reads : List Bytes),
      Accepts recv send items → reads.flatten = stream items →
        (∀ data ∈ reads, 1 ≤ data.length ∧ data.length ≤ 8192) →
          (run (handleRead recv send) Session.init reads).log = trace items := by
  intro H
  let openBytes := bytesOf (itemTrace sampleOpen)
  have hlog := H (fun _ => true) (fun _ => true) [sampleOpen]
    [connectionPreface, openBytes.take 10, openBytes.drop 10] (fun _ _ => ⟨rfl, rfl⟩)
    (by decide) (by decide)
  exact absurd hlog (by decide)

end Protogate.TunnelAgent
