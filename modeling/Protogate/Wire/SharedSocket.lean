import Protogate.Lib.Run
import Protogate.Wire.Frames

/-!
# Two writers on one socket

At either end nghttp2 and the TCP tunnel write to the same TLS socket with
`write_some`, which may take only a part of what it is offered.  nghttp2 is offered
the rest of its frame later; the TCP writer drops the rest of its frame, and the
server reports it as sent.  Nor does the TCP writer look whether an HTTP/2 frame is
under way.

The wire is taken from the end of the HTTP/2 connection preface on.

## Main definitions

* `SharedSocket` — one end of the connection.
* `sendCallback`, `sendTcpData`, `sendTcpFrame` — the writers.
* `WireIntact` — whole frames on the wire, and true reports.
* `wire_intact` — in runs that do not divide a frame the wire is intact.
-/

namespace Protogate.Wire

open Protogate.Lib

/-! ## The writers -/

/-- How a `write_some` ends: a number of bytes, or an error without any. -/
inductive WriteResult
  | wrote (n : ℕ)
  | wouldBlock
  | failed
  deriving DecidableEq, Repr

/-- What `send_tcp_data` told its caller about a frame, next to the number of its
bytes that were written. -/
structure Report where
  frame : TcpFrame
  written : ℕ
  success : Bool
  deriving DecidableEq

/-- One end: whether it is connected (`state_` of the server, `active_` of the agent),
the frames nghttp2 has to send and how much of the first is written, the bytes on the
wire, and the reports. -/
structure SharedSocket where
  connected : Bool
  queue : List Http2Frame
  offset : ℕ
  wire : Bytes
  reports : List Report
  deriving DecidableEq

def SharedSocket.init : SharedSocket := ⟨true, [], 0, [], []⟩

/-- `nghttp2_session_send` offers the rest of the first frame to `send_callback`.
When that fails the connection is closed. -/
def sendCallback (s : SharedSocket) (result : WriteResult) : SharedSocket :=
  match s.queue with
  | [] => s
  | f :: queue =>
      if !s.connected then s
      else
        let data := f.bytes.drop s.offset
        match result with
        | .wouldBlock => s
        | .failed => { s with connected := false }
        | .wrote n =>
            if data.length ≤ n then { s with queue, offset := 0, wire := s.wire ++ data }
            else { s with offset := s.offset + n, wire := s.wire ++ data.take n }

/-- `send_tcp_data` of the server: one `write_some`, then the callback. -/
def sendTcpData (s : SharedSocket) (f : TcpFrame) (result : WriteResult) : SharedSocket :=
  if !s.connected then { s with reports := s.reports ++ [⟨f, 0, false⟩] }
  else
    match result with
    | .wouldBlock | .failed => { s with reports := s.reports ++ [⟨f, 0, false⟩] }
    | .wrote n =>
        { s with
          wire := s.wire ++ f.bytes.take n
          reports := s.reports ++ [⟨f, (f.bytes.take n).length, true⟩] }

/-- `send_tcp_frame` of the agent does the same and reports nothing. -/
def sendTcpFrame (s : SharedSocket) (f : TcpFrame) (result : WriteResult) : SharedSocket :=
  if !s.connected then s
  else
    match result with
    | .wouldBlock | .failed => s
    | .wrote n => { s with wire := s.wire ++ f.bytes.take n }

inductive Endpoint
  | server
  | agent
  deriving DecidableEq, Repr

/-- nghttp2 gets a frame to send, or calls `send_callback`; or a TCP frame is sent. -/
inductive SocketEvent
  | submit (f : Http2Frame)
  | http2Write (result : WriteResult)
  | tcpWrite (f : TcpFrame) (result : WriteResult)

def socketStep (endpoint : Endpoint) (s : SharedSocket) : SocketEvent → SharedSocket
  | .submit f => { s with queue := s.queue ++ [f] }
  | .http2Write result => sendCallback s result
  | .tcpWrite f result =>
      match endpoint with
      | .server => sendTcpData s f result
      | .agent => sendTcpFrame s f result

/-! ## Integrity -/

/-- Any frame. -/
abbrev AnyItem := Item fun _ => True

def AnyItem.bytes : AnyItem → Bytes
  | .http2 f => f.bytes
  | .tcp f _ => f.bytes

/-- Whenever no HTTP/2 frame is partly written the wire holds whole frames; and only
frames written whole are reported as sent. -/
structure WireIntact (s : SharedSocket) : Prop where
  whole : s.offset = 0 → ∃ items : List AnyItem, s.wire = items.flatMap AnyItem.bytes
  reported : ∀ r ∈ s.reports, r.success = true → r.written = r.frame.bytes.length

/-- A TCP frame of which anything is written is written whole, while no HTTP/2 frame
is partly written. -/
def Undivided (s : SharedSocket) : SocketEvent → Prop
  | .tcpWrite f (.wrote n) => s.connected = true → f.bytes.length ≤ n ∧ s.offset = 0
  | _ => True

/-! ## The invariant -/

/-- The written part of the frame under way. -/
def SharedSocket.partWritten (s : SharedSocket) : Bytes :=
  match s.queue with
  | [] => []
  | f :: _ => f.bytes.take s.offset

/-- The wire holds whole frames and the written part of the one under way. -/
structure WireInv (s : SharedSocket) : Prop where
  whole : ∃ items : List AnyItem, s.wire = items.flatMap AnyItem.bytes ++ s.partWritten
  idle : s.queue = [] → s.offset = 0
  reported : ∀ r ∈ s.reports, r.success = true → r.written = r.frame.bytes.length

theorem partWritten_of_offset {s : SharedSocket} (h : s.offset = 0) : s.partWritten = [] := by
  simp only [SharedSocket.partWritten]
  split
  · rfl
  · rw [h, List.take_zero]

theorem wireInv_init : WireInv SharedSocket.init where
  whole := ⟨[], rfl⟩
  idle := fun _ => rfl
  reported := by simp [SharedSocket.init]

theorem WireInv.wireIntact {s : SharedSocket} (H : WireInv s) : WireIntact s where
  whole := by
    intro hoffset
    obtain ⟨items, hitems⟩ := H.whole
    rw [partWritten_of_offset hoffset, List.append_nil] at hitems
    exact ⟨items, hitems⟩
  reported := H.reported

theorem flatMap_concat_bytes (items : List AnyItem) (item : AnyItem) :
    (items ++ [item]).flatMap AnyItem.bytes = items.flatMap AnyItem.bytes ++ item.bytes := by
  rw [List.flatMap_append, List.flatMap_singleton]

section
variable {s : SharedSocket}

theorem WireInv.submit (H : WireInv s) (f : Http2Frame) :
    WireInv { s with queue := s.queue ++ [f] } := by
  obtain ⟨items, hitems⟩ := H.whole
  refine ⟨⟨items, ?_⟩, fun hnil => by simp at hnil, H.reported⟩
  cases hqueue : s.queue with
  | nil =>
      have hoffset := H.idle hqueue
      rw [partWritten_of_offset hoffset] at hitems
      rw [partWritten_of_offset (by exact hoffset)]
      exact hitems
  | cons g queue => simpa [SharedSocket.partWritten, hqueue] using hitems

theorem WireInv.disconnect (H : WireInv s) : WireInv { s with connected := false } :=
  ⟨H.whole, H.idle, H.reported⟩

/-- nghttp2 goes on with its frame where it stopped. -/
theorem WireInv.sendCallback (H : WireInv s) (result : WriteResult) :
    WireInv (sendCallback s result) := by
  obtain ⟨items, hitems⟩ := H.whole
  simp only [Wire.sendCallback]
  cases hqueue : s.queue with
  | nil => exact H
  | cons f queue =>
      rw [SharedSocket.partWritten, hqueue] at hitems
      by_cases hconnected : s.connected = true
      · simp only [if_neg (show ¬ (!s.connected) = true by simp [hconnected])]
        cases result with
        | wouldBlock => exact H
        | failed => simpa only [hqueue] using H.disconnect
        | wrote n =>
            simp only
            split
            · refine ⟨⟨items ++ [.http2 f], ?_⟩, fun _ => rfl, H.reported⟩
              rw [partWritten_of_offset rfl, List.append_nil, flatMap_concat_bytes, hitems,
                List.append_assoc, List.take_append_drop]
              rfl
            · refine ⟨⟨items, ?_⟩, fun hnil => by simp at hnil, H.reported⟩
              simp only [SharedSocket.partWritten]
              rw [hitems, List.append_assoc, ← List.take_add]
      · simpa [hconnected] using H

/-- A whole TCP frame between two HTTP/2 frames. -/
theorem WireInv.tcpWrite (H : WireInv s) (f : TcpFrame) (hoffset : s.offset = 0)
    {reports : List Report}
    (hreported : ∀ r ∈ reports, r.success = true → r.written = r.frame.bytes.length) :
    WireInv { s with wire := s.wire ++ f.bytes, reports } := by
  obtain ⟨items, hitems⟩ := H.whole
  rw [partWritten_of_offset hoffset, List.append_nil] at hitems
  refine ⟨⟨items ++ [.tcp f trivial], ?_⟩, H.idle, hreported⟩
  rw [partWritten_of_offset (by exact hoffset), List.append_nil, flatMap_concat_bytes, ← hitems]
  rfl

theorem WireInv.report (H : WireInv s) {r : Report}
    (hr : r.success = true → r.written = r.frame.bytes.length) :
    ∀ r' ∈ s.reports ++ [r], r'.success = true → r'.written = r'.frame.bytes.length := by
  intro r' hr'
  rcases List.mem_append.mp hr' with hr' | hr'
  · exact H.reported r' hr'
  · rw [List.mem_singleton.mp hr']
    exact hr

/-- A report of failure. -/
theorem WireInv.refuse (H : WireInv s) (f : TcpFrame) :
    WireInv { s with reports := s.reports ++ [⟨f, 0, false⟩] } :=
  ⟨H.whole, H.idle, H.report fun h => by cases h⟩

theorem WireInv.sendTcpData (H : WireInv s) (f : TcpFrame) {result : WriteResult}
    (hwhole : Undivided s (.tcpWrite f result)) : WireInv (sendTcpData s f result) := by
  simp only [Wire.sendTcpData]
  by_cases hconnected : s.connected = true
  · rw [if_neg (by simp [hconnected])]
    cases result with
    | wouldBlock => exact H.refuse f
    | failed => exact H.refuse f
    | wrote n =>
        obtain ⟨hlen, hoffset⟩ := hwhole hconnected
        simp only [List.take_of_length_le hlen]
        exact H.tcpWrite f hoffset (H.report fun _ => rfl)
  · rw [if_pos (by simp [hconnected])]
    exact H.refuse f

theorem WireInv.sendTcpFrame (H : WireInv s) (f : TcpFrame) {result : WriteResult}
    (hwhole : Undivided s (.tcpWrite f result)) : WireInv (sendTcpFrame s f result) := by
  simp only [Wire.sendTcpFrame]
  by_cases hconnected : s.connected = true
  · rw [if_neg (by simp [hconnected])]
    cases result with
    | wouldBlock => exact H
    | failed => exact H
    | wrote n =>
        obtain ⟨hlen, hoffset⟩ := hwhole hconnected
        simp only [List.take_of_length_le hlen]
        exact H.tcpWrite f hoffset H.reported
  · simpa [hconnected] using H

theorem wireInv_step (endpoint : Endpoint) (s : SharedSocket) (e : SocketEvent) (H : WireInv s)
    (he : Undivided s e) : WireInv (socketStep endpoint s e) := by
  cases e with
  | submit f => exact H.submit f
  | http2Write result => exact H.sendCallback result
  | tcpWrite f result =>
      cases endpoint with
      | server => exact H.sendTcpData f he
      | agent => exact H.sendTcpFrame f he

end

/-- **The wire holds whole frames** at every point between HTTP/2 frames, and what is
reported as sent was sent whole, at either end, in every run in which no TCP frame is
written in part or into an HTTP/2 frame. -/
theorem wire_intact (endpoint : Endpoint) (evs : List SocketEvent)
    (H : Along (socketStep endpoint) Undivided SharedSocket.init evs) :
    Always (socketStep endpoint) WireIntact SharedSocket.init evs := by
  have hall := always_of_invariant WireInv (wireInv_step endpoint) wireInv_init H
  exact Always.imp (fun _ hs => hs.wireIntact) hall

/-- A TCP_CLOSE frame for the connection id 00…00. -/
def sampleTcpClose : TcpFrame := .tcpClose (Vector.replicate 16 0) 0

/-- An empty SETTINGS frame. -/
def sampleSettings : Http2Frame := ⟨4, 0, 0, [], by decide⟩

/-- SETTINGS in two parts, and a TCP frame before and after it. -/
theorem wire_intact_settings :
    Always (socketStep .server) WireIntact SharedSocket.init
      [.tcpWrite sampleTcpClose (.wrote 19), .submit sampleSettings, .http2Write (.wrote 5),
        .tcpWrite sampleTcpClose .wouldBlock, .http2Write (.wrote 4),
        .tcpWrite sampleTcpClose (.wrote 19)] :=
  wire_intact .server _
    ⟨fun _ => by decide, trivial, trivial, trivial, trivial, fun _ => by decide, trivial⟩

/-- One byte of a TCP frame is written and the frame reported as sent. -/
theorem not_wireIntact_short :
    ¬ ∀ endpoint evs, Always (socketStep endpoint) WireIntact SharedSocket.init evs := by
  intro H
  have hintact : WireIntact (run (socketStep .server) SharedSocket.init
      [.tcpWrite sampleTcpClose (.wrote 1)]) :=
    always_iff_run.mp (H .server [.tcpWrite sampleTcpClose (.wrote 1)]) _ (List.prefix_refl _)
  have hreported := hintact.reported ⟨sampleTcpClose, 1, true⟩ (by decide) rfl
  exact absurd hreported (by decide)

end Protogate.Wire
