import Protogate.Lib.Printing
import Protogate.TunnelAgent.Http2Session
import Mathlib.Data.List.Infix

/-!
# From the handshake to the frames

The agent sends a CONNECT request as text, reads the answer, and hands the
connection to the read loop.  The answer is read by one `read_some` that returned
something, whatever it returned; its first 100 bytes are logged, which throws where they
cannot be printed, it is taken for a success if it contains `200` or `Connection
Established`, and the next read already belongs to the read loop.

The last log call names the tunnel, which `main` has logged before.

## Main definitions

* `start` — `HTTP2Session::start` up to the first read of the loop.
* `Logged` — its log calls return.
* `Response`, `Arrival` — an answer, and how it and the bytes after it arrive.
* `HandsOver` — accepted exactly for the code 200, and no byte lost or added.
* `handover_iff` — when that is so.
-/

namespace Protogate.TunnelAgent

open Protogate.Lib

/-- The bytes of an ASCII text. -/
def ascii (s : String) : Bytes := s.toList.map fun c => UInt8.ofNat c.toNat

/-! ## The session -/

/-- What `read_some` returns: an error code or the bytes it has put in the buffer. -/
inductive ReadResult
  | wouldBlock
  | data (bytes : Bytes)
  | failed (message : Bytes)
  deriving DecidableEq, Repr

/-- The loop around `read_some`, with the attempts that are left; where the results
end, nothing more arrives. -/
def readResponse : ℕ → List ReadResult → Except Bytes (Bytes × List ReadResult)
  | 0, _ | _ + 1, [] => .error (ascii "Timeout waiting for auth response")
  | attempts + 1, .wouldBlock :: results => readResponse attempts results
  | _ + 1, .data bytes :: results => .ok (bytes, results)
  | _ + 1, .failed message :: _ => .error (ascii "Failed to read auth response: " ++ message)

/-- The test made on the answer. -/
def Succeeded (response : Bytes) : Prop :=
  ascii "200" <:+: response ∨ ascii "Connection Established" <:+: response

instance (response : Bytes) : Decidable (Succeeded response) :=
  inferInstanceAs (Decidable (_ ∨ _))

/-- What `start` throws: a `runtime_error` of its own, or the `type_error` of a log call. -/
inductive StartError
  | runtimeError (what : Bytes)
  | typeError
  deriving DecidableEq, Repr

/-- The text of some bytes. -/
def byteText (bytes : Bytes) : Str := bytes.map byteChar

/-- `Logger::info("Starting session", ..)` returns. -/
def logsStarting (printer : Printer) (alpnProtocol : Bytes) : Bool :=
  printer.logs [byteText (if alpnProtocol.isEmpty then ascii "none" else alpnProtocol)]

/-- `Logger::info("Received auth response", ..)` returns. -/
def logsResponse (printer : Printer) (response : Bytes) : Bool :=
  printer.logs [byteText (response.take 100), decimal response.length]

/-- `HTTP2Session::start`: what it throws, or the results left for the read loop.
`sendError` is the message if writing the request failed. -/
def start (printer : Printer) (alpnProtocol : Bytes) (sendError : Option Bytes)
    (results : List ReadResult) : Except StartError (List ReadResult) :=
  if !logsStarting printer alpnProtocol then .error .typeError
  else if alpnProtocol ≠ ascii "h2" then
    match sendError with
    | some message => .error (.runtimeError (ascii "Failed to send authentication: " ++ message))
    | none =>
        match readResponse 50 results with
        | .error what => .error (.runtimeError what)
        | .ok (response, results) =>
            if !logsResponse printer response then .error .typeError
            else if Succeeded response then .ok results
            else .error (.runtimeError (ascii "Authentication failed: " ++ response))
  else .ok results

/-- The reads that `handle_read` gets from the results. -/
def received (results : List ReadResult) : List Bytes :=
  results.filterMap fun
    | .data bytes => some bytes
    | _ => none

/-! ## The answer and its arrival -/

def crlf : Bytes := [13, 10]

/-- A line of the answer holds neither half of the line end. -/
def IsLine (line : Bytes) : Prop := 13 ∉ line ∧ 10 ∉ line

instance (line : Bytes) : Decidable (IsLine line) := inferInstanceAs (Decidable (_ ∧ _))

/-- An answer to the CONNECT request. -/
structure Response where
  version : Bytes
  code : ℕ
  reason : Bytes
  headers : List Bytes
  version_isLine : 32 ∉ version ∧ IsLine version
  reason_isLine : IsLine reason
  headers_isLine : ∀ line ∈ headers, line ≠ [] ∧ IsLine line

/-- The status line, the header lines and the blank line. -/
def Response.bytes (r : Response) : Bytes :=
  (r.version ++ [32]) ++ (ascii (String.ofList (decimal r.code)) ++ ([32] ++ r.reason ++ crlf ++
    (r.headers.flatMap (· ++ crlf) ++ crlf)))

/-- How a stream arrives: the attempts that find nothing yet, the first read, into
the 1024 bytes of `start`, and those into the 8192 bytes of the read loop. -/
structure Arrival (stream : Bytes) where
  waits : ℕ
  first : Bytes
  later : List Bytes
  flatten_eq : first ++ later.flatten = stream
  first_bounds : first ≠ [] ∧ first.length ≤ 1024
  later_bounds : ∀ data ∈ later, data ≠ [] ∧ data.length ≤ 8192

/-- The results of the reads, in order. -/
def Arrival.results {stream : Bytes} (a : Arrival stream) : List ReadResult :=
  List.replicate a.waits .wouldBlock ++ .data a.first :: a.later.map .data

/-- The session accepts exactly the code 200, and the reads of the loop then hold
what the server sent after the blank line. -/
def HandsOver (printer : Printer) (alpnProtocol : Bytes) (response : Response) (frames : Bytes)
    (a : Arrival (response.bytes ++ frames)) : Prop :=
  match start printer alpnProtocol none a.results with
  | .error _ => response.code ≠ 200
  | .ok results => response.code = 200 ∧ (received results).flatten = frames

/-- The protocol and the first 100 bytes of the first read can be printed. -/
def Logged (printer : Printer) (alpnProtocol first : Bytes) : Prop :=
  printer.prints (byteText alpnProtocol) = true ∧ printer.prints (byteText (first.take 100)) = true

instance (printer : Printer) (alpnProtocol first : Bytes) : Decidable (Logged printer alpnProtocol first) :=
  inferInstanceAs (Decidable (_ ∧ _))

/-! ## The loop -/

@[simp] theorem received_map_data (reads : List Bytes) :
    received (reads.map .data) = reads := by
  induction reads with
  | nil => rfl
  | cons data reads ih => exact congrArg (data :: ·) ih

/-- The first bytes are seen if they come within the attempts. -/
theorem readResponse_wait (attempts waits : ℕ) (first : Bytes) (results : List ReadResult) :
    readResponse attempts (List.replicate waits .wouldBlock ++ .data first :: results) =
      if waits < attempts then .ok (first, results)
      else .error (ascii "Timeout waiting for auth response") := by
  induction waits generalizing attempts with
  | zero => cases attempts <;> rfl
  | succ waits ih =>
      cases attempts with
      | zero => rfl
      | succ attempts =>
          rw [List.replicate_succ, List.cons_append, readResponse, ih]
          simp only [Nat.succ_lt_succ_iff]

section
variable {printer : Printer} {alpnProtocol : Bytes}

/-- Nothing is printed where there is no protocol, and `none` is too. -/
theorem logsStarting_eq : logsStarting printer alpnProtocol = printer.prints (byteText alpnProtocol) := by
  cases alpnProtocol with
  | nil =>
      have hnone : logsStarting printer [] = true := by
        simp [logsStarting, Printer.logs, printer.prints_of_isAscii (byteText (ascii "none")) (by decide)]
      rw [hnone]
      exact (printer.prints_of_isAscii [] rfl).symm
  | cons b bytes => simp [logsStarting, Printer.logs]

theorem logsResponse_eq (response : Bytes) :
    logsResponse printer response = printer.prints (byteText (response.take 100)) := by
  simp [logsResponse, Printer.logs, printer.prints_of_isAscii _ (isAscii_decimal response.length)]

/-- What `start` makes of an arrival. -/
theorem start_ok_iff {stream : Bytes} (halpn : alpnProtocol ≠ ascii "h2") (a : Arrival stream)
    (results : List ReadResult) :
    start printer alpnProtocol none a.results = .ok results ↔
      a.waits < 50 ∧ Logged printer alpnProtocol a.first ∧ Succeeded a.first ∧
        a.later.map .data = results := by
  rw [start, if_pos halpn, Arrival.results, readResponse_wait, logsStarting_eq, Logged]
  cases printer.prints (byteText alpnProtocol) with
  | false => simp
  | true =>
      by_cases hwaits : a.waits < 50
      · simp only [hwaits, if_true, logsResponse_eq]
        cases printer.prints (byteText (a.first.take 100)) with
        | false => simp
        | true => by_cases hok : Succeeded a.first <;> simp [hok]
      · simp [hwaits]

end

/-- An answer with the code 200, read as a whole, is taken for a success. -/
theorem succeeded_of_code {r : Response} (h : r.code = 200) : Succeeded r.bytes := by
  have hcode : ascii (String.ofList (decimal r.code)) = ascii "200" := by
    rw [h]
    decide
  left
  rw [Response.bytes, hcode]
  exact ⟨r.version ++ [32], [32] ++ r.reason ++ crlf ++ (r.headers.flatMap (· ++ crlf) ++ crlf),
    by simp only [List.append_assoc]⟩

/-- The later reads hold the frames just if the first read is the answer. -/
theorem later_flatten_iff {r : Response} {frames : Bytes} (a : Arrival (r.bytes ++ frames)) :
    a.later.flatten = frames ↔ a.first = r.bytes := by
  have hall := a.flatten_eq
  constructor
  · intro h
    rw [h] at hall
    exact List.append_cancel_right hall
  · intro h
    rw [h] at hall
    exact List.append_cancel_left hall

/-- **The hand-over loses and adds nothing exactly where** the first read is the answer
itself and can be logged, for the code 200, and where it cannot, has neither of the two
texts or comes too late, for any other code. -/
theorem handover_iff (printer : Printer) (alpnProtocol : Bytes) (halpn : alpnProtocol ≠ ascii "h2")
    (response : Response) (frames : Bytes) (a : Arrival (response.bytes ++ frames)) :
    HandsOver printer alpnProtocol response frames a ↔
      (response.code = 200 ∧ a.waits < 50 ∧ a.first = response.bytes ∧
        Logged printer alpnProtocol a.first) ∨
      (response.code ≠ 200 ∧
        (50 ≤ a.waits ∨ ¬ Logged printer alpnProtocol a.first ∨ ¬ Succeeded a.first)) := by
  have hstart := @start_ok_iff printer alpnProtocol _ halpn a
  rw [HandsOver]
  cases hresult : start printer alpnProtocol none a.results with
  | ok results =>
      rw [hresult] at hstart
      obtain ⟨hwaits, hlogged, hok, rfl⟩ := (hstart results).mp rfl
      simp [hwaits, hlogged, hok, later_flatten_iff, Nat.not_le.mpr hwaits]
  | error what =>
      have hfails : ¬ (a.waits < 50 ∧ Logged printer alpnProtocol a.first ∧ Succeeded a.first) := by
        rintro ⟨hwaits, hlogged, hok⟩
        have hgoes := (hstart (a.later.map .data)).mpr ⟨hwaits, hlogged, hok, rfl⟩
        rw [hresult] at hgoes
        cases hgoes
      have hrefused : 50 ≤ a.waits ∨ ¬ Logged printer alpnProtocol a.first ∨ ¬ Succeeded a.first := by
        by_contra hnot
        push Not at hnot
        exact hfails ⟨hnot.1, hnot.2⟩
      constructor
      · exact fun hcode => Or.inr ⟨hcode, hrefused⟩
      · rintro (⟨hcode, hwaits, hfirst, hlogged⟩ | ⟨hcode, _⟩)
        · refine absurd ⟨hwaits, hlogged, ?_⟩ hfails
          rw [hfirst]
          exact succeeded_of_code hcode
        · exact hcode

/-- The answer that the server sends to an agent it accepts. -/
def establishedResponse : Response :=
  ⟨ascii "HTTP/1.1", 200, ascii "Connection established", [ascii "Content-Length: 0"], by decide,
    by decide, by decide⟩

/-- The answer alone in the first read, after two attempts, and the preface after it. -/
def separateArrival : Arrival (establishedResponse.bytes ++ connectionPreface) :=
  ⟨2, establishedResponse.bytes, [connectionPreface], by decide, by decide, by decide⟩

theorem handover_iff_separate :
    HandsOver asciiPrinter [] establishedResponse connectionPreface separateArrival :=
  (handover_iff asciiPrinter [] (by decide) establishedResponse connectionPreface
    separateArrival).mpr (.inl ⟨rfl, by decide, rfl, by decide⟩)

/-- The answer and the preface in one read. -/
def joinedArrival : Arrival (establishedResponse.bytes ++ connectionPreface) :=
  ⟨0, establishedResponse.bytes ++ connectionPreface, [], by decide, by decide, by decide⟩

/-- The preface that comes with the answer is never given to the read loop. -/
theorem preface_lost :
    start asciiPrinter [] none joinedArrival.results = .ok [] ∧
    ¬ ∀ (printer : Printer) (alpnProtocol : Bytes) (response : Response) (frames : Bytes)
        (a : Arrival (response.bytes ++ frames)), alpnProtocol ≠ ascii "h2" →
          HandsOver printer alpnProtocol response frames a := by
  have hstart : start asciiPrinter [] none joinedArrival.results = .ok [] := by decide +kernel
  refine ⟨hstart, ?_⟩
  intro hall
  have hover := hall asciiPrinter [] establishedResponse connectionPreface joinedArrival (by decide)
  rw [HandsOver, hstart] at hover
  exact absurd hover.2 (by decide)

/-! ## The read loop after it -/

/-- While nghttp2 takes everything, the read loop delivers the bytes it is given. -/
theorem bytesOf_log_run {recv send : Bytes → Bool}
    (haccept : ∀ fed, recv fed = true ∧ send fed = true) {s : Session} (hactive : s.active = true)
    (reads : List Bytes) :
    bytesOf (run (handleRead recv send) s reads).log = bytesOf s.log ++ reads.flatten := by
  induction reads generalizing s with
  | nil => simp
  | cons data reads ih =>
      have hgroup : bytesOf (deliveries (classify data)) = data := by
        have hflat := classify_flatten data
        rw [List.flatten_eq_flatMap] at hflat
        simp only [bytesOf, deliveries, List.flatMap_append, List.flatMap_map]
        rw [List.flatMap_singleton']
        exact hflat
      have hlog : bytesOf (handleRead recv send s data).log = bytesOf s.log ++ data := by
        rw [log_handleRead recv send s data hactive]
        simp only [bytesOf, List.flatMap_append] at hgroup ⊢
        rw [hgroup]
      rw [run_cons, ih (active_handleRead hactive (haccept _)), hlog, List.flatten_cons,
        List.append_assoc]

/-- After a hand-over that loses nothing the loop delivers the frames of the server. -/
theorem frames_delivered {recv send : Bytes → Bool} {printer : Printer} {alpnProtocol : Bytes}
    {response : Response} {frames : Bytes} {a : Arrival (response.bytes ++ frames)}
    (haccept : ∀ fed, recv fed = true ∧ send fed = true) (hcode : response.code = 200)
    (hover : HandsOver printer alpnProtocol response frames a) :
    ∃ results, start printer alpnProtocol none a.results = .ok results ∧
      bytesOf (run (handleRead recv send) Session.init (received results)).log = frames := by
  rw [HandsOver] at hover
  cases hstart : start printer alpnProtocol none a.results with
  | error what =>
      rw [hstart] at hover
      exact absurd hcode hover
  | ok results =>
      rw [hstart] at hover
      refine ⟨results, rfl, ?_⟩
      rw [bytesOf_log_run haccept rfl, hover.2]
      rfl

end Protogate.TunnelAgent
