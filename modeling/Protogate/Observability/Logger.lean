import Protogate.Lib.Printing
import Mathlib

/-!
# The logger

`Logger` prints every entry and, when uploads to Log Analytics are configured,
buffers it for a batch.  `log` calls `send_to_log_analytics`, which calls `flush`,
which logs through the same logger.  Each function takes the one it calls as an
argument; `flush` ties the knot with a bound on the depth of the calls, and has no
result when the bound is reached.

## Main definitions

* `Platform` — the clocks and the libraries the logger uses.
* `Logger` — its state; `discards` records every clearing of the buffer.
* `log`, `sendToLogAnalytics`, `flushWith` — the functions of the class.
* `flush`, `logCall` — calls of bounded depth.
-/

namespace Protogate.Observability

open Protogate.Lib

/-- `LogLevel`. -/
inductive LogLevel
  | debug | info | warning | error | critical
  deriving DecidableEq

/-- The value of the enumerator. -/
def LogLevel.toNat : LogLevel → ℕ
  | debug => 0
  | info => 1
  | warning => 2
  | error => 3
  | critical => 4

/-- `Logger::level_to_string`. -/
def levelToString : LogLevel → Str
  | .debug => "DEBUG".toList
  | .info => "INFO".toList
  | .warning => "WARNING".toList
  | .error => "ERROR".toList
  | .critical => "CRITICAL".toList

/-- What the logger uses of its surroundings.  The clocks are read one reading after the
other; the JSON library prints a string or throws, and prints every ASCII string. -/
structure Platform where
  /-- `std::chrono::steady_clock::now()`, in nanoseconds. -/
  steadyClock : ℕ → ℤ
  steadyClock_mono : Monotone steadyClock
  /-- `get_iso8601_timestamp`. -/
  iso8601Timestamp : ℕ → Str
  ascii_iso8601Timestamp : ∀ i, isAscii (iso8601Timestamp i) = true
  /-- `get_rfc1123_date`. -/
  rfc1123Date : ℕ → Str
  dumpString : Str → Option Str
  dumpString_ascii : ∀ s, isAscii s = true → (dumpString s).isSome = true
  /-- What `BIO_read` decodes of a base64 text; nothing when it fails. -/
  base64Decode : Str → List UInt8
  /-- The HMAC-SHA256 of a text under a key, in base64. -/
  hmacBase64 : List UInt8 → Str → Str

/-- A log entry; the fields are in the order of their keys. -/
structure LogEntry where
  timestamp : Str
  level : Str
  message : Str
  service : Str
  fields : List (Str × Str)
  deriving DecidableEq

/-- Why the buffer was cleared. -/
inductive DiscardReason
  | disabled
  | failed
  | sent (batch : List LogEntry)
  deriving DecidableEq

/-- A clearing of the buffer: what it held, and why. -/
structure Discard where
  entries : List LogEntry
  reason : DiscardReason
  deriving DecidableEq

/-- The members of the class, how many times a clock was read, and what was discarded. -/
structure Logger where
  minLevel : LogLevel
  workspaceId : Str
  workspaceKey : Str
  logAnalyticsEnabled : Bool
  logBuffer : List LogEntry
  lastFlush : ℤ
  tick : ℕ
  discards : List Discard
  deriving DecidableEq

/-- How a call ends: it returns or throws, with the state then. -/
abbrev Outcome := Except Logger Logger

/-- The state a call ends in. -/
def Outcome.state : Outcome → Logger
  | .ok s => s
  | .error s => s

/-- `BATCH_SIZE`. -/
def batchSize : ℕ := 100

/-- `BATCH_INTERVAL`, in seconds. -/
def batchInterval : ℤ := 10

variable (p : Platform)

/-! ## JSON -/

/-- A key with its value. -/
def dumpField (field : Str × Str) : Option Str := do
  let key ← p.dumpString field.1
  let value ← p.dumpString field.2
  return key ++ ":".toList ++ value

/-- The members of an object; an empty map of fields is left out. -/
def LogEntry.members (e : LogEntry) : List (Str × Str) :=
  [("level".toList, e.level), ("message".toList, e.message), ("service".toList, e.service),
    ("timestamp".toList, e.timestamp)]

/-- `json::dump` of an object with these members. -/
def dumpObject (members : List (Str × Str)) : Option Str := do
  let texts ← members.mapM (dumpField p)
  return "\x7b".toList ++ ",".toList.intercalate texts ++ "\x7d".toList

/-- `log_entry.dump()`. -/
def LogEntry.dump (e : LogEntry) : Option Str := do
  let rest ← e.members.mapM (dumpField p)
  if e.fields.isEmpty then
    return "\x7b".toList ++ ",".toList.intercalate rest ++ "\x7d".toList
  else
    let fields ← dumpObject p e.fields
    let fieldsText := "\"fields\":".toList ++ fields
    return "\x7b".toList ++ ",".toList.intercalate (fieldsText :: rest) ++ "\x7d".toList

/-- `batch.dump()` of the array of the entries. -/
def dumpBatch (batch : List LogEntry) : Option Str := do
  let texts ← batch.mapM (LogEntry.dump p)
  return "[".toList ++ ",".toList.intercalate texts ++ "]".toList

/-! ## Sending -/

/-- `Logger::compute_hmac_sha256`; it throws when the key is not base64. -/
def computeHmacSha256 (keyBase64 data : Str) : Option Str :=
  let key := p.base64Decode keyBase64
  if key.isEmpty then none else some (p.hmacBase64 key data)

/-- The text that is signed. -/
def signatureString (contentLength : ℕ) (date : Str) : Str :=
  "POST\n".toList ++ decimal contentLength ++ "\n".toList ++ "application/json".toList
    ++ "\n".toList ++ "x-ms-date:".toList ++ date ++ "\n".toList ++ "/api/logs".toList

/-- `log_buffer_.clear()` with the new `last_flush_`. -/
def Logger.clear (s : Logger) (reason : DiscardReason) : Logger :=
  { s with logBuffer := [], lastFlush := p.steadyClock s.tick, tick := s.tick + 1
           discards := s.discards ++ [⟨s.logBuffer, reason⟩] }

/-- `Logger::send_to_log_analytics`. -/
def sendToLogAnalytics (flush : Logger → Option Logger) (entry : LogEntry) (s : Logger) :
    Option Logger :=
  let elapsed := (p.steadyClock s.tick - s.lastFlush).tdiv 1000000000
  let s := { s with logBuffer := s.logBuffer ++ [entry], tick := s.tick + 1 }
  if s.logBuffer.length ≥ batchSize ∨ elapsed ≥ batchInterval then flush s else some s

/-- The entry that `log` builds. -/
def logEntry (level : LogLevel) (message : Str) (fields : List (Str × Str)) (s : Logger) :
    LogEntry where
  timestamp := p.iso8601Timestamp s.tick
  level := levelToString level
  message := message
  service := "protogate".toList
  fields := fields

/-- `Logger::log`; printing the entry may throw. -/
def log (flush : Logger → Option Logger) (level : LogLevel) (message : Str)
    (fields : List (Str × Str)) (s : Logger) : Option Outcome :=
  if level.toNat < s.minLevel.toNat then some (.ok s)
  else
    let entry := logEntry p level message fields s
    let s := { s with tick := s.tick + 1 }
    match entry.dump p with
    | none => some (.error s)
    | some _ =>
      if s.logAnalyticsEnabled then (sendToLogAnalytics p flush entry s).map .ok
      else some (.ok s)

/-- The fields of the entry that `flush` logs. -/
def batchFields (workspaceId : Str) (batchSize bodyBytes : ℕ) : List (Str × Str) :=
  [("batch_size".toList, decimal batchSize), ("body_bytes".toList, decimal bodyBytes),
    ("workspace_id".toList, workspaceId)]

/-- `Logger::flush`, logging with `debug`. -/
def flushWith (debug : Str → List (Str × Str) → Logger → Option Outcome) (s : Logger) :
    Option Logger :=
  if s.logBuffer.isEmpty then some s
  else if !s.logAnalyticsEnabled || s.workspaceId.isEmpty || s.workspaceKey.isEmpty then
    some (s.clear p .disabled)
  else
    match dumpBatch p s.logBuffer with
    | none => some (s.clear p .failed)
    | some body =>
      let signed := { s with tick := s.tick + 1 }
      match computeHmacSha256 p s.workspaceKey
          (signatureString body.length (p.rfc1123Date s.tick)) with
      | none => some (signed.clear p .failed)
      | some _ =>
        match debug "Would send batch to Log Analytics".toList
            (batchFields s.workspaceId s.logBuffer.length body.length) signed with
        | none => none
        | some (.error logged) => some (logged.clear p .failed)
        | some (.ok logged) => some (logged.clear p (.sent s.logBuffer))

/-- A call of `flush`, with at most `depth` calls of it inside one another. -/
def flush : ℕ → Logger → Option Logger
  | 0, _ => none
  | depth + 1, s => flushWith p (log p (flush depth) .debug) s

/-- A call of `log`, with the same bound for the calls of `flush` in it. -/
def logCall (depth : ℕ) (level : LogLevel) (message : Str) (fields : List (Str × Str))
    (s : Logger) : Option Outcome :=
  log p (flush p depth) level message fields s

end Protogate.Observability
