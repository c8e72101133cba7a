import Protogate.Observability.Logger
import Mathlib.Data.List.Perm.Subperm

/-!
# When logging terminates

`flush` logs a debug entry before it clears the buffer.  When that entry is not
filtered and can be printed, it is buffered like any other: it is discarded
without having been part of the batch, or, when the buffer is full or the last
flush is ten seconds back, it starts a flush of its own, which does the same and
never ends.  In every other case the calls end, and account for each entry.

## Main definitions

* `Accounted` — what became of the entries of the buffer during a call.
* `FlushMeets`, `LogMeets` — the call ends and accounts for every entry.
* `FlushLogs` — `flush` buffers an entry of its own.
* `flush_quiet`, `flush_loud` — what `flush` does without and with it.
* `flush_diverges` — the recursion that does not end.
-/

namespace Protogate.Observability

open Protogate.Lib

variable {p : Platform}

/-! ## Printing -/

theorem isSome_mapM {α β : Type} {f : α → Option β} {l : List α} :
    (l.mapM f).isSome = true ↔ ∀ x ∈ l, (f x).isSome = true := by
  induction l with
  | nil => simp
  | cons x l ih =>
      rw [List.forall_mem_cons, ← ih, List.mapM_cons]
      cases f x <;> cases l.mapM f <;> simp

theorem isSome_dumpField {field : Str × Str} :
    (dumpField p field).isSome = true ↔
      (p.dumpString field.1).isSome = true ∧ (p.dumpString field.2).isSome = true := by
  cases h₁ : p.dumpString field.1 <;> cases h₂ : p.dumpString field.2 <;> simp [dumpField, h₁, h₂]

theorem isSome_dumpObject {members : List (Str × Str)} :
    (dumpObject p members).isSome = true ↔ ∀ m ∈ members, (dumpField p m).isSome = true := by
  rw [← isSome_mapM]
  cases h : members.mapM (dumpField p) <;> simp [dumpObject, h]

/-- An entry is printed exactly if all its strings are. -/
theorem isSome_dump {e : LogEntry} :
    (e.dump p).isSome = true ↔
      (∀ m ∈ e.members, (dumpField p m).isSome = true) ∧
        ∀ m ∈ e.fields, (dumpField p m).isSome = true := by
  rw [← isSome_mapM (l := e.members), ← isSome_dumpObject]
  cases h : e.members.mapM (dumpField p) with
  | none => simp [LogEntry.dump, h]
  | some rest =>
      cases hfields : e.fields with
      | nil => simp [LogEntry.dump, h, hfields, dumpObject]
      | cons m fields => cases ho : dumpObject p (m :: fields) <;> simp [LogEntry.dump, h, hfields, ho]

theorem isSome_dumpBatch {batch : List LogEntry} :
    (dumpBatch p batch).isSome = true ↔ ∀ e ∈ batch, (e.dump p).isSome = true := by
  rw [← isSome_mapM]
  cases h : batch.mapM (LogEntry.dump p) <;> simp [dumpBatch, h]

/-! ## What a call promises -/

/-- The entries were part of the batch, unless uploads are disabled or the upload failed. -/
def Discard.Justified (d : Discard) : Prop :=
  match d.reason with
  | .sent batch => d.entries.Subperm batch
  | .disabled | .failed => True

/-- What the buffer held and what was `pushed` is discarded once, with a justification, or still
in the buffer. -/
def Accounted (s : Logger) (pushed : List LogEntry) (s' : Logger) : Prop :=
  ∃ new, s'.discards = s.discards ++ new ∧ (∀ d ∈ new, d.Justified) ∧
    s.logBuffer ++ pushed = new.flatMap Discard.entries ++ s'.logBuffer

/-- `flush` ends, the buffer is empty then, and every entry is accounted for. -/
def FlushMeets (p : Platform) (s : Logger) : Prop :=
  ∃ depth s', flush p depth s = some s' ∧ s'.logBuffer = [] ∧ Accounted s [] s'

/-- `log` ends, and every entry is accounted for, the new one included if it was buffered. -/
def LogMeets (p : Platform) (level : LogLevel) (message : Str) (fields : List (Str × Str))
    (s : Logger) : Prop :=
  ∃ depth out pushed, logCall p depth level message fields s = some out ∧
    (pushed = [] ∨ pushed = [logEntry p level message fields s]) ∧
    Accounted s pushed (Outcome.state out)

/-- `flush` has a batch, and nothing stops it before its debug entry. -/
structure FlushUploads (p : Platform) (s : Logger) : Prop where
  buffer : s.logBuffer ≠ []
  enabled : s.logAnalyticsEnabled = true
  workspaceId : s.workspaceId ≠ []
  workspaceKey : s.workspaceKey ≠ []
  batch : ∀ e ∈ s.logBuffer, (e.dump p).isSome = true
  key : p.base64Decode s.workspaceKey ≠ []

/-- Its debug entry is neither filtered nor refused by the printer. -/
structure FlushLogs (p : Platform) (s : Logger) : Prop extends FlushUploads p s where
  level : s.minLevel = .debug
  printed : (p.dumpString s.workspaceId).isSome = true

/-- The buffer is full or the last flush is back long enough when an entry is added at the
`i`-th reading of the clock. -/
def Urgent (p : Platform) (s : Logger) (i : ℕ) : Prop :=
  s.logBuffer.length + 1 ≥ batchSize ∨
    (p.steadyClock i - s.lastFlush).tdiv 1000000000 ≥ batchInterval

instance (s : Logger) (i : ℕ) : Decidable (Urgent p s i) :=
  inferInstanceAs (Decidable (_ ∨ _))

/-- The state after `entry` was buffered. -/
def Logger.buffered (s : Logger) (entry : LogEntry) : Logger :=
  { s with logBuffer := s.logBuffer ++ [entry], tick := s.tick + 1 }

theorem sendToLogAnalytics_eq (f : Logger → Option Logger) (entry : LogEntry) (s : Logger) :
    sendToLogAnalytics p f entry s
      = if Urgent p s s.tick then f (s.buffered entry) else some (s.buffered entry) := by
  simp only [sendToLogAnalytics, List.length_append, List.length_singleton]
  exact if_congr Iff.rfl rfl rfl

/-! ## `log` -/

section Log
variable {f : Logger → Option Logger} {level : LogLevel} {message : Str} {fields : List (Str × Str)}
  {s : Logger}

theorem log_filtered (h : level.toNat < s.minLevel.toNat) :
    log p f level message fields s = some (.ok s) := if_pos h

theorem log_refused (h : ¬ level.toNat < s.minLevel.toNat)
    (hdump : (logEntry p level message fields s).dump p = none) :
    log p f level message fields s = some (.error { s with tick := s.tick + 1 }) := by
  simp only [log, if_neg h, hdump]

theorem log_printed (h : ¬ level.toNat < s.minLevel.toNat)
    (hdump : ((logEntry p level message fields s).dump p).isSome = true) :
    log p f level message fields s
      = if s.logAnalyticsEnabled then
          (sendToLogAnalytics p f (logEntry p level message fields s)
            { s with tick := s.tick + 1 }).map .ok
        else some (.ok { s with tick := s.tick + 1 }) := by
  obtain ⟨text, htext⟩ := Option.isSome_iff_exists.mp hdump
  simp only [log, if_neg h, htext]

end Log

/-! ## `flush` -/

/-- The entry that `flush` logs, with `body` the text of the batch. -/
def debugEntry (p : Platform) (s : Logger) (body : Str) : LogEntry :=
  logEntry p .debug "Would send batch to Log Analytics".toList
    (batchFields s.workspaceId s.logBuffer.length body.length) { s with tick := s.tick + 1 }

/-- The constant texts of the debug entry are printed. -/
theorem dumpString_debugTexts : ∀ t ∈ ["level".toList, "message".toList, "service".toList,
    "timestamp".toList, "batch_size".toList, "body_bytes".toList, "workspace_id".toList,
    "DEBUG".toList, "protogate".toList, "Would send batch to Log Analytics".toList],
    (p.dumpString t).isSome = true := by
  intro t ht
  apply p.dumpString_ascii
  revert t
  rw [← List.all_eq_true]
  decide +kernel

theorem isSome_dump_debugEntry {s : Logger} (body : Str) :
    ((debugEntry p s body).dump p).isSome = true ↔ (p.dumpString s.workspaceId).isSome = true := by
  have hconst := dumpString_debugTexts (p := p)
  simp only [List.forall_mem_cons] at hconst
  obtain ⟨hlevel, hmessage, hservice, htimestamp, hsize, hbytes, hid, hdebug, hname, htext, _⟩ := hconst
  have htime := p.dumpString_ascii _ (p.ascii_iso8601Timestamp (s.tick + 1))
  have hnumber : ∀ n : ℕ, (p.dumpString (decimal n)).isSome = true :=
    fun n => p.dumpString_ascii _ (isAscii_decimal n)
  have hmembers : (debugEntry p s body).members = [("level".toList, "DEBUG".toList),
      ("message".toList, "Would send batch to Log Analytics".toList),
      ("service".toList, "protogate".toList),
      ("timestamp".toList, p.iso8601Timestamp (s.tick + 1))] := rfl
  have hfields : (debugEntry p s body).fields
      = [("batch_size".toList, decimal s.logBuffer.length), ("body_bytes".toList, decimal body.length),
          ("workspace_id".toList, s.workspaceId)] := rfl
  rw [isSome_dump, hmembers, hfields]
  constructor
  · rintro ⟨_, h⟩
    have hfield := h ("workspace_id".toList, s.workspaceId)
      (List.mem_cons_of_mem _ (List.mem_cons_of_mem _ List.mem_cons_self))
    exact (isSome_dumpField.mp hfield).2
  · intro h
    refine ⟨?_, ?_⟩
    · refine List.forall_mem_cons.mpr ⟨isSome_dumpField.mpr ⟨hlevel, hdebug⟩, ?_⟩
      refine List.forall_mem_cons.mpr ⟨isSome_dumpField.mpr ⟨hmessage, htext⟩, ?_⟩
      refine List.forall_mem_cons.mpr ⟨isSome_dumpField.mpr ⟨hservice, hname⟩, ?_⟩
      exact List.forall_mem_singleton.mpr (isSome_dumpField.mpr ⟨htimestamp, htime⟩)
    · refine List.forall_mem_cons.mpr ⟨isSome_dumpField.mpr ⟨hsize, hnumber _⟩, ?_⟩
      refine List.forall_mem_cons.mpr ⟨isSome_dumpField.mpr ⟨hbytes, hnumber _⟩, ?_⟩
      exact List.forall_mem_singleton.mpr (isSome_dumpField.mpr ⟨hid, h⟩)

/-- Clearing the buffer accounts for what it held. -/
theorem accounted_clear {s t : Logger} {reason : DiscardReason} (hbuffer : t.logBuffer = s.logBuffer)
    (hdiscards : t.discards = s.discards) (h : Discard.Justified ⟨s.logBuffer, reason⟩) :
    Accounted s [] (t.clear p reason) := by
  refine ⟨[⟨s.logBuffer, reason⟩], ?_, ?_, ?_⟩
  · simp only [Logger.clear, hbuffer, hdiscards]
  · simpa using h
  · simp [Logger.clear]

/-- What becomes of the logger when the log call of an upload has ended. -/
def uploaded (p : Platform) (batch : List LogEntry) : Option Outcome → Option Logger
  | none => none
  | some (.error logged) => some (logged.clear p .failed)
  | some (.ok logged) => some (logged.clear p (.sent batch))

theorem flushWith_of_uploads {s : Logger} (h : FlushUploads p s)
    (debug : Str → List (Str × Str) → Logger → Option Outcome) :
    ∃ body : Str, flushWith p debug s =
      uploaded p s.logBuffer (debug "Would send batch to Log Analytics".toList
        (batchFields s.workspaceId s.logBuffer.length body.length) { s with tick := s.tick + 1 }) := by
  obtain ⟨body, hbody⟩ := Option.isSome_iff_exists.mp (isSome_dumpBatch.mpr h.batch)
  have hempty : s.logBuffer.isEmpty = false := by simpa using h.buffer
  have hids : (!s.logAnalyticsEnabled || s.workspaceId.isEmpty || s.workspaceKey.isEmpty) = false := by
    simp [h.enabled, h.workspaceId, h.workspaceKey]
  have hkey : (p.base64Decode s.workspaceKey).isEmpty = false := by simpa using h.key
  refine ⟨body, ?_⟩
  rw [flushWith]
  simp only [hempty, hids, hbody, computeHmacSha256, hkey, Bool.false_eq_true, if_false]
  rfl

/-- Without an upload, `flush` ends at once. -/
theorem flushWith_of_not_uploads {s : Logger} (h : ¬ FlushUploads p s)
    (debug : Str → List (Str × Str) → Logger → Option Outcome) :
    ∃ s', flushWith p debug s = some s' ∧ s'.logBuffer = [] ∧ Accounted s [] s' := by
  simp only [flushWith]
  split
  · rename_i hempty
    have hnil : s.logBuffer = [] := by simpa using hempty
    exact ⟨s, rfl, hnil, [], by simp, by simp, by simp⟩
  rename_i hempty
  split
  · exact ⟨_, rfl, rfl, accounted_clear rfl rfl trivial⟩
  rename_i hids
  split
  · exact ⟨_, rfl, rfl, accounted_clear rfl rfl trivial⟩
  rename_i body hbody
  split
  · exact ⟨_, rfl, rfl, accounted_clear rfl rfl trivial⟩
  rename_i signature hsign
  -- nothing stopped the upload
  refine absurd ?_ h
  simp only [Bool.or_eq_true, Bool.not_eq_true', List.isEmpty_iff, not_or] at hempty hids
  have hbatch := isSome_dumpBatch.mp (Option.isSome_iff_exists.mpr ⟨body, hbody⟩)
  have hkey : p.base64Decode s.workspaceKey ≠ [] := by
    intro hnil
    simp [computeHmacSha256, hnil] at hsign
  exact
    { buffer := hempty
      enabled := by simpa using hids.1.1
      workspaceId := hids.1.2
      workspaceKey := hids.2
      batch := hbatch
      key := hkey }

/-- When the debug entry is not buffered, `flush` ends at its first level and accounts for
every entry. -/
theorem flush_quiet {s : Logger} (h : ¬ FlushLogs p s) (depth : ℕ) :
    ∃ s', flush p (depth + 1) s = some s' ∧ s'.logBuffer = [] ∧ Accounted s [] s' := by
  rw [flush]
  by_cases hup : FlushUploads p s
  · obtain ⟨body, hflush⟩ := flushWith_of_uploads hup (log p (flush p depth) .debug)
    rw [hflush]
    by_cases hlevel : s.minLevel = .debug
    · have hprinted : ¬ (p.dumpString s.workspaceId).isSome = true :=
        fun hsome => h ⟨hup, hlevel, hsome⟩
      have hdump : (debugEntry p s body).dump p = none := by
        rw [← Option.not_isSome_iff_eq_none, isSome_dump_debugEntry]
        exact hprinted
      rw [log_refused (by simp [hlevel, LogLevel.toNat]) hdump]
      exact ⟨_, rfl, rfl, accounted_clear rfl rfl trivial⟩
    · have hfiltered : LogLevel.debug.toNat < s.minLevel.toNat := by
        cases hmin : s.minLevel <;> simp_all [LogLevel.toNat]
      rw [log_filtered (s := { s with tick := s.tick + 1 }) hfiltered]
      exact ⟨_, rfl, rfl, accounted_clear rfl rfl (List.Subperm.refl _)⟩
  · exact flushWith_of_not_uploads hup _

/-- The state in which `flush` has buffered its debug entry. -/
def Logger.withDebug (p : Platform) (s : Logger) (body : Str) : Logger :=
  { s with logBuffer := s.logBuffer ++ [debugEntry p s body], tick := s.tick + 3 }

/-- When the debug entry is buffered, the call goes on with a flush of its own if that is
urgent, and else clears the buffer. -/
theorem flush_loud {s : Logger} (h : FlushLogs p s) (depth : ℕ) :
    ∃ body, flush p (depth + 1) s
      = (if Urgent p s (s.tick + 2) then flush p depth (s.withDebug p body)
          else some (s.withDebug p body)).map fun logged => logged.clear p (.sent s.logBuffer) := by
  obtain ⟨body, hflush⟩ := flushWith_of_uploads h.toFlushUploads (log p (flush p depth) .debug)
  refine ⟨body, ?_⟩
  have hdump := (isSome_dump_debugEntry (s := s) body).mpr h.printed
  rw [flush, hflush, log_printed (by simp [h.level, LogLevel.toNat]) hdump, if_pos h.enabled,
    sendToLogAnalytics_eq]
  change uploaded p s.logBuffer (Option.map Except.ok (if Urgent p s (s.tick + 2) then
      flush p depth (s.withDebug p body) else some (s.withDebug p body))) = _
  cases (if Urgent p s (s.tick + 2) then flush p depth (s.withDebug p body)
    else some (s.withDebug p body)) <;> rfl

/-- After its debug entry the logger is as before, and a flush is urgent if it was. -/
theorem FlushLogs.withDebug {s : Logger} (h : FlushLogs p s) (body : Str) :
    FlushLogs p (s.withDebug p body) where
  buffer := by simp [Logger.withDebug]
  enabled := h.enabled
  workspaceId := h.workspaceId
  workspaceKey := h.workspaceKey
  batch := by
    have hdump := (isSome_dump_debugEntry (s := s) body).mpr h.printed
    simpa [Logger.withDebug, or_imp, forall_and] using ⟨h.batch, hdump⟩
  key := h.key
  level := h.level
  printed := h.printed

theorem Urgent.withDebug {s : Logger} {i j : ℕ} (h : Urgent p s i) (hij : i ≤ j) (body : Str) :
    Urgent p (s.withDebug p body) j := by
  rcases h with hfull | hlate
  · left
    simp only [Logger.withDebug, List.length_append, List.length_singleton]
    omega
  · right
    have hmono := p.steadyClock_mono hij
    have hle : p.steadyClock i - s.lastFlush ≤ p.steadyClock j - s.lastFlush := by omega
    exact hlate.le.trans (Int.tdiv_le_tdiv (by norm_num) hle)

/-- **The recursion.**  An urgent flush at debug level starts another one at every depth. -/
theorem flush_diverges {s : Logger} (h : FlushLogs p s) (hurgent : Urgent p s (s.tick + 2))
    (depth : ℕ) : flush p depth s = none := by
  induction depth generalizing s with
  | zero => rfl
  | succ depth ih =>
      obtain ⟨body, hflush⟩ := flush_loud h depth
      have hnext : Urgent p (s.withDebug p body) ((s.withDebug p body).tick + 2) :=
        hurgent.withDebug (by simp only [Logger.withDebug]; omega) body
      rw [hflush, if_pos hurgent, ih (h.withDebug body) hnext]
      rfl

/-- A flush does not end exactly if it buffers its debug entry and that is urgent. -/
theorem flush_diverges_iff {s : Logger} :
    (∀ depth, flush p depth s = none) ↔ FlushLogs p s ∧ Urgent p s (s.tick + 2) := by
  refine ⟨fun hnone => ?_, fun h => flush_diverges h.1 h.2⟩
  by_contra hcon
  by_cases h : FlushLogs p s
  · obtain ⟨body, hflush⟩ := flush_loud h 0
    have hcalm : ¬ Urgent p s (s.tick + 2) := fun hurgent => hcon ⟨h, hurgent⟩
    rw [if_neg hcalm, hnone 1] at hflush
    cases hflush
  · obtain ⟨s', hflush, _⟩ := flush_quiet h 0
    rw [hnone 1] at hflush
    cases hflush

/-- Without the recursion, the debug entry is discarded and was not in the batch. -/
theorem not_accounted {s s' : Logger} {pushed : List LogEntry} {depth : ℕ} (h : FlushLogs p s)
    (start : Logger) (hdiscards : start.discards = s.discards)
    (hflush : flush p depth s = some s') : ¬ Accounted start pushed s' := by
  cases depth with
  | zero => cases hflush
  | succ depth =>
      obtain ⟨body, hloud⟩ := flush_loud h depth
      by_cases hurgent : Urgent p s (s.tick + 2)
      · rw [flush_diverges h hurgent] at hflush
        cases hflush
      · rw [hloud, if_neg hurgent, Option.map_some, Option.some_inj] at hflush
        subst hflush
        rintro ⟨new, hnew, hjust, _⟩
        have hlast : new = [⟨s.logBuffer ++ [debugEntry p s body], .sent s.logBuffer⟩] := by
          simpa [Logger.clear, Logger.withDebug, hdiscards] using hnew.symm
        have hsub := hjust _ (hlast ▸ List.mem_singleton_self _)
        have hlen := List.Subperm.length_le hsub
        simp at hlen

/-! ## The calls -/

/-- `log` buffers its entry, and that starts a flush. -/
structure LogFlushes (p : Platform) (level : LogLevel) (message : Str) (fields : List (Str × Str))
    (s : Logger) : Prop where
  passes : s.minLevel.toNat ≤ level.toNat
  printed : ((logEntry p level message fields s).dump p).isSome = true
  enabled : s.logAnalyticsEnabled = true
  urgent : Urgent p s (s.tick + 1)

/-- The state in which `log` calls `flush`. -/
def Logger.logged (p : Platform) (level : LogLevel) (message : Str) (fields : List (Str × Str))
    (s : Logger) : Logger :=
  { s with logBuffer := s.logBuffer ++ [logEntry p level message fields s], tick := s.tick + 2 }

section Calls
variable {level : LogLevel} {message : Str} {fields : List (Str × Str)} {s : Logger}

theorem logCall_of_flushes (h : LogFlushes p level message fields s) (depth : ℕ) :
    logCall p depth level message fields s
      = (flush p depth (s.logged p level message fields)).map .ok := by
  have hfilter : ¬ level.toNat < s.minLevel.toNat := Nat.not_lt.mpr h.passes
  have hurgent : Urgent p { s with tick := s.tick + 1 } (s.tick + 1) := h.urgent
  rw [logCall, log_printed hfilter h.printed, if_pos h.enabled, sendToLogAnalytics_eq,
    if_pos hurgent]
  rfl

/-- A call of `log` that starts no flush discards nothing. -/
theorem logMeets_of_not_flushes (h : ¬ LogFlushes p level message fields s) :
    LogMeets p level message fields s := by
  by_cases hfilter : level.toNat < s.minLevel.toNat
  · exact ⟨0, .ok s, [], log_filtered hfilter, .inl rfl, [], by simp [Outcome.state]⟩
  by_cases hdump : ((logEntry p level message fields s).dump p).isSome = true
  · by_cases henabled : s.logAnalyticsEnabled = true
    · have hurgent : ¬ Urgent p { s with tick := s.tick + 1 } (s.tick + 1) :=
        fun hu => h ⟨Nat.not_lt.mp hfilter, hdump, henabled, hu⟩
      refine ⟨0, .ok (s.logged p level message fields), _, ?_, .inr rfl, [], ?_⟩
      · rw [logCall, log_printed hfilter hdump, if_pos henabled, sendToLogAnalytics_eq,
          if_neg hurgent]
        rfl
      · simp [Outcome.state, Logger.logged]
    · refine ⟨0, .ok { s with tick := s.tick + 1 }, [], ?_, .inl rfl, [], by simp [Outcome.state]⟩
      rw [logCall, log_printed hfilter hdump, if_neg henabled]
  · refine ⟨0, .error { s with tick := s.tick + 1 }, [], ?_, .inl rfl, [], by simp [Outcome.state]⟩
    exact log_refused hfilter (Option.not_isSome_iff_eq_none.mp hdump)

theorem flushMeets_iff : FlushMeets p s ↔ ¬ FlushLogs p s := by
  constructor
  · rintro ⟨depth, s', hflush, _, haccounted⟩ h
    exact not_accounted h s rfl hflush haccounted
  · intro h
    exact ⟨1, flush_quiet h 0⟩

theorem logMeets_iff :
    LogMeets p level message fields s ↔
      ¬ (LogFlushes p level message fields s ∧ FlushLogs p (s.logged p level message fields)) := by
  constructor
  · rintro ⟨depth, out, pushed, hcall, _, haccounted⟩ ⟨hflushes, hlogs⟩
    rw [logCall_of_flushes hflushes, Option.map_eq_some_iff] at hcall
    obtain ⟨s', hflush, rfl⟩ := hcall
    exact not_accounted hlogs s rfl hflush haccounted
  · intro h
    by_cases hflushes : LogFlushes p level message fields s
    · have hquiet : ¬ FlushLogs p (s.logged p level message fields) := fun hlogs => h ⟨hflushes, hlogs⟩
      obtain ⟨s', hflush, _, new, hnew, hjust, hentries⟩ := flush_quiet hquiet 0
      refine ⟨1, .ok s', [logEntry p level message fields s], ?_, .inr rfl, new, hnew, hjust, ?_⟩
      · rw [logCall_of_flushes hflushes, hflush]
        rfl
      · simpa [Logger.logged, Outcome.state] using hentries
    · exact logMeets_of_not_flushes hflushes

end Calls

/-- **Logging terminates exactly if `flush` logs nothing.**  Every call of `flush` and `log` ends,
leaves an empty buffer when it flushes and accounts for every entry, unless it comes to a flush
whose debug entry is buffered; `flush` does not end exactly if that entry makes another flush
urgent. -/
theorem logging_terminates_iff (p : Platform) (s : Logger) :
    (FlushMeets p s ↔ ¬ FlushLogs p s) ∧
      (∀ level message fields, LogMeets p level message fields s ↔
        ¬ (LogFlushes p level message fields s ∧ FlushLogs p (s.logged p level message fields))) ∧
      ((∀ depth, flush p depth s = none) ↔ FlushLogs p s ∧ Urgent p s (s.tick + 2)) :=
  ⟨flushMeets_iff, fun _ _ _ => logMeets_iff, flush_diverges_iff⟩

/-- A platform on which every reading of the clock is ten seconds after the last flush. -/
def lateClock : Platform where
  steadyClock _ := 10000000000
  steadyClock_mono := fun _ _ _ => le_rfl
  iso8601Timestamp _ := "2026-01-01T00:00:10.000Z".toList
  ascii_iso8601Timestamp _ := by decide +kernel
  rfc1123Date _ := "Thu, 01 Jan 2026 00:00:10 GMT".toList
  dumpString s := some ("\"".toList ++ s ++ "\"".toList)
  dumpString_ascii _ _ := rfl
  base64Decode key := if key = "a2V5".toList then [107, 101, 121] else []
  hmacBase64 _ _ := []

/-- A logger at debug level with uploads configured. -/
def debugLogger : Logger where
  minLevel := .debug
  workspaceId := "ws".toList
  workspaceKey := "a2V5".toList
  logAnalyticsEnabled := true
  logBuffer := []
  lastFlush := 0
  tick := 0
  discards := []

/-- The first entry ten seconds after the last flush starts flushes without end. -/
theorem logging_recurses :
    ¬ LogMeets lateClock .info "Tunnel connected".toList [] debugLogger ∧
      ∀ depth, logCall lateClock depth .info "Tunnel connected".toList [] debugLogger = none := by
  have hdump : ∀ e : LogEntry, (e.dump lateClock).isSome = true := fun e =>
    isSome_dump.mpr ⟨fun _ _ => isSome_dumpField.mpr ⟨rfl, rfl⟩,
      fun _ _ => isSome_dumpField.mpr ⟨rfl, rfl⟩⟩
  have hflushes : LogFlushes lateClock .info "Tunnel connected".toList [] debugLogger :=
    ⟨by decide, hdump _, rfl, .inr (by decide)⟩
  have hlogs : FlushLogs lateClock (debugLogger.logged lateClock .info "Tunnel connected".toList []) :=
    { buffer := by simp [Logger.logged]
      enabled := rfl
      workspaceId := by decide +kernel
      workspaceKey := by decide +kernel
      batch := fun e _ => hdump e
      key := by decide +kernel
      level := rfl
      printed := rfl }
  refine ⟨fun h => logMeets_iff.mp h ⟨hflushes, hlogs⟩, fun depth => ?_⟩
  rw [logCall_of_flushes hflushes, flush_diverges hlogs (.inr (by decide))]
  rfl

end Protogate.Observability
