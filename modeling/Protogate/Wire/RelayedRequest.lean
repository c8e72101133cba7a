import Protogate.Proxy.ParseRequest
import Protogate.Wire.Bodies

/-!
# A request on its way to the agent

The proxy parses a request, prints it again and hands the text to `send_http_request`,
which parses it once more and submits a header list and a body.  `parse_request` accepts
any text with a line in it: words of the request line may be missing, names may be empty,
and there may be carriage returns anywhere.  What it returns is printed as text that the
second parser takes apart in the same way, body and all.  But nghttp2 does not take a
provider for the body, since the stream does not exist yet; so a body is never sent.

## Main definitions

* `Parsed` — what `parse_request` guarantees of a request.
* `Relayed` — the fields submitted for a request.
* `Preserved` — they are submitted, and nghttp2 gets the whole body.
* `preserved_iff` — it does exactly when there is no body.
-/

namespace Protogate.Wire

open Protogate.Lib Protogate.Agent Protogate.Proxy

/-! ## What is parsed -/

/-- What `parse_request` guarantees: words, missing from the end only, and header fields
that are already the way the parser leaves them. -/
structure Parsed (r : HTTPRequest) : Prop where
  method_word : ∀ c ∈ r.method, isSpace c = false
  path_word : ∀ c ∈ r.path, isSpace c = false
  version_word : ∀ c ∈ r.version, isSpace c = false
  path_missing : r.method = [] → r.path = []
  version_missing : r.path = [] → r.version = []
  distinct : (r.headers.map Prod.fst).Nodup
  name : ∀ h ∈ r.headers, ':' ∉ h.1 ∧ '\n' ∉ h.1 ∧ lower h.1 = h.1
  value : ∀ h ∈ r.headers, '\n' ∉ h.2 ∧ trim isBlank h.2 = h.2

/-- The fields of a header map are the way the parser leaves them. -/
def CleanFields (h : HeaderFields) : Prop :=
  ∀ name value, h.headers.lookup name = some value →
    (':' ∉ name ∧ '\n' ∉ name ∧ lower name = name) ∧ '\n' ∉ value ∧ trim isBlank value = value

theorem cleanFields_add {h : HeaderFields} (H : CleanFields h) {line : Str} (hline : '\n' ∉ line) :
    CleanFields (h.add line) := by
  unfold HeaderFields.add
  cases hsplit : splitColon (popCr line) with
  | none => exact H
  | some field =>
      obtain ⟨name, value⟩ := field
      obtain ⟨hcolon, heq⟩ := splitColon_eq_some hsplit
      have hnewline : '\n' ∉ name ++ ':' :: value := by
        rw [← heq]
        exact fun hmem => hline (mem_of_mem_popCr hmem)
      simp only [List.mem_append, List.mem_cons, not_or] at hnewline
      intro n v hlookup
      rw [Assoc.lookup_insert_ite] at hlookup
      split at hlookup
      · cases hlookup
        subst_vars
        refine ⟨⟨not_mem_lower rfl hcolon, not_mem_lower rfl hnewline.1, lower_lower name⟩, ?_,
          trim_trim isBlank value⟩
        exact fun hmem => hnewline.2.2 (mem_of_mem_trim hmem)
      · exact H n v hlookup

theorem cleanFields_foldl {lines : List Str} (hlines : ∀ l ∈ lines, '\n' ∉ l) {h : HeaderFields}
    (H : CleanFields h) : CleanFields (lines.foldl HeaderFields.add h) := by
  induction lines generalizing h with
  | nil => exact H
  | cons l lines ih =>
      exact ih (fun m hm => hlines m (List.mem_cons_of_mem _ hm))
        (cleanFields_add H (hlines l List.mem_cons_self))

/-- **What is parsed**, from any text. -/
theorem parsed_of_parseRequest {buffer : Str} {r : HTTPRequest} (h : parseRequest buffer = some r) :
    Parsed r := by
  unfold parseRequest at h
  split at h
  · cases h
  · rename_i line stream hline
    cases h
    have hclean : CleanFields ((headerBlock stream.length stream).1.foldl HeaderFields.add ⟨∅, []⟩) :=
      cleanFields_foldl (newline_not_mem_headerBlock _ _) (fun _ _ h => by cases h)
    refine ⟨isSpace_of_mem_extractWord _, isSpace_of_mem_extractWord _,
      isSpace_of_mem_extractWord _, ?_, ?_, ?_, ?_, ?_⟩
    · exact fun hmethod => extractWord_of_nil hmethod
    · exact fun hpath => extractWord_of_nil hpath
    · exact nodup_entryList _
    · exact fun h hh => (hclean h.1 h.2 (mem_entryList.mp hh)).1
    · exact fun h hh => (hclean h.1 h.2 (mem_entryList.mp hh)).2

/-! ## The text is parsed again -/

/-- The second parser reads the same block of header lines. -/
theorem parseHeaderLines_eq (n : ℕ) (stream : Str) (headers : List (Str × Str)) :
    parseHeaderLines n stream headers =
      ((headerBlock n stream).1.foldl (fun headers line => parseHeaderLine line headers) headers,
        (headerBlock n stream).2) := by
  induction n generalizing stream headers with
  | zero => rfl
  | succ n ih =>
      cases hline : getline stream with
      | none => simp [parseHeaderLines, headerBlock, hline]
      | some found =>
          obtain ⟨line, rest⟩ := found
          by_cases hend : line = [] ∨ line = ['\r']
          · simp [parseHeaderLines, headerBlock, hline, hend]
          · simp [parseHeaderLines, headerBlock, hline, hend, ih]

theorem parseHeaderLine_eq (line : Str) (headers : List (Str × Str)) :
    parseHeaderLine line headers =
      match splitColon (popCr line) with
      | none => headers
      | some (name, value) => setHeader (lower name) (trim isBlank value) headers := by
  have hpop : (if line.getLast? = some '\r' then line.dropLast else line) = popCr line := rfl
  by_cases hcolon : ':' ∈ popCr line
  · simp only [parseHeaderLine, splitColon, hpop, hcolon, if_true]
    rfl
  · simp only [parseHeaderLine, splitColon, hpop, hcolon, if_false]

/-- A line as `to_string` prints it. -/
def printedLine (h : Str × Str) : Str := h.1 ++ ": ".toList ++ h.2

/-- A field that is already clean is read as it was printed. -/
theorem parseHeaderLine_printed {h : Str × Str} (hcolon : ':' ∉ h.1) (hlower : lower h.1 = h.1)
    (htrim : trim isBlank h.2 = h.2) (headers : List (Str × Str)) :
    parseHeaderLine (printedLine h ++ ['\r']) headers = setHeader h.1 h.2 headers := by
  have hline : printedLine h = h.1 ++ ':' :: ' ' :: h.2 := by simp [printedLine]
  have hvalue : trim isBlank (' ' :: h.2) = h.2 := by rw [trim_cons rfl, htrim]
  rw [parseHeaderLine_eq, popCr_concat, hline, splitColon_append hcolon]
  simp only [hlower, hvalue]

/-- A name that is not there yet is added. -/
theorem setHeader_perm {name value : Str} {headers : List (Str × Str)}
    (h : name ∉ headers.map Prod.fst) :
    (setHeader name value headers).Perm ((name, value) :: headers) := by
  induction headers with
  | nil => exact List.Perm.refl _
  | cons f headers ih =>
      obtain ⟨n, v⟩ := f
      simp only [List.map_cons, List.mem_cons, not_or] at h
      simp only [setHeader, h.1, if_false]
      split
      · exact List.Perm.refl _
      · exact ((ih h.2).cons (n, v)).trans (List.Perm.swap _ _ _)

theorem foldl_setHeader_perm {order headers : List (Str × Str)}
    (h : ((headers ++ order).map Prod.fst).Nodup) :
    (order.foldl (fun headers h => setHeader h.1 h.2 headers) headers).Perm (headers ++ order) := by
  induction order generalizing headers with
  | nil => simp
  | cons f order ih =>
      have hfresh : f.1 ∉ headers.map Prod.fst := by
        intro hmem
        rw [List.map_append, List.map_cons] at h
        exact (List.disjoint_of_nodup_append h) hmem List.mem_cons_self
      have hset : (setHeader f.1 f.2 headers).Perm (f :: headers) := setHeader_perm hfresh
      have hmiddle : (setHeader f.1 f.2 headers ++ order).Perm (headers ++ f :: order) :=
        (hset.append_right order).trans List.perm_middle.symm
      have hnodup := (hmiddle.map Prod.fst).nodup_iff.mpr h
      exact (ih hnodup).trans hmiddle

/-- The header list after the printed lines. -/
theorem foldl_parseHeaderLine {order : List (Str × Str)} (hnames : (order.map Prod.fst).Nodup)
    (hclean : ∀ h ∈ order, ':' ∉ h.1 ∧ lower h.1 = h.1 ∧ trim isBlank h.2 = h.2) :
    (((order.map printedLine).map (· ++ ['\r'])).foldl
      (fun headers line => parseHeaderLine line headers) []).Perm order := by
  have hlines : ((order.map printedLine).map (· ++ ['\r'])).foldl
      (fun headers line => parseHeaderLine line headers) [] =
        order.foldl (fun headers h => setHeader h.1 h.2 headers) [] := by
    rw [List.map_map, List.foldl_map]
    refine List.foldl_ext _ _ _ fun headers h hh => ?_
    obtain ⟨hcolon, hlower, htrim⟩ := hclean h hh
    exact parseHeaderLine_printed hcolon hlower htrim headers
  rw [hlines]
  exact foldl_setHeader_perm (by simpa using hnames)

/-- The words of the printed request line. -/
theorem words_printed {r : HTTPRequest} (H : Parsed r) :
    let line := r.method ++ ' ' :: (r.path ++ ' ' :: (r.version ++ ['\r']))
    (extractWord line).1 = r.method ∧ (extractWord (extractWord line).2).1 = r.path := by
  have hblank : isSpace ' ' = true := rfl
  by_cases hmethod : r.method = []
  · -- then all three words are missing
    have hpath := H.path_missing hmethod
    rw [hmethod, hpath, H.version_missing hpath]
    exact ⟨rfl, rfl⟩
  · simp only [extractWord_append H.method_word hmethod hblank, true_and]
    rw [extractWord_cons hblank]
    by_cases hpath : r.path = []
    · rw [hpath, H.version_missing hpath]
      rfl
    · rw [extractWord_append H.path_word hpath hblank]

/-- What `to_string` prints, as a block of lines and the body. -/
theorem toText_eq (r : HTTPRequest) :
    r.toText = blockText ((r.method ++ ' ' :: (r.path ++ ' ' :: r.version)) ::
      r.headers.map printedLine) ++ r.body := by
  have hlines : headerLines r.headers = (r.headers.map printedLine).flatMap (· ++ crlf) := by
    simp [headerLines, printedLine, crlf, List.flatMap_map]
  simp [HTTPRequest.toText, hlines, blockText, crlf]

/-! ## What is submitted -/

/-- The pseudo-header fields: those of the request line, and the host. -/
def pseudoHeaders (r : HTTPRequest) : List (Str × Str) :=
  [(":method".toList, r.method), (":path".toList, r.path), (":scheme".toList, "https".toList)] ++
    (r.headers.filter fun h => h.1 = "host".toList).map fun h => (":authority".toList, h.2)

/-- What is submitted for `r`: its pseudo-header fields, the request id, and its other fields,
whose names are distinct and do not begin with a colon. -/
structure Relayed (r : HTTPRequest) (requestId : Str) (s : Submission) : Prop where
  fields : ∃ others, s.headers = pseudoHeaders r ++ ("x-tunnel-request-id".toList, requestId) :: others ∧
    others.Perm (r.headers.filter fun h => h.1 ≠ "host".toList)
  once : (r.headers.map Prod.fst).Nodup
  plain : ∀ h ∈ r.headers, h.1.head? ≠ some ':'

/-- Lists of fields with distinct names have the same field of a name. -/
theorem filter_name_eq {fields fields' : List (Str × Str)} (hperm : fields.Perm fields')
    (h : (fields.map Prod.fst).Nodup) (name : Str) :
    (fields.filter fun f => f.1 = name) = fields'.filter fun f => f.1 = name := by
  have hfilter := hperm.filter fun f => decide (f.1 = name)
  have hle : (fields.filter fun f => f.1 = name).length ≤ 1 := by
    have hcount := List.nodup_iff_count_le_one.mp h name
    rw [List.count, List.countP_map, List.countP_eq_length_filter] at hcount
    simpa [Function.comp_def, beq_eq_decide] using hcount
  cases hfields : fields.filter fun f => decide (f.1 = name) with
  | nil =>
      rw [hfields] at hfilter
      exact (List.nil_perm.mp hfilter).symm
  | cons f rest =>
      rw [hfields] at hfilter hle
      obtain rfl : rest = [] := by simpa using hle
      exact List.singleton_perm.mp hfilter

/-- **The second parser** takes the text apart as the first one did, in whatever order the
fields were printed. -/
theorem parseHttpRequest_toText {r : HTTPRequest} (H : Parsed r) {order : List (Str × Str)}
    (horder : order.Perm r.headers) (requestId : Str) :
    ∃ others, others.Perm (r.headers.filter fun h => h.1 ≠ "host".toList) ∧
      parseHttpRequest requestId { r with headers := order }.toText =
        (pseudoHeaders r ++ ("x-tunnel-request-id".toList, requestId) :: others, r.body) := by
  have hclean : ∀ h ∈ order, ':' ∉ h.1 ∧ lower h.1 = h.1 ∧ trim isBlank h.2 = h.2 := by
    intro h hh
    obtain ⟨hcolon, _, hlower⟩ := H.name h (horder.mem_iff.mp hh)
    exact ⟨hcolon, hlower, (H.value h (horder.mem_iff.mp hh)).2⟩
  have hlines : ∀ l ∈ order.map printedLine, l ≠ [] ∧ '\n' ∉ l := by
    intro l hl
    obtain ⟨h, hh, rfl⟩ := List.mem_map.mp hl
    obtain ⟨_, hname, _⟩ := H.name h (horder.mem_iff.mp hh)
    have hvalue := (H.value h (horder.mem_iff.mp hh)).1
    simp [printedLine, hname, hvalue]
  have hline : '\n' ∉ r.method ++ ' ' :: (r.path ++ ' ' :: r.version) := by
    have hspace : isSpace '\n' = true := rfl
    have hmem : ∀ word : Str, (∀ c ∈ word, isSpace c = false) → '\n' ∉ word := by
      intro word hword hmem
      rw [hword '\n' hmem] at hspace
      cases hspace
    simp [hmem _ H.method_word, hmem _ H.path_word, hmem _ H.version_word]
  have hperm := foldl_parseHeaderLine ((horder.map Prod.fst).nodup_iff.mpr H.distinct) hclean
  obtain ⟨hmethod, hpath⟩ := words_printed H
  rw [toText_eq]
  simp only [parseHttpRequest, getline_blockText hline, Option.getD_some, parseHeaderLines_eq,
    headerBlock_blockText hlines]
  generalize ((order.map printedLine).map (· ++ ['\r'])).foldl
    (fun headers line => parseHeaderLine line headers) [] = headers at hperm ⊢
  have hheaders := hperm.trans horder
  have hnodup := (hheaders.map Prod.fst).nodup_iff.mpr H.distinct
  refine ⟨headers.filter fun h => h.1 ≠ "host".toList, hheaders.filter _, ?_⟩
  have htext : r.method ++ ' ' :: (r.path ++ ' ' :: r.version) ++ ['\r'] =
      r.method ++ ' ' :: (r.path ++ ' ' :: (r.version ++ ['\r'])) := by simp
  rw [htext, hmethod, hpath, filter_name_eq hheaders hnodup]
  simp [pseudoHeaders]

/-! ## Requests that are preserved -/

variable {κ : Type}

/-- The body is submitted: the HEADERS end the stream if it is empty, and else nghttp2 gets all of
it from its provider. -/
def BodySubmitted (body : Str) (lengths : ℕ → ℕ) (s : Submission) : Prop :=
  if body = [] then s.endStream = true
  else ∃ source, s.provided = some source ∧ Intact readCallback source lengths body

/-- The last submission is that of `r`, with its body. -/
def Preserved (r : HTTPRequest) (requestId : Str) (streamId : StreamId) (lengths : ℕ → ℕ)
    (s : AgentConnection κ) : Prop :=
  ∃ sub, s.submitted.getLast? = some sub ∧ sub.streamId = streamId ∧ Relayed r requestId sub ∧
    BodySubmitted r.body lengths sub

/-- Losing the connection does not take back what was submitted. -/
theorem submitted_sendHttpRequest {s : AgentConnection κ} {streamId : StreamId}
    (h : s.Accepts streamId) (requestId httpRequest : Str) (callback : κ) (sent : Bool) :
    (sendHttpRequest s requestId httpRequest callback streamId sent).1.submitted =
      (s.register requestId httpRequest callback streamId).submitted := by
  rw [sendHttpRequest_of_accepts h]
  cases sent with
  | true => rfl
  | false =>
      simp only [Bool.false_eq_true, if_false, AgentConnection.startTimer, close]
      split
      · rfl
      · rfl

section
variable {buffer : Str} {r : HTTPRequest} {order : List (Str × Str)} {s : AgentConnection κ}
  {streamId : StreamId}

/-- What `send_http_request` submits for a request that was parsed and printed. -/
theorem sendHttpRequest_toText (hparse : parseRequest buffer = some r)
    (horder : order.Perm r.headers) (haccepts : s.Accepts streamId) (requestId : Str) (callback : κ)
    (sent : Bool) :
    ∃ sub, (sendHttpRequest s requestId { r with headers := order }.toText callback streamId
        sent).1.submitted.getLast? = some sub ∧ sub.streamId = streamId ∧ Relayed r requestId sub ∧
      sub.endStream = r.body.isEmpty ∧ (s.NewStream streamId → sub.provided = none) := by
  have hparsed := parsed_of_parseRequest hparse
  obtain ⟨others, hothers, hrequest⟩ := parseHttpRequest_toText hparsed horder requestId
  rw [submitted_sendHttpRequest haccepts]
  simp only [AgentConnection.register, hrequest]
  refine ⟨_, List.getLast?_concat, rfl, ⟨⟨others, rfl, hothers⟩, hparsed.distinct, ?_⟩, rfl, ?_⟩
  · intro h hh hhead
    exact (hparsed.name h hh).1 (List.mem_of_mem_head? hhead)
  · intro hnew
    simp only [submitData_of_newStream hnew, ite_self]

/-- A submission without a provider has the body if there is none. -/
theorem bodySubmitted_iff {body : Str} {sub : Submission} (hend : sub.endStream = body.isEmpty)
    (hprovided : sub.provided = none) (lengths : ℕ → ℕ) :
    BodySubmitted body lengths sub ↔ body = [] := by
  rw [BodySubmitted]
  by_cases hbody : body = []
  · simp [hbody, hend]
  · simp [hbody, hprovided]

end

/-- **When a request is preserved.**  For every text that `parse_request` accepts the request is
submitted with the words of its request line, its host, and each of its other fields once,
whatever the order in which the fields are printed; and nghttp2 gets its body exactly if that is
empty, whatever buffers it would offer. -/
theorem preserved_iff (buffer : Str) (r : HTTPRequest) (hparse : parseRequest buffer = some r)
    (order : List (Str × Str)) (horder : order.Perm r.headers) (s : AgentConnection κ)
    (streamId : StreamId) (haccepts : s.Accepts streamId) (hnew : s.NewStream streamId)
    (requestId : Str) (callback : κ) (sent : Bool) (lengths : ℕ → ℕ) :
    (∃ sub, (sendHttpRequest s requestId { r with headers := order }.toText callback streamId
        sent).1.submitted.getLast? = some sub ∧ sub.streamId = streamId ∧ Relayed r requestId sub) ∧
    (Preserved r requestId streamId lengths
        (sendHttpRequest s requestId { r with headers := order }.toText callback streamId sent).1 ↔
      r.body = []) := by
  obtain ⟨sub, hlast, hid, hrelayed, hend, hprovided⟩ :=
    sendHttpRequest_toText hparse horder haccepts requestId callback sent
  have hsubmitted := bodySubmitted_iff hend (hprovided hnew) lengths
  refine ⟨⟨sub, hlast, hid, hrelayed⟩, ?_, ?_⟩
  · rintro ⟨sub', hlast', _, _, hbody⟩
    obtain rfl := Option.some.inj (hlast.symm.trans hlast')
    exact hsubmitted.mp hbody
  · intro hempty
    exact ⟨sub, hlast, hid, hrelayed, hsubmitted.mpr hempty⟩

/-! ## Requests -/

/-- A request line of one word, a line that begins with a colon, and a name with a blank at its
end. -/
def malformedText : Str := " GET \r\n:path: /etc\r\nX Y : v \r\n\r\n".toList

def malformed (body : Str) : HTTPRequest where
  method := "GET".toList
  path := []
  version := []
  host := []
  clientIp := []
  headers := [("x y ".toList, "v".toList), ([], "path: /etc".toList)]
  body := body

/-- The request is preserved; with a body that looks like a header line its fields are, and the
body is not. -/
theorem preserved_iff_malformed :
    Preserved (malformed []) "req_0".toList 1 (fun _ => 16384)
        (sendHttpRequest (.started ℕ) "req_0".toList (malformed []).toText 0 1 true).1 ∧
      ¬ Preserved (malformed "a: b".toList) "req_0".toList 1 (fun _ => 16384)
        (sendHttpRequest (.started ℕ) "req_0".toList (malformed "a: b".toList).toText 0 1 true).1 :=
  ⟨(preserved_iff malformedText (malformed []) (by decide) (malformed []).headers (List.Perm.refl _)
      (.started ℕ) 1 (by decide) (by decide) "req_0".toList 0 true (fun _ => 16384)).2.mpr rfl,
    (preserved_iff (malformedText ++ "a: b".toList) (malformed "a: b".toList) (by decide)
      (malformed []).headers (List.Perm.refl _) (.started ℕ) 1 (by decide) (by decide) "req_0".toList
      0 true (fun _ => 16384)).2.not.mpr (by decide)⟩

/-- A request without fields. -/
def putRequest (body : Str) : RawRequest where
  method := "PUT".toList
  path := "/upload".toList
  version := "HTTP/1.0".toList
  fields := []
  body := body
  method_word := by decide
  path_word := by decide
  version_word := by decide
  name_ok := by decide
  value_ok := by decide

/-- A body of one byte. -/
theorem not_preserved_put :
    ¬ ∀ (buffer : Str) (r : HTTPRequest), parseRequest buffer = some r →
      ∀ order : List (Str × Str), order.Perm r.headers →
        ∀ (s : AgentConnection ℕ) (streamId : StreamId), s.Accepts streamId → s.NewStream streamId →
          ∀ (requestId : Str) (callback : ℕ) (sent : Bool) (lengths : ℕ → ℕ), (∀ i, 1 ≤ lengths i) →
            Preserved r requestId streamId lengths
              (sendHttpRequest s requestId { r with headers := order }.toText callback streamId
                sent).1 := by
  intro H
  let raw := putRequest "x".toList
  have hparse := parseRequest_text raw raw.body
  have haccepts : (AgentConnection.started ℕ).Accepts 1 := by decide
  have hnew : (AgentConnection.started ℕ).NewStream 1 := by decide
  obtain ⟨sub, hlast, _, _, hbody⟩ := H _ _ hparse _ (List.Perm.refl _) (.started ℕ) 1 haccepts hnew
    "req_0".toList 0 true (fun _ => 16384) (fun _ => by decide)
  obtain ⟨sub', hlast', _, _, hend, hprovided⟩ := sendHttpRequest_toText hparse (List.Perm.refl _)
    haccepts "req_0".toList 0 true
  obtain rfl := Option.some.inj (hlast.symm.trans hlast')
  have hempty := (bodySubmitted_iff hend (hprovided hnew) _).mp hbody
  exact absurd hempty (by decide)

end Protogate.Wire
