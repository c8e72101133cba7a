import Protogate.Api.Router
import Protogate.Proxy.OwnAnswers
import Protogate.Proxy.ParseRequest
import Mathlib

/-!
# The text of API requests and responses

`Router::parse_request` reads a request of the management API, beside the parser of the HTTP
proxy.  It keeps the letters of field names and the blanks behind values, and takes the query off
the path.  `Router::serialize_response` writes the response that a handler has left.

## Main definitions

* `parseRequest`, `SameRequest`, `parsers_agree_iff` — when both parsers read the same request.
* `ResponseText`, `writeStep` — a response and what handlers do to it.
* `Framed`, `responses_read_iff` — when a client finds the response that is sent.
-/

namespace Protogate.Api

open Protogate.Lib
open Protogate.Proxy (isBlank lower entryList mem_entryList nodup_entryList HeaderFields HTTPRequest)

/-! ## The parser -/

/-- A value without the blanks in front, if it has other characters. -/
def frontTrimmed (value : Str) : Str :=
  if (value.dropWhile isBlank).isEmpty then value else value.dropWhile isBlank

/-- The body of the loop over header lines. -/
def addHeader (headers : Assoc Str Str) (line : Str) : Assoc Str Str :=
  match splitColon (popCr line) with
  | none => headers
  | some (name, value) => headers.insert name (frontTrimmed value)

/-- `Router::parse_request`. -/
def parseRequest (rawRequest remoteIp : Str) : HttpRequest :=
  match getline rawRequest with
  | none => ⟨[], [], [], ∅, ∅, [], remoteIp⟩
  | some (line, stream) =>
      let (method, words) := extractWord (popCr line)
      let (fullPath, _) := extractWord words
      let (lines, body) := headerBlock stream.length stream
      {
        method, body, remoteIp
        path := fullPath.takeWhile (· ≠ '?')
        queryString := (fullPath.dropWhile (· ≠ '?')).drop 1
        headers := lines.foldl addHeader ∅
        pathParams := ∅ }

/-! ## Both parsers -/

/-- The request target that was cut into path and query. -/
def IsTarget (path queryString target : Str) : Prop :=
  '?' ∉ path ∧ (target = path ∧ queryString = [] ∨ target = path ++ '?' :: queryString)

/-- The proxy's request and the router's have the same method, target and body, and the fields of
the first are those of the second with names in lower case and values trimmed. -/
structure SameRequest (r : HTTPRequest) (q : HttpRequest) : Prop where
  method : r.method = q.method
  target : IsTarget q.path q.queryString r.path
  headers : ∀ name value, (name, value) ∈ r.headers ↔
    ∃ spelled, lower spelled = name ∧ ∃ kept, q.headers.lookup spelled = some kept ∧
      trim isBlank kept = value
  body : r.body = q.body

/-- Fields whose names differ in the case of letters only have the same value. -/
def SpelledAlike (q : HttpRequest) : Prop :=
  ∀ spelled kept spelled' kept', q.headers.lookup spelled = some kept →
    q.headers.lookup spelled' = some kept' → lower spelled = lower spelled' →
      trim isBlank kept = trim isBlank kept'

theorem trim_frontTrimmed (value : Str) : trim isBlank (frontTrimmed value) = trim isBlank value := by
  rw [frontTrimmed]
  split
  · rfl
  · rw [trim, trim, List.dropWhile_idempotent]

theorem isTarget_cut (target : Str) :
    IsTarget (target.takeWhile (· ≠ '?')) ((target.dropWhile (· ≠ '?')).drop 1) target := by
  refine ⟨fun h => by simpa using List.mem_takeWhile_imp h, ?_⟩
  by_cases hmem : '?' ∈ target
  · exact .inr (eq_append_of_mem hmem).2
  · left
    have hall : ∀ c ∈ target, decide (c ≠ '?') = true := by
      intro c hc
      rw [decide_eq_true_iff]
      rintro rfl
      exact hmem hc
    rw [List.takeWhile_eq_self_iff.mpr hall, List.dropWhile_eq_nil_iff.mpr hall]
    simp

/-- The fields of the header lines. -/
def lineFields (lines : List Str) : List (Str × Str) := lines.filterMap fun l => splitColon (popCr l)

theorem lookup_addHeader (lines : List Str) (name : Str) :
    (lines.foldl addHeader ∅).lookup name =
      (lastMatch (fun f => decide (f.1 = name)) (lineFields lines)).map fun f => frontTrimmed f.2 := by
  rw [← lookup_foldl_insert, lineFields, List.foldl_filterMap]
  congr 2
  ext headers line
  rw [addHeader]
  cases splitColon (popCr line) <;> rfl

theorem headers_add (lines : List Str) (h : HeaderFields) :
    (lines.foldl HeaderFields.add h).headers =
      (lineFields lines).foldl (fun m f => AList.insert (lower f.1) (trim isBlank f.2) m) h.headers := by
  induction lines generalizing h with
  | nil => rfl
  | cons line lines ih =>
      rw [List.foldl_cons, ih, HeaderFields.add, lineFields, lineFields, List.filterMap_cons]
      cases splitColon (popCr line) <;> rfl

/-- What both parsers make of a request, with what the one keeps for each name and what the other
keeps for each name in lower case. -/
theorem parseRequest_parts {raw : Str} {r : HTTPRequest} (h : Proxy.parseRequest raw = some r)
    (remoteIp : Str) : ∃ fields : List (Str × Str),
      r.method = (parseRequest raw remoteIp).method ∧
      IsTarget (parseRequest raw remoteIp).path (parseRequest raw remoteIp).queryString r.path ∧
      r.body = (parseRequest raw remoteIp).body ∧
      (∀ name value, (name, value) ∈ r.headers ↔
        ∃ f, lastMatch (fun f => decide (lower f.1 = name)) fields = some f ∧ trim isBlank f.2 = value) ∧
      ∀ name, (parseRequest raw remoteIp).headers.lookup name =
        (lastMatch (fun f => decide (f.1 = name)) fields).map fun f => frontTrimmed f.2 := by
  rw [Proxy.parseRequest] at h
  rw [parseRequest]
  cases hline : getline raw with
  | none =>
      rw [hline] at h
      cases h
  | some first =>
      rw [hline] at h
      obtain rfl := Option.some.inj h
      refine ⟨lineFields (headerBlock first.2.length first.2).1, rfl, isTarget_cut _, rfl, ?_, ?_⟩
      · intro name value
        have hlookup := lookup_foldl_insert (fun f : Str × Str => lower f.1) (fun f => trim isBlank f.2)
          (lineFields (headerBlock first.2.length first.2).1) name
        dsimp only
        rw [mem_entryList, headers_add, hlookup, Option.map_eq_some_iff]
      · exact lookup_addHeader _

/-- **When both parsers read the same request**: exactly if fields whose names differ in the case
of letters only have the same value. -/
theorem parsers_agree_iff {raw : Str} {r : HTTPRequest} (h : Proxy.parseRequest raw = some r)
    (remoteIp : Str) :
    SameRequest r (parseRequest raw remoteIp) ↔ SpelledAlike (parseRequest raw remoteIp) := by
  obtain ⟨fields, hmethod, htarget, hbody, hlower, hspelled⟩ := parseRequest_parts h remoteIp
  constructor
  · intro H spelled kept spelled' kept' hkept hkept' hsame
    -- both values stand for one name of the proxy
    obtain ⟨f, hf, hvalue⟩ := (hlower _ _).mp ((H.headers _ _).mpr ⟨spelled, rfl, kept, hkept, rfl⟩)
    obtain ⟨g, hg, hvalue'⟩ :=
      (hlower _ _).mp ((H.headers _ _).mpr ⟨spelled', hsame.symm, kept', hkept', rfl⟩)
    obtain rfl : f = g := Option.some.inj (hf.symm.trans hg)
    rw [← hvalue, hvalue']
  · intro H
    -- the last field of a name in lower case is the last one that is spelled like it
    have hown : ∀ {name f}, lastMatch (fun f => decide (lower f.1 = name)) fields = some f →
        lower f.1 = name ∧ (parseRequest raw remoteIp).headers.lookup f.1 = some (frontTrimmed f.2) := by
      intro name f hf
      have hname : lower f.1 = name := by simpa using (mem_of_lastMatch hf).2
      have hlast : lastMatch (fun g => decide (g.1 = f.1)) fields = some f := by
        refine lastMatch_of_imp hf (by simp) fun g hg => ?_
        have heq : g.1 = f.1 := by simpa using hg
        rw [decide_eq_true_iff, heq, hname]
      exact ⟨hname, by rw [hspelled, hlast, Option.map_some]⟩
    refine ⟨hmethod, htarget, fun name value => ?_, hbody⟩
    rw [hlower]
    constructor
    · rintro ⟨f, hf, hvalue⟩
      obtain ⟨hname, hlookup⟩ := hown hf
      exact ⟨f.1, hname, _, hlookup, by rw [trim_frontTrimmed, hvalue]⟩
    · rintro ⟨spelled, hname, kept, hkept, hvalue⟩
      rw [hspelled, Option.map_eq_some_iff] at hkept
      obtain ⟨g, hg, hkept⟩ := hkept
      have hspelt : g.1 = spelled := by simpa using (mem_of_lastMatch hg).2
      have hsome : (lastMatch (fun f => decide (lower f.1 = name)) fields).isSome := by
        rw [lastMatch_isSome_iff]
        exact ⟨g, (mem_of_lastMatch hg).1, by rw [decide_eq_true_iff, hspelt, hname]⟩
      obtain ⟨f, hf⟩ := Option.isSome_iff_exists.mp hsome
      obtain ⟨hname', hlookup⟩ := hown hf
      have hlookup' : (parseRequest raw remoteIp).headers.lookup spelled = some kept := by
        rw [hspelled, hg, Option.map_some, hkept]
      have hsame := H _ _ _ _ hlookup hlookup' (hname'.trans hname.symm)
      exact ⟨f, hf, by rw [← hvalue, ← hsame, trim_frontTrimmed]⟩

theorem isWord_get : Proxy.IsWord "GET".toList := by decide

theorem isWord_version : Proxy.IsWord "HTTP/1.1".toList := by decide

/-- A request with two hosts. -/
def twoHosts : Proxy.RawRequest where
  method := "GET".toList
  path := "/api/v1/tunnels?page=1".toList
  version := "HTTP/1.1".toList
  fields := [("Host".toList, " a ".toList), ("host".toList, "b".toList)]
  body := []
  method_word := isWord_get
  path_word := by decide
  version_word := isWord_version
  name_ok := by decide
  value_ok := by decide

theorem parsers_agree_iff_twoHosts :
    ¬ SameRequest (twoHosts.parsed []) (parseRequest (blockText twoHosts.lines ++ []) []) := by
  intro H
  have halike := (parsers_agree_iff (Proxy.parseRequest_text twoHosts []) []).mp H
  have hsame := halike "Host".toList "a ".toList "host".toList "b".toList
    (by decide) (by decide) (by decide)
  exact absurd hsame (by decide)

/-! ## Responses -/

/-- A response with the text of its body. -/
structure ResponseText where
  statusCode : ℕ
  headers : Assoc Str Str
  body : Str

namespace ResponseText

def new : ResponseText := ⟨200, ∅, []⟩

/-- `set_json`. -/
def setJson (r : ResponseText) (jsonBody : Str) : ResponseText :=
  { r with
    body := jsonBody
    headers := (r.headers.insert "Content-Type".toList "application/json".toList).insert
      "Content-Length".toList (decimal jsonBody.length) }

end ResponseText

/-- The JSON of an error; the message is written as it is. -/
def errorText (message : Str) : Str := "\x7b\"error\":\"".toList ++ message ++ "\"\x7d".toList

/-- `set_error`. -/
def ResponseText.setError (r : ResponseText) (code : ℕ) (message : Str) : ResponseText :=
  { r with statusCode := code }.setJson (errorText message)

def statusText : ℕ → Str
  | 200 => "OK".toList
  | 201 => "Created".toList
  | 204 => "No Content".toList
  | 400 => "Bad Request".toList
  | 401 => "Unauthorized".toList
  | 403 => "Forbidden".toList
  | 404 => "Not Found".toList
  | 409 => "Conflict".toList
  | 429 => "Too Many Requests".toList
  | 500 => "Internal Server Error".toList
  | 503 => "Service Unavailable".toList
  | _ => "Unknown".toList

/-- `serialize_response`, with the headers in the order of the map. -/
def serializeResponse (r : ResponseText) (order : List (Str × Str)) : Str :=
  "HTTP/1.1 ".toList ++ decimal r.statusCode ++ " ".toList ++ statusText r.statusCode ++ "\r\n".toList ++
    Proxy.headerLines order ++ "\r\n".toList ++ r.body

/-- What a handler, or the router, does to the response. -/
inductive ResponseWrite
  | statusCode (code : ℕ)
  | setJson (jsonBody : Str)
  | setError (code : ℕ) (message : Str)
  /-- `response.body = ""` -/
  | clearBody
  deriving DecidableEq, Repr

def writeStep (r : ResponseText) : ResponseWrite → ResponseText
  | .statusCode code => { r with statusCode := code }
  | .setJson jsonBody => r.setJson jsonBody
  | .setError code message => r.setError code message
  | .clearBody => { r with body := [] }

/-! ## What a client finds of a response -/

/-- The response as a message, with the headers in this order. -/
def ResponseText.message (r : ResponseText) (order : List (Str × Str)) : HttpMessage where
  startLine := statusLine r.statusCode (statusText r.statusCode)
  fields := order
  body := r.body

/-- A client finds the response in front of whatever follows it. -/
def FoundWhole (r : ResponseText) : Prop :=
  ∀ order, order.Perm (entryList r.headers) → ∀ rest,
    readResponse (serializeResponse r order ++ rest) = some (r.message order, rest)

namespace ResponseWrite

/-- The status code that is set. -/
def code? : ResponseWrite → Option ℕ
  | .statusCode code | .setError code _ => some code
  | .setJson _ | .clearBody => none

/-- The JSON that is set. -/
def json? : ResponseWrite → Option Str
  | .setJson jsonBody => some jsonBody
  | .setError _ message => some (errorText message)
  | .statusCode _ | .clearBody => none

end ResponseWrite

/-- The status code set last. -/
def lastCode (writes : List ResponseWrite) : ℕ := (writes.filterMap ResponseWrite.code?).getLast?.getD 200

/-- The JSON set last. -/
def lastJson (writes : List ResponseWrite) : Option Str := (writes.filterMap ResponseWrite.json?).getLast?

/-- The body has been cleared since JSON was set, if it was. -/
def ClearedSince (writes : List ResponseWrite) : Prop :=
  .clearBody ∈ writes.rtakeWhile fun w => w.json?.isNone

instance (writes : List ResponseWrite) : Decidable (ClearedSince writes) :=
  inferInstanceAs (Decidable (_ ∈ _))

/-- The code has three digits.  Where it admits a body, JSON was set, and not cleared unless it was
empty; where it admits none, none is left. -/
def Framed (writes : List ResponseWrite) : Prop :=
  (100 ≤ lastCode writes ∧ lastCode writes ≤ 999) ∧
    if Bodiless (lastCode writes) then ∀ json ∈ lastJson writes, json = [] ∨ ClearedSince writes
    else ∃ json ∈ lastJson writes, ClearedSince writes → json = []

instance (writes : List ResponseWrite) : Decidable (Framed writes) := by
  unfold Framed
  infer_instance

/-- The header map that `set_json` leaves for a body of this length. -/
def JsonHeaders (headers : Assoc Str Str) (n : ℕ) : Prop :=
  ∀ name, headers.lookup name =
    if name = "Content-Length".toList then some (decimal n)
    else if name = "Content-Type".toList then some "application/json".toList else none

/-- The response after these writes: its code, and no headers and no body, or those of `set_json`
with a body that may have been cleared. -/
structure Written (writes : List ResponseWrite) (r : ResponseText) : Prop where
  code : r.statusCode = lastCode writes
  empty : lastJson writes = none → (∀ name, r.headers.lookup name = none) ∧ r.body = []
  json : ∀ json, lastJson writes = some json → JsonHeaders r.headers json.length ∧
    r.body = if ClearedSince writes then [] else json

theorem serializeResponse_eq (r : ResponseText) (order : List (Str × Str)) :
    serializeResponse r order = (r.message order).text := by
  have hend : "\r\n".toList = crlf := rfl
  unfold serializeResponse ResponseText.message statusLine
  rw [Proxy.text_eq_lines, hend]

theorem newline_not_mem_statusText (code : ℕ) : '\n' ∉ statusText code := by
  rw [statusText.eq_def]
  split <;> decide

theorem clean_message {r : ResponseText} {order : List (Str × Str)} (h : ∀ f ∈ order, CleanField f) :
    (r.message order).Clean := by
  rw [HttpMessage.clean_iff]
  refine ⟨?_, h⟩
  have hdigits := not_mem_decimal (c := '\n') rfl r.statusCode
  have hstatus := newline_not_mem_statusText r.statusCode
  show '\n' ∉ "HTTP/1.1 ".toList ++ decimal r.statusCode ++ " ".toList ++ statusText r.statusCode
  simp [hdigits, hstatus]

/-- The entries of the map. -/
theorem JsonHeaders.perm {headers : Assoc Str Str} {n : ℕ} (H : JsonHeaders headers n) :
    (entryList headers).Perm [("Content-Length".toList, decimal n),
      ("Content-Type".toList, "application/json".toList)] := by
  have hne : "Content-Type".toList ≠ "Content-Length".toList := by decide
  have hnodup : (entryList headers).Nodup := (nodup_entryList headers).of_map _
  rw [List.perm_ext_iff_of_nodup hnodup (by simp)]
  rintro ⟨name, value⟩
  rw [mem_entryList, H]
  generalize "Content-Length".toList = length at hne ⊢
  generalize "Content-Type".toList = kind at hne ⊢
  by_cases hlength : name = length
  · subst hlength
    simp [Ne.symm hne, eq_comm]
  · by_cases hkind : name = kind
    · subst hkind
      simp [hne, eq_comm]
    · simp [hlength, hkind]

/-- Without headers the end of a response cannot be told, unless its code admits no body. -/
theorem foundWhole_empty_iff {r : ResponseText} (hheaders : ∀ name, r.headers.lookup name = none) :
    FoundWhole r ↔ (100 ≤ r.statusCode ∧ r.statusCode ≤ 999) ∧ Bodiless r.statusCode ∧ r.body = [] := by
  have hempty : entryList r.headers = [] := by
    rw [List.eq_nil_iff_forall_not_mem]
    rintro ⟨name, value⟩ hmem
    rw [mem_entryList, hheaders] at hmem
    cases hmem
  have hclean : (r.message []).Clean := clean_message (by simp)
  have hiff := readResponse_text_iff hclean rfl
  have hdelimits : Delimits r.statusCode [] r.body.length ↔
      (100 ≤ r.statusCode ∧ r.statusCode ≤ 999) ∧ Bodiless r.statusCode ∧ r.body = [] := by
    rw [Delimits]
    split
    · rename_i hbodiless
      simp [hbodiless]
    · rename_i hbodiless
      simp [hbodiless]
  rw [FoundWhole, hempty, ← hdelimits]
  simp only [List.perm_nil, forall_eq, serializeResponse_eq]
  exact hiff

/-- With the headers of `set_json` the length announced is that of the body, if there may be one. -/
theorem JsonHeaders.foundWhole_iff {r : ResponseText} {n : ℕ} (H : JsonHeaders r.headers n) :
    FoundWhole r ↔ (100 ≤ r.statusCode ∧ r.statusCode ≤ 999) ∧
      if Bodiless r.statusCode then r.body = [] else n = r.body.length := by
  have hread : ∀ order, order.Perm (entryList r.headers) →
      ((∀ rest, readResponse (serializeResponse r order ++ rest) = some (r.message order, rest)) ↔
        (100 ≤ r.statusCode ∧ r.statusCode ≤ 999) ∧
          if Bodiless r.statusCode then r.body = [] else n = r.body.length) := by
    intro order horder
    have hperm := horder.trans H.perm
    have hclean : ∀ f ∈ order, CleanField f := by
      intro f hf
      have hmem := hperm.subset hf
      rw [List.mem_cons, List.mem_singleton] at hmem
      rcases hmem with rfl | rfl
      · have hname : '\n' ∉ "Content-Length".toList ∧ ':' ∉ "Content-Length".toList := by decide
        exact ⟨hname, not_mem_decimal rfl _, trim_decimal _⟩
      · exact ⟨by decide, by decide, by decide⟩
    have hvalues : ∀ name, (Fields.values order name).Perm
        ((if foldCase "Content-Length".toList = foldCase name then [decimal n] else []) ++
          if foldCase "Content-Type".toList = foldCase name then ["application/json".toList] else []) := by
      intro name
      rw [← Fields.values_singleton, ← Fields.values_singleton, ← Fields.values_append]
      exact Fields.values_perm hperm name
    have hcoding : Fields.values order "transfer-encoding".toList = [] := by
      have hnone := hvalues "transfer-encoding".toList
      rw [if_neg (by decide), if_neg (by decide)] at hnone
      exact List.perm_nil.mp hnone
    have hlength : Fields.values order "content-length".toList = [decimal n] := by
      have hone := hvalues "content-length".toList
      rw [if_pos (by decide), if_neg (by decide)] at hone
      exact List.perm_singleton.mp hone
    have hannounced : bodyLength order = some r.body.length ↔ n = r.body.length := by
      have hnumeral := isNumeral_decimal n
      have hdigits := digitsValue_decimal n
      rw [bodyLength_eq_some_iff, hcoding, hlength]
      simp [hnumeral, hdigits]
    rw [serializeResponse_eq, readResponse_text_iff (clean_message hclean) rfl]
    show Delimits r.statusCode order r.body.length ↔ _
    rw [Delimits, hannounced, hlength, List.length_eq_zero_iff]
    simp
  constructor
  · exact fun h => (hread _ (List.Perm.refl _)).mp (h _ (List.Perm.refl _))
  · exact fun h order horder => (hread order horder).mpr h

/-! ## What writes leave -/

section
variable {writes : List ResponseWrite} {r : ResponseText}

theorem lastCode_concat (w : ResponseWrite) : lastCode (writes ++ [w]) = w.code?.getD (lastCode writes) := by
  cases w <;> simp [lastCode, ResponseWrite.code?]

theorem lastJson_concat (w : ResponseWrite) : lastJson (writes ++ [w]) = w.json?.or (lastJson writes) := by
  cases w <;> simp [lastJson, ResponseWrite.json?]

/-- What sets JSON starts anew; what does not may clear the body. -/
theorem clearedSince_concat (w : ResponseWrite) :
    ClearedSince (writes ++ [w]) ↔ w.json? = none ∧ (ClearedSince writes ∨ w = .clearBody) := by
  rw [ClearedSince, List.rtakeWhile_concat]
  cases w <;> simp [ResponseWrite.json?, ClearedSince]

theorem jsonHeaders_setJson (H : Written writes r) (jsonBody : Str) :
    JsonHeaders (r.setJson jsonBody).headers jsonBody.length := by
  intro name
  rw [ResponseText.setJson, Assoc.lookup_insert_ite, Assoc.lookup_insert_ite]
  split
  · rfl
  · rename_i hlength
    split
    · rfl
    · rename_i hkind
      cases hlast : lastJson writes with
      | none => exact (H.empty hlast).1 name
      | some json => rw [(H.json json hlast).1, if_neg hlength, if_neg hkind]

/-- JSON is set. -/
theorem Written.setJson (H : Written writes r) {w : ResponseWrite} {json : Str} (hw : w.json? = some json)
    (code : ℕ) (hcode : code = w.code?.getD (lastCode writes)) :
    Written (writes ++ [w]) ({ r with statusCode := code }.setJson json) where
  code := by
    rw [lastCode_concat]
    exact hcode
  empty := by
    rw [lastJson_concat, hw]
    simp
  json := by
    intro json' hlast
    rw [lastJson_concat, hw, Option.some_or, Option.some.injEq] at hlast
    subst hlast
    have hkept : ¬ ClearedSince (writes ++ [w]) := by
      rw [clearedSince_concat, hw]
      simp
    rw [if_neg hkept]
    exact ⟨jsonHeaders_setJson H json, rfl⟩

theorem written_step (H : Written writes r) (w : ResponseWrite) :
    Written (writes ++ [w]) (writeStep r w) := by
  cases w with
  | setJson jsonBody => exact H.setJson rfl r.statusCode H.code
  | setError code message => exact H.setJson rfl code rfl
  | statusCode code =>
      have hlast : lastJson (writes ++ [.statusCode code]) = lastJson writes := lastJson_concat _
      have hcleared : ClearedSince (writes ++ [.statusCode code]) ↔ ClearedSince writes := by
        rw [clearedSince_concat]
        simp [ResponseWrite.json?]
      refine ⟨(lastCode_concat (.statusCode code)).symm, fun h => H.empty (hlast ▸ h), fun json h => ?_⟩
      simp only [hcleared]
      exact H.json json (hlast ▸ h)
  | clearBody =>
      have hlast : lastJson (writes ++ [.clearBody]) = lastJson writes := lastJson_concat _
      have hcleared : ClearedSince (writes ++ [.clearBody]) := by
        rw [clearedSince_concat]
        exact ⟨rfl, .inr rfl⟩
      refine ⟨H.code.trans (lastCode_concat .clearBody).symm, fun h => ⟨(H.empty (hlast ▸ h)).1, rfl⟩,
        fun json h => ?_⟩
      rw [if_pos hcleared]
      exact ⟨(H.json json (hlast ▸ h)).1, rfl⟩

theorem written_run (writes : List ResponseWrite) : Written writes (run writeStep .new writes) := by
  induction writes using List.reverseRecOn with
  | nil => exact ⟨rfl, fun _ => ⟨fun _ => rfl, rfl⟩, fun json h => by cases h⟩
  | append_singleton writes w ih =>
      rw [run_append]
      exact written_step ih w

theorem Written.foundWhole_iff (H : Written writes r) : FoundWhole r ↔ Framed writes := by
  rw [Framed, ← H.code]
  cases hlast : lastJson writes with
  | none =>
      obtain ⟨hheaders, hbody⟩ := H.empty hlast
      rw [foundWhole_empty_iff hheaders]
      by_cases hbodiless : Bodiless r.statusCode <;> simp [hbodiless, hbody]
  | some json =>
      obtain ⟨hheaders, hbody⟩ := H.json json hlast
      rw [hheaders.foundWhole_iff, hbody]
      by_cases hcleared : ClearedSince writes
      · simp [hcleared]
      · simp [hcleared]

end

/-- **When clients find the responses of the API**, whatever a handler and the router write, in
every order of the headers: exactly if the last code has three digits and either admits no body and
none is left, or JSON was set, and not cleared afterwards unless it was empty. -/
theorem responses_read_iff (writes : List ResponseWrite) :
    FoundWhole (run writeStep .new writes) ↔ Framed writes :=
  (written_run writes).foundWhole_iff

/-- The answer to a DELETE, and one whose JSON is cleared. -/
example : Framed [.statusCode 204, .clearBody] ∧ ¬ Framed [.setJson "[]".toList, .clearBody] := by
  decide

end Protogate.Api
