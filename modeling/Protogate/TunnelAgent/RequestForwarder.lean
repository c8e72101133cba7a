import Protogate.Lib.HttpMessage
import Protogate.TunnelAgent.LocalTarget
import Protogate.TunnelAgent.Reassembly
import Mathlib

/-!
# Forwarding a request to the local service

`RequestForwarder::forward` makes an HTTP/1.1 request of a request from the tunnel, writes it to
a new connection, and turns what it reads there into a response.  The fields of the client are
set over those of the forwarder, and Content-Length is set for a body; a request without a body
keeps the Content-Length that the client wrote, if it wrote one.

Boost.Beast is a parameter where its documentation leaves something open.

## Main definitions

* `Beast`, `verbs`, `preparePayload`, `written` — what the forwarder uses of the library.
* `buildRequest`, `forward` — the forwarder.
* `Deliverable` — the requests that nghttp2 lets through.
* `forwarded_whole` — what the local service reads.
-/

namespace Protogate.TunnelAgent

open Protogate.Lib

/-! ## The library -/

/-- `chunked` says whether the last coding of a Transfer-Encoding is that one, `unchunk` takes
it away, and `unknownMethod` is what becomes of a method that is not known: an exception, or
what is written in its place. -/
structure Beast where
  chunked : Str → Bool
  unchunk : Str → Str
  unknownMethod : Except Str Str

/-- The methods that `string_to_verb` knows. -/
def verbs : List Str :=
  ["DELETE", "GET", "HEAD", "POST", "PUT", "CONNECT", "OPTIONS", "TRACE", "COPY", "LOCK", "MKCOL",
    "MOVE", "PROPFIND", "PROPPATCH", "SEARCH", "UNLOCK", "BIND", "REBIND", "UNBIND", "ACL",
    "REPORT", "MKACTIVITY", "CHECKOUT", "MERGE", "M-SEARCH", "NOTIFY", "SUBSCRIBE", "UNSUBSCRIBE",
    "PATCH", "PURGE", "MKCALENDAR", "LINK", "UNLINK"].map String.toList

def transferEncoding : Str := "transfer-encoding".toList

def contentLength : Str := "content-length".toList

/-- `chunked(false)`. -/
def unsetChunked (beast : Beast) (fields : Fields) : Fields :=
  match fields.lookupField transferEncoding with
  | none => fields
  | some value =>
      if beast.unchunk value = [] then
        fields.filter fun f => foldCase f.1 ≠ transferEncoding
      else fields.set "Transfer-Encoding".toList (beast.unchunk value)

/-- `prepare_payload` of a request that has a body. -/
def preparePayload (beast : Beast) (method : Str) (m : HttpMessage) : Except Str HttpMessage :=
  if method = "TRACE".toList then .error "invalid request body".toList
  else
    let fields := m.fields.set "Content-Length".toList (decimal m.body.length)
    .ok { m with fields := unsetChunked beast fields }

/-- What `http::write` writes; a body that is chunked is empty here, since `prepare_payload`
takes the coding from the others. -/
def written (beast : Beast) (m : HttpMessage) : Str :=
  if (m.fields.lookupField transferEncoding).any beast.chunked then
    { m with body := "0\r\n\r\n".toList }.text
  else m.text

/-! ## The forwarder -/

/-- The entries of a `std::map`, in the order of the keys. -/
def inKeyOrder (headers : Assoc Str Str) : List (Str × Str) :=
  (headers.entries.map fun e => (e.1, e.2)).insertionSort fun a b => a.1 ≤ b.1

/-- Copy a header, unless it is a pseudo-header. -/
def copyHeader (fields : Fields) (h : Str × Str) : Fields :=
  if h.1.isEmpty || h.1.head? = some ':' then fields else fields.set h.1 h.2

/-- The fields that the forwarder sets itself. -/
def ownFields (target : RequestTarget) : Fields :=
  (Fields.set [] "Host".toList (target.host ++ ':' :: target.port)).set "User-Agent".toList
    "Protogate-Agent/1.0".toList

def methodText (beast : Beast) (method : Str) : Except Str Str :=
  if method ∈ verbs then .ok method else beast.unknownMethod

/-- The request to the local service; the error is the text of an exception. -/
def buildRequest (beast : Beast) (target : RequestTarget) (r : Http2Request) :
    Except Str HttpMessage := do
  let method ← methodText beast r.method
  let m : HttpMessage := {
    startLine := method ++ ' ' :: r.path ++ " HTTP/1.1".toList
    fields := (inKeyOrder r.headers).foldl copyHeader (ownFields target)
    body := r.body.map byteChar }
  if r.body.isEmpty then return m else preparePayload beast method m

/-- `ForwardResponse`; its header map is in the order of the names. -/
structure ForwardResponse where
  statusCode : ℤ
  headers : List (Str × Str)
  body : Bytes
  deriving DecidableEq

def makeErrorResponse (statusCode : ℤ) (message : Str) : ForwardResponse where
  statusCode := statusCode
  headers := [("content-type".toList, "text/plain".toList)]
  body := message.map fun c => UInt8.ofNat c.toNat

/-- What is read from the local service. -/
structure LocalResponse where
  status : ℕ
  fields : Fields
  body : Bytes
  deriving DecidableEq

/-- The header map of a response: of fields with one name the last. -/
def headerMap (fields : Fields) : Assoc Str Str :=
  fields.foldl (fun headers f => headers.insert f.1 f.2) ∅

/-- `forward`; `connect` is the exception of resolving and connecting, if there is one, and
`exchange` what comes of the text that is written. -/
def forward (beast : Beast) (target : RequestTarget) (connect : Option Str)
    (exchange : Str → Except Str LocalResponse) (r : Http2Request) : ForwardResponse :=
  let response : Except Str LocalResponse := do
    if let some what := connect then throw what
    let m ← buildRequest beast target r
    exchange (written beast m)
  match response with
  | .ok res => ⟨res.status, inKeyOrder (headerMap res.fields), res.body⟩
  | .error what => makeErrorResponse 502 ("Bad Gateway: ".toList ++ what)

/-! ## What nghttp2 lets through -/

/-- Not that of a pseudo-header. -/
def IsRegular (name : Str) : Prop := name ≠ [] ∧ name.head? ≠ some ':'

instance (name : Str) : Decidable (IsRegular name) := inferInstanceAs (Decidable (_ ∧ _))

/-- nghttp2 refuses names that are not in lower case, colons in a name, line ends, blanks
around a value, and the fields that are about the connection. -/
structure Deliverable (r : Http2Request) : Prop where
  path : '\n' ∉ r.path
  name : ∀ name value, r.headers.lookup name = some value → IsRegular name →
    foldCase name = name ∧ '\n' ∉ name ∧ ':' ∉ name
  value : ∀ name value, r.headers.lookup name = some value → IsRegular name →
    '\n' ∉ value ∧ trim isOws value = value
  coding : r.headers.lookup transferEncoding = none

/-- A host and a port that can stand in a field. -/
structure RequestTarget.Clean (target : RequestTarget) : Prop where
  line : '\n' ∉ target.host ++ ':' :: target.port
  trimmed : trim isOws (target.host ++ ':' :: target.port) = target.host ++ ':' :: target.port

/-! ## The fields that are written -/

theorem mem_inKeyOrder {headers : Assoc Str Str} {f : Str × Str} :
    f ∈ inKeyOrder headers ↔ headers.lookup f.1 = some f.2 := by
  rw [inKeyOrder, (List.perm_insertionSort _ _).mem_iff, List.mem_map, ← Assoc.mem_entries_iff]
  constructor
  · rintro ⟨e, he, rfl⟩
    exact he
  · exact fun h => ⟨_, h, rfl⟩

theorem nodup_inKeyOrder (headers : Assoc Str Str) : ((inKeyOrder headers).map Prod.fst).Nodup := by
  have hperm := (List.perm_insertionSort (fun a b : Str × Str => a.1 ≤ b.1)
    (headers.entries.map fun e => (e.1, e.2))).map Prod.fst
  have hkeys := headers.nodupKeys
  rw [List.NodupKeys] at hkeys
  rw [inKeyOrder, hperm.nodup_iff]
  simpa [List.keys, Function.comp_def] using hkeys

theorem copyHeader_eq (fields : Fields) (h : Str × Str) :
    copyHeader fields h = if IsRegular h.1 then fields.set h.1 h.2 else fields := by
  by_cases hnil : h.1 = []
  · simp [copyHeader, IsRegular, hnil]
  · by_cases hcolon : h.1.head? = some ':'
    · simp [copyHeader, IsRegular, hcolon]
    · simp [copyHeader, IsRegular, hnil, hcolon]

theorem distinct_foldl_copyHeader {fields : Fields} (H : fields.Distinct) (headers : List (Str × Str)) :
    (headers.foldl copyHeader fields).Distinct := by
  induction headers generalizing fields with
  | nil => exact H
  | cons h headers ih =>
      apply ih
      rw [copyHeader_eq]
      split
      · exact H.set h.1 h.2
      · exact H

/-- Copied headers are found before what was there. -/
theorem lookupField_foldl_copyHeader {headers : List (Str × Str)}
    (hlower : ∀ h ∈ headers, IsRegular h.1 → foldCase h.1 = h.1) (hnodup : (headers.map Prod.fst).Nodup)
    (fields : Fields) {name : Str} (hname : foldCase name = name) (hregular : IsRegular name) :
    (headers.foldl copyHeader fields).lookupField name =
      ((headers.find? fun h => h.1 = name).map Prod.snd).or (fields.lookupField name) := by
  induction headers generalizing fields with
  | nil => rfl
  | cons h headers ih =>
      rw [List.map_cons, List.nodup_cons] at hnodup
      have hrest := ih (fun h hh => hlower h (List.mem_cons_of_mem _ hh)) hnodup.2 (copyHeader fields h)
      rw [List.foldl_cons, hrest, copyHeader_eq]
      by_cases heq : h.1 = name
      · have hnone : headers.find? (fun h => h.1 = name) = none := by
          rw [List.find?_eq_none]
          intro h' hh' heq'
          apply hnodup.1
          rw [heq, ← of_decide_eq_true heq']
          exact List.mem_map_of_mem hh'
        rw [hnone, heq, if_pos hregular, Fields.lookupField_set, if_pos rfl]
        simp [heq]
      · have hsame : (if IsRegular h.1 then fields.set h.1 h.2 else fields).lookupField name =
            fields.lookupField name := by
          split
          · rename_i hregular
            have hfold := hlower h List.mem_cons_self hregular
            have hne : foldCase name ≠ foldCase h.1 := by
              rw [hfold, hname]
              exact Ne.symm heq
            rw [Fields.lookupField_set, if_neg hne]
          · rfl
        rw [hsame, List.find?_cons_of_neg (by simpa using heq)]

theorem lookupField_ownFields (target : RequestTarget) {name : Str} (hname : foldCase name = name) :
    (ownFields target).lookupField name =
      if name = "user-agent".toList then some "Protogate-Agent/1.0".toList
      else if name = "host".toList then some (target.host ++ ':' :: target.port)
      else none := by
  have hagent : foldCase "User-Agent".toList = "user-agent".toList := by decide
  have hhost : foldCase "Host".toList = "host".toList := by decide
  simp only [ownFields, Fields.lookupField_set, Fields.lookupField_nil, hname, hagent, hhost]

theorem distinct_ownFields (target : RequestTarget) : (ownFields target).Distinct :=
  (Fields.distinct_nil.set _ _).set _ _

/-- The headers of the request over those of the forwarder. -/
def copiedFields (target : RequestTarget) (r : Http2Request) : Fields :=
  (inKeyOrder r.headers).foldl copyHeader (ownFields target)

theorem lookupField_copiedFields (target : RequestTarget) {r : Http2Request} (H : Deliverable r)
    {name : Str} (hname : foldCase name = name) (hregular : IsRegular name) :
    (copiedFields target r).lookupField name =
      (r.headers.lookup name).or ((ownFields target).lookupField name) := by
  have hlower : ∀ h ∈ inKeyOrder r.headers, IsRegular h.1 → foldCase h.1 = h.1 := fun h hh hregular =>
    (H.name h.1 h.2 (mem_inKeyOrder.mp hh) hregular).1
  rw [copiedFields, lookupField_foldl_copyHeader hlower (nodup_inKeyOrder r.headers) _ hname hregular]
  congr 1
  cases hfound : (inKeyOrder r.headers).find? fun h => h.1 = name with
  | none =>
      cases hlook : r.headers.lookup name with
      | none => rfl
      | some value =>
          have hnot := List.find?_eq_none.mp hfound (name, value) (mem_inKeyOrder.mpr hlook)
          simp at hnot
  | some h =>
      have heq : h.1 = name := by simpa using List.find?_some hfound
      rw [← heq, mem_inKeyOrder.mp (List.mem_of_find?_eq_some hfound)]
      rfl

/-- The value that the local service finds under a name. -/
def forwardedField (target : RequestTarget) (r : Http2Request) (name : Str) : Option Str :=
  if name = contentLength ∧ r.body ≠ [] then some (decimal r.body.length)
  else (r.headers.lookup name).or ((ownFields target).lookupField name)

/-- The fields of the request that is built. -/
def builtFields (target : RequestTarget) (r : Http2Request) : Fields :=
  if r.body = [] then copiedFields target r
  else (copiedFields target r).set "Content-Length".toList (decimal r.body.length)

theorem distinct_builtFields (target : RequestTarget) (r : Http2Request) :
    (builtFields target r).Distinct := by
  have hcopied : (copiedFields target r).Distinct :=
    distinct_foldl_copyHeader (distinct_ownFields target) _
  rw [builtFields]
  split
  · exact hcopied
  · exact hcopied.set _ _

theorem lookupField_builtFields (target : RequestTarget) {r : Http2Request} (H : Deliverable r)
    {name : Str} (hname : foldCase name = name) (hregular : IsRegular name) :
    (builtFields target r).lookupField name = forwardedField target r name := by
  have hlength : foldCase "Content-Length".toList = contentLength := by decide
  rw [builtFields, forwardedField]
  by_cases hbody : r.body = []
  · simp [hbody, lookupField_copiedFields target H hname hregular]
  · rw [if_neg hbody, Fields.lookupField_set, hname, hlength,
      lookupField_copiedFields target H hname hregular]
    simp [hbody]

theorem lookupField_transferEncoding (target : RequestTarget) {r : Http2Request} (H : Deliverable r) :
    (builtFields target r).lookupField transferEncoding = none := by
  have hown : (ownFields target).lookupField transferEncoding = none := by
    rw [lookupField_ownFields target (by decide), if_neg (by decide), if_neg (by decide)]
  have hother : transferEncoding ≠ contentLength := by decide
  rw [lookupField_builtFields target H (by decide) (by decide), forwardedField]
  simp [hother, H.coding, hown]

theorem mem_set {fields : Fields} {name value : Str} {f : Str × Str} (h : f ∈ fields.set name value) :
    f ∈ fields ∨ f = (name, value) := by
  rw [Fields.set, List.mem_append, List.mem_singleton] at h
  exact h.imp_left List.mem_of_mem_filter

theorem mem_foldl_copyHeader {headers : List (Str × Str)} {fields : Fields} {f : Str × Str}
    (h : f ∈ headers.foldl copyHeader fields) : f ∈ fields ∨ f ∈ headers ∧ IsRegular f.1 := by
  induction headers generalizing fields with
  | nil => exact .inl h
  | cons g headers ih =>
      obtain hfields | ⟨hmem, hregular⟩ := ih h
      · rw [copyHeader_eq] at hfields
        split at hfields
        · rename_i hg
          obtain hold | rfl := mem_set hfields
          · exact .inl hold
          · exact .inr ⟨List.mem_cons_self, hg⟩
        · exact .inl hfields
      · exact .inr ⟨List.mem_cons_of_mem _ hmem, hregular⟩

theorem cleanField_builtFields {target : RequestTarget} (htarget : target.Clean) {r : Http2Request}
    (H : Deliverable r) : ∀ f ∈ builtFields target r, CleanField f := by
  have hown : ∀ f ∈ ownFields target, CleanField f := by
    intro f hf
    obtain hf | rfl := mem_set hf
    · obtain hf | rfl := mem_set hf
      · cases hf
      · have hname : '\n' ∉ "Host".toList ∧ ':' ∉ "Host".toList := by decide
        exact ⟨hname, htarget.line, htarget.trimmed⟩
    · exact ⟨by decide, by decide, by decide⟩
  have hcopied : ∀ f ∈ copiedFields target r, CleanField f := by
    intro f hf
    obtain hf | ⟨hf, hregular⟩ := mem_foldl_copyHeader hf
    · exact hown f hf
    · have hlook := mem_inKeyOrder.mp hf
      obtain ⟨_, hline, hcolon⟩ := H.name f.1 f.2 hlook hregular
      exact ⟨⟨hline, hcolon⟩, H.value f.1 f.2 hlook hregular⟩
  intro f hf
  rw [builtFields] at hf
  split at hf
  · exact hcopied f hf
  · obtain hf | rfl := mem_set hf
    · exact hcopied f hf
    · have hname : '\n' ∉ "Content-Length".toList ∧ ':' ∉ "Content-Length".toList := by decide
      exact ⟨hname, not_mem_decimal (by decide) _, trim_decimal _⟩

/-! ## What the local service reads -/

/-- The Content-Length of the client, if it is passed on, is 0. -/
def LengthFits (r : Http2Request) : Prop :=
  r.body ≠ [] ∨ ∀ value, r.headers.lookup contentLength = some value →
    IsNumeral value ∧ digitsValue value = 0

/-- The request as it is built when nothing is thrown. -/
def builtRequest (target : RequestTarget) (r : Http2Request) : HttpMessage where
  startLine := r.method ++ ' ' :: r.path ++ " HTTP/1.1".toList
  fields := builtFields target r
  body := r.body.map byteChar

theorem buildRequest_eq (beast : Beast) (target : RequestTarget) {r : Http2Request} (H : Deliverable r)
    (hmethod : r.method ∈ verbs) (htrace : r.method = "TRACE".toList → r.body = []) :
    buildRequest beast target r = .ok (builtRequest target r) := by
  have hcoding := lookupField_transferEncoding target H
  rw [buildRequest, methodText, if_pos hmethod, builtRequest]
  by_cases hbody : r.body = []
  · simp [hbody, builtFields, copiedFields, pure, Except.pure, bind, Except.bind]
  · have hne : r.method ≠ "TRACE".toList := fun h => hbody (htrace h)
    rw [builtFields, if_neg hbody] at hcoding ⊢
    have hempty : r.body.isEmpty = false := by simpa using hbody
    have hsame : unsetChunked beast ((copiedFields target r).set "Content-Length".toList
        (decimal r.body.length)) =
          (copiedFields target r).set "Content-Length".toList (decimal r.body.length) := by
      rw [unsetChunked, hcoding]
    simp only [copiedFields] at hsame
    simp only [bind, Except.bind, hempty, Bool.false_eq_true, if_false, preparePayload, if_neg hne,
      List.length_map, copiedFields, hsame]

theorem written_builtRequest (beast : Beast) (target : RequestTarget) {r : Http2Request}
    (H : Deliverable r) : written beast (builtRequest target r) = (builtRequest target r).text := by
  rw [written, builtRequest, lookupField_transferEncoding target H]
  rfl

theorem clean_builtRequest {target : RequestTarget} (htarget : target.Clean) {r : Http2Request}
    (H : Deliverable r) (hmethod : r.method ∈ verbs) : (builtRequest target r).Clean where
  start := by
    have hverbs : ∀ v ∈ verbs, '\n' ∉ v := by decide
    simp [builtRequest, hverbs _ hmethod, H.path]
  name := fun f hf => (cleanField_builtFields htarget H f hf).1
  value := fun f hf => (cleanField_builtFields htarget H f hf).2

theorem bodyLength_builtFields (target : RequestTarget) {r : Http2Request} (H : Deliverable r) :
    bodyLength (builtFields target r) = some (r.body.map byteChar).length ↔ LengthFits r := by
  have hdistinct := distinct_builtFields target r
  have hown : (ownFields target).lookupField contentLength = none := by
    rw [lookupField_ownFields target (by decide), if_neg (by decide), if_neg (by decide)]
  have hlook := lookupField_builtFields target H
    (show foldCase contentLength = contentLength by decide) (by decide)
  rw [bodyLength, hdistinct.values_eq, hdistinct.values_eq,
    show ("transfer-encoding".toList : Str) = transferEncoding from rfl,
    show ("content-length".toList : Str) = contentLength from rfl,
    lookupField_transferEncoding target H, hlook, forwardedField, LengthFits, List.length_map]
  by_cases hbody : r.body = []
  · cases hclient : r.headers.lookup contentLength with
    | none => simp [hbody, hown]
    | some value =>
        by_cases hnumeral : IsNumeral value
        · simp [hbody, hnumeral]
        · simp [hbody, hnumeral]
  · simp [hbody, isNumeral_decimal, digitsValue_decimal]

/-- **What the local service reads of a request**: its method and path, each of its fields, over
Host and User-Agent, and its body.  The body, and with it the next request, is found exactly
if the client announced none where there is none. -/
theorem forwarded_whole (beast : Beast) {target : RequestTarget} (htarget : target.Clean)
    {r : Http2Request} (H : Deliverable r) (hmethod : r.method ∈ verbs)
    (htrace : r.method = "TRACE".toList → r.body = []) :
    ∃ m, buildRequest beast target r = .ok m ∧
      m.startLine = r.method ++ ' ' :: r.path ++ " HTTP/1.1".toList ∧
      m.body = r.body.map byteChar ∧ m.fields.Distinct ∧
      (∀ name, foldCase name = name → IsRegular name →
        m.fields.lookupField name = forwardedField target r name) ∧
      ∀ rest, readMessage (written beast m ++ rest) = some (m, rest) ↔ LengthFits r := by
  refine ⟨builtRequest target r, buildRequest_eq beast target H hmethod htrace, rfl, rfl,
    distinct_builtFields target r, fun name => lookupField_builtFields target H, fun rest => ?_⟩
  rw [written_builtRequest beast target H, readMessage_text_iff (clean_builtRequest htarget H hmethod)]
  exact bodyLength_builtFields target H

/-- A POST with a field and a body. -/
def samplePosted : Http2Request where
  streamId := 3
  method := "POST".toList
  path := "/a".toList
  authority := []
  headers := (∅ : Assoc Str Str).insert "accept".toList "text/plain".toList
  body := [0x68, 0x69]
  requestId := []
  clientIp := []

theorem deliverable_samplePosted : Deliverable samplePosted := by
  have hlook : ∀ name value, samplePosted.headers.lookup name = some value →
      name = "accept".toList ∧ value = "text/plain".toList := by
    intro name value h
    rw [samplePosted, Assoc.lookup_insert_ite] at h
    split at h
    · rename_i hname
      exact ⟨hname, (Option.some.inj h).symm⟩
    · cases h
  refine ⟨by decide, ?_, ?_, by decide⟩
  · intro name value h _
    obtain ⟨rfl, rfl⟩ := hlook name value h
    decide
  · intro name value h _
    obtain ⟨rfl, rfl⟩ := hlook name value h
    decide

def sampleTarget : RequestTarget := ⟨"localhost".toList, "3000".toList, "/".toList⟩

def sampleBeast : Beast := ⟨fun _ => false, id, .ok []⟩

theorem clean_sampleTarget : sampleTarget.Clean := ⟨by decide, by decide⟩

theorem forwarded_whole_post :
    ∃ m, buildRequest sampleBeast sampleTarget samplePosted = .ok m ∧
      m.startLine = samplePosted.method ++ ' ' :: samplePosted.path ++ " HTTP/1.1".toList ∧
      m.body = samplePosted.body.map byteChar ∧ m.fields.Distinct ∧
      (∀ name, foldCase name = name → IsRegular name →
        m.fields.lookupField name = forwardedField sampleTarget samplePosted name) ∧
      ∀ rest, readMessage (written sampleBeast m ++ rest) = some (m, rest) ↔ LengthFits samplePosted :=
  forwarded_whole sampleBeast clean_sampleTarget deliverable_samplePosted (by decide) (by decide)

end Protogate.TunnelAgent
