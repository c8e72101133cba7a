import Protogate.Proxy.OwnAnswers
import Protogate.Tunnel.LocalService

/-!
# What clients read

The text that a callback gets is written to the client as it is.  It is a message of HTTP/1.1
with the fields of the local service's answer, one for each name, and with as much of its body
as one call of the data provider took.  A client finds this message, and what follows it, if the
answer announced the length of its body, or has a code that admits none, and the body went through
in one call.

## Main definitions

* `responseMessage` — the message that the answer is meant to become.
* `readResponse_answer_iff` — when it is read off the text of the answer.
* `WellFormed`, `Announces` — what the local service's parser lets through, and what it takes.
* `ReadWhole`, `answers_read_whole` — what clients read, in every run.
-/

namespace Protogate.Tunnel

open Protogate.Lib Protogate.Agent Protogate.Proxy Protogate.TunnelAgent Protogate.Wire

/-! ## The text as a message -/

/-- The message with the fields that arrive, and the whole body. -/
def responseMessage (keeps : Str × Str → Bool) (a : Answer) : HttpMessage where
  startLine := "HTTP/1.1 ".toList ++ decimal a.response.statusCode ++ " OK".toList
  fields := regular (a.fields.filter keeps)
  body := a.response.body.map byteChar

section
variable {keeps : Str × Str → Bool}

theorem statusResponse_eq_text (status : Str) (fields : Fields) (body : Str) :
    statusResponse status fields [body] =
      HttpMessage.text ⟨"HTTP/1.1 ".toList ++ status ++ " OK".toList, regular fields, body⟩ := by
  have hend : " OK\r\n".toList = " OK".toList ++ Lib.crlf := rfl
  unfold statusResponse
  rw [text_eq_lines, hend]
  simp
  rfl

theorem answer_text_eq (a : Answer) :
    a.text keeps = HttpMessage.text { responseMessage keeps a with body := a.sentBody } :=
  statusResponse_eq_text _ _ _

/-! ## Fields and names -/

theorem clean_responseMessage (hvalid : KeepsValid keeps) {a : Answer} {n : ℕ}
    (hstatus : a.response.statusCode = n) (hnames : ∀ h ∈ a.response.headers, IsRegular h.1) :
    (responseMessage keeps a).Clean := by
  have hmem : ∀ f ∈ (responseMessage keeps a).fields, IsRegular f.1 ∧ keeps f = true := by
    intro f hf
    obtain ⟨hf, hpseudo⟩ := List.mem_filter.mp hf
    obtain ⟨hf, hkept⟩ := List.mem_filter.mp hf
    rw [Answer.fields, List.mem_cons, List.mem_map] at hf
    obtain rfl | ⟨h, hh, rfl⟩ := hf
    · simp at hpseudo
    · refine ⟨⟨?_, ?_⟩, hkept⟩
      · simpa [lower] using (hnames h hh).1
      · intro hcolon
        simp [List.headD_eq_head?_getD, hcolon] at hpseudo
  refine ⟨?_, fun f hf => ?_, fun f hf => ?_⟩
  · have hdigits : '\n' ∉ decimal a.response.statusCode := hstatus ▸ not_mem_decimal rfl n
    show '\n' ∉ "HTTP/1.1 ".toList ++ decimal a.response.statusCode ++ " OK".toList
    simp [hdigits]
  · exact (hvalid.name f.1 f.2 (hmem f hf).2 (hmem f hf).1).2
  · exact hvalid.value f.1 f.2 (hmem f hf).2 (hmem f hf).1

theorem byteChar_injective : Function.Injective byteChar := by
  have hback : ∀ n < 256, (Char.ofNat n).toNat = n := by
    intro n hn
    have hvalid : n.isValidChar := .inl (by omega)
    rw [Char.ofNat, dif_pos hvalid]
    rfl
  intro a b h
  have hnat := congrArg Char.toNat h
  rw [byteChar, byteChar, hback _ a.toNat_lt, hback _ b.toNat_lt] at hnat
  exact UInt8.toNat_inj.mp hnat

theorem startLine_responseMessage {a : Answer} {n : ℕ} (hstatus : a.response.statusCode = n) :
    (responseMessage keeps a).startLine = statusLine n "OK".toList := by
  have hreason : " OK".toList = " ".toList ++ "OK".toList := rfl
  unfold responseMessage statusLine
  rw [hstatus, hreason, List.append_assoc, List.append_assoc, List.append_assoc]

/-- **When a client reads the whole answer**: it tells where its body ends, and the body went
through in one call of the data provider. -/
theorem readResponse_answer_iff (hvalid : KeepsValid keeps) {a : Answer} {n : ℕ}
    (hstatus : a.response.statusCode = n) (hnames : ∀ h ∈ a.response.headers, IsRegular h.1) :
    (∀ rest, readResponse (a.text keeps ++ rest) = some (responseMessage keeps a, rest)) ↔
      Delimits n (responseMessage keeps a).fields a.response.body.length ∧
        a.response.body.length ≤ a.framing.room := by
  have hclean := clean_responseMessage hvalid hstatus hnames
  have hsent : HttpMessage.Clean { responseMessage keeps a with body := a.sentBody } :=
    ⟨hclean.start, hclean.name, hclean.value⟩
  have hbody : a.sentBody = a.response.body.map byteChar ↔ a.response.body.length ≤ a.framing.room := by
    rw [Answer.sentBody, (List.map_injective_iff.mpr byteChar_injective).eq_iff]
    exact data_readCallback_eq_iff _ _
  have hlength : (responseMessage keeps a).body.length = a.response.body.length := List.length_map _
  rw [answer_text_eq]
  constructor
  · intro hall
    -- what is found in front of nothing is what was sent
    have hsame := ((readFirst_text_eq_iff hsent _ []).mp (hall [])).1
    have hroom := hbody.mp (congrArg HttpMessage.body hsame).symm
    rw [← hsame] at hall
    have hdelimits := (readResponse_text_iff hclean (startLine_responseMessage hstatus)).mp hall
    exact ⟨hlength ▸ hdelimits, hroom⟩
  · rintro ⟨hdelimits, hroom⟩
    have hsame : { responseMessage keeps a with body := a.sentBody } = responseMessage keeps a := by
      rw [hbody.mpr hroom]
      rfl
    rw [hsame]
    exact (readResponse_text_iff hclean (startLine_responseMessage hstatus)).mpr (hlength ▸ hdelimits)

end

/-! ## The answer of the local service -/

/-- A final response as HTTP/1.1 has it: the code has three digits, names are not empty and without a
colon in front, those that are the same are written the same, and Content-Length is a number, and
not there with the code 204. -/
structure WellFormed (res : LocalResponse) : Prop where
  status : 200 ≤ res.status ∧ res.status ≤ 999
  noContent : res.status = 204 → res.fields.lastField contentLength = none
  names : ∀ f ∈ res.fields, IsRegular f.1
  letters : ∀ f ∈ res.fields, ∀ g ∈ res.fields, foldCase f.1 = foldCase g.1 → f.1 = g.1
  length : ∀ value, res.fields.lastField contentLength = some value → IsNumeral value

/-- The response has a Content-Length that is the length of its body, or a code that admits no body,
and none. -/
def Announces (res : LocalResponse) : Prop :=
  if Bodiless res.status then res.body = []
  else ∃ value ∈ res.fields.lastField contentLength, digitsValue value = res.body.length

instance (res : LocalResponse) : Decidable (Announces res) := by
  unfold Announces
  infer_instance

/-- nghttp2 keeps a Content-Length that is a number. -/
def KeepsLength (keeps : Str × Str → Bool) : Prop :=
  ∀ value, IsNumeral value → keeps (contentLength, value) = true

section
variable {keeps : Str × Str → Bool} {a : Answer} {res : LocalResponse}

theorem lookup_headerMap (fields : Fields) (name : Str) :
    (headerMap fields).lookup name = (lastMatch (fun f => decide (f.1 = name)) fields).map Prod.snd :=
  lookup_foldl_insert Prod.fst Prod.snd fields name

/-- The value of a name is that which was written last. -/
theorem exists_lookup_headerMap_iff (H : WellFormed res) {name value : Str} :
    (∃ written, foldCase written = foldCase name ∧
      (headerMap res.fields).lookup written = some value) ↔ res.fields.lastField name = some value := by
  have hsame : ∀ f ∈ res.fields, foldCase f.1 = foldCase name →
      (headerMap res.fields).lookup f.1 = res.fields.lastField name := by
    intro f hf hname
    rw [lookup_headerMap, Fields.lastField]
    congr 1
    apply lastMatch_congr
    intro g hg
    rw [decide_eq_decide, ← hname]
    exact ⟨fun h => h ▸ rfl, H.letters g hg f hf⟩
  constructor
  · rintro ⟨written, hname, hlook⟩
    obtain ⟨f, hf, hvalue⟩ := Option.map_eq_some_iff.mp ((lookup_headerMap _ _).symm.trans hlook)
    obtain ⟨hmem, hwritten⟩ := mem_of_lastMatch hf
    obtain rfl := of_decide_eq_true hwritten
    rw [← hsame f hmem hname, hlook]
  · intro hlast
    obtain ⟨f, hf, hvalue⟩ := Option.map_eq_some_iff.mp hlast
    obtain ⟨hmem, hname⟩ := mem_of_lastMatch hf
    have hname := of_decide_eq_true hname
    exact ⟨f.1, hname, by rw [hsame f hmem hname, hlast]⟩

theorem mem_of_mem_inKeyOrder {h : Str × Str} (hh : h ∈ inKeyOrder (headerMap res.fields)) :
    h ∈ res.fields := by
  rw [mem_inKeyOrder, lookup_headerMap] at hh
  obtain ⟨f, hf, hvalue⟩ := Option.map_eq_some_iff.mp hh
  obtain ⟨hmem, hname⟩ := mem_of_lastMatch hf
  obtain rfl : f = h := Prod.ext (of_decide_eq_true hname) hvalue
  exact hmem

theorem mem_responseFields_iff (H : WellFormed res)
    (hheaders : a.response.headers = inKeyOrder (headerMap res.fields)) {g : Str × Str} :
    g ∈ (responseMessage keeps a).fields ↔
      keeps g = true ∧ ∃ h ∈ inKeyOrder (headerMap res.fields), (lower h.1, h.2) = g := by
  have hfilter : g ∈ (responseMessage keeps a).fields ↔
      (g ∈ a.fields ∧ keeps g = true) ∧ g.1.headD '\x00' ≠ ':' := by
    show g ∈ regular (a.fields.filter keeps) ↔ _
    rw [regular, List.mem_filter, List.mem_filter, decide_eq_true_eq]
  rw [hfilter, Answer.fields, List.mem_cons, List.mem_map, hheaders]
  constructor
  · rintro ⟨⟨rfl | ⟨h, hh, rfl⟩, hkept⟩, hpseudo⟩
    · exact absurd rfl hpseudo
    · exact ⟨hkept, h, hh, rfl⟩
  · rintro ⟨hkept, h, hh, rfl⟩
    refine ⟨⟨.inr ⟨h, hh, rfl⟩, hkept⟩, ?_⟩
    obtain ⟨hne, hcolon⟩ := H.names h (mem_of_mem_inKeyOrder hh)
    obtain ⟨c, rest, hcons⟩ := List.exists_cons_of_ne_nil hne
    have hfirst : ':' ∉ lower [c] := not_mem_lower rfl (by simpa [hcons, eq_comm] using hcolon)
    simpa [hcons, lower, eq_comm] using hfirst

theorem distinct_responseFields (H : WellFormed res)
    (hheaders : a.response.headers = inKeyOrder (headerMap res.fields)) :
    (responseMessage keeps a).fields.Distinct := by
  have hinj : ∀ h ∈ inKeyOrder (headerMap res.fields), ∀ h' ∈ inKeyOrder (headerMap res.fields),
      foldCase h.1 = foldCase h'.1 → h = h' := by
    intro h hh h' hh' hsame
    have hname := H.letters h (mem_of_mem_inKeyOrder hh) h' (mem_of_mem_inKeyOrder hh') hsame
    rw [mem_inKeyOrder] at hh hh'
    rw [hname, hh'] at hh
    exact Prod.ext hname (Option.some.inj hh).symm
  have hfolded : (((inKeyOrder (headerMap res.fields)).map fun h => (lower h.1, h.2)).map
      fun f => foldCase f.1).Nodup := by
    rw [List.map_map]
    apply List.Nodup.map_on _ (List.Nodup.of_map _ (nodup_inKeyOrder _))
    intro h hh h' hh' hsame
    have hfold : lower (lower h.1) = lower (lower h'.1) := hsame
    rw [lower_lower, lower_lower] at hfold
    exact hinj h hh h' hh' hfold
  have hsub : (responseMessage keeps a).fields.Sublist
      ((inKeyOrder (headerMap res.fields)).map fun h => (lower h.1, h.2)) := by
    show (regular (a.fields.filter keeps)).Sublist _
    rw [regular, List.filter_filter, Answer.fields, List.filter_cons_of_neg (by simp), hheaders]
    exact List.filter_sublist
  exact hfolded.sublist (hsub.map _)

theorem lookupField_responseFields (H : WellFormed res)
    (hheaders : a.response.headers = inKeyOrder (headerMap res.fields)) {name : Str}
    (hname : foldCase name = name) :
    (responseMessage keeps a).fields.lookupField name =
      (res.fields.lastField name).filter fun value => keeps (name, value) := by
  ext value
  rw [(distinct_responseFields H hheaders).lookupField_eq_some_iff, Option.filter_eq_some_iff,
    ← exists_lookup_headerMap_iff H]
  constructor
  · rintro ⟨f, hf, hfold, rfl⟩
    obtain ⟨hkept, h, hh, rfl⟩ := (mem_responseFields_iff H hheaders).mp hf
    rw [mem_inKeyOrder] at hh
    have hlower : lower h.1 = name := by
      rw [← hname, ← hfold]
      exact (lower_lower h.1).symm
    rw [hlower] at hkept
    exact ⟨⟨h.1, hlower.trans hname.symm, hh⟩, hkept⟩
  · rintro ⟨⟨written, hfold, hlook⟩, hkept⟩
    have hlower : lower written = name := hfold.trans hname
    refine ⟨(name, value), (mem_responseFields_iff H hheaders).mpr ⟨hkept, (written, value), ?_, ?_⟩, rfl, rfl⟩
    · exact mem_inKeyOrder.mpr hlook
    · rw [hlower]

theorem delimits_responseFields_iff (H : WellFormed res) (hvalid : KeepsValid keeps)
    (hkeeps : KeepsLength keeps) (hheaders : a.response.headers = inKeyOrder (headerMap res.fields)) :
    Delimits res.status (responseMessage keeps a).fields res.body.length ↔ Announces res := by
  have hdistinct : (responseMessage keeps a).fields.Distinct := distinct_responseFields H hheaders
  have hcoding : (responseMessage keeps a).fields.lookupField transferEncoding = none := by
    rw [lookupField_responseFields H hheaders (by decide)]
    simp [hvalid.coding]
  have hlength : (responseMessage keeps a).fields.lookupField contentLength =
      res.fields.lastField contentLength := by
    rw [lookupField_responseFields H hheaders (by decide)]
    cases hlast : res.fields.lastField contentLength with
    | none => rfl
    | some value => exact Option.filter_some_pos (hkeeps value (H.length value hlast))
  have hdigits : 100 ≤ res.status ∧ res.status ≤ 999 := ⟨by have := H.status.1; omega, H.status.2⟩
  rw [Delimits, Announces, bodyLength_eq_some_iff, hdistinct.values_eq, hdistinct.values_eq,
    show ("transfer-encoding".toList : Str) = transferEncoding from rfl,
    show ("content-length".toList : Str) = contentLength from rfl, hcoding, hlength]
  by_cases hbodiless : Bodiless res.status
  · simp [hdigits, hbodiless]
  · cases hlast : res.fields.lastField contentLength with
    | none => simp [hbodiless]
    | some value =>
        have hnumeral := H.length value hlast
        simp [hdigits, hbodiless, hnumeral]

end

/-! ## In every run -/

/-- A callback that gets a response gets a message with the status and the fields of the local
service's answer to its request, if this has a plain method; and a client finds the whole body, and
what follows, exactly if the answer announced its length and went into one call of the data
provider. -/
def ReadWhole (keeps : Str × Str → Bool) (target : RequestTarget)
    (service : HttpMessage → LocalResponse) (t : HttpTunnel) : Prop :=
  ∀ e ∈ t.server.invoked, e.2.error = false → ∃ q ∈ t.requests, ∃ a ∈ t.answers, ∃ r,
    q.call = e.2.callback ∧ a.streamId = q.streamId ∧ q.body = [] ∧
      FieldsLast (q.headers.filter keeps) r ∧ r.body = [] ∧
      (Plain r.method → LengthFits r →
        ∃ res, res = service (builtRequest target r) ∧ ∃ m : HttpMessage,
          m.startLine = "HTTP/1.1 ".toList ++ decimal res.status ++ " OK".toList ∧
          m.body = res.body.map byteChar ∧ m.fields.Distinct ∧
          (∀ name, foldCase name = name → m.fields.lookupField name =
            (res.fields.lastField name).filter fun value => keeps (name, value)) ∧
          ((∀ rest, readResponse (e.2.response ++ rest) = some (m, rest)) ↔
            Announces res ∧ res.body.length ≤ a.framing.room))

theorem ForwardedInv.readWhole {keeps : Str × Str → Bool} {t : HttpTunnel} {beast : Beast}
    {target : RequestTarget} {service : HttpMessage → LocalResponse} {timeout : Str}
    (H : ForwardedInv keeps (forward beast target none (exchangeWith service timeout)) t)
    (hkeeps : KeepsPseudo keeps) (hvalid : KeepsValid keeps) (hlength : KeepsLength keeps)
    (htarget : target.Clean) (hservice : ∀ m, WellFormed (service m)) :
    ReadWhole keeps target service t := by
  intro e he hfalse
  obtain ⟨q, hq, a, ha, r, hcall, hstream, hempty, hfields, hbody, hresponse, htext⟩ :=
    H.answered hkeeps he hfalse
  refine ⟨q, hq, a, ha, r, hcall, hstream, hempty, hfields, hbody, fun hplain hfits => ⟨_, rfl, ?_⟩⟩
  have hdeliverable : Deliverable r := deliverable_of_fieldsLast hvalid hfields
  rw [forward_of_fits beast htarget service timeout hdeliverable hplain.1 (fun _ => hbody) hfits]
    at hresponse
  generalize hres : service (builtRequest target r) = res at hresponse
  have hwell : WellFormed res := hres ▸ hservice _
  have hstatus : a.response.statusCode = (res.status : ℤ) := by rw [hresponse]
  have hheaders : a.response.headers = inKeyOrder (headerMap res.fields) := by rw [hresponse]
  have hsame : a.response.body = res.body := by rw [hresponse]
  refine ⟨responseMessage keeps a, ?_, ?_, distinct_responseFields hwell hheaders,
    fun name => lookupField_responseFields hwell hheaders, ?_⟩
  · rw [← hstatus]
    rfl
  · rw [← hsame]
    rfl
  · have hnames : ∀ h ∈ a.response.headers, IsRegular h.1 := by
      intro h hh
      exact hwell.names h (mem_of_mem_inKeyOrder (hheaders ▸ hh))
    rw [htext, readResponse_answer_iff hvalid hstatus hnames, hsame,
      delimits_responseFields_iff hwell hvalid hlength hheaders]

theorem keepsLength_sampleKeeps : KeepsLength sampleKeeps := by
  intro value hvalue
  have hline : '\n' ∉ value := fun hmem => absurd (hvalue.2 _ hmem) (by decide)
  have hname : foldCase contentLength = contentLength ∧ contentLength ≠ transferEncoding ∧
      contentLength.isEmpty = false ∧ '\n' ∉ contentLength ∧ ':' ∉ contentLength := by decide
  obtain ⟨hfold, hcoding, hne, hnewline, hcolon⟩ := hname
  have hchars : ∀ c ∈ contentLength, c ≠ '\n' ∧ c ≠ ':' :=
    fun c hc => ⟨fun h => hnewline (h ▸ hc), fun h => hcolon (h ▸ hc)⟩
  simpa [sampleKeeps, hfold, hcoding, hne, hline, trim_numeral hvalue] using .inr hchars

/-- A service that answers everyone with two bytes, and says so. -/
def sampleMeasured (_ : HttpMessage) : LocalResponse :=
  ⟨200, [("Content-Length".toList, "2".toList)], [0x6f, 0x6b]⟩

theorem wellFormed_sampleMeasured (m : HttpMessage) : WellFormed (sampleMeasured m) where
  status := by
    show 200 ≤ 200 ∧ 200 ≤ 999
    decide
  noContent := fun h => by cases h
  names := by
    intro f hf
    rw [List.mem_singleton.mp hf]
    decide
  letters := by
    intro f hf g hg _
    rw [List.mem_singleton.mp hf, List.mem_singleton.mp hg]
  length := by
    intro value hvalue
    have hlast : Fields.lastField [("Content-Length".toList, "2".toList)] contentLength =
        some "2".toList := by decide
    obtain rfl := Option.some.inj (hlast.symm.trans hvalue)
    decide

/-- A GET on stream 1, and its answer. -/
def sampleMeasuredRun : List HttpTunnelEvent :=
  [.start true, .request "a".toList "GET / HTTP/1.1\r\nHost: app\r\n\r\n".toList 1 true] ++
  List.replicate 6 (.toAgent 1 ⟨⟨200, [("Content-Length".toList, "2".toList)], [0x6f, 0x6b]⟩, true, true,
    ⟨16384, []⟩⟩) ++ List.replicate 5 (.toServer 1)

end Protogate.Tunnel
