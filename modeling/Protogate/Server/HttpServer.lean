import Protogate.Lib.Run
import Protogate.Proxy.ParseRequest
import Mathlib

/-!
# The two ways a client request comes in

Plain HTTP is read until the empty line and parsed by a second parser of its own;
over TLS a connection appends what it reads to a buffer and parses it as soon as the
empty line is there.  Both end in `HTTPProxy::handle_request`.

## Main definitions

* `handlePlainHttp` — the request that the plain path passes on.
* `Connection`, `Connection.onRead` — the TLS path, one read after the other.
* `IngressAgree` — both paths pass on the same request.
* `ReadIndependent` — the TLS path passes on the whole request, once.
* `ingress_agree_iff`, `read_independent_iff` — when they do.
-/

namespace Protogate.Server

open Protogate.Lib Protogate.Proxy RawRequest

/-! ## Plain HTTP -/

/-- The characters the plain path trims. -/
def isBlankOrNewline (c : Char) : Bool := c = ' ' || c = '\t' || c = '\r' || c = '\n'

/-- The body of the loop over header lines; names are kept as they are spelled. -/
def addHeaderLine (headers : Assoc Str Str) (line : Str) : Assoc Str Str :=
  match splitColon line with
  | none => headers
  | some (key, value) => headers.insert key (trim isBlankOrNewline value)

/-- `handle_plain_http` on what has arrived; without an empty line it goes on reading. -/
def handlePlainHttp (buffer clientIp : Str) : Option HTTPRequest :=
  if !terminated buffer then none
  else
    let (method, stream) := extractWord buffer
    let (path, stream) := extractWord stream
    let (version, stream) := extractWord stream
    -- the rest of the first line
    let stream := ((getline stream).getD ([], [])).2
    let headers := (headerBlock stream.length stream).1.foldl addHeaderLine ∅
    some {
      method, path, version, clientIp
      host := (headers.lookup "Host".toList).getD []
      headers := entryList headers
      body := [] }

/-! ## TLS -/

/-- A TLS connection: whether it reads, the requests it passed to `handle_request`, and
whether it answered 400. -/
structure Connection where
  clientIp : Str
  requestBuffer : Str
  reading : Bool
  calls : List HTTPRequest
  refused : Bool
  deriving DecidableEq, Repr

/-- A connection after its handshake. -/
def Connection.start (clientIp : Str) : Connection := ⟨clientIp, [], true, [], false⟩

/-- The handler of `do_read`, without error. -/
def Connection.onRead (c : Connection) (data : Str) : Connection :=
  if !c.reading then c
  else
    let c := { c with requestBuffer := c.requestBuffer ++ data }
    if terminated c.requestBuffer then
      match parseRequest c.requestBuffer with
      | none => { c with reading := false, refused := true }
      | some request =>
          { c with
            reading := false
            calls := c.calls ++ [{ request with clientIp := c.clientIp }] }
    else c

/-! ## What the plain path makes of a request -/

/-- The header map the plain path makes of the fields. -/
def plainHeaders (r : RawRequest) : Assoc Str Str :=
  r.values.foldl (fun m f => AList.insert f.1 f.2 m) ∅

theorem lookup_plainHeaders (r : RawRequest) (name : Str) :
    (plainHeaders r).lookup name = r.valueOf name :=
  lookup_foldl_insert Prod.fst Prod.snd r.values name

/-- The carriage return is trimmed with the blanks. -/
theorem trim_value {value : Str} (hcr : '\r' ∉ value) (hnewline : '\n' ∉ value) :
    trim isBlankOrNewline (value ++ ['\r']) = trim isBlank value := by
  rw [trim_concat rfl]
  apply trim_congr
  intro c hc
  have hr : c ≠ '\r' := fun heq => hcr (heq ▸ hc)
  have hn : c ≠ '\n' := fun heq => hnewline (heq ▸ hc)
  simp [isBlankOrNewline, isBlank, hr, hn]

theorem foldl_addHeaderLine (r : RawRequest) :
    ((r.fields.map fieldLine).map (· ++ ['\r'])).foldl addHeaderLine ∅ = plainHeaders r := by
  have hline : ∀ f ∈ r.fields, ∀ headers : Assoc Str Str,
      addHeaderLine headers (fieldLine f ++ ['\r']) = headers.insert f.1 (trim isBlank f.2) := by
    intro f hf headers
    obtain ⟨hcr, hnewline⟩ := r.value_ok f hf
    have htext : fieldLine f ++ ['\r'] = f.1 ++ ':' :: (f.2 ++ ['\r']) := by
      simp [fieldLine]
    rw [addHeaderLine, htext, splitColon_append (r.name_ok f hf).1]
    simp only [trim_value hcr hnewline]
  rw [plainHeaders, RawRequest.values, List.foldl_map, List.foldl_map, List.foldl_map]
  exact List.foldl_ext _ _ _ fun headers f hf => hline f hf headers

/-- The text of a request is terminated as soon as its empty line is there. -/
theorem terminated_text (r : RawRequest) (body : Str) :
    terminated (blockText r.lines ++ body) = true :=
  (terminated_iff_of_block r.isLine (by simp [RawRequest.lines]) (List.prefix_refl _)).mpr
    (List.prefix_append _ _)

/-- The request the plain path passes on. -/
def plainRequest (r : RawRequest) (clientIp : Str) : HTTPRequest where
  method := r.method
  path := r.path
  version := r.version
  host := (r.valueOf "Host".toList).getD []
  clientIp := clientIp
  headers := entryList (plainHeaders r)
  body := []

theorem handlePlainHttp_text (r : RawRequest) (clientIp : Str) :
    handlePlainHttp r.text clientIp = some (plainRequest r clientIp) := by
  have hterminated : terminated r.text = true := terminated_text r r.body
  have htext : r.text = r.requestLine ++ '\r' :: '\n' ::
      (blockText (r.fields.map fieldLine) ++ r.body) := by
    rw [RawRequest.text, RawRequest.lines, blockText_cons]
  obtain ⟨hmethod, hpath, hversion⟩ :=
    r.words (c := '\r') rfl ('\n' :: (blockText (r.fields.map fieldLine) ++ r.body))
  have hline : getline ('\r' :: '\n' :: (blockText (r.fields.map fieldLine) ++ r.body)) =
      some (['\r'], blockText (r.fields.map fieldLine) ++ r.body) :=
    getline_append (by decide : '\n' ∉ ['\r']) _
  rw [handlePlainHttp, hterminated, htext]
  simp only [Bool.not_true, Bool.false_eq_true, if_false, hmethod, hpath, hversion, hline,
    Option.getD_some, headerBlock_blockText r.isLine_fields, foldl_addHeaderLine,
    lookup_plainHeaders]
  rfl

/-! ## What the TLS path makes of its reads -/

section
variable {clientIp : Str}

theorem terminated_append {buffer : Str} (h : terminated buffer = true) (data : Str) :
    terminated (buffer ++ data) = true := by
  rw [terminated_iff] at h ⊢
  exact h.trans (List.prefix_append _ _).isInfix

/-- Without the empty line the reads are collected. -/
theorem run_of_not_terminated {reads : List Str} (h : terminated reads.flatten = false) :
    run Connection.onRead (.start clientIp) reads =
      { Connection.start clientIp with requestBuffer := reads.flatten } := by
  induction reads using List.reverseRecOn with
  | nil => rfl
  | append_singleton reads data ih =>
      rw [List.flatten_concat] at h
      have hbefore : terminated reads.flatten = false := by
        by_contra hterminated
        rw [terminated_append (by simpa using hterminated) data] at h
        cases h
      rw [run_append, ih hbefore, List.flatten_concat]
      simp only [run_cons, run_nil, Connection.onRead, Connection.start, h, Bool.not_true,
        Bool.false_eq_true, if_false]

/-- Nothing is read after the request has been passed on. -/
theorem run_of_stopped {c : Connection} (h : c.reading = false) (reads : List Str) :
    run Connection.onRead c reads = c := by
  induction reads with
  | nil => rfl
  | cons data reads ih =>
      have hstep : c.onRead data = c := by
        simp only [Connection.onRead, h, Bool.not_false, if_true]
      rw [run_cons, hstep, ih]

/-- The read that brings the empty line, and those before and after it. -/
theorem exists_first_terminated {reads : List Str} (h : terminated reads.flatten = true) :
    ∃ before data after, reads = before ++ data :: after ∧ terminated before.flatten = false ∧
      terminated (before.flatten ++ data) = true := by
  induction reads using List.reverseRecOn with
  | nil => exact absurd h (by decide)
  | append_singleton reads data ih =>
      by_cases hbefore : terminated reads.flatten = true
      · obtain ⟨before, first, after, rfl, hnot, hfirst⟩ := ih hbefore
        exact ⟨before, first, after ++ [data], by simp, hnot, hfirst⟩
      · rw [List.flatten_concat] at h
        exact ⟨reads, data, [], rfl, by simpa using hbefore, h⟩

end

/-- The request the TLS path passes on, with the part of the body that has arrived. -/
def tlsRequest (r : RawRequest) (clientIp body : Str) : HTTPRequest :=
  { r.parsed body with clientIp := clientIp }

/-- The reads up to the empty line decide what is passed on. -/
theorem calls_run {r : RawRequest} {before : List Str} {data : Str} {body : Str}
    (hnot : terminated before.flatten = false)
    (hbuffer : before.flatten ++ data = blockText r.lines ++ body) (clientIp : Str)
    (after : List Str) :
    (run Connection.onRead (.start clientIp) (before ++ data :: after)).calls =
      [tlsRequest r clientIp body] := by
  rw [run_append, run_of_not_terminated hnot, run_cons]
  have hread : Connection.onRead
      { Connection.start clientIp with requestBuffer := before.flatten } data =
        ⟨clientIp, blockText r.lines ++ body, false, [tlsRequest r clientIp body], false⟩ := by
    simp only [Connection.onRead, Connection.start, hbuffer, terminated_text, parseRequest_text,
      Bool.not_true, Bool.false_eq_true, if_false, if_true]
    rfl
  rw [hread, run_of_stopped rfl]

/-! ## Both paths -/

/-- Two requests with the same method, path, host, body and header fields, where names
are compared without regard to case. -/
structure SameCall (p t : HTTPRequest) : Prop where
  method : p.method = t.method
  path : p.path = t.path
  host : p.host = t.host
  body : p.body = t.body
  headers : ∀ name value, (∃ h ∈ p.headers, lower h.1 = name ∧ h.2 = value) ↔
    ∃ h ∈ t.headers, lower h.1 = name ∧ h.2 = value

/-- When the request arrives in one read, both paths call `handle_request`, with the
same request. -/
def IngressAgree (r : RawRequest) (clientIp : Str) : Prop :=
  ∃ p t, handlePlainHttp r.text clientIp = some p ∧
    ((Connection.start clientIp).onRead r.text).calls = [t] ∧ SameCall p t

/-- There is no body; a field spelled in several ways has the same last value in each;
and a host that is not empty is also given under the spelling `Host`. -/
structure Unambiguous (r : RawRequest) : Prop where
  body : r.body = []
  spelling : ∀ f ∈ r.fields, r.valueOf f.1 = r.valueOfLower (lower f.1)
  host : ∀ value, r.valueOfLower "host".toList = some value → value ≠ [] →
    ∃ f ∈ r.fields, f.1 = "Host".toList

theorem lower_lower (name : Str) : lower (lower name) = lower name := by
  simp [lower]

/-- The last value of a name is that of a field. -/
theorem exists_of_lastValue {p : Str → Bool} {r : RawRequest} {value : Str}
    (h : lastValue p r.values = some value) : ∃ f ∈ r.fields, p f.1 = true := by
  obtain ⟨g, hg, _⟩ := Option.map_eq_some_iff.mp h
  obtain ⟨hmem, hp⟩ := mem_of_lastMatch hg
  obtain ⟨f, hf, rfl⟩ := List.mem_map.mp hmem
  exact ⟨f, hf, hp⟩

theorem exists_lastValue {p : Str → Bool} {r : RawRequest} {f : Str × Str} (hf : f ∈ r.fields)
    (hp : p f.1 = true) : ∃ value, lastValue p r.values = some value := by
  have hsome : (lastMatch (fun f => p f.1) r.values).isSome :=
    lastMatch_isSome_iff.mpr ⟨_, List.mem_map_of_mem hf, hp⟩
  obtain ⟨g, hg⟩ := Option.isSome_iff_exists.mp hsome
  exact ⟨g.2, by rw [lastValue, hg]; rfl⟩

/-- The fields of the request that the TLS path passes on. -/
theorem mem_tls_headers (r : RawRequest) (clientIp body name value : Str) :
    (∃ h ∈ (tlsRequest r clientIp body).headers, lower h.1 = name ∧ h.2 = value) ↔
      r.valueOfLower name = some value := by
  constructor
  · rintro ⟨⟨n, v⟩, hmem, rfl, rfl⟩
    have hlookup : r.valueOfLower n = some v := by
      rw [← lookup_lowerHeaders]
      exact mem_entryList.mp hmem
    obtain ⟨f, _, hf⟩ := exists_of_lastValue hlookup
    have hn : lower f.1 = n := by simpa using hf
    have hlower : lower n = n := by rw [← hn, lower_lower]
    show r.valueOfLower (lower n) = some v
    rw [hlower, hlookup]
  · intro hlookup
    obtain ⟨f, _, hf⟩ := exists_of_lastValue hlookup
    have hn : lower f.1 = name := by simpa using hf
    refine ⟨(name, value), ?_, by rw [← hn, lower_lower], rfl⟩
    exact mem_entryList.mpr ((lookup_lowerHeaders r name).trans hlookup)

/-- The fields of the request that the plain path passes on. -/
theorem mem_plain_headers (r : RawRequest) (clientIp name value : Str) :
    (∃ h ∈ (plainRequest r clientIp).headers, lower h.1 = name ∧ h.2 = value) ↔
      ∃ spelled, lower spelled = name ∧ r.valueOf spelled = some value := by
  constructor
  · rintro ⟨⟨n, v⟩, hmem, rfl, rfl⟩
    exact ⟨n, rfl, (lookup_plainHeaders r n).symm.trans (mem_entryList.mp hmem)⟩
  · rintro ⟨spelled, rfl, hvalue⟩
    exact ⟨(spelled, value), mem_entryList.mpr ((lookup_plainHeaders r spelled).trans hvalue), rfl,
      rfl⟩

/-- Both paths see the same fields exactly when every spelling of a name has its last
value. -/
theorem same_headers_iff (r : RawRequest) :
    (∀ name value, (∃ spelled, lower spelled = name ∧ r.valueOf spelled = some value) ↔
        r.valueOfLower name = some value) ↔
      ∀ f ∈ r.fields, r.valueOf f.1 = r.valueOfLower (lower f.1) := by
  constructor
  · intro H f hf
    obtain ⟨value, hvalue⟩ := exists_lastValue (p := fun n => decide (n = f.1)) hf (by simp)
    have hlower := (H (lower f.1) value).mp ⟨f.1, rfl, hvalue⟩
    exact hvalue.trans hlower.symm
  · intro H name value
    constructor
    · rintro ⟨spelled, rfl, hvalue⟩
      obtain ⟨f, hf, hspelled⟩ := exists_of_lastValue hvalue
      have hname : f.1 = spelled := by simpa using hspelled
      rw [← hname, ← H f hf, hname, hvalue]
    · intro hvalue
      obtain ⟨f, hf, hname⟩ := exists_of_lastValue hvalue
      have hlower : lower f.1 = name := by simpa using hname
      exact ⟨f.1, hlower, by rw [H f hf, hlower, hvalue]⟩

theorem exists_field_of_valueOf {r : RawRequest} {name value : Str}
    (h : r.valueOf name = some value) : ∃ f ∈ r.fields, f.1 = name := by
  obtain ⟨f, hf, hname⟩ := exists_of_lastValue h
  exact ⟨f, hf, of_decide_eq_true hname⟩

/-- When the fields are the same, so are the hosts, unless only the TLS path finds one. -/
theorem same_host_iff {r : RawRequest}
    (H : ∀ f ∈ r.fields, r.valueOf f.1 = r.valueOfLower (lower f.1)) :
    (r.valueOf "Host".toList).getD [] = (r.valueOfLower "host".toList).getD [] ↔
      ∀ value, r.valueOfLower "host".toList = some value → value ≠ [] →
        ∃ f ∈ r.fields, f.1 = "Host".toList := by
  have hlower : lower "Host".toList = "host".toList := by decide
  constructor
  · intro heq value hvalue hne
    rw [hvalue, Option.getD_some] at heq
    cases hexact : r.valueOf "Host".toList with
    | none =>
        rw [hexact] at heq
        exact absurd heq.symm hne
    | some v => exact exists_field_of_valueOf hexact
  · intro hhost
    by_cases hexact : ∃ f ∈ r.fields, f.1 = "Host".toList
    · obtain ⟨f, hf, hname⟩ := hexact
      have heq := H f hf
      rw [hname, hlower] at heq
      rw [heq]
    · have hnone : r.valueOf "Host".toList = none := by
        by_contra hsome
        obtain ⟨v, hv⟩ := Option.ne_none_iff_exists'.mp hsome
        exact hexact (exists_field_of_valueOf hv)
      rw [hnone, Option.getD_none]
      cases hvalue : r.valueOfLower "host".toList with
      | none => rfl
      | some v =>
          by_contra hne
          exact hexact (hhost v hvalue fun heq => hne heq.symm)

theorem calls_onRead (r : RawRequest) (clientIp : Str) :
    ((Connection.start clientIp).onRead r.text).calls = [tlsRequest r clientIp r.body] :=
  calls_run (by decide : terminated (List.flatten []) = false) rfl clientIp []

/-- **The two ingress paths agree exactly on unambiguous requests without a body.** -/
theorem ingress_agree_iff (r : RawRequest) (clientIp : Str) :
    IngressAgree r clientIp ↔ Unambiguous r := by
  simp only [IngressAgree, handlePlainHttp_text, calls_onRead]
  constructor
  · rintro ⟨p, t, hp, ht, hsame⟩
    obtain rfl := Option.some.inj hp
    obtain rfl := List.singleton_inj.mp ht
    have hfields : ∀ f ∈ r.fields, r.valueOf f.1 = r.valueOfLower (lower f.1) := by
      refine (same_headers_iff r).mp fun name value => ?_
      rw [← mem_plain_headers r clientIp, ← mem_tls_headers r clientIp r.body]
      exact hsame.headers name value
    exact ⟨hsame.body.symm, hfields, (same_host_iff hfields).mp hsame.host⟩
  · intro H
    refine ⟨_, _, rfl, rfl, rfl, rfl, (same_host_iff H.spelling).mpr H.host, H.body.symm, ?_⟩
    intro name value
    rw [mem_plain_headers, mem_tls_headers]
    exact (same_headers_iff r).mpr H.spelling name value

/-- `GET /` with the host in a field spelled `host`. -/
def lowerCaseHost : RawRequest where
  method := "GET".toList
  path := "/".toList
  version := "HTTP/1.1".toList
  fields := [("host".toList, " db.example".toList)]
  body := []
  method_word := by decide
  path_word := by decide
  version_word := by decide
  name_ok := by decide
  value_ok := by decide

/-- With the host in a field spelled `host` the plain path finds no host. -/
theorem not_ingress_agree_lowerCase :
    ¬ ∀ (r : RawRequest) (clientIp : Str), r.DeclaresBody → IngressAgree r clientIp := by
  intro H
  obtain ⟨p, t, hp, ht, hsame⟩ := H lowerCaseHost "10.0.0.1".toList (.inl rfl)
  rw [handlePlainHttp_text] at hp
  rw [calls_onRead] at ht
  have hhost := hsame.host
  rw [← Option.some.inj hp, ← List.singleton_inj.mp ht] at hhost
  exact absurd hhost (by decide)

/-! ## Reads -/

/-- `handle_request` is called once, with the request that parsing the whole text gives,
and the body is complete. -/
def ReadIndependent (r : RawRequest) (clientIp : Str) (reads : List Str) : Prop :=
  ∃ request, parseRequest r.text = some request ∧ request.body = r.body ∧
    (run Connection.onRead (.start clientIp) reads).calls = [{ request with clientIp }]

theorem readIndependent_iff_calls {r : RawRequest} {clientIp : Str} {reads : List Str} :
    ReadIndependent r clientIp reads ↔
      (run Connection.onRead (.start clientIp) reads).calls = [tlsRequest r clientIp r.body] := by
  have hparse : parseRequest r.text = some (r.parsed r.body) := parseRequest_text r r.body
  constructor
  · rintro ⟨request, hrequest, _, hcalls⟩
    rw [hparse] at hrequest
    rw [hcalls, ← Option.some.inj hrequest]
    rfl
  · exact fun hcalls => ⟨_, hparse, rfl, hcalls⟩

/-- The reads of a request: those before the empty line, the one that brings it with
the first part of the body, and those with the rest of the body. -/
theorem exists_parts {r : RawRequest} {reads : List Str} (hreads : reads.flatten = r.text) :
    ∃ before data after body, reads = before ++ data :: after ∧
      terminated before.flatten = false ∧
      before.flatten ++ data = blockText r.lines ++ body ∧ body ++ after.flatten = r.body := by
  have hterminated : terminated reads.flatten = true := by
    rw [hreads]
    exact terminated_text r r.body
  obtain ⟨before, data, after, rfl, hnot, hfirst⟩ := exists_first_terminated hterminated
  have htext : (before.flatten ++ data) ++ after.flatten = blockText r.lines ++ r.body := by
    rw [RawRequest.text] at hreads
    rw [← hreads]
    simp
  have hprefix : before.flatten ++ data <+: blockText r.lines ++ r.body := ⟨_, htext⟩
  obtain ⟨body, hbody⟩ :=
    (terminated_iff_of_block r.isLine (by simp [RawRequest.lines]) hprefix).mp hfirst
  refine ⟨before, data, after, body, rfl, hnot, hbody.symm, ?_⟩
  rw [← hbody, List.append_assoc] at htext
  exact List.append_cancel_left htext

/-- The last read is the one that brings the empty line exactly when no read follows. -/
theorem terminated_dropLast_iff {before after : List Str} {data : Str}
    (hnot : terminated before.flatten = false) (hfirst : terminated (before.flatten ++ data) = true) :
    terminated (before ++ data :: after).dropLast.flatten = false ↔ after = [] := by
  constructor
  · intro h
    by_contra hne
    have hdrop : (before ++ data :: after).dropLast = before ++ data :: after.dropLast := by
      rw [List.dropLast_append_of_ne_nil (by simp), List.dropLast_cons_of_ne_nil hne]
    have hflatten : (before ++ data :: after.dropLast).flatten =
        (before.flatten ++ data) ++ after.dropLast.flatten := by
      simp
    rw [hdrop, hflatten, terminated_append hfirst] at h
    cases h
  · rintro rfl
    simpa using hnot

/-- **The request is passed on whole, and once, exactly when the last read is the one
that brings the empty line**, wherever else the reads are cut. -/
theorem read_independent_iff (r : RawRequest) (clientIp : Str) (reads : List Str)
    (hreads : reads.flatten = r.text) (hne : ∀ data ∈ reads, data ≠ []) :
    ReadIndependent r clientIp reads ↔ terminated reads.dropLast.flatten = false := by
  obtain ⟨before, data, after, body, rfl, hnot, hbuffer, hbody⟩ := exists_parts hreads
  have hfirst : terminated (before.flatten ++ data) = true := by
    rw [hbuffer]
    exact terminated_text r body
  rw [readIndependent_iff_calls, calls_run hnot hbuffer, terminated_dropLast_iff hnot hfirst]
  constructor
  · intro hcalls
    have hsame : body = r.body := congrArg HTTPRequest.body (List.singleton_inj.mp hcalls)
    rw [hsame] at hbody
    have hrest : after.flatten = [] := by simpa using hbody
    by_contra hafter
    obtain ⟨d, after', rfl⟩ := List.exists_cons_of_ne_nil hafter
    have hd : d = [] := List.flatten_eq_nil_iff.mp hrest d List.mem_cons_self
    exact hne d (by simp) hd
  · rintro rfl
    have hsame : body = r.body := by simpa using hbody
    rw [hsame]

/-- A request with a body of two bytes. -/
def twoByteBody : RawRequest where
  method := "POST".toList
  path := "/".toList
  version := "HTTP/1.1".toList
  fields := [("Content-Length".toList, " 2".toList)]
  body := "ab".toList
  method_word := by decide
  path_word := by decide
  version_word := by decide
  name_ok := by decide
  value_ok := by decide

/-- The request in three reads, the last of which brings the empty line and the
body. -/
theorem read_independent_iff_cut :
    ReadIndependent twoByteBody "10.0.0.1".toList [twoByteBody.text.take 9,
      (twoByteBody.text.drop 9).take 27, twoByteBody.text.drop 36] :=
  (read_independent_iff twoByteBody "10.0.0.1".toList _ (by decide) (by decide)).mpr (by decide)

/-- The body in a read of its own: the request is passed on without it. -/
theorem not_read_independent_body :
    ¬ ∀ (r : RawRequest) (clientIp : Str) (reads : List Str), r.DeclaresBody →
      reads.flatten = r.text → (∀ data ∈ reads, data ≠ []) → ReadIndependent r clientIp reads := by
  intro H
  have hdeclares : twoByteBody.DeclaresBody := .inr ⟨_, List.mem_singleton.mpr rfl, by decide, by decide⟩
  have hindependent := H twoByteBody "10.0.0.1".toList
    [blockText twoByteBody.lines, twoByteBody.body] hdeclares (by simp [RawRequest.text]) (by decide)
  rw [readIndependent_iff_calls] at hindependent
  have hbuffer : List.flatten [] ++ blockText twoByteBody.lines = blockText twoByteBody.lines ++ [] := by
    simp
  have hcalls := calls_run (by decide) hbuffer "10.0.0.1".toList [twoByteBody.body]
  rw [List.nil_append] at hcalls
  rw [hcalls] at hindependent
  exact absurd (congrArg HTTPRequest.body (List.singleton_inj.mp hindependent)) (by decide)

end Protogate.Server
