import Protogate.TunnelAgent.Reassembly
import Protogate.Wire.RelayedRequest

/-!
# Tunnel metadata

The agent takes the request id and the client address from the header fields
`x-tunnel-request-id` and `x-client-ip`.  The server submits its request id as the first
field behind the pseudo-header fields, and after it every field that the client sent; it
submits no address.  At the agent a later field replaces an earlier one of the same name.

So the client has the last word: a header line `x-tunnel-request-id` replaces the id of the
server, and a line `x-client-ip` is the only source of the address.

## Main definitions

* `lastField` — the value of the last header line of a name in the text of a request.
* `Passage` — a request on its way from the client's text to the agent's request.
* `DifferInMetadata` — two texts that differ in header lines of these names only.
* `Passage.metadata_iff` — when two requests get the same metadata.
-/

namespace Protogate.Wire

open Protogate.Lib Protogate.Agent Protogate.Proxy Protogate.TunnelAgent

/-! ## Header lines of a text -/

def requestIdName : Str := "x-tunnel-request-id".toList

def clientIpName : Str := "x-client-ip".toList

/-- The lines that the loop of `parse_request` reads. -/
def textLines (buffer : Str) : List Str :=
  match getline buffer with
  | none => []
  | some (_, rest) => (headerBlock rest.length rest).1

/-- The name of a line in lower case, and its value without blanks around it. -/
def lineField (line : Str) : Option (Str × Str) :=
  (splitColon (popCr line)).map fun f => (lower f.1, trim isBlank f.2)

/-- The value of the last header line with this name. -/
def lastField (name buffer : Str) : Option Str :=
  lastValue name ((textLines buffer).filterMap lineField)

/-- A header line of one of the two names. -/
def isMetadata (line : Str) : Bool :=
  (lineField line).any fun f => f.1 = requestIdName || f.1 = clientIpName

/-- The two texts have the same request line, the same body, and the same header lines but
for those of the two names. -/
def DifferInMetadata (a b : Str) : Prop :=
  (getline a).map (fun f => (f.1, (headerBlock f.2.length f.2).2)) =
      (getline b).map (fun f => (f.1, (headerBlock f.2.length f.2).2)) ∧
    ((textLines a).filter fun l => ! isMetadata l) = (textLines b).filter fun l => ! isMetadata l

instance (a b : Str) : Decidable (DifferInMetadata a b) := inferInstanceAs (Decidable (_ ∧ _))

/-! ## The last value of a name -/

theorem lastValue_append (name : Str) (xs ys : List (Str × Str)) :
    lastValue name (xs ++ ys) = (lastValue name ys).or (lastValue name xs) := by
  induction ys using List.reverseRecOn with
  | nil => simp [lastValue, lastMatch]
  | append_singleton ys f ih =>
      rw [← List.append_assoc, TunnelAgent.lastValue_concat, TunnelAgent.lastValue_concat, ih]
      by_cases hname : f.1 = name
      · simp [hname]
      · simp [hname]

/-- A name that occurs once has one value. -/
theorem lastValue_eq_some_iff {fields : List (Str × Str)} (h : (fields.map Prod.fst).Nodup)
    {name value : Str} : lastValue name fields = some value ↔ (name, value) ∈ fields := by
  induction fields using List.reverseRecOn with
  | nil => simp [lastValue, lastMatch]
  | append_singleton fields f ih =>
      obtain ⟨n, v⟩ := f
      simp only [List.map_append, List.map_cons, List.map_nil, List.nodup_append,
        List.mem_singleton] at h
      obtain ⟨hfields, _, hfresh⟩ := h
      rw [TunnelAgent.lastValue_concat]
      by_cases hname : n = name
      · subst hname
        have hnot : (n, value) ∉ fields := fun hmem =>
          hfresh n (List.mem_map_of_mem hmem) n rfl rfl
        simp [hnot, eq_comm]
      · simp [hname, Ne.symm hname, ih hfields]

/-- The header map of `parse_request` holds the last value of each name. -/
theorem lookup_foldl_add (lines : List Str) (h : HeaderFields) (name : Str) :
    (lines.foldl HeaderFields.add h).headers.lookup name =
      (lastValue name (lines.filterMap lineField)).or (h.headers.lookup name) := by
  induction lines using List.reverseRecOn with
  | nil => simp [lastValue, lastMatch]
  | append_singleton lines l ih =>
      rw [List.foldl_append, List.filterMap_append, List.foldl_cons, List.foldl_nil, HeaderFields.add]
      cases hsplit : splitColon (popCr l) with
      | none =>
          have hfield : [l].filterMap lineField = [] := by simp [lineField, hsplit]
          rw [hfield, List.append_nil]
          exact ih
      | some f =>
          have hfield : [l].filterMap lineField = [(lower f.1, trim isBlank f.2)] := by
            simp [lineField, hsplit]
          rw [hfield, TunnelAgent.lastValue_concat, Assoc.lookup_insert_ite, ih]
          by_cases hname : name = lower f.1
          · simp [hname]
          · simp [hname, Ne.symm hname]

/-- The fields of a parsed request are the last ones of the text. -/
theorem mem_headers_iff {buffer : Str} {r : HTTPRequest} (h : parseRequest buffer = some r)
    {name value : Str} : (name, value) ∈ r.headers ↔ lastField name buffer = some value := by
  unfold parseRequest at h
  split at h
  · cases h
  · rename_i line rest hline
    cases h
    simp only [mem_entryList, lookup_foldl_add, lastField, textLines, hline]
    simp

/-! ## From the client's text to the agent -/

/-- A request on its way: parsed, printed with its fields in some order, submitted by
`send_http_request`, delivered by nghttp2 without the fields that it finds invalid, and put
together by the agent.  The address of the client is known to the server. -/
structure Passage (κ : Type) (keeps : Str × Str → Bool) (requestId address buffer : Str) where
  request : HTTPRequest
  order : List (Str × Str)
  connection : AgentConnection κ
  callback : κ
  streamId : StreamId
  sent : Bool
  events : List SessionEvent
  received : Http2Request
  parsed : parseRequest buffer = some request
  printed : order.Perm request.headers
  accepts : connection.Accepts streamId
  interleaves : Interleaves events
  ends : Ends events streamId
  delivers : ∀ sub, (sendHttpRequest connection requestId
      { request with headers := order, clientIp := address }.toText callback streamId
        sent).1.submitted.getLast? = some sub →
    fieldsOf (onStream streamId events) = sub.headers.filter keeps
  completed : (run TunnelAgent.sessionStep .init events).callsOn streamId = [received]

section
variable {κ : Type} {keeps : Str × Str → Bool} {requestId address buffer : Str}

/-- What is delivered: the pseudo-header fields, the id of the server, and the other fields of
the client, without those that are dropped. -/
theorem Passage.fields (x : Passage κ keeps requestId address buffer) :
    ∃ others, others.Perm (x.request.headers.filter fun h => h.1 ≠ "host".toList) ∧
      FieldsLast ((pseudoHeaders x.request ++ (requestIdName, requestId) :: others).filter keeps)
        x.received := by
  obtain ⟨sub, hlast, _, hrelayed, _⟩ :=
    sendHttpRequest_toText x.parsed x.printed x.accepts requestId x.callback x.sent
  obtain ⟨others, hheaders, hothers⟩ := hrelayed.fields
  obtain ⟨r, hcalls, _, hcollected, _⟩ := x.interleaves.ended x.ends
  obtain rfl : x.received = r := by simpa [x.completed] using hcalls
  have hfields := hcollected.fields
  rw [x.delivers sub hlast, hheaders] at hfields
  exact ⟨others, hothers, hfields⟩

/-- A name that no field has. -/
theorem lastValue_eq_none {name : Str} {fields : List (Str × Str)} (h : ∀ f ∈ fields, f.1 ≠ name) :
    lastValue name fields = none := by
  rw [lastValue, lastMatch_eq_none_iff.mpr]
  · rfl
  · simpa using h

/-- The pseudo-header fields do not have such a name. -/
theorem ne_of_mem_pseudoHeaders {name : Str} (hname : name.head? ≠ some ':') (r : HTTPRequest) :
    ∀ f ∈ pseudoHeaders r, f.1 ≠ name := by
  intro f hf heq
  subst heq
  simp only [pseudoHeaders, List.mem_append, List.mem_cons, List.not_mem_nil, List.mem_map,
    or_false] at hf
  rcases hf with (rfl | rfl | rfl) | ⟨_, _, rfl⟩
  all_goals exact hname rfl

/-- The last value of a name among the fields of the client that are kept. -/
theorem lastValue_others (x : Passage κ keeps requestId address buffer) {others : List (Str × Str)}
    (hothers : others.Perm (x.request.headers.filter fun h => h.1 ≠ "host".toList)) {name : Str}
    (hhost : name ≠ "host".toList) : lastValue name (others.filter keeps) =
      (lastField name buffer).filter fun v => keeps (name, v) := by
  have hdistinct : (x.request.headers.map Prod.fst).Nodup := (parsed_of_parseRequest x.parsed).distinct
  have hnodup : ((others.filter keeps).map Prod.fst).Nodup := by
    refine List.Nodup.sublist (List.filter_sublist.map Prod.fst) ?_
    exact (hothers.map Prod.fst).nodup_iff.mpr (hdistinct.sublist (List.filter_sublist.map Prod.fst))
  refine Option.ext fun value => ?_
  rw [lastValue_eq_some_iff hnodup, List.mem_filter, hothers.mem_iff, List.mem_filter,
    mem_headers_iff x.parsed, Option.filter_eq_some_iff]
  have hkept : decide (name ≠ "host".toList) = true := decide_eq_true hhost
  simp only [hkept, and_true]

/-- **What the agent finds under a name**: what the client wrote, and only otherwise what the
server wrote. -/
theorem Passage.lastValue_delivered (x : Passage κ keeps requestId address buffer)
    (hid : keeps (requestIdName, requestId) = true) {others : List (Str × Str)}
    (hothers : others.Perm (x.request.headers.filter fun h => h.1 ≠ "host".toList)) (name : Str)
    (hhost : name ≠ "host".toList) (hname : name.head? ≠ some ':') :
    lastValue name ((pseudoHeaders x.request ++ (requestIdName, requestId) :: others).filter keeps) =
      ((lastField name buffer).filter fun v => keeps (name, v)).or
        (if requestIdName = name then some requestId else none) := by
  have hpseudo : lastValue name ((pseudoHeaders x.request).filter keeps) = none :=
    lastValue_eq_none fun f hf => ne_of_mem_pseudoHeaders hname _ f (List.mem_of_mem_filter hf)
  have hserver : lastValue name [(requestIdName, requestId)] =
      if requestIdName = name then some requestId else none :=
    TunnelAgent.lastValue_concat name [] requestIdName requestId
  rw [List.filter_append, List.filter_cons_of_pos hid, ← List.singleton_append, ← List.append_assoc,
    lastValue_append, lastValue_append, lastValue_others x hothers hhost, hpseudo, hserver,
    Option.or_none]

theorem Passage.received_requestId (x : Passage κ keeps requestId address buffer)
    (hid : keeps (requestIdName, requestId) = true) : x.received.requestId =
      ((lastField requestIdName buffer).filter fun v => keeps (requestIdName, v)).getD requestId := by
  obtain ⟨others, hothers, hfields⟩ := x.fields
  have hlast := x.lastValue_delivered hid hothers requestIdName (by decide) (by decide)
  have hrequest : x.received.requestId = (lastValue requestIdName _).getD [] := hfields.requestId
  rw [hrequest, hlast, if_pos rfl]
  cases (lastField requestIdName buffer).filter fun v => keeps (requestIdName, v) with
  | none => rfl
  | some v => rfl

theorem Passage.received_clientIp (x : Passage κ keeps requestId address buffer)
    (hid : keeps (requestIdName, requestId) = true) : x.received.clientIp =
      ((lastField clientIpName buffer).filter fun v => keeps (clientIpName, v)).getD [] := by
  obtain ⟨others, hothers, hfields⟩ := x.fields
  have hlast := x.lastValue_delivered hid hothers clientIpName (by decide) (by decide)
  have hclient : x.received.clientIp = (lastValue clientIpName _).getD [] := hfields.clientIp
  rw [hclient, hlast, if_neg (by decide), Option.or_none]

/-! ## Forging -/

/-- The last header line `x-tunnel-request-id` that is not dropped, if there is one, carries the
id of the server. -/
def OwnId (keeps : Str × Str → Bool) (requestId buffer : Str) : Prop :=
  ∀ value, lastField requestIdName buffer = some value → keeps (requestIdName, value) = true →
    value = requestId

/-- The value of the last header line `x-client-ip` that is not dropped. -/
def claimedIp (keeps : Str × Str → Bool) (buffer : Str) : Str :=
  ((lastField clientIpName buffer).filter fun v => keeps (clientIpName, v)).getD []

/-- The request id at the agent is that of the server. -/
theorem Passage.requestId_eq_iff (x : Passage κ keeps requestId address buffer)
    (hid : keeps (requestIdName, requestId) = true) :
    x.received.requestId = requestId ↔ OwnId keeps requestId buffer := by
  rw [x.received_requestId hid, OwnId]
  cases lastField requestIdName buffer with
  | none => simp
  | some value =>
      by_cases hkeeps : keeps (requestIdName, value) = true
      · simp [Option.filter, hkeeps]
      · simp [Option.filter, hkeeps]

/-- **When two requests get the same metadata**, and the id of the server: neither ends up with
an id of its own, and both claim the same address. -/
theorem Passage.metadata_iff (hid : keeps (requestIdName, requestId) = true) {other : Str}
    (x : Passage κ keeps requestId address buffer) (y : Passage κ keeps requestId address other) :
    (x.received.requestId = y.received.requestId ∧ x.received.clientIp = y.received.clientIp ∧
        x.received.requestId = requestId) ↔
      OwnId keeps requestId buffer ∧ OwnId keeps requestId other ∧
        claimedIp keeps buffer = claimedIp keeps other := by
  have hclient : x.received.clientIp = claimedIp keeps buffer := x.received_clientIp hid
  have hclient' : y.received.clientIp = claimedIp keeps other := y.received_clientIp hid
  rw [← x.requestId_eq_iff hid, ← y.requestId_eq_iff hid, hclient, hclient']
  constructor
  · rintro ⟨hsame, hip, hown⟩
    exact ⟨hown, hsame ▸ hown, hip⟩
  · rintro ⟨hown, hown', hip⟩
    exact ⟨hown.trans hown'.symm, hip, hown⟩

end

/-! ## Requests that get through -/

section
variable {κ : Type} {keeps : Str × Str → Bool} {requestId address buffer : Str}

/-- A block of fields and the frame that ends it. -/
def blockEvents (s : ℤ) (fields : List (Str × Str)) : List SessionEvent :=
  fields.map (fun f => .header s f.1 f.2) ++ [.headers s true true]

theorem onStream_blockEvents (s : ℤ) (fields : List (Str × Str)) :
    onStream s (blockEvents s fields) = blockEvents s fields := by
  refine List.filter_eq_self.mpr fun e he => ?_
  simp only [blockEvents, List.mem_append, List.mem_map, List.mem_singleton] at he
  rcases he with ⟨f, _, rfl⟩ | rfl
  · exact decide_eq_true rfl
  · exact decide_eq_true rfl

theorem fieldsOf_blockEvents (s : ℤ) (fields : List (Str × Str)) :
    fieldsOf (blockEvents s fields) = fields := by
  simp [fieldsOf, blockEvents, List.filterMap_map]

/-- Fields keep a block open. -/
theorem foldlM_fields (s : ℤ) (fields : List (Str × Str)) :
    (fields.map fun f => SessionEvent.header s f.1 f.2).foldlM Phase.next .fields = some .fields := by
  induction fields with
  | nil => rfl
  | cons f fields ih => simpa [Phase.next] using ih

theorem phase_blockEvents (s : ℤ) {fields : List (Str × Str)} (h : fields ≠ []) :
    phase (blockEvents s fields) = some .closed := by
  cases fields with
  | nil => exact absurd rfl h
  | cons f fields =>
      simp only [phase, blockEvents, List.foldlM_append, List.map_cons, List.foldlM_cons, Phase.next,
        Option.bind_eq_bind, Option.bind_some, foldlM_fields]
      rfl

/-- A request that is parsed gets through on a connection that accepts it. -/
theorem exists_passage {r : HTTPRequest} (hparse : parseRequest buffer = some r)
    (hid : keeps (requestIdName, requestId) = true) (s : AgentConnection κ)
    (streamId : StreamId) (haccepts : s.Accepts streamId) (callback : κ) (sent : Bool) :
    Nonempty (Passage κ keeps requestId address buffer) := by
  obtain ⟨sub, hlast, _, hrelayed, _⟩ :=
    sendHttpRequest_toText hparse (List.Perm.refl r.headers) haccepts requestId callback sent
  have hne : sub.headers.filter keeps ≠ [] := by
    obtain ⟨others, hheaders, _⟩ := hrelayed.fields
    refine List.ne_nil_of_mem (a := (requestIdName, requestId)) ?_
    rw [hheaders, List.mem_filter]
    exact ⟨List.mem_append_right _ List.mem_cons_self, hid⟩
  have hends : Ends (blockEvents streamId (sub.headers.filter keeps)) streamId := by
    rw [Ends, onStream_blockEvents, phase_blockEvents streamId hne]
  have hinterleaves : Interleaves (blockEvents streamId (sub.headers.filter keeps)) := by
    intro k hk
    obtain rfl : k = streamId := by
      simp only [blockEvents, List.map_append, List.map_map, List.mem_append, List.mem_map] at hk
      rcases hk with ⟨_, _, rfl⟩ | hk
      · rfl
      · simpa [SessionEvent.streamId, eq_comm] using hk
    exact Option.isSome_of_mem hends
  obtain ⟨received, hcalls, _⟩ := hinterleaves.ended hends
  exact ⟨{
    request := r
    order := r.headers
    connection := s
    callback := callback
    streamId := streamId
    sent := sent
    events := blockEvents streamId (sub.headers.filter keeps)
    received := received
    parsed := hparse
    printed := List.Perm.refl _
    accepts := haccepts
    interleaves := hinterleaves
    ends := hends
    delivers := by
      intro sub' hlast'
      obtain rfl := Option.some.inj (hlast.symm.trans hlast')
      rw [onStream_blockEvents, fieldsOf_blockEvents]
    completed := hcalls }⟩

end

/-! ## Forged requests -/

/-- What nghttp2 finds valid: a name of lower-case letters, digits and hyphens, perhaps behind a
colon, and a value without control characters. -/
def plainField (f : Str × Str) : Bool :=
  let name := if f.1.head? = some ':' then f.1.drop 1 else f.1
  ! name.isEmpty && name.all (fun c => c.isLower || c.isDigit || c = '-') &&
    f.2.all fun c => decide (' ' ≤ c)

def plainText : Str := "GET / HTTP/1.1\r\nHost: api.example.com\r\n\r\n".toList

/-- The same request with a request id and an address of the client's choice. -/
def forgedText : Str :=
  ("GET / HTTP/1.1\r\nHost: api.example.com\r\n" ++
    "X-Tunnel-Request-ID: req_666\r\nX-Client-IP: 10.0.0.1\r\n\r\n").toList

def serverId : Str := "req_1700000000".toList

/-- The request gets through on a connection that was just started. -/
theorem exists_passage_started (address : Str) {buffer : Str} (h : (parseRequest buffer).isSome) :
    Nonempty (Passage Unit plainField serverId address buffer) := by
  obtain ⟨r, hparse⟩ := Option.isSome_iff_exists.mp h
  exact exists_passage hparse (by decide) (.started Unit) 1 (by decide) () true

/-- A request without such lines, sent twice. -/
theorem metadata_iff_plain :
    ∃ x y : Passage Unit plainField serverId [] plainText,
      x.received.requestId = y.received.requestId ∧ x.received.clientIp = y.received.clientIp ∧
        x.received.requestId = serverId := by
  obtain ⟨x⟩ := exists_passage_started [] (show (parseRequest plainText).isSome by decide)
  have hnone : lastField requestIdName plainText = none := by decide
  have hown : OwnId plainField serverId plainText := by
    intro value hvalue
    rw [hnone] at hvalue
    cases hvalue
  exact ⟨x, x, (Passage.metadata_iff (by decide) x x).mpr ⟨hown, hown, rfl⟩⟩

/-- Two header lines of the client replace the id of the server and claim an address. -/
theorem metadata_forged :
    ¬ ∀ (keeps : Str × Str → Bool) (requestId address a b : Str),
      keeps (requestIdName, requestId) = true → DifferInMetadata a b →
        ∀ (x : Passage Unit keeps requestId address a) (y : Passage Unit keeps requestId address b),
          x.received.requestId = y.received.requestId ∧ x.received.clientIp = y.received.clientIp ∧
            x.received.requestId = requestId := by
  intro H
  obtain ⟨x⟩ := exists_passage_started "203.0.113.45".toList (show (parseRequest plainText).isSome by decide)
  obtain ⟨y⟩ := exists_passage_started "203.0.113.45".toList (show (parseRequest forgedText).isSome by decide)
  obtain ⟨hsame, _, hown⟩ := H plainField serverId _ plainText forgedText (by decide) (by decide) x y
  have hforged : y.received.requestId = "req_666".toList := by
    rw [y.received_requestId (by decide)]
    decide
  rw [hsame, hforged] at hown
  exact absurd hown (by decide)

end Protogate.Wire
