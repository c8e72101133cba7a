import Protogate.Lib.HttpMessage
import Protogate.Proxy.HandleRequest

/-!
# What clients read of the proxy's own answers

`HTTPResponse::to_string` adds a Content-Length line unless the header map has the name in lower
case, or there is no body.  The proxy's own answers leave the line to `to_string`, except the
answer to a health check: its map has `Content-Length`, so it is written with two of these lines.
The map is unordered; the two fields of this answer are taken in the order they are set in.

## Main definitions

* `HTTPResponse.message`, `toText_eq` — the message that `to_string` writes.
* `MeasuredOnce`, `toText_read_iff` — when a client finds a response in what it receives.
* `own_answers_read`, `relay_errors_read` — the answers of `handle_request` and of
  `route_to_agent`.
-/

namespace Protogate.Proxy

open Protogate.Lib Protogate.Agent Protogate.Models Protogate.Security Protogate.Storage

/-! ## The message -/

theorem headerLines_eq_fieldTexts (fields : Fields) :
    headerLines fields = (fields.map fieldText).flatMap (· ++ crlf) := by
  simp [headerLines, fieldText, crlf, List.flatMap_map]

theorem text_eq_lines (startLine : Str) (fields : Fields) (body : Str) :
    HttpMessage.text ⟨startLine, fields, body⟩ =
      startLine ++ crlf ++ headerLines fields ++ crlf ++ body := by
  simp [HttpMessage.text, blockText, headerLines_eq_fieldTexts]

namespace HTTPResponse

/-- `to_string` adds a Content-Length line. -/
def AddsLength (r : HTTPResponse) : Prop :=
  (∀ h ∈ r.headers, h.1 ≠ "content-length".toList) ∧ r.body ≠ []

instance (r : HTTPResponse) : Decidable r.AddsLength := inferInstanceAs (Decidable (_ ∧ _))

/-- The fields that `to_string` writes. -/
def writtenFields (r : HTTPResponse) : Fields :=
  if r.AddsLength then r.headers ++ [("Content-Length".toList, decimal r.body.length)] else r.headers

def message (r : HTTPResponse) : HttpMessage where
  startLine := "HTTP/1.1 ".toList ++ decimal r.statusCode ++ " ".toList ++ r.statusMessage
  fields := r.writtenFields
  body := r.body

theorem lengthAdded_iff (r : HTTPResponse) :
    (r.headers.all (fun h => h.1 ≠ "content-length".toList) && !r.body.isEmpty) = true ↔
      r.AddsLength := by
  rw [AddsLength, Bool.and_eq_true, List.all_eq_true, Bool.not_eq_true', List.isEmpty_eq_false_iff]
  refine and_congr_left' (forall₂_congr fun h _ => ?_)
  rw [decide_eq_true_iff]

theorem toText_eq (r : HTTPResponse) : r.toText = r.message.text := by
  have hend : "\r\n".toList = crlf := rfl
  unfold toText message
  rw [text_eq_lines, writtenFields, hend]
  by_cases h : r.AddsLength
  · rw [if_pos h, if_pos ((lengthAdded_iff r).mpr h), headerLines, headerLines, List.flatMap_append,
      hend]
    simp only [List.flatMap_cons, List.flatMap_nil, List.append_nil, List.append_assoc]
    rfl
  · rw [if_neg h, if_neg (mt (lengthAdded_iff r).mp h)]
    simp only [List.append_nil]

/-! ## What a client finds -/

/-- A client knows the length of the body: from the line that is added, or from the only field of
this name; an empty body needs no field. -/
structure MeasuredOnce (r : HTTPResponse) : Prop where
  coding : Fields.values r.headers "transfer-encoding".toList = []
  length : Fields.values r.headers "content-length".toList = [] ∨
    ¬ r.AddsLength ∧ ∃ v, Fields.values r.headers "content-length".toList = [v] ∧ IsNumeral v ∧
      digitsValue v = r.body.length

/-- What can be written as one line each. -/
structure Printable (r : HTTPResponse) : Prop where
  status : '\n' ∉ r.statusMessage
  headers : ∀ h ∈ r.headers, CleanField h

theorem writtenFields_of_adds {r : HTTPResponse} (h : r.AddsLength) :
    r.writtenFields = r.headers ++ [("Content-Length".toList, decimal r.body.length)] := if_pos h

theorem writtenFields_of_not {r : HTTPResponse} (h : ¬ r.AddsLength) : r.writtenFields = r.headers :=
  if_neg h

theorem writtenFields_values (r : HTTPResponse) {name : Str}
    (h : foldCase "Content-Length".toList ≠ foldCase name) :
    r.writtenFields.values name = Fields.values r.headers name := by
  by_cases hadds : r.AddsLength
  · rw [writtenFields_of_adds hadds, Fields.values_append, Fields.values_singleton, if_neg h,
      List.append_nil]
  · rw [writtenFields_of_not hadds]

theorem writtenFields_length (r : HTTPResponse) {name : Str}
    (h : foldCase "Content-Length".toList = foldCase name) :
    r.writtenFields.values name =
      Fields.values r.headers name ++ if r.AddsLength then [decimal r.body.length] else [] := by
  by_cases hadds : r.AddsLength
  · rw [writtenFields_of_adds hadds, Fields.values_append, Fields.values_singleton, if_pos h,
      if_pos hadds]
  · rw [writtenFields_of_not hadds, if_neg hadds, List.append_nil]

/-- Without a line that is added, there is a field of this name or no body. -/
theorem body_of_not_addsLength {r : HTTPResponse} (h : ¬ r.AddsLength)
    (hnone : Fields.values r.headers "content-length".toList = []) : r.body = [] := by
  rw [AddsLength, not_and_not_right] at h
  by_contra hbody
  refine hbody (h fun f hf heq => ?_)
  have hmem : f.2 ∈ Fields.values r.headers "content-length".toList :=
    List.mem_map_of_mem (List.mem_filter.mpr ⟨hf, decide_eq_true (congrArg foldCase heq)⟩)
  rw [hnone] at hmem
  cases hmem

theorem measuredOnce_iff (r : HTTPResponse) :
    bodyLength r.writtenFields = some r.body.length ↔ r.MeasuredOnce := by
  have hbody := @body_of_not_addsLength r
  have hmeasured : r.MeasuredOnce ↔ _ := ⟨fun H => And.intro H.coding H.length, fun H => ⟨H.1, H.2⟩⟩
  rw [bodyLength_eq_some_iff, hmeasured, writtenFields_values r (by decide),
    writtenFields_length r (by decide)]
  refine and_congr_right fun _ => ?_
  generalize Fields.values r.headers "content-length".toList = lengths at hbody ⊢
  by_cases hadds : r.AddsLength
  · have hnumeral := isNumeral_decimal r.body.length
    have hvalue := digitsValue_decimal r.body.length
    cases lengths <;> simp [hadds, hnumeral, hvalue]
  · rw [if_neg hadds, List.append_nil, and_iff_right hadds]
    refine or_congr_left (and_iff_left_of_imp fun hnone => ?_)
    rw [hbody hadds hnone, List.length_nil]

theorem clean_message {r : HTTPResponse} (H : r.Printable) : r.message.Clean := by
  rw [HttpMessage.clean_iff]
  constructor
  · have hdigits := not_mem_decimal (c := '\n') rfl r.statusCode
    have hstatus := H.status
    show '\n' ∉ "HTTP/1.1 ".toList ++ decimal r.statusCode ++ " ".toList ++ r.statusMessage
    simp [hdigits, hstatus]
  · intro f hf
    change f ∈ r.writtenFields at hf
    by_cases hadds : r.AddsLength
    · rw [writtenFields_of_adds hadds, List.mem_append, List.mem_singleton] at hf
      rcases hf with hf | rfl
      · exact H.headers f hf
      · have hname : '\n' ∉ "Content-Length".toList ∧ ':' ∉ "Content-Length".toList := by decide
        exact ⟨hname, not_mem_decimal rfl _, trim_decimal _⟩
    · rw [writtenFields_of_not hadds] at hf
      exact H.headers f hf

/-! ## The proxy's own answers -/

theorem printable_of_contentType {r : HTTPResponse} (kind : Str)
    (hheaders : r.headers = [("Content-Type".toList, kind)]) (hstatus : '\n' ∉ r.statusMessage)
    (hkind : '\n' ∉ kind ∧ trim isOws kind = kind) : r.Printable where
  status := hstatus
  headers := by
    intro h hh
    rw [hheaders, List.mem_singleton] at hh
    subst hh
    have hname : '\n' ∉ "Content-Type".toList ∧ ':' ∉ "Content-Type".toList := by decide
    exact ⟨hname, hkind⟩

theorem measuredOnce_of_contentType {r : HTTPResponse} {kind : Str}
    (hheaders : r.headers = [("Content-Type".toList, kind)]) : r.MeasuredOnce where
  coding := by
    rw [hheaders, Fields.values_singleton]
    exact if_neg (by decide)
  length := by
    left
    rw [hheaders, Fields.values_singleton]
    exact if_neg (by decide)

theorem printable_error (code : ℕ) {message : Str} (h : '\n' ∉ message) :
    (HTTPResponse.error code message).Printable :=
  printable_of_contentType "text/plain".toList rfl h (by decide)

theorem measuredOnce_error (code : ℕ) (message : Str) : (HTTPResponse.error code message).MeasuredOnce :=
  measuredOnce_of_contentType rfl

theorem printable_forbidden (reason : Str) : (HTTPResponse.forbidden reason).Printable := by
  have hstatus : '\n' ∉ "Forbidden".toList := by decide
  exact printable_of_contentType "application/json".toList rfl hstatus (by decide)

theorem measuredOnce_forbidden (reason : Str) : (HTTPResponse.forbidden reason).MeasuredOnce :=
  measuredOnce_of_contentType rfl

theorem printable_health (statusCode : ℕ) (json : Str) : (HTTPResponse.health statusCode json).Printable where
  status := by
    show '\n' ∉ if statusCode = 200 then "OK".toList else "Service Unavailable".toList
    split <;> decide
  headers := by
    intro h hh
    rw [HTTPResponse.health, List.mem_cons, List.mem_singleton] at hh
    rcases hh with rfl | rfl
    · exact ⟨by decide, by decide, by decide⟩
    · have hname : '\n' ∉ "Content-Length".toList ∧ ':' ∉ "Content-Length".toList := by decide
      exact ⟨hname, not_mem_decimal rfl _, trim_decimal _⟩

theorem health_headers_values (statusCode : ℕ) (json name : Str) :
    Fields.values (HTTPResponse.health statusCode json).headers name =
      (if foldCase "Content-Type".toList = foldCase name then ["application/json".toList] else []) ++
        if foldCase "Content-Length".toList = foldCase name then [decimal json.length] else [] := by
  rw [← Fields.values_singleton, ← Fields.values_singleton, ← Fields.values_append]
  rfl

theorem addsLength_health_iff (statusCode : ℕ) (json : Str) :
    (HTTPResponse.health statusCode json).AddsLength ↔ json ≠ [] := by
  refine and_iff_right fun h hh => ?_
  rw [HTTPResponse.health, List.mem_cons, List.mem_singleton] at hh
  rcases hh with rfl | rfl
  · exact (by decide : "Content-Type".toList ≠ "content-length".toList)
  · exact (by decide : "Content-Length".toList ≠ "content-length".toList)

/-- The map has `Content-Length`, and `to_string` looks for `content-length`. -/
theorem measuredOnce_health_iff (statusCode : ℕ) (json : Str) :
    (HTTPResponse.health statusCode json).MeasuredOnce ↔ json = [] := by
  have hcoding : Fields.values (HTTPResponse.health statusCode json).headers
      "transfer-encoding".toList = [] := by
    rw [health_headers_values, if_neg (by decide), if_neg (by decide), List.append_nil]
  have hlength : Fields.values (HTTPResponse.health statusCode json).headers
      "content-length".toList = [decimal json.length] := by
    rw [health_headers_values, if_neg (by decide), if_pos (by decide), List.nil_append]
  have hadds := addsLength_health_iff statusCode json
  constructor
  · intro H
    rcases H.length with hnone | ⟨hnot, _⟩
    · rw [hlength] at hnone
      cases hnone
    · exact not_not.mp (mt hadds.mpr hnot)
  · intro hempty
    have hvalue := digitsValue_decimal json.length
    exact ⟨hcoding, .inr ⟨fun h => hadds.mp h hempty, _, hlength, isNumeral_decimal _, hvalue⟩⟩

/-- Who finds what follows a response has found the response, and its length was written once. -/
theorem toText_read_iff {r : HTTPResponse} (H : r.Printable) (m : HttpMessage) (rest : Str) :
    readMessage (r.toText ++ rest) = some (m, rest) ↔ m = r.message ∧ r.MeasuredOnce := by
  rw [toText_eq, readMessage_text_eq_iff (clean_message H), ← measuredOnce_iff]
  exact Iff.rfl

end HTTPResponse

/-- **What a client reads of an answer of `handle_request`**: all of it, except of a health
check, whose length is written twice. -/
theorem own_answers_read {allows : List Str → Str → Bool} {tunnelCache : Cache Str Tunnel} {now : ℤ}
    {order : List (Str × Tunnel)} {health : ℕ × Str} {request : HTTPRequest} {response : HTTPResponse}
    (h : handleRequest allows tunnelCache now order health request = .respond response)
    (m : HttpMessage) (rest : Str) :
    readMessage (response.toText ++ rest) = some (m, rest) ↔
      m = response.message ∧ (request.path = "/health".toList → health.2 = []) := by
  have hread : ∀ {r : HTTPResponse}, r.Printable → r.MeasuredOnce → request.path ≠ "/health".toList →
      (readMessage (r.toText ++ rest) = some (m, rest) ↔
        m = r.message ∧ (request.path = "/health".toList → health.2 = [])) := by
    intro r hprintable honce hpath
    rw [HTTPResponse.toText_read_iff hprintable]
    exact and_congr_right' (iff_of_true honce fun heq => absurd heq hpath)
  rw [handleRequest] at h
  split at h
  · rename_i hpath
    obtain rfl := Decision.respond.inj h
    rw [HTTPResponse.toText_read_iff (HTTPResponse.printable_health _ _),
      HTTPResponse.measuredOnce_health_iff]
    exact and_congr_right' ⟨fun hempty _ => hempty, fun hempty => hempty hpath⟩
  · rename_i hpath
    dsimp only at h
    split at h
    · obtain rfl := Decision.respond.inj h
      exact hread (HTTPResponse.printable_error _ (by decide)) (HTTPResponse.measuredOnce_error _ _) hpath
    · split at h
      · obtain rfl := Decision.respond.inj h
        exact hread (HTTPResponse.printable_error _ (by decide)) (HTTPResponse.measuredOnce_error _ _) hpath
      · split at h
        · cases h
        · obtain rfl := Decision.respond.inj h
          exact hread (HTTPResponse.printable_forbidden _) (HTTPResponse.measuredOnce_forbidden _) hpath

/-- A health check. -/
def healthRequest : HTTPRequest :=
  ⟨"GET".toList, "/health".toList, "HTTP/1.1".toList, [], [], [], []⟩

theorem own_answers_read_health :
    readMessage ((HTTPResponse.health 200 "\x7b\x7d".toList).toText ++ []) ≠
      some ((HTTPResponse.health 200 "\x7b\x7d".toList).message, []) := by
  have hrespond : handleRequest (fun _ _ => true) Cache.empty 0 [] (200, "\x7b\x7d".toList) healthRequest =
      .respond (.health 200 "\x7b\x7d".toList) := rfl
  intro hread
  have hempty := ((own_answers_read hrespond _ _).mp hread).2 rfl
  exact absurd hempty (by decide)

/-! ## The errors of `route_to_agent` -/

/-- The errors that `route_to_agent` and its callback answer with. -/
def routeErrors : List (ℕ × Str) :=
  [(503, "Agent not connected".toList), (500, "Agent connection error".toList), (502, "Bad Gateway".toList)]

/-- An answer that is an error has the text of one of these. -/
def ErrorText (reply : Reply) : Prop :=
  ∀ code, reply.error = some code →
    ∃ message, (code, message) ∈ routeErrors ∧ reply.text = (HTTPResponse.error code message).toText

theorem errorText_answer (heardBefore : ℕ) (i : Invocation ℕ) : ErrorText (answer heardBefore i) := by
  intro code hcode
  rw [answer] at hcode ⊢
  split at hcode
  · rename_i herror
    obtain rfl := Option.some.inj hcode
    rw [if_pos herror]
    exact ⟨_, by decide, rfl⟩
  · cases hcode

def ErrorTexts (r : Relay) : Prop := ∀ reply ∈ r.replies, ErrorText reply

theorem ErrorTexts.advance {r : Relay} (H : ErrorTexts r)
    (result : AgentConnection ℕ × List (Invocation ℕ)) : ErrorTexts (r.advance result) := by
  intro reply hreply
  rw [Relay.advance, List.mem_append, List.mem_map] at hreply
  rcases hreply with hold | ⟨i, _, rfl⟩
  · exact H reply hold
  · exact errorText_answer _ i

theorem ErrorTexts.refuse {r : Relay} (H : ErrorTexts r) {code : ℕ} {message : Str}
    (h : (code, message) ∈ routeErrors) : ErrorTexts (r.refuse code message) := by
  intro reply hreply
  rw [Relay.refuse, List.mem_append, List.mem_singleton] at hreply
  rcases hreply with hold | rfl
  · exact H reply hold
  · intro code' hcode
    obtain rfl := Option.some.inj hcode
    exact ⟨message, h, rfl⟩

theorem errorTexts_step (r : Relay) (e : RelayEvent) (H : ErrorTexts r) : ErrorTexts (relayStep r e) := by
  cases e with
  | route request env =>
      rw [relayStep, routeToAgent]
      split
      · exact H.refuse (by decide)
      · split
        · exact H.refuse (by decide)
        · exact ErrorTexts.advance (r := { r with calls := _, opened := _ }) H _
  | header streamId name value => exact H
  | data streamId data => exact H
  | frame f => exact H.advance _
  | timer i => exact H.advance _
  | disconnect => exact H.advance _

/-- Every error is one of these, and a client reads it whole. -/
def ErrorsRead (r : Relay) : Prop :=
  ∀ reply ∈ r.replies, ∀ code, reply.error = some code →
    ∃ message, (code, message) ∈ routeErrors ∧ ∀ rest,
      readMessage (reply.text ++ rest) = some ((HTTPResponse.error code message).message, rest)

theorem ErrorTexts.read {r : Relay} (H : ErrorTexts r) : ErrorsRead r := by
  intro reply hreply code hcode
  have hlines : ∀ e ∈ routeErrors, '\n' ∉ e.2 := by decide
  obtain ⟨message, hmem, htext⟩ := H reply hreply code hcode
  refine ⟨message, hmem, fun rest => ?_⟩
  rw [htext, HTTPResponse.toText_read_iff (HTTPResponse.printable_error _ (hlines _ hmem))]
  exact ⟨rfl, HTTPResponse.measuredOnce_error _ _⟩

/-- **Every error of `route_to_agent` is read whole**, however the connection to the agent
fares. -/
theorem relay_errors_read (evs : List RelayEvent) : ErrorsRead (run relayStep .init evs) := by
  have hinit : ErrorTexts .init := by simp [ErrorTexts, Relay.init]
  have htexts : ErrorTexts (run relayStep .init evs) := run_invariant ErrorTexts errorTexts_step hinit
  exact htexts.read

end Protogate.Proxy
