import Protogate.Server.Authentication
import Protogate.TunnelAgent.Handover
import Mathlib

/-!
# The handshake from both ends

The agent writes a CONNECT request with its token and then reads an answer.  The server collects
what arrives until it holds an empty line, authenticates with all of it and answers; where it has
answered 200 it makes a connection of the socket and sends frames on it at once.

The agent goes by the text of the answer, as much of it as its first read holds, and the server by
the registry, so the two may disagree on whether there is a session.  The agent logs the start of
that read before it looks at it, and a text that cannot be printed ends the attempt.

A handshake of the server is one call of `authenticate` here, with no other handshake of the tunnel
between its steps.

## Main definitions

* `authRequest`, `sendResponse` — the two texts.
* `doReadAuth` — the reads of the server.
* `answerBytes` — what the server puts on the stream after a call of `authenticate`.
* `AgentStarts`, `Registered` — a session for the agent, and for the server.
* `request_read_iff` — the server reads the lines of the request.
* `sessions_agree_iff`, `session_whole_iff` — when both ends agree, and when nothing is lost.
-/

namespace Protogate.Tunnel

open Protogate.Lib Protogate.Models Protogate.Security Protogate.Storage Protogate.Api
open Protogate.Server hiding Arrival
open Protogate.TunnelAgent (ascii Logged Succeeded start received start_ok_iff)

/-! ## The request -/

/-- What `HTTP2Session::start` writes. -/
def authRequest (token tunnelId : Str) : Str :=
  "CONNECT tunnel-agent HTTP/1.1\r\n".toList
    ++ "Host: tunnel-agent\r\n".toList
    ++ "Authorization: Bearer ".toList ++ token ++ "\r\n".toList
    ++ "X-Tunnel-ID: ".toList ++ tunnelId ++ "\r\n".toList
    ++ "X-Agent-Version: 1.0.0\r\n".toList
    ++ "X-TCP-Ports: 9100\r\n".toList
    ++ "\r\n".toList

/-- The lines the agent means to send. -/
def requestLines (token tunnelId : Str) : List Str :=
  ["CONNECT tunnel-agent HTTP/1.1".toList, "Host: tunnel-agent".toList,
    "Authorization: Bearer ".toList ++ token, "X-Tunnel-ID: ".toList ++ tunnelId,
    "X-Agent-Version: 1.0.0".toList, "X-TCP-Ports: 9100".toList]

/-- The parts of the request, each line with its line end. -/
theorem blockText_parts (connect host auth token name tunnelId version ports : Str) :
    (connect ++ crlf) ++ (host ++ crlf) ++ auth ++ token ++ crlf ++ name ++ tunnelId ++ crlf ++
        (version ++ crlf) ++ (ports ++ crlf) ++ crlf =
      blockText [connect, host, auth ++ token, name ++ tunnelId, version, ports] := by
  simp [blockText]

theorem authRequest_eq (token tunnelId : Str) :
    authRequest token tunnelId = blockText (requestLines token tunnelId) := by
  have hconnect : "CONNECT tunnel-agent HTTP/1.1\r\n".toList =
      "CONNECT tunnel-agent HTTP/1.1".toList ++ crlf := by decide
  have hhost : "Host: tunnel-agent\r\n".toList = "Host: tunnel-agent".toList ++ crlf := by decide
  have hversion : "X-Agent-Version: 1.0.0\r\n".toList =
      "X-Agent-Version: 1.0.0".toList ++ crlf := by decide
  have hports : "X-TCP-Ports: 9100\r\n".toList = "X-TCP-Ports: 9100".toList ++ crlf := by decide
  have hend : "\r\n".toList = crlf := rfl
  rw [requestLines, ← blockText_parts, ← hconnect, ← hhost, ← hversion, ← hports, ← hend]
  rfl

/-- `do_read_auth`: the text that `authenticate` gets and the reads after it.  Where the reads
end the connection does. -/
def doReadAuth : Str → List Str → Option (Str × List Str)
  | _, [] => none
  | authBuffer, data :: reads =>
      if terminated (authBuffer ++ data) then some (authBuffer ++ data, reads)
      else doReadAuth (authBuffer ++ data) reads

/-- The lines that the loop of `authenticate` goes through. -/
def linesRead (authData : Str) : List Str :=
  (headerBlock authData.length authData).1.map popCr

/-- A text that is terminated only as a whole is read as a whole. -/
theorem doReadAuth_of_flatten {text : Str}
    (h : ∀ buffer, buffer <+: text → (terminated buffer = true ↔ buffer = text))
    {authBuffer : Str} {reads : List Str} (hflatten : authBuffer ++ reads.flatten = text)
    (hreads : ∀ data ∈ reads, data ≠ []) (hshort : authBuffer ≠ text) :
    doReadAuth authBuffer reads = some (text, []) := by
  induction reads generalizing authBuffer with
  | nil => exact absurd (by simpa using hflatten) hshort
  | cons data reads ih =>
      rw [List.flatten_cons, ← List.append_assoc] at hflatten
      have hbuffer := h (authBuffer ++ data) ⟨reads.flatten, hflatten⟩
      have hrest : ∀ data ∈ reads, data ≠ [] := fun d hd => hreads d (List.mem_cons_of_mem _ hd)
      by_cases hwhole : authBuffer ++ data = text
      · have hnil : reads = [] := by
          have hflat : reads.flatten = [] := by
            rw [hwhole] at hflatten
            simpa using hflatten
          by_contra hne
          obtain ⟨d, hd⟩ := List.exists_mem_of_ne_nil reads hne
          exact hrest d hd (List.flatten_eq_nil_iff.mp hflat d hd)
        rw [doReadAuth, if_pos (hbuffer.mpr hwhole), hwhole, hnil]
      · rw [doReadAuth, if_neg (fun hterminated => hwhole (hbuffer.mp hterminated))]
        exact ih hflatten hrest hwhole

section
variable {token tunnelId : Str}

theorem not_mem_requestLines (htoken : '\n' ∉ token) (hid : '\n' ∉ tunnelId) :
    ∀ l ∈ requestLines token tunnelId, '\n' ∉ l ∧ ∃ c rest, l = c :: rest ∧ c ≠ '\r' := by
  have hauth : '\n' ∉ "Authorization: Bearer ".toList ++ token := by simp [htoken]
  have hname : '\n' ∉ "X-Tunnel-ID: ".toList ++ tunnelId := by simp [hid]
  simp only [requestLines, List.forall_mem_cons]
  exact ⟨⟨by decide, _, _, rfl, by decide⟩, ⟨by decide, _, _, rfl, by decide⟩,
    ⟨hauth, _, _, rfl, by decide⟩, ⟨hname, _, _, rfl, by decide⟩,
    ⟨by decide, _, _, rfl, by decide⟩, ⟨by decide, _, _, rfl, by decide⟩, by simp⟩

/-- However the request arrives, `authenticate` is called with all of it. -/
theorem doReadAuth_request (htoken : '\n' ∉ token) (hid : '\n' ∉ tunnelId) {reads : List Str}
    (hflatten : reads.flatten = authRequest token tunnelId) (hreads : ∀ data ∈ reads, data ≠ []) :
    doReadAuth [] reads = some (authRequest token tunnelId, []) := by
  have hlines := not_mem_requestLines htoken hid
  rw [authRequest_eq] at hflatten ⊢
  refine doReadAuth_of_flatten ?_ (by simpa using hflatten) hreads ?_
  · exact fun buffer hbuffer => terminated_iff_eq_blockText hlines (by simp [requestLines]) hbuffer
  · simp [requestLines, blockText]

theorem headerBlock_request (htoken : '\n' ∉ token) (hid : '\n' ∉ tunnelId) :
    (headerBlock (authRequest token tunnelId).length (authRequest token tunnelId)).1 =
      (requestLines token tunnelId).map (· ++ ['\r']) := by
  have hlines : ∀ l ∈ requestLines token tunnelId, l ≠ [] ∧ '\n' ∉ l := by
    intro l hl
    obtain ⟨hnewline, c, rest, rfl, _⟩ := not_mem_requestLines htoken hid l hl
    exact ⟨List.cons_ne_nil c rest, hnewline⟩
  have hblock := headerBlock_blockText hlines []
  rw [List.append_nil] at hblock
  rw [authRequest_eq, hblock]

/-- What is read is without line ends. -/
theorem not_mem_linesRead (authData : Str) : ∀ l ∈ linesRead authData, '\n' ∉ l := by
  intro l hl
  obtain ⟨line, hline, rfl⟩ := List.mem_map.mp hl
  exact fun hmem => newline_not_mem_headerBlock _ _ line hline (mem_of_mem_popCr hmem)

/-- **The server reads the lines of the request**, once and in one call, however they arrive,
exactly if neither the token nor the id has a line end in it. -/
theorem request_read_iff (token tunnelId : Str) (reads : List Str)
    (hflatten : reads.flatten = authRequest token tunnelId) (hreads : ∀ data ∈ reads, data ≠ []) :
    (∃ authData, doReadAuth [] reads = some (authData, []) ∧
        linesRead authData = requestLines token tunnelId) ↔
      '\n' ∉ token ∧ '\n' ∉ tunnelId := by
  constructor
  · rintro ⟨authData, _, hlines⟩
    have hnone := not_mem_linesRead authData
    rw [hlines] at hnone
    simp only [requestLines, List.forall_mem_cons] at hnone
    obtain ⟨_, _, hauth, hid, _⟩ := hnone
    exact ⟨fun hmem => hauth (List.mem_append_right _ hmem),
      fun hmem => hid (List.mem_append_right _ hmem)⟩
  · rintro ⟨htoken, hid⟩
    refine ⟨_, doReadAuth_request htoken hid hflatten hreads, ?_⟩
    rw [linesRead, headerBlock_request htoken hid, List.map_map]
    have hpop : popCr ∘ (· ++ ['\r']) = id := by
      ext1 l
      exact popCr_concat l
    rw [hpop, List.map_id]

end

/-- The token of an agent of tunnel `api`, and its request in two reads. -/
def sampleToken : Str := "tnl_local_test_123".toList

def sampleRequest : Str := authRequest sampleToken "api".toList

def sampleReads : List Str := [sampleRequest.take 40, sampleRequest.drop 40]

theorem flatten_sampleReads : sampleReads.flatten = sampleRequest := by
  simp [sampleReads]

theorem sampleReads_ne_nil : ∀ data ∈ sampleReads, data ≠ [] := by decide +kernel

theorem request_read_iff_sample :
    ∃ authData, doReadAuth [] sampleReads = some (authData, []) ∧
      linesRead authData = requestLines sampleToken "api".toList :=
  (request_read_iff sampleToken "api".toList sampleReads flatten_sampleReads
    sampleReads_ne_nil).mpr ⟨by decide, by decide⟩

section
variable {token tunnelId : Str}

/-- What `authenticate` takes from the request. -/
theorem authHeaders_request (htoken : '\n' ∉ token) (hid : '\n' ∉ tunnelId) :
    authHeaders (authRequest token tunnelId) =
      ⟨"Bearer ".toList ++ token, "9100".toList⟩ := by
  have hauth : readHeader ⟨[], []⟩ ("Authorization: Bearer ".toList ++ token ++ ['\r']) =
      ⟨"Bearer ".toList ++ token, []⟩ := by
    rw [readHeader, popCr_concat]
    rfl
  have hname (h : AuthHeaders) : readHeader h ("X-Tunnel-ID: ".toList ++ tunnelId ++ ['\r']) = h := by
    rw [readHeader, popCr_concat]
    rfl
  rw [authHeaders, headerBlock_request htoken hid, requestLines]
  simp only [List.map_cons, List.map_nil, List.foldl_cons, List.foldl_nil]
  have hfirst : readHeader (readHeader ⟨[], []⟩ ("CONNECT tunnel-agent HTTP/1.1".toList ++ ['\r']))
      ("Host: tunnel-agent".toList ++ ['\r']) = ⟨[], []⟩ := by decide
  rw [hfirst, hauth, hname]
  rfl

end

/-! ## The answer -/

/-- The text that `send_response` writes. -/
def sendResponse (statusCode : ℕ) (message : Str) : Str :=
  "HTTP/1.1 ".toList ++ decimal statusCode ++ " ".toList ++ message ++ "\r\n".toList
    ++ "Content-Length: 0\r\n".toList
    ++ "\r\n".toList

/-- The bytes of a text. -/
def textBytes (s : Str) : Bytes := s.map fun c => UInt8.ofNat c.toNat

/-- What comes to the agent after a call of `authenticate`: the answer, and the frames of the
connection if that was 200. -/
def answerBytes (outcome : AuthOutcome) (frames : Bytes) : Bytes :=
  outcome.responses.flatMap fun (statusCode, message) =>
    textBytes (sendResponse statusCode message) ++ if statusCode = 200 then frames else []

/-- The agent goes on to its read loop. -/
def AgentStarts (printer : Printer) {stream : Bytes} (arrival : TunnelAgent.Arrival stream) : Prop :=
  ∃ results, start printer [] none arrival.results = .ok results

/-- The agent goes on, and its read loop gets what the server sent on the connection. -/
def AgentServed (printer : Printer) {stream : Bytes} (arrival : TunnelAgent.Arrival stream)
    (frames : Bytes) : Prop :=
  ∃ results, start printer [] none arrival.results = .ok results ∧ (received results).flatten = frames

section
variable {printer : Printer} {stream : Bytes} (arrival : TunnelAgent.Arrival stream)

theorem agentStarts_iff : AgentStarts printer arrival ↔
    arrival.waits < 50 ∧ Logged printer [] arrival.first ∧ Succeeded arrival.first := by
  simp only [AgentStarts, start_ok_iff (by decide : [] ≠ ascii "h2")]
  exact ⟨fun ⟨_, hwaits, hlogged, hok, _⟩ => ⟨hwaits, hlogged, hok⟩,
    fun ⟨hwaits, hlogged, hok⟩ => ⟨_, hwaits, hlogged, hok, rfl⟩⟩

theorem agentServed_iff (frames : Bytes) : AgentServed printer arrival frames ↔
    arrival.waits < 50 ∧ Logged printer [] arrival.first ∧ Succeeded arrival.first ∧
      arrival.later.flatten = frames := by
  simp only [AgentServed, start_ok_iff (by decide : [] ≠ ascii "h2")]
  constructor
  · rintro ⟨_, ⟨hwaits, hlogged, hok, rfl⟩, hflat⟩
    rw [TunnelAgent.received_map_data] at hflat
    exact ⟨hwaits, hlogged, hok, hflat⟩
  · rintro ⟨hwaits, hlogged, hok, hflat⟩
    refine ⟨_, ⟨hwaits, hlogged, hok, rfl⟩, ?_⟩
    rw [TunnelAgent.received_map_data]
    exact hflat

/-- Where something arrives, there was an answer. -/
theorem responses_ne_nil {outcome : AuthOutcome} {frames : Bytes}
    (arrival : TunnelAgent.Arrival (answerBytes outcome frames)) : outcome.responses ≠ [] := by
  intro hnil
  have hnone : answerBytes outcome frames = [] := by simp [answerBytes, hnil]
  exact arrival.first_bounds.1 (List.append_eq_nil_iff.mp (arrival.flatten_eq.trans hnone)).1

end

/-! ## What the agent makes of an answer -/

/-- What is found in a part of a text is found in the text. -/
theorem succeeded_of_isInfix {part whole : Bytes} (h : part <:+: whole) (hpart : Succeeded part) :
    Succeeded whole :=
  hpart.imp (fun hin => hin.trans h) (fun hin => hin.trans h)

/-- The answer to an agent that is let in. -/
def establishedBytes : Bytes := textBytes (sendResponse 200 "Connection established".toList)

/-- The agent knows the answer by its first twelve bytes. -/
theorem succeeded_established_iff {first frames : Bytes} (h : first <+: establishedBytes ++ frames) :
    Succeeded first ↔ 12 ≤ first.length := by
  have hlength : establishedBytes.length = 58 := by decide
  have htake (n : ℕ) : establishedBytes.take n <+: establishedBytes ++ frames :=
    (List.take_prefix n _).trans (List.prefix_append _ _)
  constructor
  · intro hok
    by_contra hshort
    have hle : first <+: establishedBytes.take 11 := by
      refine List.prefix_of_prefix_length_le h (htake 11) ?_
      rw [List.length_take]
      omega
    exact absurd (succeeded_of_isInfix hle.isInfix hok) (by decide)
  · intro hlong
    have hle : establishedBytes.take 12 <+: first := by
      refine List.prefix_of_prefix_length_le (htake 12) h ?_
      rw [List.length_take]
      omega
    exact succeeded_of_isInfix hle.isInfix (by decide)

/-- The message of a token that is refused. -/
theorem errorMessage_validate {sha256 : Str → Digest} {order : List (Str × AuthToken)} {now : ℤ}
    {authorization : Str} (h : (validate sha256 order now authorization).valid = false) :
    (validate sha256 order now authorization).errorMessage =
        "Authorization header must be 'Bearer tnl_...'".toList ∨
      (validate sha256 order now authorization).errorMessage = "Token not found or expired".toList := by
  by_cases hempty : (extractToken authorization).isEmpty = true
  · left
    rw [validate, if_pos hempty]
    rfl
  · right
    rw [validate, if_neg hempty] at h ⊢
    rw [validateToken] at h ⊢
    cases hlast : lastMatch (matchesHash (computeTokenHash sha256 (extractToken authorization)) now)
        order with
    | none => rfl
    | some entry =>
        rw [hlast] at h
        exact absurd h (by simp)

/-! ## Both ends -/

section
variable (sha256 : Str → Digest) (s : AgentServer) (a : Server.Arrival) (token : Str)

/-- The tunnel that the token is for. -/
def tunnelOf : Str :=
  (validate sha256 a.order a.clock.system ("Bearer ".toList ++ token)).tunnelId

/-- The token is known, and no agent of its tunnel is connected. -/
def Admitted : Prop :=
  (validate sha256 a.order a.clock.system ("Bearer ".toList ++ token)).valid = true ∧
    s.isConnected (tunnelOf sha256 a token) = false

/-- The connection is made and starts, and the registry has room for it. -/
def Settles : Prop :=
  a.made = true ∧ a.sent = true ∧ s.handler.agents.entries.length < s.maxAgents

/-- After the call the new connection is the one registered for the tunnel. -/
def Registered (outcome : AuthOutcome) : Prop :=
  outcome.server.handler.agents.lookup (tunnelOf sha256 a token) = some s.objects.length

end

section
variable {sha256 : Str → Digest} {s : AgentServer} {a : Server.Arrival} {token tunnelId : Str}

theorem lookup_accept_iff {t : Str} (hnone : s.handler.agents.lookup t = none) :
    (accept s a t).server.handler.agents.lookup t = some s.objects.length ↔ Settles s a := by
  have haccept := @accept_iff s a t [] hnone
  have hports (cache : Cache Str Tunnel) : PortsListed cache a.clock.steady t [] := by
    intro port hport
    cases hport
  rw [Settles, ← and_true (_ < _), ← eq_true (hports s.handler.tunnelCache), ← haccept]
  constructor
  · intro hlook
    refine ⟨?_, hlook, hports _⟩
    cases hmade : a.made with
    | true =>
        simp only [accept, hmade, if_true]
        exact (start_connect s t a.sent).1
    | false =>
        rw [accept, hmade] at hlook
        exact absurd (hnone.symm.trans hlook) (by simp)
  · exact fun h => h.2.1

/-- An agent that is not admitted gets one answer at most, which it knows for a refusal. -/
theorem authenticateCall_refused (htoken : '\n' ∉ token) (hid : '\n' ∉ tunnelId)
    (h : ¬ Admitted sha256 s a token) :
    authenticateCall sha256 s a (authRequest token tunnelId) = threw s ∨
      ∃ statusCode message, statusCode ≠ 200 ∧
        ¬ Succeeded (textBytes (sendResponse statusCode message)) ∧
        authenticateCall sha256 s a (authRequest token tunnelId) =
          ⟨[(statusCode, message)], false, s⟩ := by
  simp only [authenticateCall, authHeaders_request htoken hid]
  rw [Admitted, tunnelOf] at h
  have hmessage := @errorMessage_validate sha256 a.order a.clock.system ("Bearer ".toList ++ token)
  generalize validate sha256 a.order a.clock.system ("Bearer ".toList ++ token) = result at *
  cases a.printer.logs (expiredIds sha256 a.order a.clock.system ("Bearer ".toList ++ token)) with
  | false => exact .inl rfl
  | true =>
      cases hvalid : result.valid with
      | false =>
          refine .inr ⟨401, result.errorMessage, by decide, ?_, rfl⟩
          rcases hmessage hvalid with hmessage | hmessage
          · rw [hmessage]
            decide +kernel
          · rw [hmessage]
            decide +kernel
      | true =>
          have hconnected : s.isConnected result.tunnelId = true := by
            by_contra hnot
            exact h ⟨hvalid, by simpa using hnot⟩
          cases hprinted : a.printer.logs [result.tunnelId] with
          | false => exact .inl rfl
          | true =>
              exact .inr ⟨409, "Tunnel already connected".toList, by decide, by decide +kernel,
                by simp [hconnected]⟩

/-- An agent that is admitted is accepted, with its port, if it gets an answer. -/
theorem authenticateCall_admitted (htoken : '\n' ∉ token) (hid : '\n' ∉ tunnelId)
    (h : Admitted sha256 s a token)
    (hanswered : (authenticateCall sha256 s a (authRequest token tunnelId)).responses ≠ []) :
    ∃ cache, authenticateCall sha256 s a (authRequest token tunnelId) =
      accept (s.setTunnelCache cache) a (tunnelOf sha256 a token) := by
  obtain ⟨hvalid, hconnected⟩ := h
  simp only [authenticateCall, authHeaders_request htoken hid] at hanswered ⊢
  rw [tunnelOf] at hconnected ⊢
  generalize validate sha256 a.order a.clock.system ("Bearer ".toList ++ token) = result at *
  simp only [hvalid, hconnected, Bool.not_true, Bool.false_eq_true, if_false] at hanswered ⊢
  split at hanswered
  · exact absurd rfl hanswered
  · rename_i hexpired
    rw [if_neg hexpired]
    split at hanswered
    · exact absurd rfl hanswered
    · rename_i hid
      rw [if_neg hid]
      split at hanswered
      · exact absurd rfl hanswered
      · rename_i hports
        rw [if_neg hports]
        split at hanswered
        · exact absurd rfl hanswered
        · exact ⟨_, rfl⟩

/-- The stream of an accepted agent starts with the answer. -/
theorem answerBytes_accept (t : Str) (frames : Bytes) :
    answerBytes (accept s a t) frames = establishedBytes ++ frames := by
  simp [answerBytes, accept, establishedBytes]

theorem prefix_of_arrival {stream whole : Bytes} (h : stream = whole)
    (arrival : TunnelAgent.Arrival stream) : arrival.first <+: whole :=
  ⟨arrival.later.flatten, arrival.flatten_eq.trans h⟩

/-- What the agent knows for an acceptance is none, however the answer arrives. -/
theorem not_succeeded_of_refused (htoken : '\n' ∉ token) (hid : '\n' ∉ tunnelId)
    (h : ¬ Admitted sha256 s a token) {authData : Str} (hdata : authData = authRequest token tunnelId)
    {first frames : Bytes} (hfirst : first <+: answerBytes (authenticateCall sha256 s a authData) frames) :
    ¬ Succeeded first := by
  subst hdata
  rcases @authenticateCall_refused sha256 s a token tunnelId htoken hid h with
    hcall | ⟨statusCode, message, hcode, htext, hcall⟩
  · rw [hcall] at hfirst
    rw [List.prefix_nil.mp hfirst]
    decide
  · rw [hcall, answerBytes] at hfirst
    simp only [List.flatMap_cons, List.flatMap_nil, if_neg hcode, List.append_nil] at hfirst
    exact fun hfound => htext (succeeded_of_isInfix hfirst.isInfix hfound)

/-- The stream to an admitted agent. -/
theorem answerBytes_admitted (htoken : '\n' ∉ token) (hid : '\n' ∉ tunnelId)
    (h : Admitted sha256 s a token) {authData : Str} (hdata : authData = authRequest token tunnelId)
    (hanswered : (authenticateCall sha256 s a authData).responses ≠ []) (frames : Bytes) :
    answerBytes (authenticateCall sha256 s a authData) frames = establishedBytes ++ frames := by
  subst hdata
  obtain ⟨cache, hcall⟩ := @authenticateCall_admitted sha256 s a token tunnelId htoken hid h hanswered
  rw [hcall, answerBytes_accept]

/-- A refused agent is not registered. -/
theorem not_registered_of_refused (H : AuthInv s) (htoken : '\n' ∉ token) (hid : '\n' ∉ tunnelId)
    (h : ¬ Admitted sha256 s a token) {authData : Str} (hdata : authData = authRequest token tunnelId) :
    ¬ Registered sha256 s a token (authenticateCall sha256 s a authData) := by
  have hsame : (authenticateCall sha256 s a authData).server = s := by
    rw [hdata]
    rcases @authenticateCall_refused sha256 s a token tunnelId htoken hid h with
      hcall | ⟨_, _, _, _, hcall⟩
    · rw [hcall]
      rfl
    · rw [hcall]
  rw [Registered, hsame]
  intro hlook
  obtain ⟨c, hc, _⟩ := H.server.entries _ _ hlook
  simp at hc

/-- An admitted agent is registered if its connection settles. -/
theorem registered_iff_of_admitted (H : AuthInv s) (htoken : '\n' ∉ token) (hid : '\n' ∉ tunnelId)
    (h : Admitted sha256 s a token) {authData : Str} (hdata : authData = authRequest token tunnelId)
    (hanswered : (authenticateCall sha256 s a authData).responses ≠ []) :
    Registered sha256 s a token (authenticateCall sha256 s a authData) ↔ Settles s a := by
  subst hdata
  obtain ⟨cache, hcall⟩ := @authenticateCall_admitted sha256 s a token tunnelId htoken hid h hanswered
  have hnone : (s.setTunnelCache cache).handler.agents.lookup (tunnelOf sha256 a token) = none :=
    H.lookup_eq_none h.2
  rw [hcall, Registered]
  exact lookup_accept_iff hnone

/-- The ends agree in a state in which what is registered is connected. -/
theorem agree_iff (H : AuthInv s) (htoken : '\n' ∉ token) (hid : '\n' ∉ tunnelId) {authData : Str}
    (hdata : authData = authRequest token tunnelId) {frames : Bytes} (printer : Printer)
    (arrival : TunnelAgent.Arrival (answerBytes (authenticateCall sha256 s a authData) frames)) :
    (AgentStarts printer arrival ↔
        Registered sha256 s a token (authenticateCall sha256 s a authData)) ↔
      (Admitted sha256 s a token →
        (Settles s a ↔ arrival.waits < 50 ∧ Logged printer [] arrival.first ∧
          12 ≤ arrival.first.length)) := by
  have hanswered := responses_ne_nil arrival
  rw [agentStarts_iff]
  by_cases h : Admitted sha256 s a token
  · have hfirst := prefix_of_arrival (answerBytes_admitted htoken hid h hdata hanswered frames) arrival
    rw [succeeded_established_iff hfirst, registered_iff_of_admitted H htoken hid h hdata hanswered]
    simp only [h, true_implies]
    exact Iff.comm
  · have hstarts := not_succeeded_of_refused htoken hid h hdata (prefix_of_arrival rfl arrival)
    have hregistered := not_registered_of_refused H htoken hid h hdata
    simp [hstarts, hregistered, h]

/-- The answer itself is known, and can be printed. -/
theorem established_known {first : Bytes} (h : first = establishedBytes) (printer : Printer) :
    Succeeded first ∧ Logged printer [] first := by
  subst h
  exact ⟨by decide, printer.prints_of_isAscii _ rfl, printer.prints_of_isAscii _ (by decide)⟩

/-- Both ends have the session, and nothing of it is lost. -/
theorem whole_iff (H : AuthInv s) (htoken : '\n' ∉ token) (hid : '\n' ∉ tunnelId) {authData : Str}
    (hdata : authData = authRequest token tunnelId) {frames : Bytes} (printer : Printer)
    (arrival : TunnelAgent.Arrival (answerBytes (authenticateCall sha256 s a authData) frames)) :
    (Registered sha256 s a token (authenticateCall sha256 s a authData) ∧
        AgentServed printer arrival frames) ↔
      Admitted sha256 s a token ∧ Settles s a ∧ arrival.waits < 50 ∧
        arrival.first = establishedBytes := by
  have hanswered := responses_ne_nil arrival
  by_cases h : Admitted sha256 s a token
  · have hflat := arrival.flatten_eq.trans (answerBytes_admitted htoken hid h hdata hanswered frames)
    have hlater : arrival.later.flatten = frames ↔ arrival.first = establishedBytes := by
      constructor
      · intro heq
        rw [heq] at hflat
        exact List.append_cancel_right hflat
      · intro heq
        rw [heq] at hflat
        exact List.append_cancel_left hflat
    rw [registered_iff_of_admitted H htoken hid h hdata hanswered, agentServed_iff, hlater]
    constructor
    · exact fun ⟨hsettles, hwaits, _, _, hfirst⟩ => ⟨h, hsettles, hwaits, hfirst⟩
    · intro ⟨_, hsettles, hwaits, hfirst⟩
      obtain ⟨hknown, hlogged⟩ := established_known hfirst printer
      exact ⟨hsettles, hwaits, hlogged, hknown, hfirst⟩
  · have hregistered := not_registered_of_refused H htoken hid h hdata
    constructor
    · exact fun hboth => absurd hboth.1 hregistered
    · exact fun hadmitted => absurd hadmitted.1 h

end

section
variable (parse : Str → Option Json) (sha256 : Str → Digest) (tunnelCache : Cache Str Tunnel)
  (tokenCache : TokenCache) (maxAgents : ℕ) (evs : List ServerEvent) (a : Server.Arrival)
  (token tunnelId : Str) (reads : List Str) (authData : Str) (rest : List Str) (printer : Printer)

/-- **Agent and server agree on whether there is a session** in a reachable state of the server,
however the request and the answer arrive, exactly if the agent is refused, or its connection
settles just where the agent reads twelve bytes of the answer in time and its log can print what
the first read holds. -/
theorem sessions_agree_iff (htoken : '\n' ∉ token) (hid : '\n' ∉ tunnelId)
    (hflatten : reads.flatten = authRequest token tunnelId) (hreads : ∀ data ∈ reads, data ≠ [])
    (hread : doReadAuth [] reads = some (authData, rest)) (frames : Bytes)
    (arrival : TunnelAgent.Arrival (answerBytes (authenticateCall sha256
      (run (serverStep parse sha256) (.init tunnelCache tokenCache maxAgents) evs) a authData) frames)) :
    let s := run (serverStep parse sha256) (.init tunnelCache tokenCache maxAgents) evs
    (AgentStarts printer arrival ↔
        Registered sha256 s a token (authenticateCall sha256 s a authData)) ↔
      (Admitted sha256 s a token →
        (Settles s a ↔ arrival.waits < 50 ∧ Logged printer [] arrival.first ∧
          12 ≤ arrival.first.length)) := by
  have hall := doReadAuth_request htoken hid hflatten hreads
  have hdata := (Prod.mk.inj (Option.some.inj (hread.symm.trans hall))).1
  have H := authInv_run parse sha256 tunnelCache tokenCache maxAgents evs
  exact agree_iff H htoken hid hdata printer arrival

/-- **A session without a loss**: the server has registered the agent, and the agent is in its read
loop and gets all that the server sends on the connection, exactly if the agent is admitted, its
connection settles and its first read is the answer and no more. -/
theorem session_whole_iff (htoken : '\n' ∉ token) (hid : '\n' ∉ tunnelId)
    (hflatten : reads.flatten = authRequest token tunnelId) (hreads : ∀ data ∈ reads, data ≠ [])
    (hread : doReadAuth [] reads = some (authData, rest)) (frames : Bytes)
    (arrival : TunnelAgent.Arrival (answerBytes (authenticateCall sha256
      (run (serverStep parse sha256) (.init tunnelCache tokenCache maxAgents) evs) a authData) frames)) :
    let s := run (serverStep parse sha256) (.init tunnelCache tokenCache maxAgents) evs
    (Registered sha256 s a token (authenticateCall sha256 s a authData) ∧
        AgentServed printer arrival frames) ↔
      Admitted sha256 s a token ∧ Settles s a ∧ arrival.waits < 50 ∧
        arrival.first = establishedBytes := by
  have hall := doReadAuth_request htoken hid hflatten hreads
  have hdata := (Prod.mk.inj (Option.some.inj (hread.symm.trans hall))).1
  have H := authInv_run parse sha256 tunnelCache tokenCache maxAgents evs
  exact whole_iff H htoken hid hdata printer arrival

end

/-- A server that has just started, and knows the token. -/
def sampleServer : AgentServer := .init sampleTunnelCache sampleTokenCache 50

theorem flatten_sampleAnswer : establishedBytes ++ [TunnelAgent.connectionPreface].flatten =
    answerBytes (authenticateCall sampleSha256 sampleServer sampleArrival sampleRequest)
      TunnelAgent.connectionPreface := by decide +kernel

theorem bounds_establishedBytes : establishedBytes ≠ [] ∧ establishedBytes.length ≤ 1024 := by decide

theorem bounds_connectionPreface :
    ∀ data ∈ [TunnelAgent.connectionPreface], data ≠ [] ∧ data.length ≤ 8192 := by decide

/-- The answer in one read after two attempts, and the preface in the next. -/
def sampleAnswer : TunnelAgent.Arrival (answerBytes
    (authenticateCall sampleSha256 sampleServer sampleArrival sampleRequest)
    TunnelAgent.connectionPreface) :=
  ⟨2, establishedBytes, [TunnelAgent.connectionPreface], flatten_sampleAnswer, bounds_establishedBytes,
    bounds_connectionPreface⟩

theorem doReadAuth_sample : doReadAuth [] sampleReads = some (sampleRequest, []) :=
  doReadAuth_request (by decide) (by decide) flatten_sampleReads sampleReads_ne_nil

theorem settles_sample : Settles sampleServer sampleArrival := by
  unfold Settles
  decide +kernel

theorem sessions_agree_iff_sample :
    AgentStarts asciiPrinter sampleAnswer ↔
      Registered sampleSha256 sampleServer sampleArrival sampleToken
        (authenticateCall sampleSha256 sampleServer sampleArrival sampleRequest) :=
  (sessions_agree_iff (fun _ => none) sampleSha256 sampleTunnelCache sampleTokenCache 50 []
    sampleArrival sampleToken "api".toList sampleReads sampleRequest [] asciiPrinter (by decide)
    (by decide) flatten_sampleReads sampleReads_ne_nil doReadAuth_sample
    TunnelAgent.connectionPreface sampleAnswer).mpr fun _ =>
      iff_of_true settles_sample ⟨by decide, by decide, by decide⟩

theorem session_whole_sample :
    Registered sampleSha256 sampleServer sampleArrival sampleToken
        (authenticateCall sampleSha256 sampleServer sampleArrival sampleRequest) ∧
      AgentServed asciiPrinter sampleAnswer TunnelAgent.connectionPreface := by
  have hadmitted : Admitted sampleSha256 sampleServer sampleArrival sampleToken := by
    unfold Admitted tunnelOf
    decide +kernel
  exact (session_whole_iff (fun _ => none) sampleSha256 sampleTunnelCache sampleTokenCache 50 []
    sampleArrival sampleToken "api".toList sampleReads sampleRequest [] asciiPrinter (by decide)
    (by decide) flatten_sampleReads sampleReads_ne_nil doReadAuth_sample
    TunnelAgent.connectionPreface sampleAnswer).mpr ⟨hadmitted, settles_sample, by decide, rfl⟩

end Protogate.Tunnel
