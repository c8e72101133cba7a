import Protogate.Agent.AgentConnection
import Protogate.Lib.Bytes
import Protogate.Lib.Provider

/-!
# Bodies on their way through the tunnel

Both ends keep the body of a message in a map and give nghttp2 a data provider
whose source is the entry of the map: the server under the request id, the agent
under the stream id.  The two callbacks are the same: each copies from the start of
the source and says at once that it is done.

The lengths nghttp2 offers depend on the frame size and on the flow-control
windows, so a body may be asked for in any pieces.

## Main definitions

* `readCallback` — the callback.
* `sendResponse` — the agent's side; the server's is `sendHttpRequest`.
* `RequestIntact`, `ResponseIntact` — the body arrives whole.
* `bodies_intact_iff` — it does exactly when it fits into the first buffer.
-/

namespace Protogate.Wire

open Protogate.Lib Protogate.Agent

/-! ## The callback -/

section
variable {α : Type}

/-- `read_callback` over the stored body. -/
def readCallback (body : List α) (length : ℕ) : Chunk (List α) α :=
  let toCopy := min length body.length
  ⟨body.take toCopy, true, body⟩

/-- The first buffer takes the whole body or cuts it off. -/
theorem data_readCallback_eq_iff (body : List α) (length : ℕ) :
    (readCallback body length).data = body ↔ body.length ≤ length := by
  simp only [readCallback]
  constructor
  · intro h
    have hlen := congrArg List.length h
    rw [List.length_take] at hlen
    omega
  · intro h
    rw [min_eq_right h, List.take_length]

theorem intact_readCallback_iff (body : List α) (lengths : ℕ → ℕ) :
    Intact readCallback body lengths body ↔ body.length ≤ lengths 0 := by
  rw [intact_iff_of_eof (fun _ _ => rfl), data_readCallback_eq_iff]

end

/-! ## Requests -/

variable {κ : Type}

/-- The body of a request arrives whole.  Without a body there is no provider; else
its source is the entry stored when the request was submitted. -/
def RequestIntact (s : AgentConnection κ) (requestId httpRequest : Str) (callback : κ)
    (streamId : StreamId) (lengths : ℕ → ℕ) : Prop :=
  let body := (parseHttpRequest requestId httpRequest).2
  body.isEmpty = false →
    ∃ source, (s.register requestId httpRequest callback streamId).streamBodies.lookup requestId =
        some source ∧ Intact readCallback source lengths body

/-! ## Responses -/

/-- What the agent's session keeps about responses: whether it is active, the stored
bodies, and the header lists submitted. -/
structure Responses where
  active : Bool
  responseBodies : Assoc StreamId Bytes
  submitted : List (StreamId × List (Str × Str))

/-- `send_response`; whether nghttp2 takes the response, and whether sending then
succeeds, comes from outside. -/
def sendResponse (s : Responses) (streamId : StreamId) (statusCode : ℤ)
    (headers : List (Str × Str)) (body : Bytes) (accepted sent : Bool) : Responses :=
  let s := { s with responseBodies := s.responseBodies.insert streamId body }
  if !accepted then s
  else
    { s with
      submitted := s.submitted ++ [(streamId, (":status".toList, decimal statusCode) :: headers)]
      active := s.active && sent }

theorem lookup_sendResponse (s : Responses) (streamId : StreamId) (statusCode : ℤ)
    (headers : List (Str × Str)) (body : Bytes) (accepted sent : Bool) :
    (sendResponse s streamId statusCode headers body accepted sent).responseBodies.lookup streamId =
      some body := by
  simp only [sendResponse]
  split <;> exact AList.lookup_insert _

/-- The body of a response that nghttp2 takes arrives whole. -/
def ResponseIntact (s : Responses) (streamId : StreamId) (statusCode : ℤ)
    (headers : List (Str × Str)) (body : Bytes) (sent : Bool) (lengths : ℕ → ℕ) : Prop :=
  ∃ source, (sendResponse s streamId statusCode headers body true sent).responseBodies.lookup
      streamId = some source ∧ Intact readCallback source lengths body

/-! ## Which bodies arrive -/

theorem lookup_streamBodies_register (s : AgentConnection κ) {requestId httpRequest : Str}
    (callback : κ) (streamId : StreamId)
    (hbody : (parseHttpRequest requestId httpRequest).2.isEmpty = false) :
    (s.register requestId httpRequest callback streamId).streamBodies.lookup requestId =
      some (parseHttpRequest requestId httpRequest).2 := by
  simp only [AgentConnection.register, hbody, Bool.false_eq_true, if_false]
  exact AList.lookup_insert _

theorem requestIntact_iff (s : AgentConnection κ) (requestId httpRequest : Str) (callback : κ)
    (streamId : StreamId) (lengths : ℕ → ℕ) :
    RequestIntact s requestId httpRequest callback streamId lengths ↔
      (parseHttpRequest requestId httpRequest).2.length ≤ lengths 0 := by
  simp only [RequestIntact]
  cases hbody : (parseHttpRequest requestId httpRequest).2.isEmpty with
  | true =>
      have hnil := List.isEmpty_iff.mp hbody
      simp [hnil]
  | false =>
      rw [lookup_streamBodies_register s callback streamId hbody]
      rw [← intact_readCallback_iff]
      constructor
      · intro H
        obtain ⟨source, hsource, hintact⟩ := H rfl
        rw [Option.some.inj hsource]
        exact Option.some.inj hsource ▸ hintact
      · exact fun H _ => ⟨_, rfl, H⟩

theorem responseIntact_iff (s : Responses) (streamId : StreamId) (statusCode : ℤ)
    (headers : List (Str × Str)) (body : Bytes) (sent : Bool) (lengths : ℕ → ℕ) :
    ResponseIntact s streamId statusCode headers body sent lengths ↔ body.length ≤ lengths 0 := by
  rw [ResponseIntact, lookup_sendResponse, ← intact_readCallback_iff]
  constructor
  · rintro ⟨source, hsource, hintact⟩
    exact Option.some.inj hsource ▸ hintact
  · exact fun H => ⟨body, rfl, H⟩

/-- **A body arrives whole exactly when the first buffer offered holds all of it**,
for requests and for responses. -/
theorem bodies_intact_iff :
    (∀ (s : AgentConnection κ) (requestId httpRequest : Str) (callback : κ) (streamId : StreamId)
      (lengths : ℕ → ℕ), RequestIntact s requestId httpRequest callback streamId lengths ↔
        (parseHttpRequest requestId httpRequest).2.length ≤ lengths 0) ∧
    (∀ (s : Responses) (streamId : StreamId) (statusCode : ℤ) (headers : List (Str × Str))
      (body : Bytes) (sent : Bool) (lengths : ℕ → ℕ),
        ResponseIntact s streamId statusCode headers body sent lengths ↔
          body.length ≤ lengths 0) :=
  ⟨requestIntact_iff, responseIntact_iff⟩

/-- A response of 20000 bytes in frames of at most 16384 bytes. -/
theorem not_bodies_intact_frames :
    ¬ ∀ (s : Responses) (streamId : StreamId) (statusCode : ℤ) (headers : List (Str × Str))
      (body : Bytes) (sent : Bool) (lengths : ℕ → ℕ), (∀ i, 1 ≤ lengths i) →
        ResponseIntact s streamId statusCode headers body sent lengths := by
  intro H
  have hintact := H ⟨true, ∅, []⟩ 1 200 [] (List.replicate 20000 0x61) true (fun _ => 16384)
    (fun _ => by omega)
  have hle := (responseIntact_iff _ _ _ _ _ _ _).mp hintact
  rw [List.length_replicate] at hle
  omega

end Protogate.Wire
