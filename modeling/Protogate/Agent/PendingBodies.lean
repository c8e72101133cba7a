import Protogate.Agent.Residue

/-!
# Bodies that wait to be sent

The body of a request stays in `stream_bodies_`, and nghttp2 is offered a pointer to the entry.
If nghttp2 takes the provider, it reads the body when flow control lets it, in one piece; until
then the entry has to stay where it is.  But it is found by the request id: it goes when the
request is complete or has timed out, and another request with the id overwrites it.

An entry of the map is in a node that does not move; the nodes are numbered here.

What keeps the pointers valid is that there are none.  `nghttp2_submit_data` needs a stream, and
`send_http_request` calls it before the HEADERS that open the stream are sent; the error is only
logged.

## Main definitions

* `Provider` — a body that nghttp2 has taken and not read yet.
* `Submitting`, `BodyEvent`, `bodyStep` — the connection with the nodes and the providers.
* `BodiesStay` — every provider points to its body.
* `NewStreams` — the stream ids that nghttp2 gives are new.
* `providers_step`, `bodies_stay` — no provider is ever taken, and so the bodies stay.
-/

namespace Protogate.Agent

open Protogate.Lib

/-! ## Runs -/

/-- A body nghttp2 has not read yet: its stream, the request id and the number of the node it
points to, and the body that was given to `send_http_request`. -/
structure Provider where
  streamId : StreamId
  requestId : Str
  node : ℕ
  body : Str
  deriving DecidableEq, Repr

/-- The connection, the last node of each request id, the number of nodes so far, and the
providers of the session. -/
structure Submitting where
  exchange : Exchange
  node : Str → ℕ
  nodes : ℕ
  providers : List Provider

def Submitting.init (state : State) : Submitting := ⟨.init state, fun _ => 0, 0, []⟩

/-- `stream_bodies_[request_id]` makes a node if there is no entry. -/
def Submitting.touch (x : Submitting) (requestId : Str) : Submitting :=
  if requestId ∈ x.exchange.agent.streamBodies then x
  else { x with node := Function.update x.node requestId x.nodes, nodes := x.nodes + 1 }

/-- The providers that nghttp2 takes for a request: one for its body, if
`nghttp2_submit_data` succeeds. -/
def Submitting.taken (x : Submitting) (requestId httpRequest : Str) (streamId : StreamId) :
    List Provider :=
  let body := (parseHttpRequest requestId httpRequest).2
  match x.exchange.agent.submitData streamId body with
  | some body => [⟨streamId, requestId, x.node requestId, body⟩]
  | none => []

/-- A request with a body has it stored and offered to nghttp2. -/
def Submitting.submit (x : Submitting) (requestId httpRequest : Str) (streamId : StreamId) :
    Submitting :=
  let body := (parseHttpRequest requestId httpRequest).2
  if x.exchange.agent.Accepts streamId ∧ body ≠ [] then
    let x := x.touch requestId
    { x with providers := x.providers ++ x.taken requestId httpRequest streamId }
  else x

/-- A step of the connection; the providers go with their session. -/
def Submitting.advance (x : Submitting) (e : ExchangeEvent) : Submitting :=
  let exchange := exchangeStep x.exchange e
  { x with exchange, providers := if exchange.agent.session then x.providers else [] }

/-- An event of the connection; nghttp2 reads the body for a stream; or it drops it, for the
stream was reset. -/
inductive BodyEvent
  | event (e : ExchangeEvent)
  | eof (streamId : StreamId)
  | reset (streamId : StreamId)

def bodyStep (x : Submitting) : BodyEvent → Submitting
  | .event (.send requestId httpRequest streamId sent) =>
      (x.submit requestId httpRequest streamId).advance (.send requestId httpRequest streamId sent)
  | .event e => x.advance e
  | .eof s | .reset s => { x with providers := x.providers.filter (·.streamId ≠ s) }

/-! ## What should hold -/

/-- The entry a provider points to is there, and has the body. -/
def BodiesStay (x : Submitting) : Prop :=
  ∀ p ∈ x.providers, x.node p.requestId = p.node ∧
    x.exchange.agent.streamBodies.lookup p.requestId = some p.body

/-- When a request is submitted, nghttp2 gives it a new stream. -/
def NewStreams (x : Submitting) : BodyEvent → Prop
  | .event (.send _ _ streamId _) =>
      x.exchange.agent.Accepts streamId → x.exchange.agent.NewStream streamId
  | _ => True

instance (x : Submitting) : (e : BodyEvent) → Decidable (NewStreams x e)
  | .event (.send _ _ streamId _) => inferInstanceAs (Decidable
      (x.exchange.agent.Accepts streamId → x.exchange.agent.NewStream streamId))
  | .event (.start _) | .event (.handshake _ _) | .event (.header _ _ _) | .event (.data _ _)
  | .event (.frame _) | .event (.timer _) | .event .disconnect | .eof _ | .reset _ =>
      inferInstanceAs (Decidable True)

/-! ## Steps -/

section
variable {x : Submitting}

@[simp] theorem exchange_touch (x : Submitting) (id : Str) : (x.touch id).exchange = x.exchange := by
  simp only [Submitting.touch]
  split <;> rfl

@[simp] theorem providers_touch (x : Submitting) (id : Str) : (x.touch id).providers = x.providers := by
  simp only [Submitting.touch]
  split <;> rfl

/-- Nothing is taken for a stream that does not exist yet. -/
theorem taken_of_newStream {s : StreamId} (hnew : x.exchange.agent.NewStream s) (id httpRequest : Str) :
    x.taken id httpRequest s = [] := by
  simp only [Submitting.taken, submitData_of_newStream hnew]

theorem providers_submit {s : StreamId}
    (hnew : x.exchange.agent.Accepts s → x.exchange.agent.NewStream s) (id httpRequest : Str) :
    (x.submit id httpRequest s).providers = x.providers := by
  simp only [Submitting.submit]
  split
  · rename_i haccepted
    have htouched : (x.touch id).exchange.agent.NewStream s := by
      rw [exchange_touch]
      exact hnew haccepted.1
    dsimp only
    rw [taken_of_newStream htouched, List.append_nil, providers_touch]
  · rfl

theorem providers_advance (h : x.providers = []) (e : ExchangeEvent) :
    (x.advance e).providers = [] := by
  simp only [Submitting.advance, h, ite_self]

/-- **A step takes no provider.** -/
theorem providers_step (x : Submitting) (e : BodyEvent) (h : x.providers = [])
    (hnew : NewStreams x e) : (bodyStep x e).providers = [] := by
  cases e with
  | event e =>
      cases e with
      | send id httpRequest s sent =>
          exact providers_advance ((providers_submit hnew id httpRequest).trans h) _
      | _ => exact providers_advance h _
  | eof s => simp only [bodyStep, h, List.filter_nil]
  | reset s => simp only [bodyStep, h, List.filter_nil]

/-- Without providers there is nothing to keep. -/
theorem bodiesStay_of_nil (h : x.providers = []) : BodiesStay x := by
  intro p hp
  rw [h] at hp
  cases hp

end

/-- A request with a body, sent at a time in seconds. -/
def samplePost (body : Str) (s : StreamId) : BodyEvent :=
  .event (.send "req_1700000000".toList ("POST / HTTP/1.1\r\n\r\n".toList ++ body) s true)

end Protogate.Agent
