import Protogate.Agent.Residue

/-!
# The end of a stream

A peer ends a stream with the END_STREAM flag on the HEADERS of the response, on trailing
HEADERS or on DATA, or with RST_STREAM.  `on_frame_recv_callback` completes the request on
the flag of HEADERS of the category `RESPONSE` and of DATA.  It has no case for RST_STREAM,
and does nothing on HEADERS of another category, which trailers have.

## Main definitions

* `Received`, `receivedStep` — the connection, with RST_STREAM among the frames.
* `endedStream` — the stream a frame ends, and whether it resets it.
* `Completes` — the frame completes the request on the stream it ends.
* `EndsHandled` — the condition on a step.
* `stream_ends_complete_iff` — every stream end in a run completes its request exactly if
  every step meets it.
-/

namespace Protogate.Agent

open Protogate.Lib

/-! ## Runs -/

/-- An event of the connection, where a frame is not RST_STREAM, or RST_STREAM. -/
inductive Received
  | event (e : ExchangeEvent)
  | rstStream (streamId : StreamId)
  deriving DecidableEq

/-- `on_frame_recv_callback` treats RST_STREAM like any type it has no case for. -/
def receivedStep (x : Exchange) : Received → Exchange
  | .event e => exchangeStep x e
  | .rstStream _ => exchangeStep x (.frame .other)

/-- The request id is new, and so is the stream nghttp2 gives. -/
def ReceivedDistinct (x : Exchange) : Received → Prop
  | .event e => Distinct x e
  | .rstStream _ => True

instance (x : Exchange) : (e : Received) → Decidable (ReceivedDistinct x e)
  | .event e => inferInstanceAs (Decidable (Distinct x e))
  | .rstStream _ => inferInstanceAs (Decidable True)

/-! ## What should hold, and when it does -/

/-- The stream a frame ends, and whether it resets it. -/
def endedStream : Received → Option (StreamId × Bool)
  | .event (.frame (.headers s _ true)) => some (s, false)
  | .event (.frame (.data s true)) => some (s, false)
  | .rstStream s => some (s, true)
  | _ => none

/-- What the callback of a request on a stream should be given at its end: an error if the
stream is reset, else the response made of what has come. -/
def endInvocation (a : AgentConnection ℕ) (call : ℕ) (s : StreamId) (reset : Bool) : Invocation ℕ :=
  if reset then ⟨call, [], true⟩
  else ⟨call, responseText (a.streamHeaders.lookup s) (a.streamBodiesRecv.lookup s), false⟩

/-- After a frame that ends a stream, the request that opened the stream is not pending, and
if it was, its callback has been invoked. -/
def Completes (x : Exchange) (e : Received) : Prop :=
  ∀ s reset, endedStream e = some (s, reset) →
    ∀ call id, (call, s) ∈ x.opened → x.requests[call]? = some id →
      id ∉ (receivedStep x e).agent.pendingRequests ∧
        (id ∈ x.agent.pendingRequests → (receivedStep x e).invoked =
          x.invoked ++ [(x.heard.length, endInvocation x.agent call s reset)])

/-- The stream of a pending request does not end with trailing HEADERS or RST_STREAM. -/
def EndsHandled (x : Exchange) : Received → Prop
  | .event (.frame (.headers s false true)) => ∀ id, x.Opened id s → id ∉ x.agent.pendingRequests
  | .rstStream s => ∀ id, x.Opened id s → id ∉ x.agent.pendingRequests
  | _ => True

/-! ## Steps -/

section
variable {x : Exchange} {s : StreamId}

/-- `complete_request` invokes the callback of the request that opened the stream. -/
theorem complete_of_opened (H : Indexed x) {call : ℕ} {id : Str} (hmem : (call, s) ∈ x.opened)
    (hid : x.requests[call]? = some id) :
    id ∉ (completeRequest x.agent s).1.pendingRequests ∧
      (id ∈ x.agent.pendingRequests →
        (completeRequest x.agent s).2 = [endInvocation x.agent call s false]) := by
  have ho : x.Opened id s := ⟨call, hmem, hid⟩
  obtain ⟨id', callback, hmap, hstored, heq⟩ | ⟨hnone, heq⟩ := completeRequest_cases x.agent s
  · obtain rfl := H.id_eq (H.mapped s id' hmap) ho
    -- the callback is the request itself, for the ids are distinct
    have hcallback := H.callbacks id' callback hstored
    have hlt : call < x.requests.length := H.lt _ hmem
    obtain rfl : call = callback := (List.getElem?_inj hlt H.ids).mp (hid.trans hcallback.symm)
    rw [heq]
    exact ⟨by simp [AgentConnection.completed], fun _ => rfl⟩
  · have hsettled : id ∉ x.agent.pendingRequests :=
      fun hpending => hnone id (H.mapped_of_pending hpending ho) hpending
    rw [heq]
    exact ⟨hsettled, fun hpending => absurd hpending hsettled⟩

/-- A frame that ends a stream and is completed. -/
theorem completes_of_complete (H : Indexed x) {e : Received} (hends : endedStream e = some (s, false))
    (hstep : receivedStep x e = x.advance (completeRequest x.agent s)) : Completes x e := by
  intro s' reset hends' call id hmem hid
  rw [hends] at hends'
  obtain ⟨rfl, rfl⟩ := Prod.mk.inj (Option.some.inj hends')
  obtain ⟨hgone, hinvoked⟩ := complete_of_opened H hmem hid
  rw [hstep]
  refine ⟨hgone, fun hpending => ?_⟩
  rw [Exchange.advance, hinvoked hpending]
  rfl

/-- A frame that ends a stream and is not looked at. -/
theorem completes_ignored_iff {e : Received} (reset : Bool) (hends : endedStream e = some (s, reset))
    (hstep : receivedStep x e = x.advance (x.agent, [])) :
    Completes x e ↔ ∀ id, x.Opened id s → id ∉ x.agent.pendingRequests := by
  have hpending : (receivedStep x e).agent.pendingRequests = x.agent.pendingRequests := by rw [hstep]; rfl
  simp only [Completes, hends, hpending]
  constructor
  · rintro h id ⟨call, hmem, hid⟩
    exact (h s reset rfl call id hmem hid).1
  · intro h s' reset' heq call id hmem hid
    obtain ⟨rfl, rfl⟩ := Prod.mk.inj (Option.some.inj heq)
    have hsettled := h id ⟨call, hmem, hid⟩
    exact ⟨hsettled, fun hid => absurd hid hsettled⟩

/-- A step that ends no stream. -/
theorem completes_of_none {e : Received} (hends : endedStream e = none) : Completes x e := by
  intro s reset heq
  rw [hends] at heq
  cases heq

theorem completes_iff (H : Indexed x) (e : Received) : Completes x e ↔ EndsHandled x e := by
  cases e with
  | rstStream s => exact completes_ignored_iff true rfl rfl
  | event e =>
      cases e with
      | frame f =>
          cases f with
          | headers s response endStream =>
              cases endStream with
              | false => exact iff_of_true (completes_of_none rfl) (by cases response <;> trivial)
              | true =>
                  cases response with
                  | true => exact iff_of_true (completes_of_complete H rfl rfl) trivial
                  | false => exact completes_ignored_iff false rfl rfl
          | data s endStream =>
              cases endStream with
              | false => exact iff_of_true (completes_of_none rfl) trivial
              | true => exact iff_of_true (completes_of_complete H rfl rfl) trivial
          | goaway => exact iff_of_true (completes_of_none rfl) trivial
          | other => exact iff_of_true (completes_of_none rfl) trivial
      | _ => exact iff_of_true (completes_of_none rfl) trivial

end

theorem indexed_receivedStep (x : Exchange) (e : Received) (H : Indexed x)
    (hdistinct : ReceivedDistinct x e) : Indexed (receivedStep x e) := by
  cases e with
  | event e => exact indexed_step x e H hdistinct
  | rstStream s => exact indexed_step x (.frame .other) H trivial

/-- **Every stream end completes its request** in a run with distinct request ids exactly if
no stream of a pending request ends with trailing HEADERS or RST_STREAM. -/
theorem stream_ends_complete_iff (state : State) (evs : List Received)
    (H : Along receivedStep ReceivedDistinct (Exchange.init state) evs) :
    Along receivedStep Completes (Exchange.init state) evs ↔
      Along receivedStep EndsHandled (Exchange.init state) evs :=
  along_congr_under Indexed indexed_receivedStep (fun _ e hx _ => completes_iff hx e)
    (indexed_init state) H

/-- A connection that comes up, a request on stream 1, and the beginning of its response. -/
def sampleResponding : List Received :=
  [.event (.start true), .event (.send "a".toList "GET / HTTP/1.1\r\n\r\n".toList 1 true),
    .event (.header 1 ":status".toList "200".toList), .event (.frame (.headers 1 true false))]

/-- The response ends with DATA, and the stream is reset after that. -/
theorem stream_ends_complete_data :
    Along receivedStep Completes (Exchange.init .connected)
        (sampleResponding ++ [.event (.frame (.data 1 true)), .rstStream 1]) ↔
      Along receivedStep EndsHandled (Exchange.init .connected)
        (sampleResponding ++ [.event (.frame (.data 1 true)), .rstStream 1]) :=
  stream_ends_complete_iff .connected _ (by decide)

/-- The response ends with trailers; and the stream is reset. -/
theorem not_stream_ends_complete :
    (Along receivedStep ReceivedDistinct (Exchange.init .connected)
        (sampleResponding ++ [.event (.frame (.headers 1 false true))]) ∧
      ¬ Along receivedStep Completes (Exchange.init .connected)
        (sampleResponding ++ [.event (.frame (.headers 1 false true))])) ∧
    Along receivedStep ReceivedDistinct (Exchange.init .connected)
        (sampleResponding ++ [.rstStream 1]) ∧
      ¬ Along receivedStep Completes (Exchange.init .connected)
        (sampleResponding ++ [.rstStream 1]) := by
  refine ⟨⟨by decide, fun H => ?_⟩, by decide, fun H => ?_⟩
  · have hgone := H.2.2.2.2.1 1 false rfl 0 "a".toList (by decide) (by decide)
    exact absurd hgone.1 (by decide)
  · have hgone := H.2.2.2.2.1 1 true rfl 0 "a".toList (by decide) (by decide)
    exact absurd hgone.1 (by decide)

end Protogate.Agent
