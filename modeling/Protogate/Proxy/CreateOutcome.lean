import Protogate.Agent.AgentConnection
import Protogate.Proxy.TcpProxy

/-!
# The outcome of `create_connection`

`create_connection` for a tunnel takes a client socket and a callback for the end of the
connection.  The four checks at its beginning close the socket and invoke the callback when
they fail.  Two failures come later: the agent may be gone when its connection is looked up
again, and `send_tcp_data` may report an error for the TCP_OPEN frame.  By then the
connection object exists, and in the second case it is in the map.

## Main definitions

* `sendTcpDataErrors` — what `send_tcp_data` reports.
* `checkClient` — the checks.
* `CreateResult`, `createConnectionResult` — the call with its effects on socket and callback.
* `CreatesAtomically` — the connection is there and established, or all is undone.
* `creates_atomically_iff` — when it is so.
-/

namespace Protogate.Proxy

open Protogate.Lib Protogate.Models Protogate.Wire

/-! ## Sending the frame -/

/-- How the `write_some` of `send_tcp_data` ends. -/
inductive WriteOutcome
  | written
  | error
  | exception
  deriving DecidableEq, Repr

/-- The `error` argument of each invocation of its callback by `send_tcp_data`, on an agent
connection in this state. -/
def sendTcpDataErrors (state : Agent.State) (outcome : WriteOutcome) : List Bool :=
  if state ≠ .connected then [true]
  else
    match outcome with
    | .written => [false]
    | .error | .exception => [true]

/-- The frame is written. -/
def sendTcpDataOk (state : Agent.State) (outcome : WriteOutcome) : Bool :=
  state = .connected && outcome = .written

/-- The callback is invoked once, without an error if the frame is written. -/
theorem sendTcpDataErrors_eq (state : Agent.State) (outcome : WriteOutcome) :
    sendTcpDataErrors state outcome = [!sendTcpDataOk state outcome] := by
  by_cases hstate : state = .connected
  · cases outcome <;> simp [sendTcpDataErrors, sendTcpDataOk, hstate]
  · simp [sendTcpDataErrors, sendTcpDataOk, hstate]

/-! ## The call -/

/-- What a call reads elsewhere: as in `CreateEnv`, but with the agent connection that
`get_agent` finds, its state and how a write to its socket ends. -/
structure CreateCall where
  tunnel : Option Tunnel
  clientIp : Option Str
  connected : Bool
  agent : Option (Agent.State × WriteOutcome)
  uuid : ConnectionId

/-- With the agent connection reduced to what `send_tcp_data` reports. -/
def CreateCall.env (call : CreateCall) : CreateEnv :=
  ⟨call.tunnel, call.clientIp, call.connected, call.agent.map fun a => sendTcpDataOk a.1 a.2,
    call.uuid⟩

/-- The errors reported to the callback. -/
inductive CreateError
  | notFound
  | fault
  | accessDenied
  | notConnected
  | connectionRefused
  deriving DecidableEq, Repr

/-- The four checks; the address of the client if they pass. -/
def checkClient (allows : List Str → Str → Bool) (call : CreateCall) : Except CreateError Str :=
  match call.tunnel with
  | none => .error .notFound
  | some tunnel =>
      match call.clientIp with
      | none => .error .fault
      | some ip =>
          if !validateIpAllowlist allows tunnel ip then .error .accessDenied
          else if !call.connected then .error .notConnected
          else .ok ip

/-- The proxy after the call, whether the client socket was closed, and the invocations of
the callback, with the connection id and the error. -/
structure CreateResult where
  proxy : TcpProxy
  socketClosed : Bool
  closeCalls : List (Str × CreateError)

/-- `create_connection` for a tunnel, given a callback. -/
def createConnectionResult (allows : List Str → Str → Bool) (p : TcpProxy) (call : CreateCall)
    (tunnelId : Str) : CreateResult :=
  match checkClient allows call with
  | .error error => ⟨p, true, [([], error)]⟩
  | .ok ip =>
      match call.agent with
      | none => ⟨p.addObject (newConnection [] tunnelId ip 0 .established), false, []⟩
      | some (state, outcome) =>
          let id := connectionIdToString call.uuid
          let errors := sendTcpDataErrors state outcome
          let ok := errors.contains false
          -- an error leaves the connection in the map, and the socket open
          { proxy := { p.addObject (newConnection id tunnelId ip 0 (openState ok)) with
              connections := p.connections.insert id p.created
              sent := p.sent ++ [.tcpOpen tunnelId id ⟨call.uuid, 0⟩ ok] }
            socketClosed := false
            closeCalls := (errors.filter (· = true)).map fun _ => (id, .connectionRefused) }

section
variable (allows : List Str → Str → Bool) (p : TcpProxy) (call : CreateCall) (t : Str)

/-- The checks pass when `admitClient` gives an address. -/
theorem toOption_checkClient : (checkClient allows call).toOption = admitClient allows call.env := by
  obtain ⟨tunnel, clientIp, connected, agent, uuid⟩ := call
  simp only [checkClient, admitClient, CreateCall.env]
  cases tunnel with
  | none => rfl
  | some tunnel =>
      cases clientIp with
      | none => rfl
      | some ip =>
          cases hallowed : validateIpAllowlist allows tunnel ip <;> cases connected <;>
            simp [hallowed, Except.toOption]

/-- On the proxy the call does what `createConnection` does. -/
theorem proxy_createConnectionResult :
    (createConnectionResult allows p call t).proxy = createConnection allows p call.env t := by
  simp only [createConnectionResult, createConnection, ← toOption_checkClient]
  cases checkClient allows call with
  | error error => rfl
  | ok ip =>
      simp only [Except.toOption, CreateCall.env]
      cases call.agent with
      | none => rfl
      | some a => simp [sendTcpDataErrors_eq]

variable {allows call}

/-- A client that fails a check is refused. -/
theorem createConnectionResult_of_none (h : admitClient allows call.env = none) :
    ∃ error, createConnectionResult allows p call t = ⟨p, true, [([], error)]⟩ := by
  rw [← toOption_checkClient] at h
  simp only [createConnectionResult]
  cases hcheck : checkClient allows call with
  | error error => exact ⟨error, rfl⟩
  | ok ip =>
      rw [hcheck] at h
      cases h

/-- The callback is invoked once for a client that is refused, and once for an error on the
frame; it is not invoked if the agent is gone. -/
theorem length_closeCalls :
    (createConnectionResult allows p call t).closeCalls.length =
      if (admitClient allows call.env).isSome ∧ call.env.agent ≠ some false then 0 else 1 := by
  cases hadmitted : admitClient allows call.env with
  | none =>
      obtain ⟨error, hres⟩ := createConnectionResult_of_none p t hadmitted
      simp [hres]
  | some ip =>
      rw [← toOption_checkClient] at hadmitted
      simp only [createConnectionResult]
      cases hcheck : checkClient allows call with
      | error error =>
          rw [hcheck] at hadmitted
          cases hadmitted
      | ok ip' =>
          have henv : call.env.agent = call.agent.map fun a => sendTcpDataOk a.1 a.2 := rfl
          rw [henv]
          cases call.agent with
          | none => simp
          | some a => cases hok : sendTcpDataOk a.1 a.2 <;> simp [sendTcpDataErrors_eq, hok]

/-- The client socket is closed by the checks only. -/
theorem socketClosed_createConnectionResult :
    (createConnectionResult allows p call t).socketClosed = (admitClient allows call.env).isNone := by
  rw [← toOption_checkClient]
  simp only [createConnectionResult]
  cases checkClient allows call with
  | error error => rfl
  | ok ip =>
      cases call.agent with
      | none => rfl
      | some a => rfl

end

/-! ## All or nothing -/

section
variable (allows : List Str → Str → Bool) (p : TcpProxy) (call : CreateCall) (t : Str)

/-- Nothing fails: the checks pass, the agent is still there, and the frame is written. -/
def CreateCall.Succeeds : Prop :=
  (admitClient allows call.env).isSome ∧ call.env.agent = some true

instance : Decidable (call.Succeeds allows) := instDecidableAnd

/-- A call that fails leaves the map as it was, closes the socket and invokes the callback
once; after one that does not, the connection is in the map and established, and the
callback has not been invoked. -/
def CreatesAtomically : Prop :=
  let result := createConnectionResult allows p call t
  if call.Succeeds allows then
    (∃ ref c, result.proxy.getConnection (connectionIdToString call.uuid) = some (ref, c) ∧
      c.state = .established) ∧ result.closeCalls = []
  else
    result.proxy.connections = p.connections ∧ result.socketClosed = true ∧
      result.closeCalls.length = 1

/-- All is undone if nothing but a check fails. -/
theorem creates_atomically_iff :
    CreatesAtomically allows p call t ↔
      ((admitClient allows call.env).isSome → call.env.agent = some true) := by
  simp only [CreatesAtomically]
  by_cases hsucceeds : call.Succeeds allows
  · obtain ⟨ip, hip⟩ := Option.isSome_iff_exists.mp hsucceeds.1
    have hagent := hsucceeds.2
    rw [if_pos hsucceeds, ← List.length_eq_zero_iff, length_closeCalls]
    simp only [hagent, hip, proxy_createConnectionResult, implies_true, iff_true]
    refine ⟨⟨p.created, newConnection (connectionIdToString call.uuid) t ip 0 .established, ?_, rfl⟩,
      by simp⟩
    have huuid : call.env.uuid = call.uuid := rfl
    simp [createConnection, hip, hagent, TcpProxy.getConnection, TcpProxy.addObject, openState, huuid]
  · rw [if_neg hsucceeds, socketClosed_createConnectionResult, proxy_createConnectionResult,
      length_closeCalls]
    cases hadmitted : admitClient allows call.env with
    | none => simp [createConnection, hadmitted]
    | some ip =>
        -- past the checks a failure does not close the socket
        have hagent : call.env.agent ≠ some true := fun h => hsucceeds ⟨by simp [hadmitted], h⟩
        simp [hagent]

end

/-- A call for `db` whose checks pass. -/
def sampleCall (agent : Option (Agent.State × WriteOutcome)) : CreateCall :=
  ⟨sampleEnv.tunnel, sampleEnv.clientIp, true, agent, sampleEnv.uuid⟩

/-- The agent is gone, or the write of the TCP_OPEN frame fails: the socket stays open, in the
first case nothing is reported, and in the second the connection stays in the map. -/
theorem not_creates_atomically :
    ¬ CreatesAtomically (fun _ _ => true) .init (sampleCall none) "db".toList ∧
      ¬ CreatesAtomically (fun _ _ => true) .init (sampleCall (some (.connected, .error)))
        "db".toList := by
  constructor
  all_goals
    intro h
    rw [CreatesAtomically, if_neg (by decide)] at h
    exact absurd h.2.1 (by decide)

end Protogate.Proxy
