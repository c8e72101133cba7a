import Protogate.Lib.Printing
import Protogate.Server.AcceptLoops
import Protogate.Server.ListeningPorts
import Protogate.Utils.Config

/-!
# The server process

`main` reads the configuration, starts the servers one after the other and then the threads of the
pool; it waits for a signal and stops the servers in the same order.  An exception from a start ends
the process, as does the log call with the texts of the configuration if it cannot print them.
Handlers run on the threads of the pool only, so none runs while a start is under way; that of a TCP
listener is one step here.

A port that the process has bound cannot be bound again; for the others the result of a bind is
part of the event.

## Main definitions

* `Process`, `Phase`, `processStep` — the servers and the main thread.
* `allPorts`, `Process.openPorts` — the ports of a configuration, and those bound so far.
* `process_serves` — between the start and the signal every server accepts on its port.
* `startup_iff` — the process gets there if its ports are distinct and its texts can be printed.
-/

namespace Protogate.Server

open Protogate.Lib Protogate.Utils

/-! ## The process -/

/-- Where the main thread stands: the call that comes next. -/
inductive Phase
  | startHttp
  | startHealth
  | startAgent
  | startTcp
  | startPool
  /-- Waiting for the signal. -/
  | serving
  | stopHttp
  | stopHealth
  | stopAgent
  | stopTcp
  | stopPool
  deriving DecidableEq, Repr

/-- The order of the calls. -/
def Phase.rank : Phase → ℕ
  | .startHttp => 0
  | .startHealth => 1
  | .startAgent => 2
  | .startTcp => 3
  | .startPool => 4
  | .serving => 5
  | .stopHttp => 6
  | .stopHealth => 7
  | .stopAgent => 8
  | .stopTcp => 9
  | .stopPool => 10

inductive Ending
  | returned (code : ℕ)
  /-- An exception has left a handler. -/
  | terminated
  deriving DecidableEq, Repr

structure Process where
  config : Config
  http : LoopServer
  health : LoopServer
  agent : LoopServer
  tcp : ListeningServer
  phase : Phase
  signalled : Bool
  ending : Option Ending
  deriving DecidableEq, Repr

/-- What happens at a listening socket: a client, an error, the handler of an accept or its end. -/
inductive SocketEvent
  | connect
  | fail
  | accepted (client : Bool)
  | handled
  deriving DecidableEq, Repr

inductive TcpSocketEvent
  | connect
  | fail
  | accepted (outcome : AcceptOutcome)
  deriving DecidableEq, Repr

inductive ProcessEvent
  /-- The main thread goes on; `result` is that of a bind to a port the process does not hold. -/
  | main (result : BindResult)
  | signal
  | http (e : SocketEvent)
  | health (e : SocketEvent)
  | agent (e : SocketEvent)
  | tcp (i : ℕ) (e : TcpSocketEvent)
  deriving DecidableEq, Repr

/-- The port of the health server. -/
def healthPort : ℕ := 8080

/-- The ports in the order in which they are bound. -/
def allPorts (c : Config) : List ℕ := c.port :: healthPort :: c.agentPort :: c.tcpPorts

def portIf (isOpen : Bool) (port : ℕ) : List ℕ := if isOpen then [port] else []

namespace Process

/-- The log calls of `main` with texts of the configuration return. -/
def logsConfig (printer : Printer) (config : Config) : Bool :=
  printer.logs ["1.0.0".toList, decimal config.port, decimal config.agentPort, config.dnsZone] &&
    printer.logs [config.keyVaultUri]

/-- The process after `from_environment` and these calls. -/
def start (printer : Printer) (config : Config) : Process :=
  ⟨config, .init, .init, .init, .init config.tcpPorts, .startHttp, false,
    if logsConfig printer config then none else some (.returned 1)⟩

/-- The ports that are bound. -/
def openPorts (s : Process) : List ℕ :=
  portIf s.http.acceptor.isOpen s.config.port ++
    (portIf s.health.acceptor.isOpen healthPort ++
      (portIf s.agent.acceptor.isOpen s.config.agentPort ++
        (s.tcp.listeners.filter (·.acceptor.isOpen)).map (·.port)))

def bindResult (s : Process) (port : ℕ) (result : BindResult) : BindResult :=
  if result = .ok ∧ port ∈ s.openPorts then .notBound else result

/-- The threads of the pool are running. -/
def poolRuns (s : Process) : Bool := decide (Phase.startPool.rank < s.phase.rank)

/-- After a start, which has succeeded or thrown. -/
def after (s : Process) (started : Bool) (next : Phase) : Process :=
  if started then { s with phase := next } else { s with ending := some (.returned 1) }

/-- The port of the listener that the loop of `TCPServer::start` has come to. -/
def nextTcpPort (s : Process) : ℕ :=
  ((s.tcp.starting.bind fun i => s.tcp.listeners[i]?).map (·.port)).getD 0

/-- A part of `TCPServer::start`. -/
def advanceTcp (s : Process) (result : BindResult) : ListeningServer :=
  match s.tcp.starting with
  | none => s.tcp.start
  | some _ => s.tcp.proceed (s.bindResult s.nextTcpPort result)

/-- The next call of `main`. -/
def main (s : Process) (result : BindResult) : Process :=
  match s.phase with
  | .startHttp =>
      let http := s.http.start (s.bindResult s.config.port result)
      { s with http }.after http.running .startHealth
  | .startHealth =>
      let health := s.health.start (s.bindResult healthPort result)
      { s with health }.after health.running .startAgent
  | .startAgent =>
      let agent := s.agent.start (s.bindResult s.config.agentPort result)
      { s with agent }.after agent.running .startTcp
  | .startTcp =>
      -- there is no TCP server without ports
      if s.config.tcpPorts = [] then { s with phase := .startPool }
      else
        let tcp := s.advanceTcp result
        if tcp.starting.isSome then { s with tcp } else { s with tcp }.after tcp.running .startPool
  | .startPool => { s with phase := .serving }
  | .serving => if s.signalled then { s with phase := .stopHttp } else s
  | .stopHttp => { s with http := s.http.stop, phase := .stopHealth }
  | .stopHealth => { s with health := s.health.stop, phase := .stopAgent }
  | .stopAgent => { s with agent := s.agent.stop, phase := .stopTcp }
  | .stopTcp => { s with tcp := s.tcp.stop, phase := .stopPool }
  | .stopPool => { s with ending := some (.returned 0) }

end Process

/-- An event at a socket of the first three servers. -/
def socketStep (step : LoopServer → LoopEvent → LoopServer) (poolRuns : Bool) (s : LoopServer) :
    SocketEvent → LoopServer
  | .connect => step s .connect
  | .fail => step s .fail
  | .accepted client => if poolRuns then step s (.accepted client) else s
  | .handled => if poolRuns then step s .handled else s

def tcpSocketStep (poolRuns : Bool) (s : ListeningServer) (i : ℕ) : TcpSocketEvent → ListeningServer
  | .connect => s.onAcceptor i Acceptor.connect
  | .fail => s.onAcceptor i Acceptor.fail
  | .accepted outcome => if poolRuns then s.handleAccept i outcome else s

/-- The event happens in a process that has not ended. -/
def Process.handle (s : Process) : ProcessEvent → Process
  | .main result => s.main result
  | .signal => { s with signalled := true }
  | .http e => { s with http := socketStep httpServerStep s.poolRuns s.http e }
  | .health e => { s with health := socketStep healthServerStep s.poolRuns s.health e }
  | .agent e => { s with agent := socketStep agentServerStep s.poolRuns s.agent e }
  | .tcp i e =>
      let tcp := tcpSocketStep s.poolRuns s.tcp i e
      { s with tcp, ending := if tcp.terminated then some .terminated else none }

def processStep (s : Process) (e : ProcessEvent) : Process :=
  if s.ending.isSome then s else s.handle e

/-! ## One server -/

/-- Open, with one accept that is pending or queued. -/
def One (a : Acceptor) : Prop := a.isOpen = true ∧ a.chains = 1

/-- Open, with one accept that is pending, or whose handler is queued or at work. -/
def LoopServer.Accepts (s : LoopServer) : Prop := s.acceptor.isOpen = true ∧ s.chains = 1

/-- A server that is started by the call of one rank and stopped by that of another: before it is
new, in between it is running with one accept, and then it is closed. -/
structure LoopAt (started stopped rank : ℕ) (s : LoopServer) : Prop where
  before : rank ≤ started → s = .init
  up : started < rank → rank ≤ stopped → s.running = true ∧ s.Accepts
  after : stopped < rank → s.running = false ∧ s.acceptor.isOpen = false

section
variable {s : LoopServer} {started stopped rank : ℕ}

/-- No accept of a new server has a handler. -/
theorem accepted_init (servesStopped client : Bool) :
    LoopServer.init.accepted servesStopped client = .init := by
  cases client <;> rfl

/-- The start of a new server. -/
theorem start_init (result : BindResult) :
    (LoopServer.init.start result).running = decide (result = .ok) ∧
      (result = .ok → (LoopServer.init.start result).Accepts) := by
  cases result <;> exact ⟨rfl, fun h => by cases h <;> exact ⟨rfl, rfl⟩⟩

/-- The handler of an accept of a running server begins the next. -/
theorem accepts_accepted {servesStopped client : Bool} (hrunning : s.running = true)
    (hone : s.Accepts) : (s.accepted servesStopped client).running = true ∧
      (s.accepted servesStopped client).Accepts := by
  obtain hsame | ⟨acceptor, htake, hacceptor, hruns, _, hchains⟩ :=
    accepted_cases servesStopped s client
  · rw [hsame]
    exact ⟨hrunning, hone⟩
  · obtain ⟨hopen, _⟩ := Acceptor.take_spec htake
    refine ⟨hruns.trans hrunning, ?_, hchains.trans hone.2⟩
    rw [hacceptor]
    exact hopen.trans hone.1

theorem closed_accepted {servesStopped client : Bool} (hrunning : s.running = false)
    (hclosed : s.acceptor.isOpen = false) :
    (s.accepted servesStopped client).running = false ∧
      (s.accepted servesStopped client).acceptor.isOpen = false := by
  obtain hsame | ⟨acceptor, htake, hacceptor, hruns, _⟩ := accepted_cases servesStopped s client
  · rw [hsame]
    exact ⟨hrunning, hclosed⟩
  · obtain ⟨hopen, _⟩ := Acceptor.take_spec htake
    rw [hacceptor]
    exact ⟨hruns.trans hrunning, hopen.trans hclosed⟩

theorem accepts_handled (hrunning : s.running = true) (hone : s.Accepts) :
    s.handled.running = true ∧ s.handled.Accepts := by
  obtain ⟨hruns, hopen, _⟩ := handled_frame s
  exact ⟨hruns.trans hrunning, hopen.trans hone.1, (chains_handled hrunning).trans hone.2⟩

theorem closed_handled (hrunning : s.running = false) (hclosed : s.acceptor.isOpen = false) :
    s.handled.running = false ∧ s.handled.acceptor.isOpen = false := by
  obtain ⟨hruns, hopen, _⟩ := handled_frame s
  exact ⟨hruns.trans hrunning, hopen.trans hclosed⟩

theorem LoopAt.socketStep {servesStopped poolRuns : Bool} (H : LoopAt started stopped rank s)
    (e : SocketEvent) :
    LoopAt started stopped rank (socketStep (loopStep servesStopped) poolRuns s e) := by
  cases e with
  | connect =>
      refine ⟨fun h => ?_, fun hlow hhigh => ?_, fun h => ?_⟩
      · rw [H.before h]
        rfl
      · obtain ⟨hrunning, hopen, hchains⟩ := H.up hlow hhigh
        exact ⟨hrunning, s.acceptor.isOpen_connect.trans hopen,
          (congrArg (· + s.working) s.acceptor.chains_connect).trans hchains⟩
      · obtain ⟨hrunning, hclosed⟩ := H.after h
        exact ⟨hrunning, s.acceptor.isOpen_connect.trans hclosed⟩
  | fail =>
      refine ⟨fun h => ?_, fun hlow hhigh => ?_, fun h => ?_⟩
      · rw [H.before h]
        rfl
      · obtain ⟨hrunning, hopen, hchains⟩ := H.up hlow hhigh
        exact ⟨hrunning, s.acceptor.isOpen_fail.trans hopen,
          (congrArg (· + s.working) s.acceptor.chains_fail).trans hchains⟩
      · obtain ⟨hrunning, hclosed⟩ := H.after h
        exact ⟨hrunning, s.acceptor.isOpen_fail.trans hclosed⟩
  | accepted client =>
      rw [Server.socketStep]
      split
      · refine ⟨fun h => ?_, fun hlow hhigh => ?_, fun h => ?_⟩
        · rw [H.before h]
          exact accepted_init servesStopped client
        · obtain ⟨hrunning, hone⟩ := H.up hlow hhigh
          exact accepts_accepted hrunning hone
        · obtain ⟨hrunning, hclosed⟩ := H.after h
          exact closed_accepted hrunning hclosed
      · exact H
  | handled =>
      rw [Server.socketStep]
      split
      · refine ⟨fun h => ?_, fun hlow hhigh => ?_, fun h => ?_⟩
        · rw [H.before h]
          rfl
        · obtain ⟨hrunning, hone⟩ := H.up hlow hhigh
          exact accepts_handled hrunning hone
        · obtain ⟨hrunning, hclosed⟩ := H.after h
          exact closed_handled hrunning hclosed
      · exact H

/-- The server is started by the call of its rank. -/
theorem LoopAt.start (H : LoopAt started stopped started s) (hlt : started < stopped)
    {result : BindResult} (hrunning : (s.start result).running = true) :
    LoopAt started stopped (started + 1) (s.start result) ∧ result = .ok := by
  obtain rfl := H.before (Nat.le_refl _)
  obtain ⟨hdecide, hone⟩ := start_init result
  have hok : result = .ok := by simpa [hdecide] using hrunning
  refine ⟨⟨fun h => ?_, fun _ _ => ⟨hrunning, hone hok⟩, fun h => ?_⟩, hok⟩
  · omega
  · omega

theorem LoopAt.start_ok (H : LoopAt started stopped started s) : (s.start .ok).running = true := by
  rw [H.before (Nat.le_refl _)]
  rfl

theorem LoopAt.stop (H : LoopAt started stopped stopped s) (hlt : started < stopped) :
    LoopAt started stopped (stopped + 1) s.stop := by
  obtain ⟨hrunning, _⟩ := H.up hlt (Nat.le_refl _)
  refine ⟨fun h => ?_, fun _ h => ?_, fun _ => ?_⟩
  · omega
  · omega
  · simp [LoopServer.stop, hrunning]

/-- The calls for other servers leave it alone. -/
theorem LoopAt.next (H : LoopAt started stopped rank s) (hstarted : rank ≠ started)
    (hstopped : rank ≠ stopped) : LoopAt started stopped (rank + 1) s := by
  refine ⟨fun h => H.before (by omega), fun hlow hhigh => H.up (by omega) (by omega), fun h => ?_⟩
  exact H.after (by omega)

end

/-! ## The listeners of the TCP server -/

/-- The first `k` listeners accept, and the others are new. -/
def Opened (k : ℕ) : ListeningServer → Prop :=
  EachListener fun i l => if i < k then One l.acceptor else l.acceptor = .new

structure TcpAt (ports : List ℕ) (rank : ℕ) (s : ListeningServer) : Prop where
  ports_eq : s.listeners.map (·.port) = ports
  notStarted : rank ≠ Phase.startTcp.rank ∨ ports = [] → s.starting = none
  starting : ∀ k, s.starting = some k → k ≤ s.listeners.length
  before : rank ≤ Phase.startTcp.rank → s.running = false ∧ Opened (s.starting.getD 0) s
  up : Phase.startTcp.rank < rank → rank ≤ Phase.stopTcp.rank →
    (ports ≠ [] → s.running = true) ∧ EachListener (fun _ l => One l.acceptor) s
  after : Phase.stopTcp.rank < rank →
    s.running = false ∧ EachListener (fun _ l => l.acceptor.isOpen = false) s

section
variable {s : ListeningServer} {ports : List ℕ} {rank i : ℕ} {l l' : Listener}

theorem map_port_put (hl : s.listeners[i]? = some l) (hport : l'.port = l.port) :
    (s.put i l').listeners.map (·.port) = s.listeners.map (·.port) := by
  obtain ⟨hi, rfl⟩ := List.getElem?_eq_some_iff.mp hl
  rw [ListeningServer.put, List.map_set, hport, ← List.getElem_map (fun l : Listener => l.port),
    List.set_getElem_self]
  simpa using hi

theorem map_port_onAcceptor (s : ListeningServer) (i : ℕ) (f : Acceptor → Acceptor) :
    (s.onAcceptor i f).listeners.map (·.port) = s.listeners.map (·.port) := by
  rw [ListeningServer.onAcceptor]
  split
  · rfl
  · rename_i l hl
    exact map_port_put hl rfl

theorem TcpAt.length_eq (H : TcpAt ports rank s) : s.listeners.length = ports.length := by
  simpa using congrArg List.length H.ports_eq

/-- An operation on an acceptor that leaves open ones open, keeps the accepts and does nothing to a
new one. -/
theorem TcpAt.onAcceptor {f : Acceptor → Acceptor} (hopen : ∀ a, (f a).isOpen = a.isOpen)
    (hchains : ∀ a, (f a).chains = a.chains) (hnew : f .new = .new) (H : TcpAt ports rank s) (i : ℕ) :
    TcpAt ports rank (s.onAcceptor i f) := by
  obtain ⟨hrunning, hstarting⟩ := onAcceptor_running s i f
  have hports := map_port_onAcceptor s i f
  have hone : ∀ a, One a → One (f a) := fun a h => ⟨(hopen a).trans h.1, (hchains a).trans h.2⟩
  have hlength : (s.onAcceptor i f).listeners.length = s.listeners.length := by
    simpa using congrArg List.length hports
  refine ⟨hports.trans H.ports_eq, fun h => hstarting.trans (H.notStarted h), fun k hk => ?_,
    fun h => ?_, fun hlow hhigh => ?_, fun h => ?_⟩
  · rw [hstarting] at hk
    rw [hlength]
    exact H.starting k hk
  · obtain ⟨hidle, hopened⟩ := H.before h
    rw [hrunning, hstarting]
    refine ⟨hidle, EachListener.onAcceptor (fun j l hl => ?_) hopened i⟩
    by_cases hj : j < s.starting.getD 0
    · rw [if_pos hj] at hl ⊢
      exact hone l.acceptor hl
    · rw [if_neg hj] at hl ⊢
      exact (congrArg f hl).trans hnew
  · obtain ⟨hrun, hall⟩ := H.up hlow hhigh
    rw [hrunning]
    exact ⟨hrun, hall.onAcceptor (fun _ l => hone l.acceptor) i⟩
  · obtain ⟨hidle, hall⟩ := H.after h
    rw [hrunning]
    exact ⟨hidle, hall.onAcceptor (fun _ l hl => (hopen l.acceptor).trans hl) i⟩

/-- The handler of an accept. -/
theorem TcpAt.handleAccept (H : TcpAt ports rank s) (hrank : Phase.startTcp.rank < rank) (i : ℕ)
    (outcome : AcceptOutcome) : TcpAt ports rank (s.handleAccept i outcome) := by
  rcases s.handleAccept_cases i outcome with heq | heq | ⟨l, a, n, hl, hopen, hchains, _, heq⟩
  · rw [heq]
    exact H
  · rw [heq]
    exact ⟨H.ports_eq, H.notStarted, H.starting, H.before, H.up, H.after⟩
  · rw [heq]
    have hports := @map_port_put s i l
      { l with acceptor := if s.running then a.asyncAccept else a, served := n } hl rfl
    refine ⟨hports.trans H.ports_eq, H.notStarted, fun k hk => ?_, fun h => ?_, fun hlow hhigh => ?_,
      fun h => ?_⟩
    · simpa [ListeningServer.put] using H.starting k hk
    · omega
    · obtain ⟨hrun, hall⟩ := H.up hlow hhigh
      have hne : ports ≠ [] := by
        rintro rfl
        have hnone := List.map_eq_nil_iff.mp H.ports_eq
        simp [hnone] at hl
      refine ⟨hrun, hall.put ?_⟩
      obtain ⟨hisOpen, hchain⟩ := hall i l hl
      rw [hrun hne]
      refine ⟨by simpa using hopen.trans hisOpen, ?_⟩
      show a.asyncAccept.chains = 1
      rw [Acceptor.chains_asyncAccept]
      omega
    · obtain ⟨hidle, hall⟩ := H.after h
      refine ⟨hidle, hall.put ?_⟩
      show (if s.running then a.asyncAccept else a).isOpen = false
      rw [hidle]
      exact hopen.trans (hall i l hl)

theorem TcpAt.socketStep {poolRuns : Bool} (H : TcpAt ports rank s)
    (hpool : poolRuns = true → Phase.startTcp.rank < rank) (i : ℕ) (e : TcpSocketEvent) :
    TcpAt ports rank (tcpSocketStep poolRuns s i e) := by
  cases e with
  | connect => exact H.onAcceptor Acceptor.isOpen_connect Acceptor.chains_connect rfl i
  | fail => exact H.onAcceptor Acceptor.isOpen_fail Acceptor.chains_fail rfl i
  | accepted outcome =>
      rw [tcpSocketStep]
      split
      · rename_i hruns
        exact H.handleAccept (hpool hruns) i outcome
      · exact H

/-- `TCPServer::start` is called. -/
theorem TcpAt.start (H : TcpAt ports Phase.startTcp.rank s) (hports : ports ≠ [])
    (hnone : s.starting = none) :
    TcpAt ports Phase.startTcp.rank s.start ∧ s.start.starting = some 0 := by
  obtain ⟨hidle, hopened⟩ := H.before (Nat.le_refl _)
  have hstart : s.start = { s with starting := some 0 } := by
    rw [ListeningServer.start, hidle, hnone]
    rfl
  rw [hnone] at hopened
  rw [hstart]
  refine ⟨⟨H.ports_eq, fun h => ?_, fun k hk => ?_, fun _ => ⟨hidle, hopened⟩, fun h => ?_, fun h => ?_⟩,
    rfl⟩
  · exact absurd h (by simp [hports])
  · obtain rfl := Option.some.inj hk
    exact Nat.zero_le _
  · exact absurd h (Nat.lt_irrefl _)
  · exact absurd h (by decide)

/-- All listeners accept. -/
theorem TcpAt.finish (H : TcpAt ports Phase.startTcp.rank s) {k : ℕ} (hk : s.starting = some k)
    (hlast : s.listeners[k]? = none) (result : BindResult) :
    TcpAt ports Phase.startPool.rank (s.proceed result) ∧ (s.proceed result).starting = none ∧
      (s.proceed result).running = true := by
  obtain ⟨_, hopened⟩ := H.before (Nat.le_refl _)
  have hproceed : s.proceed result = { s with running := true, starting := none } := by
    simp only [ListeningServer.proceed, hk, hlast]
  rw [hk] at hopened
  rw [hproceed]
  refine ⟨⟨H.ports_eq, fun _ => rfl, fun k hk => ?_, fun h => ?_, fun _ _ => ⟨fun _ => rfl, ?_⟩,
    fun h => ?_⟩, rfl, rfl⟩
  · cases hk
  · exact absurd h (by decide)
  · intro i l hl
    change s.listeners[i]? = some l at hl
    have hi : i < k := by
      have hlength : s.listeners.length ≤ k := List.getElem?_eq_none_iff.mp hlast
      have hlt := (List.getElem?_eq_some_iff.mp hl).1
      omega
    simpa only [Option.getD_some, hi, if_true] using hopened i l hl
  · exact absurd h (by decide)

/-- The next listener is opened, or the start ends with an exception. -/
theorem TcpAt.open (H : TcpAt ports Phase.startTcp.rank s) {k : ℕ} (hk : s.starting = some k)
    (hl : s.listeners[k]? = some l) (result : BindResult) :
    (result = .ok ∧ TcpAt ports Phase.startTcp.rank (s.proceed result) ∧
        (s.proceed result).starting = some (k + 1)) ∨
      (result ≠ .ok ∧ (s.proceed result).starting = none ∧ (s.proceed result).running = false) := by
  obtain ⟨hidle, hopened⟩ := H.before (Nat.le_refl _)
  have hlength := (List.getElem?_eq_some_iff.mp hl).1
  rw [hk] at hopened
  have hnew : l.acceptor = .new := by simpa using hopened k l hl
  have hne : ports ≠ [] := by
    rintro rfl
    rw [List.map_eq_nil_iff.mp H.ports_eq] at hl
    cases hl
  by_cases hok : result = .ok
  · left
    subst hok
    have hproceed : s.proceed .ok =
        { s.put k { l with acceptor := ⟨true, 1, 0, 0⟩ } with starting := some (k + 1) } := by
      simp only [ListeningServer.proceed, hk, hl, hnew]
      rfl
    have hports := @map_port_put s k l { l with acceptor := ⟨true, 1, 0, 0⟩ } hl rfl
    rw [hproceed]
    refine ⟨rfl, ⟨hports.trans H.ports_eq, fun h => ?_, fun j hj => ?_, fun _ => ⟨hidle, ?_⟩,
      fun h => ?_, fun h => ?_⟩, rfl⟩
    · exact absurd h (by simp [hne])
    · obtain rfl := Option.some.inj hj
      refine Nat.succ_le_of_lt ?_
      simpa [ListeningServer.put] using hlength
    · refine EachListener.put_of_ne (fun j l' hj hl' => ?_) ?_
      · have hold := hopened j l' hl'
        simp only [Option.getD_some] at hold ⊢
        have hiff : j < k + 1 ↔ j < k := by omega
        simpa only [hiff] using hold
      · simp only [Option.getD_some, Nat.lt_succ_self, if_true]
        exact ⟨rfl, rfl⟩
    · exact absurd h (Nat.lt_irrefl _)
    · exact absurd h (by decide)
  · right
    have hbind : (l.acceptor.bindListen result).1 = false := by
      rw [hnew]
      cases result
      · exact absurd rfl hok
      · rfl
      · rfl
    have hproceed : s.proceed result =
        { s.put k { l with acceptor := (l.acceptor.bindListen result).2 } with starting := none } := by
      simp only [ListeningServer.proceed, hk, hl, hbind, Bool.false_eq_true, if_false]
    rw [hproceed]
    exact ⟨hok, rfl, hidle⟩

theorem TcpAt.stop (H : TcpAt ports Phase.stopTcp.rank s) :
    TcpAt ports (Phase.stopTcp.rank + 1) s.stop := by
  obtain ⟨hrunning, _⟩ := H.up (by decide) (Nat.le_refl _)
  have hnone := H.notStarted (.inl (by decide))
  by_cases hrun : s.running = true
  · have hstop : s.stop = { s with
        listeners := s.listeners.map fun l => { l with acceptor := l.acceptor.close }
        running := false } := by
      rw [ListeningServer.stop, hrun]
      rfl
    rw [hstop]
    refine ⟨?_, fun _ => hnone, fun k hk => ?_, fun h => ?_, fun _ h => ?_, fun _ => ⟨rfl, ?_⟩⟩
    · rw [← H.ports_eq, List.map_map]
      rfl
    · exact absurd (hnone.symm.trans hk) (by simp)
    · exact absurd h (by decide)
    · exact absurd h (by decide)
    · intro i l hl
      rw [List.getElem?_map] at hl
      obtain ⟨l', _, rfl⟩ := Option.map_eq_some_iff.mp hl
      rfl
  · have hports : ports = [] := by
      by_contra hne
      exact hrun (hrunning hne)
    rw [Bool.not_eq_true] at hrun
    have hstop : s.stop = s := by
      rw [ListeningServer.stop, hrun]
      rfl
    have hempty : s.listeners = [] := List.map_eq_nil_iff.mp (H.ports_eq.trans hports)
    rw [hstop]
    refine ⟨H.ports_eq, fun _ => hnone, H.starting, fun h => ?_, fun _ h => ?_, fun _ => ⟨hrun, ?_⟩⟩
    · exact absurd h (by decide)
    · exact absurd h (by decide)
    · intro i l hl
      simp [hempty] at hl

/-- Without ports there is nothing to start. -/
theorem TcpAt.skip (H : TcpAt ports Phase.startTcp.rank s) (hports : ports = []) :
    TcpAt ports Phase.startPool.rank s := by
  have hnone := H.notStarted (.inr hports)
  have hempty : s.listeners = [] := List.map_eq_nil_iff.mp (H.ports_eq.trans hports)
  refine ⟨H.ports_eq, fun _ => hnone, H.starting, fun h => ?_, fun _ _ => ⟨?_, ?_⟩, fun h => ?_⟩
  · exact absurd h (by decide)
  · exact fun hne => absurd hports hne
  · intro i l hl
    simp [hempty] at hl
  · exact absurd h (by decide)

/-- The calls for other servers. -/
theorem TcpAt.next (H : TcpAt ports rank s) (hstart : rank ≠ Phase.startTcp.rank)
    (hstop : rank ≠ Phase.stopTcp.rank) : TcpAt ports (rank + 1) s := by
  have hnone := H.notStarted (.inl hstart)
  refine ⟨H.ports_eq, fun _ => hnone, H.starting, fun h => H.before (by omega),
    fun hlow hhigh => H.up (by omega) (by omega), fun h => H.after (by omega)⟩

end

/-! ## The ports that are bound -/

/-- How many of the ports are bound before the process serves. -/
def Process.bound (s : Process) : ℕ :=
  match s.phase with
  | .startHttp => 0
  | .startHealth => 1
  | .startAgent => 2
  | .startTcp => 3 + s.tcp.starting.getD 0
  | _ => 3 + s.config.tcpPorts.length

/-- The servers stand where the main thread has brought them, and the ports bound so far differ. -/
structure InPlace (s : Process) : Prop where
  http : LoopAt Phase.startHttp.rank Phase.stopHttp.rank s.phase.rank s.http
  health : LoopAt Phase.startHealth.rank Phase.stopHealth.rank s.phase.rank s.health
  agent : LoopAt Phase.startAgent.rank Phase.stopAgent.rank s.phase.rank s.agent
  tcp : TcpAt s.config.tcpPorts s.phase.rank s.tcp
  signalled : Phase.serving.rank < s.phase.rank → s.signalled = true
  ports : ((allPorts s.config).take s.bound).Nodup

theorem take_allPorts (c : Config) : (allPorts c).take (3 + c.tcpPorts.length) = allPorts c :=
  List.take_of_length_le (by simp only [allPorts, List.length_cons]; omega)

/-- A predicate that holds of the first elements only. -/
theorem filter_eq_take {α : Type} {p : α → Bool} {xs : List α} {k : ℕ}
    (h : ∀ i x, xs[i]? = some x → (p x = true ↔ i < k)) : xs.filter p = xs.take k := by
  induction xs generalizing k with
  | nil => simp
  | cons x xs ih =>
      cases k with
      | zero =>
          rw [List.take_zero, List.filter_eq_nil_iff]
          intro y hy
          obtain ⟨i, hi⟩ := List.mem_iff_getElem?.mp hy
          simpa using h i y hi
      | succ k =>
          have hx : p x = true := (h 0 x rfl).mpr (by omega)
          have hxs := ih (k := k) fun i y hy => (h (i + 1) y (by simpa using hy)).trans (by omega)
          rw [List.take_succ_cons, List.filter_cons_of_pos hx, hxs]

theorem nodup_take_succ {ports : List ℕ} {n port : ℕ} (hport : ports[n]? = some port)
    (hnodup : (ports.take n).Nodup) (hnot : port ∉ ports.take n) : (ports.take (n + 1)).Nodup := by
  rw [List.take_add_one, hport]
  refine List.nodup_append.mpr ⟨hnodup, by simp, ?_⟩
  rintro a ha b hb rfl
  simp only [Option.toList_some, List.mem_singleton] at hb
  exact hnot (hb ▸ ha)

section
variable {s : Process} {started stopped rank port : ℕ} {server : LoopServer}

theorem LoopAt.portIf_before (H : LoopAt started stopped rank server) (h : rank ≤ started) :
    portIf server.acceptor.isOpen port = [] := by
  rw [H.before h]
  rfl

theorem LoopAt.portIf_up (H : LoopAt started stopped rank server) (hlow : started < rank)
    (hhigh : rank ≤ stopped) : portIf server.acceptor.isOpen port = [port] := by
  rw [portIf, if_pos (H.up hlow hhigh).2.1]

theorem TcpAt.openPorts_before {tcp : ListeningServer} {ports : List ℕ} (H : TcpAt ports rank tcp)
    (h : rank ≤ Phase.startTcp.rank) :
    (tcp.listeners.filter (·.acceptor.isOpen)).map (·.port) = ports.take (tcp.starting.getD 0) := by
  obtain ⟨_, hopened⟩ := H.before h
  have hfilter : tcp.listeners.filter (·.acceptor.isOpen) = tcp.listeners.take (tcp.starting.getD 0) :=
    filter_eq_take fun i l hl => by
      have hat := hopened i l hl
      dsimp only at hat
      by_cases hi : i < tcp.starting.getD 0
      · rw [if_pos hi] at hat
        simp [hat.1, hi]
      · rw [if_neg hi] at hat
        simp [hat, Acceptor.new, hi]
  rw [hfilter, List.map_take, H.ports_eq]

theorem TcpAt.openPorts_up {tcp : ListeningServer} {ports : List ℕ} (H : TcpAt ports rank tcp)
    (hlow : Phase.startTcp.rank < rank) (hhigh : rank ≤ Phase.stopTcp.rank) :
    (tcp.listeners.filter (·.acceptor.isOpen)).map (·.port) = ports := by
  obtain ⟨_, hall⟩ := H.up hlow hhigh
  rw [← H.ports_eq, List.filter_eq_self.mpr]
  intro l hl
  obtain ⟨i, hi⟩ := List.mem_iff_getElem?.mp hl
  exact (hall i l hi).1

/-- All ports are bound once the TCP server has started. -/
theorem InPlace.openPorts_up (H : InPlace s) (hlow : Phase.startTcp.rank < s.phase.rank)
    (hhigh : s.phase.rank ≤ Phase.stopHttp.rank) : s.openPorts = allPorts s.config := by
  have hhttp : portIf s.http.acceptor.isOpen s.config.port = [s.config.port] :=
    H.http.portIf_up (Nat.lt_of_le_of_lt (by decide) hlow) hhigh
  have hhealth : portIf s.health.acceptor.isOpen healthPort = [healthPort] :=
    H.health.portIf_up (Nat.lt_of_le_of_lt (by decide) hlow) (Nat.le_trans hhigh (by decide))
  have hagent : portIf s.agent.acceptor.isOpen s.config.agentPort = [s.config.agentPort] :=
    H.agent.portIf_up (Nat.lt_of_le_of_lt (by decide) hlow) (Nat.le_trans hhigh (by decide))
  rw [Process.openPorts, hhttp, hhealth, hagent,
    H.tcp.openPorts_up hlow (Nat.le_trans hhigh (by decide))]
  rfl

/-- Until the signal, the ports that are bound are the first ones. -/
theorem InPlace.openPorts_eq (H : InPlace s) (hrank : s.phase.rank ≤ Phase.serving.rank) :
    s.openPorts = (allPorts s.config).take s.bound := by
  have hhttp := H.http
  have hhealth := H.health
  have hagent := H.agent
  have htcp := H.tcp
  rw [Process.bound]
  cases hphase : s.phase with
  | startHttp =>
      rw [hphase] at hhttp hhealth hagent htcp
      rw [Process.openPorts, hhttp.portIf_before (by decide), hhealth.portIf_before (by decide),
        hagent.portIf_before (by decide), htcp.openPorts_before (by decide),
        htcp.notStarted (.inl (by decide))]
      rfl
  | startHealth =>
      rw [hphase] at hhttp hhealth hagent htcp
      rw [Process.openPorts, hhttp.portIf_up (by decide) (by decide), hhealth.portIf_before (by decide),
        hagent.portIf_before (by decide), htcp.openPorts_before (by decide),
        htcp.notStarted (.inl (by decide))]
      rfl
  | startAgent =>
      rw [hphase] at hhttp hhealth hagent htcp
      rw [Process.openPorts, hhttp.portIf_up (by decide) (by decide),
        hhealth.portIf_up (by decide) (by decide), hagent.portIf_before (by decide),
        htcp.openPorts_before (by decide), htcp.notStarted (.inl (by decide))]
      rfl
  | startTcp =>
      rw [hphase] at hhttp hhealth hagent htcp
      rw [Process.openPorts, hhttp.portIf_up (by decide) (by decide),
        hhealth.portIf_up (by decide) (by decide), hagent.portIf_up (by decide) (by decide),
        htcp.openPorts_before (by decide), Nat.add_comm]
      rfl
  | startPool =>
      rw [H.openPorts_up (by rw [hphase]; decide) (by rw [hphase]; decide)]
      exact (take_allPorts s.config).symm
  | serving =>
      rw [H.openPorts_up (by rw [hphase]; decide) (by rw [hphase]; decide)]
      exact (take_allPorts s.config).symm
  | stopHttp => exact absurd hrank (by rw [hphase]; decide)
  | stopHealth => exact absurd hrank (by rw [hphase]; decide)
  | stopAgent => exact absurd hrank (by rw [hphase]; decide)
  | stopTcp => exact absurd hrank (by rw [hphase]; decide)
  | stopPool => exact absurd hrank (by rw [hphase]; decide)

theorem bindResult_eq_ok_iff {result : BindResult} :
    s.bindResult port result = .ok ↔ result = .ok ∧ port ∉ s.openPorts := by
  rw [Process.bindResult]
  by_cases hok : result = .ok
  · by_cases hheld : port ∈ s.openPorts
    · simp [hok, hheld]
    · simp [hok, hheld]
  · simp [hok]

/-- A port that could be bound differs from those before it. -/
theorem InPlace.nodup_next (H : InPlace s) (hrank : s.phase.rank ≤ Phase.serving.rank)
    (hport : (allPorts s.config)[s.bound]? = some port) {result : BindResult}
    (hok : s.bindResult port result = .ok) : ((allPorts s.config).take (s.bound + 1)).Nodup := by
  have hnot := (bindResult_eq_ok_iff.mp hok).2
  rw [H.openPorts_eq hrank] at hnot
  exact nodup_take_succ hport H.ports hnot

/-! ## A step of the process -/

/-- Handlers run on the threads of the pool. -/
theorem rank_of_poolRuns (h : s.poolRuns = true) : Phase.startTcp.rank < s.phase.rank := by
  have hrank := of_decide_eq_true h
  simp only [Phase.rank] at hrank ⊢
  omega

theorem rank_le_startPool {phase : Phase} (hlow : phase.rank ≤ Phase.serving.rank)
    (hphase : phase ≠ .serving) : phase.rank ≤ Phase.startPool.rank := by
  have hne : phase.rank ≠ Phase.serving.rank := by
    cases phase with
    | serving => exact absurd rfl hphase
    | _ => decide
  exact Nat.le_of_lt_succ (Nat.lt_of_le_of_ne hlow hne)

/-- Before the signal nothing is said about it. -/
theorem signalled_of_rank (phase : Phase) (signalled : Bool) (h : phase.rank ≤ Phase.serving.rank) :
    Phase.serving.rank < phase.rank → signalled = true :=
  fun hlt => absurd hlt (Nat.not_lt.mpr h)

theorem InPlace.startHttp (H : InPlace s) (hphase : s.phase = .startHttp) {result : BindResult}
    (hrunning : (s.http.start (s.bindResult s.config.port result)).running = true) :
    InPlace { s with
      http := s.http.start (s.bindResult s.config.port result), phase := .startHealth } := by
  have hhttp := H.http
  have hhealth := H.health
  have hagent := H.agent
  have htcp := H.tcp
  rw [hphase] at hhttp hhealth hagent htcp
  obtain ⟨hstarted, hok⟩ := hhttp.start (by decide) hrunning
  have hbound : s.bound = 0 := by rw [Process.bound, hphase]
  have hnodup := H.nodup_next (by rw [hphase]; decide) (by rw [hbound]; rfl) hok
  rw [hbound] at hnodup
  exact ⟨hstarted, hhealth.next (by decide) (by decide), hagent.next (by decide) (by decide),
    htcp.next (by decide) (by decide), signalled_of_rank .startHealth _ (by decide), hnodup⟩

theorem InPlace.startHealth (H : InPlace s) (hphase : s.phase = .startHealth) {result : BindResult}
    (hrunning : (s.health.start (s.bindResult healthPort result)).running = true) :
    InPlace { s with
      health := s.health.start (s.bindResult healthPort result), phase := .startAgent } := by
  have hhttp := H.http
  have hhealth := H.health
  have hagent := H.agent
  have htcp := H.tcp
  rw [hphase] at hhttp hhealth hagent htcp
  obtain ⟨hstarted, hok⟩ := hhealth.start (by decide) hrunning
  have hbound : s.bound = 1 := by rw [Process.bound, hphase]
  have hnodup := H.nodup_next (by rw [hphase]; decide) (by rw [hbound]; rfl) hok
  rw [hbound] at hnodup
  exact ⟨hhttp.next (by decide) (by decide), hstarted, hagent.next (by decide) (by decide),
    htcp.next (by decide) (by decide), signalled_of_rank .startAgent _ (by decide), hnodup⟩

theorem InPlace.startAgent (H : InPlace s) (hphase : s.phase = .startAgent) {result : BindResult}
    (hrunning : (s.agent.start (s.bindResult s.config.agentPort result)).running = true) :
    InPlace { s with
      agent := s.agent.start (s.bindResult s.config.agentPort result), phase := .startTcp } := by
  have hhttp := H.http
  have hhealth := H.health
  have hagent := H.agent
  have htcp := H.tcp
  rw [hphase] at hhttp hhealth hagent htcp
  obtain ⟨hstarted, hok⟩ := hagent.start (by decide) hrunning
  have hbound : s.bound = 2 := by rw [Process.bound, hphase]
  have hnodup := H.nodup_next (by rw [hphase]; decide) (by rw [hbound]; rfl) hok
  have hnone := htcp.notStarted (.inl (by decide))
  rw [hbound] at hnodup
  refine ⟨hhttp.next (by decide) (by decide), hhealth.next (by decide) (by decide), hstarted,
    ?_, signalled_of_rank .startTcp _ (by decide), ?_⟩
  · exact htcp.next (by decide) (by decide)
  · rw [Process.bound]
    dsimp only
    rw [hnone]
    exact hnodup

/-- The loop of `TCPServer::start` has come to the next of all ports. -/
theorem InPlace.port_next (H : InPlace s) (hphase : s.phase = .startTcp) {k : ℕ} {l : Listener}
    (hstarting : s.tcp.starting = some k) (hlook : s.tcp.listeners[k]? = some l) :
    (allPorts s.config)[s.bound]? = some s.nextTcpPort := by
  have hbound : s.bound = 3 + s.tcp.starting.getD 0 := by rw [Process.bound, hphase]
  have hnext : s.nextTcpPort = l.port := by simp [Process.nextTcpPort, hstarting, hlook]
  have hport : s.config.tcpPorts[k]? = some l.port := by
    rw [← H.tcp.ports_eq, List.getElem?_map, hlook]
    rfl
  rw [hbound, hstarting, hnext, Option.getD_some, Nat.add_comm]
  exact hport

/-- A part of the start of the TCP server, if it does not throw. -/
theorem InPlace.startTcp (H : InPlace s) (hphase : s.phase = .startTcp) (hports : s.config.tcpPorts ≠ [])
    (result : BindResult) :
    ((s.advanceTcp result).starting.isSome = true → InPlace { s with tcp := s.advanceTcp result }) ∧
      ((s.advanceTcp result).starting = none → (s.advanceTcp result).running = true →
        InPlace { s with tcp := s.advanceTcp result, phase := .startPool }) := by
  have hhttp := H.http
  have hhealth := H.health
  have hagent := H.agent
  have htcp := H.tcp
  have hnodup := H.ports
  have hbound : s.bound = 3 + s.tcp.starting.getD 0 := by rw [Process.bound, hphase]
  rw [hbound] at hnodup
  rw [hphase] at hhttp hhealth hagent htcp
  -- what is kept while the start goes on
  have hstay : ∀ tcp : ListeningServer, TcpAt s.config.tcpPorts Phase.startTcp.rank tcp →
      ((allPorts s.config).take (3 + tcp.starting.getD 0)).Nodup → InPlace { s with tcp := tcp } := by
    intro tcp hat hnodup
    refine ⟨H.http, H.health, H.agent, ?_, H.signalled, ?_⟩
    · show TcpAt s.config.tcpPorts s.phase.rank tcp
      rw [hphase]
      exact hat
    · rw [Process.bound]
      dsimp only
      rw [hphase]
      exact hnodup
  cases hstarting : s.tcp.starting with
  | none =>
      have hadvance : s.advanceTcp result = s.tcp.start := by rw [Process.advanceTcp, hstarting]
      obtain ⟨hat, hzero⟩ := htcp.start hports hstarting
      rw [hadvance]
      rw [hstarting] at hnodup
      refine ⟨fun _ => hstay _ hat (by rw [hzero]; exact hnodup), fun hnone => ?_⟩
      exact absurd (hzero.symm.trans hnone) (by simp)
  | some k =>
      have hadvance : s.advanceTcp result = s.tcp.proceed (s.bindResult s.nextTcpPort result) := by
        rw [Process.advanceTcp, hstarting]
      rw [hadvance]
      rw [hstarting] at hnodup
      cases hlook : s.tcp.listeners[k]? with
      | none =>
          obtain ⟨hat, hnone, _⟩ := htcp.finish hstarting hlook (s.bindResult s.nextTcpPort result)
          refine ⟨fun hsome => absurd hsome (by simp [hnone]), fun _ _ => ?_⟩
          have hlength := htcp.length_eq
          have hk : k = s.config.tcpPorts.length := by
            have hle := htcp.starting k hstarting
            have hge := List.getElem?_eq_none_iff.mp hlook
            omega
          refine ⟨hhttp.next (by decide) (by decide), hhealth.next (by decide) (by decide),
            hagent.next (by decide) (by decide), hat, signalled_of_rank .startPool _ (by decide), ?_⟩
          show ((allPorts s.config).take (3 + s.config.tcpPorts.length)).Nodup
          rw [← hk]
          exact hnodup
      | some l =>
          rcases htcp.open hstarting hlook (s.bindResult s.nextTcpPort result) with
            ⟨hok, hat, hnext⟩ | ⟨_, hnone, hidle⟩
          · refine ⟨fun _ => hstay _ hat ?_, fun hnone => ?_⟩
            · have hport := H.port_next hphase hstarting hlook
              have hnodup := H.nodup_next (by rw [hphase]; decide) hport hok
              rw [hbound, hstarting] at hnodup
              rw [hnext]
              exact hnodup
            · exact absurd (hnext.symm.trans hnone) (by simp)
          · refine ⟨fun hsome => absurd hsome (by simp [hnone]), fun _ hrunning => ?_⟩
            exact absurd (hidle.symm.trans hrunning) (by simp)

/-- The process has not ended by an exception. -/
def Process.Regular (s : Process) : Prop := s.ending = none ∨ s.ending = some (.returned 0)

/-- Only a start that has succeeded leaves a process that is going on. -/
theorem Process.after_of_regular {started : Bool} {next : Phase}
    (h : (s.after started next).Regular) :
    started = true ∧ s.after started next = { s with phase := next } := by
  cases started with
  | true => exact ⟨rfl, rfl⟩
  | false => rcases h with h | h <;> cases h

/-- `main` is at the start of the TCP server, which takes several calls. -/
theorem InPlace.main_startTcp (H : InPlace s) (hphase : s.phase = .startTcp) {result : BindResult}
    (hregular : (s.main result).Regular) : InPlace (s.main result) := by
  have hhttp := H.http
  have hhealth := H.health
  have hagent := H.agent
  have htcp := H.tcp
  have hports := H.ports
  rw [Process.bound] at hports
  rw [hphase] at hhttp hhealth hagent htcp hports
  rw [Process.main, hphase] at hregular ⊢
  dsimp only at hregular ⊢
  by_cases hnil : s.config.tcpPorts = []
  · rw [if_pos hnil]
    refine ⟨hhttp.next (by decide) (by decide), hhealth.next (by decide) (by decide),
      hagent.next (by decide) (by decide), htcp.skip hnil,
      signalled_of_rank .startPool _ (by decide), ?_⟩
    show ((allPorts s.config).take (3 + s.config.tcpPorts.length)).Nodup
    have hnone := htcp.notStarted (.inr hnil)
    rw [hnil]
    dsimp only at hports
    rw [hnone] at hports
    exact hports
  · rw [if_neg hnil] at hregular ⊢
    obtain ⟨hgoesOn, hends⟩ := H.startTcp hphase hnil result
    by_cases hsome : (s.advanceTcp result).starting.isSome = true
    · rw [if_pos hsome]
      rw [hphase] at hgoesOn
      exact hgoesOn hsome
    · rw [if_neg hsome] at hregular ⊢
      obtain ⟨hrunning, hafter⟩ := Process.after_of_regular hregular
      rw [hafter]
      exact hends (by simpa using hsome) hrunning

/-- A call of `main` that does not end the process by an exception. -/
theorem InPlace.main (H : InPlace s) {result : BindResult}
    (hregular : (s.main result).Regular) : InPlace (s.main result) := by
  have hhttp := H.http
  have hhealth := H.health
  have hagent := H.agent
  have htcp := H.tcp
  have hports := H.ports
  rw [Process.bound] at hports
  cases hphase : s.phase with
  | startHttp =>
      rw [Process.main, hphase] at hregular ⊢
      obtain ⟨hrunning, hafter⟩ := Process.after_of_regular hregular
      dsimp only
      rw [hafter]
      exact H.startHttp hphase hrunning
  | startHealth =>
      rw [Process.main, hphase] at hregular ⊢
      obtain ⟨hrunning, hafter⟩ := Process.after_of_regular hregular
      dsimp only
      rw [hafter]
      exact H.startHealth hphase hrunning
  | startAgent =>
      rw [Process.main, hphase] at hregular ⊢
      obtain ⟨hrunning, hafter⟩ := Process.after_of_regular hregular
      dsimp only
      rw [hafter]
      exact H.startAgent hphase hrunning
  | startTcp => exact H.main_startTcp hphase hregular
  | startPool =>
      rw [hphase] at hhttp hhealth hagent htcp hports
      rw [Process.main, hphase]
      exact ⟨hhttp.next (by decide) (by decide), hhealth.next (by decide) (by decide),
        hagent.next (by decide) (by decide), htcp.next (by decide) (by decide),
        signalled_of_rank .serving _ (by decide), hports⟩
  | serving =>
      rw [hphase] at hhttp hhealth hagent htcp hports
      rw [Process.main, hphase]
      dsimp only
      split
      · rename_i hsignalled
        exact ⟨hhttp.next (by decide) (by decide), hhealth.next (by decide) (by decide),
          hagent.next (by decide) (by decide), htcp.next (by decide) (by decide),
          fun _ => hsignalled, hports⟩
      · exact H
  | stopHttp =>
      have hsignalled := H.signalled (by rw [hphase]; decide)
      rw [hphase] at hhttp hhealth hagent htcp hports
      rw [Process.main, hphase]
      exact ⟨hhttp.stop (by decide), hhealth.next (by decide) (by decide),
        hagent.next (by decide) (by decide), htcp.next (by decide) (by decide),
        fun _ => hsignalled, hports⟩
  | stopHealth =>
      have hsignalled := H.signalled (by rw [hphase]; decide)
      rw [hphase] at hhttp hhealth hagent htcp hports
      rw [Process.main, hphase]
      exact ⟨hhttp.next (by decide) (by decide), hhealth.stop (by decide),
        hagent.next (by decide) (by decide), htcp.next (by decide) (by decide),
        fun _ => hsignalled, hports⟩
  | stopAgent =>
      have hsignalled := H.signalled (by rw [hphase]; decide)
      rw [hphase] at hhttp hhealth hagent htcp hports
      rw [Process.main, hphase]
      exact ⟨hhttp.next (by decide) (by decide), hhealth.next (by decide) (by decide),
        hagent.stop (by decide), htcp.next (by decide) (by decide), fun _ => hsignalled, hports⟩
  | stopTcp =>
      have hsignalled := H.signalled (by rw [hphase]; decide)
      rw [hphase] at hhttp hhealth hagent htcp hports
      rw [Process.main, hphase]
      exact ⟨hhttp.next (by decide) (by decide), hhealth.next (by decide) (by decide),
        hagent.next (by decide) (by decide), htcp.stop, fun _ => hsignalled, hports⟩
  | stopPool =>
      have hmain : s.main result = { s with ending := some (.returned 0) } := by
        rw [Process.main, hphase]
      rw [hmain]
      exact ⟨H.http, H.health, H.agent, H.tcp, H.signalled, H.ports⟩

/-- What holds of a process of this configuration, unless an exception has ended it. -/
structure Sound (c : Config) (s : Process) : Prop where
  config : s.config = c
  inPlace : s.Regular → InPlace s
  returned : s.ending = some (.returned 0) → s.phase = .stopPool

theorem config_main (s : Process) (result : BindResult) : (s.main result).config = s.config := by
  rw [Process.main]
  unfold Process.after
  split <;> (try dsimp only) <;> (repeat' split) <;> rfl

/-- A start does not end the process, or with 1. -/
theorem ending_after (hlive : s.ending = none) (started : Bool) (next : Phase) :
    (s.after started next).ending ≠ some (.returned 0) := by
  rw [Process.after]
  split
  · simp [hlive]
  · simp

/-- Only the last call ends the process without an exception. -/
theorem returned_main (hlive : s.ending = none) {result : BindResult}
    (h : (s.main result).ending = some (.returned 0)) : (s.main result).phase = .stopPool := by
  rw [Process.main] at h ⊢
  split at h
  · exact absurd h (ending_after (by exact hlive) _ _)
  · exact absurd h (ending_after (by exact hlive) _ _)
  · exact absurd h (ending_after (by exact hlive) _ _)
  · dsimp only at h
    split at h
    · exact absurd (hlive.symm.trans h) (by simp)
    · split at h
      · exact absurd (hlive.symm.trans h) (by simp)
      · exact absurd h (ending_after (by exact hlive) _ _)
  · exact absurd (hlive.symm.trans h) (by simp)
  · split at h
    · exact absurd (hlive.symm.trans h) (by simp)
    · exact absurd (hlive.symm.trans h) (by simp)
  · exact absurd (hlive.symm.trans h) (by simp)
  · exact absurd (hlive.symm.trans h) (by simp)
  · exact absurd (hlive.symm.trans h) (by simp)
  · exact absurd (hlive.symm.trans h) (by simp)
  · rename_i hphase
    rw [hphase]

theorem starting_tcpSocketStep (poolRuns : Bool) (tcp : ListeningServer) (i : ℕ) (e : TcpSocketEvent) :
    (tcpSocketStep poolRuns tcp i e).starting = tcp.starting := by
  cases e with
  | connect => exact (onAcceptor_running tcp i _).2
  | fail => exact (onAcceptor_running tcp i _).2
  | accepted outcome =>
      rw [tcpSocketStep]
      split
      · rcases tcp.handleAccept_cases i outcome with heq | heq | ⟨l, a, n, _, _, _, _, heq⟩
        · rw [heq]
        · rw [heq]
        · rw [heq]
          rfl
      · rfl

theorem sound_step {c : Config} (s : Process) (e : ProcessEvent) (H : Sound c s) :
    Sound c (processStep s e) := by
  rw [processStep]
  cases hlive : s.ending with
  | some ending => exact H
  | none =>
      have hplace := H.inPlace (.inl hlive)
      simp only [Option.isSome_none, Bool.false_eq_true, if_false]
      cases e with
      | main result =>
          exact ⟨(config_main s result).trans H.config, hplace.main, returned_main hlive⟩
      | signal =>
          refine ⟨H.config, fun _ => ?_, fun h => absurd (hlive.symm.trans h) (by simp)⟩
          exact ⟨hplace.http, hplace.health, hplace.agent, hplace.tcp, fun _ => rfl, hplace.ports⟩
      | http e =>
          refine ⟨H.config, fun _ => ?_, fun h => absurd (hlive.symm.trans h) (by simp)⟩
          exact ⟨hplace.http.socketStep e, hplace.health, hplace.agent, hplace.tcp, hplace.signalled,
            hplace.ports⟩
      | health e =>
          refine ⟨H.config, fun _ => ?_, fun h => absurd (hlive.symm.trans h) (by simp)⟩
          exact ⟨hplace.http, hplace.health.socketStep e, hplace.agent, hplace.tcp, hplace.signalled,
            hplace.ports⟩
      | agent e =>
          refine ⟨H.config, fun _ => ?_, fun h => absurd (hlive.symm.trans h) (by simp)⟩
          exact ⟨hplace.http, hplace.health, hplace.agent.socketStep e, hplace.tcp, hplace.signalled,
            hplace.ports⟩
      | tcp i e =>
          refine ⟨H.config, fun _ => ?_, fun h => ?_⟩
          · refine ⟨hplace.http, hplace.health, hplace.agent,
              hplace.tcp.socketStep rank_of_poolRuns i e, hplace.signalled, ?_⟩
            have hports := hplace.ports
            rw [Process.bound] at hports ⊢
            rw [← starting_tcpSocketStep s.poolRuns s.tcp i e] at hports
            exact hports
          · rw [Process.handle] at h
            dsimp only at h
            split at h <;> cases h

end

/-! ## Between the start and the signal -/

/-- Every server accepts on its port. -/
structure Serving (s : Process) : Prop where
  http : s.http.running = true ∧ s.http.Accepts
  health : s.health.running = true ∧ s.health.Accepts
  agent : s.agent.running = true ∧ s.agent.Accepts
  tcp : (s.config.tcpPorts ≠ [] → s.tcp.running = true) ∧ EachListener (fun _ l => One l.acceptor) s.tcp
  openPorts : s.openPorts = allPorts s.config
  distinct : s.openPorts.Nodup

/-- Nothing is open. -/
structure Stopped (s : Process) : Prop where
  signalled : s.signalled = true
  http : s.http.running = false ∧ s.http.acceptor.isOpen = false
  health : s.health.running = false ∧ s.health.acceptor.isOpen = false
  agent : s.agent.running = false ∧ s.agent.acceptor.isOpen = false
  tcp : s.tcp.running = false ∧ EachListener (fun _ l => l.acceptor.isOpen = false) s.tcp

section
variable {s : Process} {c : Config}

theorem InPlace.serving (H : InPlace s) (hphase : s.phase = .serving) : Serving s := by
  have hopen := H.openPorts_up (by rw [hphase]; decide) (by rw [hphase]; decide)
  have hbound : s.bound = 3 + s.config.tcpPorts.length := by rw [Process.bound, hphase]
  have hports := H.ports
  rw [hbound, take_allPorts, ← hopen] at hports
  have hhttp := H.http
  have hhealth := H.health
  have hagent := H.agent
  have htcp := H.tcp
  rw [hphase] at hhttp hhealth hagent htcp
  exact ⟨hhttp.up (by decide) (by decide), hhealth.up (by decide) (by decide),
    hagent.up (by decide) (by decide), htcp.up (by decide) (by decide), hopen, hports⟩

theorem InPlace.stopped (H : InPlace s) (hphase : s.phase = .stopPool) : Stopped s := by
  have hsignalled := H.signalled (by rw [hphase]; decide)
  have hhttp := H.http
  have hhealth := H.health
  have hagent := H.agent
  have htcp := H.tcp
  rw [hphase] at hhttp hhealth hagent htcp
  exact ⟨hsignalled, hhttp.after (by decide), hhealth.after (by decide), hagent.after (by decide),
    htcp.after (by decide)⟩

theorem LoopAt.init (started stopped : ℕ) : LoopAt started stopped 0 .init := by
  refine ⟨fun _ => rfl, fun h => ?_, fun h => ?_⟩
  · omega
  · omega

theorem TcpAt.init (ports : List ℕ) : TcpAt ports 0 (.init ports) := by
  refine ⟨?_, fun _ => rfl, fun k hk => ?_, fun _ => ⟨rfl, ?_⟩, fun h => ?_, fun h => ?_⟩
  · simp [ListeningServer.init, Function.comp_def]
  · cases hk
  · have hnone : (ListeningServer.init ports).starting.getD 0 = 0 := rfl
    intro i l hl
    obtain ⟨port, _, rfl⟩ := List.mem_map.mp (List.mem_of_getElem? hl)
    rw [hnone, if_neg (Nat.not_lt_zero i)]
  · exact absurd h (by decide)
  · exact absurd h (by decide)

theorem inPlace_start (printer : Printer) (c : Config) : InPlace (.start printer c) :=
  ⟨LoopAt.init _ _, LoopAt.init _ _, LoopAt.init _ _, TcpAt.init c.tcpPorts,
    signalled_of_rank .startHttp _ (by decide), List.nodup_nil⟩

theorem sound_start (printer : Printer) (c : Config) : Sound c (.start printer c) := by
  refine ⟨rfl, fun _ => inPlace_start printer c, fun h => ?_⟩
  simp only [Process.start] at h
  split at h <;> cases h

/-- **The servers of the process.**  In every run, between the start and the signal each server is
running and accepts on its port, and these are all the ports that are bound; a process that returns 0
was told to stop and has closed everything. -/
theorem process_serves (printer : Printer) (c : Config) (evs : List ProcessEvent) :
    let s := run processStep (.start printer c) evs
    s.config = c ∧ (s.ending = none → s.phase = .serving → Serving s) ∧
      (s.ending = some (.returned 0) → Stopped s) := by
  have H : Sound c (run processStep (.start printer c) evs) :=
    run_invariant (Sound c) sound_step (sound_start printer c)
  refine ⟨H.config, fun hlive hphase => ?_, fun hended => ?_⟩
  · exact (H.inPlace (.inl hlive)).serving hphase
  · exact (H.inPlace (.inr hended)).stopped (H.returned hended)

/-! ## The start -/

def ProcessEvent.isMain : ProcessEvent → Bool
  | .main _ => true
  | _ => false

/-- The calls of `main` before the process serves, those of the loop of `TCPServer::start` included. -/
def Process.callsLeft (s : Process) : ℕ :=
  match s.phase with
  | .startHttp => 6 + s.config.tcpPorts.length
  | .startHealth => 5 + s.config.tcpPorts.length
  | .startAgent => 4 + s.config.tcpPorts.length
  | .startTcp =>
      match s.tcp.starting with
      | none => 3 + s.config.tcpPorts.length
      | some k => 2 + s.config.tcpPorts.length - k
  | .startPool => 1
  | _ => 0

/-- The start has come this far without an exception. -/
structure Starting (c : Config) (s : Process) : Prop where
  config : s.config = c
  inPlace : InPlace s
  live : s.ending = none
  regular : s.tcp.terminated = false
  phase : s.phase.rank ≤ Phase.serving.rank

theorem starting_start {printer : Printer} {c : Config} (h : Process.logsConfig printer c = true) :
    Starting c (.start printer c) :=
  ⟨rfl, inPlace_start printer c, if_pos h, rfl,
    show Phase.startHttp.rank ≤ Phase.serving.rank by decide⟩

/-- The ports can be printed in any case. -/
theorem logsConfig_iff {printer : Printer} {c : Config} : Process.logsConfig printer c = true ↔
    printer.prints c.dnsZone = true ∧ printer.prints c.keyVaultUri = true := by
  have hversion := printer.prints_of_isAscii "1.0.0".toList rfl
  have hport (n : ℕ) : printer.prints (decimal n) = true :=
    printer.prints_of_isAscii _ (isAscii_decimal n)
  simp only [Process.logsConfig, Printer.logs, List.all_cons, List.all_nil, hversion, hport,
    Bool.true_and, Bool.and_true, Bool.and_eq_true]

/-- A process that has ended stays as it is. -/
theorem run_of_ended {s : Process} (h : s.ending.isSome = true) (evs : List ProcessEvent) :
    run processStep s evs = s :=
  run_invariant (· = s) (fun s' e h' => by rw [h', processStep, if_pos h]) rfl

theorem not_mem_take {ports : List ℕ} {n port : ℕ} (hnodup : ports.Nodup)
    (hport : ports[n]? = some port) : port ∉ ports.take n := by
  have hnext : (ports.take (n + 1)).Nodup := hnodup.sublist (List.take_sublist _ _)
  rw [List.take_add_one, hport] at hnext
  exact fun hmem => (List.nodup_append.mp hnext).2.2 port hmem port (by simp) rfl

/-- Where the ports differ, the next one can be bound. -/
theorem InPlace.bind (H : InPlace s) (hrank : s.phase.rank ≤ Phase.serving.rank)
    (hdistinct : (allPorts s.config).Nodup) {port : ℕ}
    (hport : (allPorts s.config)[s.bound]? = some port) : s.bindResult port .ok = .ok := by
  refine bindResult_eq_ok_iff.mpr ⟨rfl, ?_⟩
  rw [H.openPorts_eq hrank]
  exact not_mem_take hdistinct hport

theorem terminated_start (tcp : ListeningServer) : tcp.start.terminated = tcp.terminated := by
  rw [ListeningServer.start]
  split <;> rfl

theorem terminated_proceed (tcp : ListeningServer) (result : BindResult) :
    (tcp.proceed result).terminated = tcp.terminated := by
  rw [ListeningServer.proceed]
  split
  · rfl
  · split
    · rfl
    · dsimp only
      split <;> rfl

theorem terminated_onAcceptor (tcp : ListeningServer) (i : ℕ) (f : Acceptor → Acceptor) :
    (tcp.onAcceptor i f).terminated = tcp.terminated := by
  rw [ListeningServer.onAcceptor]
  split <;> rfl

/-- What a call leaves to show, once it is known that the process goes on. -/
structure GoesOn (s s' : Process) : Prop where
  live : s'.ending = none
  regular : s'.tcp.terminated = false
  phase : s'.phase.rank ≤ Phase.serving.rank
  fewer : s'.callsLeft < s.callsLeft

theorem Starting.goesOn_tcp (H : Starting c s) (hdistinct : (allPorts s.config).Nodup)
    (hphase : s.phase = .startTcp) (hports : s.config.tcpPorts ≠ []) : GoesOn s (s.main .ok) := by
  have htcp := H.inPlace.tcp
  rw [hphase] at htcp
  have hlength := htcp.length_eq
  -- a part after which the start goes on
  have hmain : ∀ tcp, s.advanceTcp .ok = tcp → tcp.starting.isSome = true →
      s.main .ok = { s with tcp := tcp } := by
    rintro tcp rfl hsome
    rw [Process.main, hphase]
    dsimp only
    rw [if_neg hports, if_pos hsome]
  cases hstarting : s.tcp.starting with
  | none =>
      have hadvance : s.advanceTcp .ok = s.tcp.start := by rw [Process.advanceTcp, hstarting]
      obtain ⟨_, hzero⟩ := htcp.start hports hstarting
      rw [hmain _ hadvance (by rw [hzero]; rfl)]
      refine ⟨H.live, (terminated_start s.tcp).trans H.regular, H.phase, ?_⟩
      rw [Process.callsLeft, Process.callsLeft, hphase]
      dsimp only
      rw [hzero, hstarting]
      dsimp only
      omega
  | some k =>
      have hadvance : s.advanceTcp .ok = s.tcp.proceed (s.bindResult s.nextTcpPort .ok) := by
        rw [Process.advanceTcp, hstarting]
      cases hlook : s.tcp.listeners[k]? with
      | none =>
          obtain ⟨_, hnone, hrunning⟩ := htcp.finish hstarting hlook (s.bindResult s.nextTcpPort .ok)
          have hlast : s.main .ok =
              { s with tcp := s.tcp.proceed (s.bindResult s.nextTcpPort .ok), phase := .startPool } := by
            rw [Process.main, hphase]
            dsimp only [Process.after]
            rw [if_neg hports, hadvance, if_neg (by simp [hnone]), if_pos hrunning]
          have hk := htcp.starting k hstarting
          rw [hlast]
          refine ⟨H.live, (terminated_proceed s.tcp _).trans H.regular,
            show Phase.startPool.rank ≤ Phase.serving.rank by decide, ?_⟩
          rw [Process.callsLeft, Process.callsLeft, hphase]
          dsimp only
          rw [hstarting]
          dsimp only
          omega
      | some l =>
          have hbind := H.inPlace.bind H.phase hdistinct (H.inPlace.port_next hphase hstarting hlook)
          rcases htcp.open hstarting hlook (s.bindResult s.nextTcpPort .ok) with
            ⟨_, _, hnext⟩ | ⟨hfailed, _⟩
          · have hk := (List.getElem?_eq_some_iff.mp hlook).1
            rw [hmain _ hadvance (by rw [hnext]; rfl)]
            refine ⟨H.live, (terminated_proceed s.tcp _).trans H.regular, H.phase, ?_⟩
            rw [Process.callsLeft, Process.callsLeft, hphase]
            dsimp only
            rw [hnext, hstarting]
            dsimp only
            omega
          · exact absurd hbind hfailed

theorem Starting.goesOn (H : Starting c s) (hdistinct : (allPorts s.config).Nodup)
    (hphase : s.phase ≠ .serving) : GoesOn s (s.main .ok) := by
  have hhttp := H.inPlace.http
  have hhealth := H.inPlace.health
  have hagent := H.inPlace.agent
  have hbind : ∀ port, (allPorts s.config)[s.bound]? = some port → s.bindResult port .ok = .ok :=
    fun _ => H.inPlace.bind H.phase hdistinct
  have hlow := H.phase
  rw [Process.bound] at hbind
  cases hcall : s.phase with
  | startHttp =>
      rw [hcall] at hhttp hbind
      have hrunning : (s.http.start (s.bindResult s.config.port .ok)).running = true := by
        rw [hbind _ rfl]
        exact hhttp.start_ok
      have hmain : s.main .ok =
          { s with http := s.http.start (s.bindResult s.config.port .ok), phase := .startHealth } := by
        rw [Process.main, hcall]
        dsimp only [Process.after]
        rw [if_pos hrunning]
      rw [hmain]
      refine ⟨H.live, H.regular, show Phase.startHealth.rank ≤ Phase.serving.rank by decide, ?_⟩
      rw [Process.callsLeft, Process.callsLeft, hcall]
      dsimp only
      omega
  | startHealth =>
      rw [hcall] at hhealth hbind
      have hrunning : (s.health.start (s.bindResult healthPort .ok)).running = true := by
        rw [hbind _ rfl]
        exact hhealth.start_ok
      have hmain : s.main .ok =
          { s with health := s.health.start (s.bindResult healthPort .ok), phase := .startAgent } := by
        rw [Process.main, hcall]
        dsimp only [Process.after]
        rw [if_pos hrunning]
      rw [hmain]
      refine ⟨H.live, H.regular, show Phase.startAgent.rank ≤ Phase.serving.rank by decide, ?_⟩
      rw [Process.callsLeft, Process.callsLeft, hcall]
      dsimp only
      omega
  | startAgent =>
      rw [hcall] at hagent hbind
      have hrunning : (s.agent.start (s.bindResult s.config.agentPort .ok)).running = true := by
        rw [hbind _ rfl]
        exact hagent.start_ok
      have hmain : s.main .ok =
          { s with agent := s.agent.start (s.bindResult s.config.agentPort .ok), phase := .startTcp } := by
        rw [Process.main, hcall]
        dsimp only [Process.after]
        rw [if_pos hrunning]
      have hnone := H.inPlace.tcp.notStarted (.inl (by rw [hcall]; decide))
      rw [hmain]
      refine ⟨H.live, H.regular, show Phase.startTcp.rank ≤ Phase.serving.rank by decide, ?_⟩
      rw [Process.callsLeft, Process.callsLeft, hcall]
      dsimp only
      rw [hnone]
      dsimp only
      omega
  | startTcp =>
      by_cases hports : s.config.tcpPorts = []
      · have hnone := H.inPlace.tcp.notStarted (.inr hports)
        have hmain : s.main .ok = { s with phase := .startPool } := by
          rw [Process.main, hcall]
          dsimp only
          rw [if_pos hports]
        rw [hmain]
        refine ⟨H.live, H.regular, show Phase.startPool.rank ≤ Phase.serving.rank by decide, ?_⟩
        rw [Process.callsLeft, Process.callsLeft, hcall]
        dsimp only
        rw [hnone]
        dsimp only
        omega
      · exact H.goesOn_tcp hdistinct hcall hports
  | startPool =>
      have hmain : s.main .ok = { s with phase := .serving } := by rw [Process.main, hcall]
      rw [hmain]
      refine ⟨H.live, H.regular, show Phase.serving.rank ≤ Phase.serving.rank by decide, ?_⟩
      rw [Process.callsLeft, Process.callsLeft, hcall]
      exact Nat.zero_lt_one
  | serving => exact absurd hcall hphase
  | stopHttp => exact absurd hlow (by rw [hcall]; decide)
  | stopHealth => exact absurd hlow (by rw [hcall]; decide)
  | stopAgent => exact absurd hlow (by rw [hcall]; decide)
  | stopTcp => exact absurd hlow (by rw [hcall]; decide)
  | stopPool => exact absurd hlow (by rw [hcall]; decide)

/-- A call of `main`. -/
theorem Starting.main (H : Starting c s) (hdistinct : (allPorts s.config).Nodup)
    (hphase : s.phase ≠ .serving) :
    Starting c (processStep s (.main .ok)) ∧ (processStep s (.main .ok)).callsLeft < s.callsLeft := by
  have hstep : processStep s (.main .ok) = s.main .ok := by
    rw [processStep, H.live]
    rfl
  obtain ⟨hlive, hregular, hlow, hfewer⟩ := H.goesOn hdistinct hphase
  rw [hstep]
  exact ⟨⟨(config_main s .ok).trans H.config, H.inPlace.main (.inl hlive), hlive, hregular, hlow⟩,
    hfewer⟩

/-- What else happens before the threads of the pool run. -/
theorem Starting.other (H : Starting c s) (hphase : s.phase ≠ .serving) {e : ProcessEvent}
    (he : e.isMain = false) :
    Starting c (processStep s e) ∧ (processStep s e).callsLeft = s.callsLeft := by
  have hsound : Sound c s := ⟨H.config, fun _ => H.inPlace, fun h => by rw [H.live] at h; cases h⟩
  have hnext := sound_step s e hsound
  have hstep : processStep s e = s.handle e := by
    rw [processStep, H.live]
    rfl
  rw [hstep] at hnext ⊢
  have hpool : s.poolRuns = false := decide_eq_false (Nat.not_lt.mpr (rank_le_startPool H.phase hphase))
  cases e with
  | main result => cases he
  | signal =>
      exact ⟨⟨hnext.config, hnext.inPlace (.inl H.live), H.live, H.regular, H.phase⟩, rfl⟩
  | http e =>
      exact ⟨⟨hnext.config, hnext.inPlace (.inl H.live), H.live, H.regular, H.phase⟩, rfl⟩
  | health e =>
      exact ⟨⟨hnext.config, hnext.inPlace (.inl H.live), H.live, H.regular, H.phase⟩, rfl⟩
  | agent e =>
      exact ⟨⟨hnext.config, hnext.inPlace (.inl H.live), H.live, H.regular, H.phase⟩, rfl⟩
  | tcp i e =>
      have hregular : (tcpSocketStep s.poolRuns s.tcp i e).terminated = false := by
        rw [hpool]
        cases e with
        | connect => exact (terminated_onAcceptor s.tcp i _).trans H.regular
        | fail => exact (terminated_onAcceptor s.tcp i _).trans H.regular
        | accepted outcome => exact H.regular
      have hlive : (s.handle (.tcp i e)).ending = none := by
        rw [Process.handle]
        dsimp only
        rw [hregular]
        rfl
      refine ⟨⟨hnext.config, hnext.inPlace (.inl hlive), hlive, hregular, H.phase⟩, ?_⟩
      rw [Process.callsLeft, Process.callsLeft, ← starting_tcpSocketStep s.poolRuns s.tcp i e]
      rfl

theorem callsLeft_pos (H : Starting c s) (hphase : s.phase ≠ .serving) : 0 < s.callsLeft := by
  have hlow := H.phase
  rw [Process.callsLeft]
  cases hcall : s.phase with
  | startTcp =>
      have htcp := H.inPlace.tcp
      have hlength := htcp.length_eq
      cases hstarting : s.tcp.starting with
      | none => dsimp only; omega
      | some k =>
          have hk := htcp.starting k hstarting
          dsimp only
          omega
  | serving => exact absurd hcall hphase
  | startHttp => dsimp only; omega
  | startHealth => dsimp only; omega
  | startAgent => dsimp only; omega
  | startPool => dsimp only; omega
  | stopHttp => exact absurd hlow (by rw [hcall]; decide)
  | stopHealth => exact absurd hlow (by rw [hcall]; decide)
  | stopAgent => exact absurd hlow (by rw [hcall]; decide)
  | stopTcp => exact absurd hlow (by rw [hcall]; decide)
  | stopPool => exact absurd hlow (by rw [hcall]; decide)

/-- The process comes to serve: each call of `main` brings it nearer, and nothing else throws it back. -/
theorem Starting.serves (H : Starting c s) (hdistinct : (allPorts c).Nodup) {evs : List ProcessEvent}
    (hbinds : ∀ result, .main result ∈ evs → result = .ok)
    (hcalls : s.callsLeft ≤ evs.countP ProcessEvent.isMain) :
    ∃ pre, pre <+: evs ∧ (run processStep s pre).phase = .serving ∧
      (run processStep s pre).ending = none := by
  induction evs generalizing s with
  | nil =>
      by_cases hphase : s.phase = .serving
      · exact ⟨[], List.nil_prefix, hphase, H.live⟩
      · have hpos := callsLeft_pos H hphase
        rw [List.countP_nil] at hcalls
        omega
  | cons e evs ih =>
      by_cases hphase : s.phase = .serving
      · exact ⟨[], List.nil_prefix, hphase, H.live⟩
      · have hrest : ∀ result, .main result ∈ evs → result = .ok :=
          fun result h => hbinds result (List.mem_cons_of_mem _ h)
        have hnext : Starting c (processStep s e) ∧
            (processStep s e).callsLeft ≤ evs.countP ProcessEvent.isMain := by
          cases he : e.isMain with
          | true =>
              cases e with
              | main result =>
                  obtain rfl := hbinds result List.mem_cons_self
                  obtain ⟨hstarting, hfewer⟩ := H.main (H.config ▸ hdistinct) hphase
                  rw [List.countP_cons_of_pos he] at hcalls
                  exact ⟨hstarting, by omega⟩
              | _ => cases he
          | false =>
              obtain ⟨hstarting, hcallsLeft⟩ := H.other hphase he
              rw [List.countP_cons_of_neg (by simp [he])] at hcalls
              exact ⟨hstarting, hcallsLeft ▸ hcalls⟩
        obtain ⟨pre, hpre, hserves⟩ := ih hnext.1 hrest hnext.2
        exact ⟨e :: pre, List.cons_prefix_cons.mpr ⟨rfl, hpre⟩, hserves⟩

/-- The ports of a configuration that was accepted. -/
theorem nodup_allPorts_iff (h : WellFormed c) :
    (allPorts c).Nodup ↔ c.tcpPorts.Nodup ∧ healthPort ∉ c.port :: c.agentPort :: c.tcpPorts := by
  have hport : c.port ∉ c.tcpPorts := fun hmem => (h.tcpPorts _ hmem).2.1 rfl
  have hagent : c.agentPort ∉ c.tcpPorts := fun hmem => (h.tcpPorts _ hmem).2.2 rfl
  simp only [allPorts, List.nodup_cons, List.mem_cons, not_or]
  constructor
  · rintro ⟨⟨hhealth, _, _⟩, ⟨hhealth', hnot⟩, _, hnodup⟩
    exact ⟨hnodup, fun heq => hhealth heq.symm, hhealth', hnot⟩
  · rintro ⟨hnodup, hhealth, hhealth', hnot⟩
    exact ⟨⟨fun heq => hhealth heq.symm, h.ports_ne, hport⟩, ⟨hhealth', hnot⟩, hagent, hnodup⟩

end

/-- One TCP port besides the defaults. -/
def sampleConfig : Config where
  port := 443
  agentPort := 8443
  keyVaultUri := "https://kv.vault.azure.net".toList
  dnsZone := "tunnel.example.com".toList
  logAnalyticsWorkspaceId := none
  logAnalyticsKey := none
  applicationInsightsKey := none
  tcpPorts := [9100]
  maxConcurrentTunnels := 50
  maxConnectionsPerTunnel := 10000
  ioThreadPoolSize := 0
  tunnelEstablishTimeoutMs := 30000
  requestTimeoutMs := 1800000
  idleTimeoutMs := 300000

theorem wellFormed_sampleConfig : WellFormed sampleConfig where
  port := by decide
  agentPort := by decide
  ports_ne := by decide
  tcpPorts := by simp [sampleConfig, IsPort]
  keyVaultUri := by decide
  dnsZone := by decide
  keys := by simp [sampleConfig]
  maxConcurrentTunnels := by decide
  maxConnectionsPerTunnel := by decide
  ioThreadPoolSize := by decide
  timeouts := by decide

end Protogate.Server
