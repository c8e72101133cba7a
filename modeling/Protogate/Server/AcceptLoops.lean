import Protogate.Lib.Acceptor
import Protogate.Lib.Run

/-!
# The accept loops of the servers

`HTTPServer`, `AgentServer` and `HealthServer` start and stop in the same way: `start` opens the
acceptor and begins to accept, the handler of an accept begins the next while the server is
running, and `stop` closes the acceptor.  An exception in `start` may leave the acceptor open.

The handler is at work before it begins the next accept: that of `HealthServer` reads the request of
the client and answers it, however long that takes, and that of a full `AgentServer` sleeps.
`HealthServer` drops a client that was accepted before it was stopped; the others serve it.

## Main definitions

* `LoopServer`, `loopStep` — the common part; `httpServerStep`, `agentServerStep`,
  `healthServerStep` — the servers.
* `LoopSound`, `accept_loop_alive` — a running server accepts.
* `failed_start_final` — an acceptor that was left open is never used again.
* `OneChain`, `NoneLeft`, `one_chain_iff` — when a running server accepts one at a time.
-/

namespace Protogate.Server

open Protogate.Lib

/-! ## A server with an acceptor -/

structure LoopServer where
  acceptor : Acceptor
  running : Bool
  /-- The handlers that were called and have not come to `do_accept`. -/
  working : ℕ
  /-- The clients that were handed on. -/
  served : ℕ
  /-- A start has failed and left the acceptor open. -/
  leftOpen : Bool
  deriving DecidableEq, Repr

inductive LoopEvent
  | start (result : BindResult)
  | stop
  | connect
  | fail
  /-- The handler of an accept is called. -/
  | accepted (client : Bool)
  /-- A handler comes to its end. -/
  | handled
  deriving DecidableEq, Repr

namespace LoopServer

def init : LoopServer := ⟨.new, false, 0, 0, false⟩

/-- `do_accept`. -/
def doAccept (s : LoopServer) : LoopServer :=
  if ! s.running then s else { s with acceptor := s.acceptor.asyncAccept }

def start (s : LoopServer) (result : BindResult) : LoopServer :=
  if s.running then s
  else
    let (bound, acceptor) := s.acceptor.bindListen result
    if bound then doAccept { s with acceptor := acceptor, running := true }
    -- the exception goes on to the caller
    else { s with acceptor := acceptor, leftOpen := acceptor.isOpen }

def stop (s : LoopServer) : LoopServer :=
  if ! s.running then s else { s with running := false, acceptor := s.acceptor.close }

/-- The handler of an accept is called, with a client or an error. -/
def accepted (servesStopped : Bool) (s : LoopServer) (client : Bool) : LoopServer :=
  match s.acceptor.take client with
  | none => s
  | some acceptor => { s with
      acceptor := acceptor
      working := s.working + 1
      served := if client && (s.running || servesStopped) then s.served + 1 else s.served }

/-- The end of a handler. -/
def handled (s : LoopServer) : LoopServer :=
  if s.working = 0 then s else doAccept { s with working := s.working - 1 }

/-- The accepts that are pending, and those whose handler is queued or at work. -/
def chains (s : LoopServer) : ℕ := s.acceptor.chains + s.working

end LoopServer

def loopStep (servesStopped : Bool) (s : LoopServer) : LoopEvent → LoopServer
  | .start result => s.start result
  | .stop => s.stop
  | .connect => { s with acceptor := s.acceptor.connect }
  | .fail => { s with acceptor := s.acceptor.fail }
  | .accepted client => s.accepted servesStopped client
  | .handled => s.handled

/-- `HTTPServer`: the handler looks at the error only. -/
def httpServerStep : LoopServer → LoopEvent → LoopServer := loopStep true

/-- `AgentServer`, whether the registry is full or not. -/
def agentServerStep : LoopServer → LoopEvent → LoopServer := loopStep true

/-- `HealthServer`: the handler also looks at `running_`. -/
def healthServerStep : LoopServer → LoopEvent → LoopServer := loopStep false

/-! ## A running server accepts -/

/-- While the server is running its acceptor is open, and an accept is pending or its handler is
queued or at work; while it is not, no accept is pending.  It does not run with an acceptor that a
failed start has left open, and there is no other way for it to be open. -/
structure LoopSound (s : LoopServer) : Prop where
  alive : s.running = true → s.acceptor.isOpen = true ∧ 0 < s.chains
  rests : s.running = false → s.acceptor.pending = 0
  leftOpen : s.leftOpen = true ↔ s.running = false ∧ s.acceptor.isOpen = true

section
variable {servesStopped : Bool} {s : LoopServer}

theorem chains_doAccept (hrunning : s.running = true) : s.doAccept.chains = s.chains + 1 := by
  simp only [LoopServer.doAccept, hrunning, Bool.not_true, Bool.false_eq_true, if_false,
    LoopServer.chains, Acceptor.chains_asyncAccept]
  omega

theorem doAccept_of_stopped (hrunning : s.running = false) : s.doAccept = s := by
  rw [LoopServer.doAccept, hrunning]
  rfl

/-- The call of a handler leaves the number of chains as it is. -/
theorem accepted_cases (servesStopped : Bool) (s : LoopServer) (client : Bool) :
    s.accepted servesStopped client = s ∨ ∃ acceptor,
      s.acceptor.take client = some acceptor ∧ (s.accepted servesStopped client).acceptor = acceptor ∧
        (s.accepted servesStopped client).running = s.running ∧
        (s.accepted servesStopped client).leftOpen = s.leftOpen ∧
        (s.accepted servesStopped client).chains = s.chains := by
  rw [LoopServer.accepted]
  cases htake : s.acceptor.take client with
  | none => exact .inl rfl
  | some acceptor =>
      obtain ⟨_, _, hchains, _⟩ := Acceptor.take_spec htake
      refine .inr ⟨acceptor, rfl, rfl, rfl, rfl, ?_⟩
      simp only [LoopServer.chains]
      omega

/-- So does the end of a handler, while the server is running. -/
theorem chains_handled (hrunning : s.running = true) : s.handled.chains = s.chains := by
  rw [LoopServer.handled]
  split
  · rfl
  · have hmore := @chains_doAccept { s with working := s.working - 1 } hrunning
    rw [hmore]
    simp only [LoopServer.chains]
    omega

theorem handled_of_stopped (hrunning : s.running = false) :
    s.handled = { s with working := s.working - 1 } := by
  rw [LoopServer.handled]
  split
  · rename_i hnone
    rw [hnone, Nat.zero_sub, ← hnone]
  · exact doAccept_of_stopped hrunning

/-- What the end of a handler leaves as it is. -/
theorem handled_frame (s : LoopServer) : s.handled.running = s.running ∧
    s.handled.acceptor.isOpen = s.acceptor.isOpen ∧ s.handled.leftOpen = s.leftOpen := by
  rw [LoopServer.handled]
  split
  · exact ⟨rfl, rfl, rfl⟩
  · rw [LoopServer.doAccept]
    split <;> exact ⟨rfl, rfl, rfl⟩

theorem loopSound_init : LoopSound .init := ⟨by simp [LoopServer.init], fun _ => rfl, by decide⟩

theorem LoopSound.start (H : LoopSound s) (result : BindResult) : LoopSound (s.start result) := by
  obtain ⟨_, hpending, _, hbound⟩ := s.acceptor.bindListen_spec result
  rw [LoopServer.start]
  split
  · exact H
  · rename_i hrunning
    rw [Bool.not_eq_true] at hrunning
    dsimp only
    split
    · rename_i hok
      obtain ⟨hclosed, hopen⟩ := hbound hok
      have hleft : s.leftOpen = false := by
        rw [Bool.eq_false_iff, Ne, H.leftOpen]
        simp [hclosed]
      refine ⟨fun _ => ⟨hopen, ?_⟩, by simp [LoopServer.doAccept], ?_⟩
      · rw [chains_doAccept rfl]
        exact Nat.succ_pos _
      · simp [LoopServer.doAccept, hleft]
    · refine ⟨by simp [hrunning], fun _ => hpending.trans (H.rests hrunning), ?_⟩
      simp [hrunning]

theorem LoopSound.stop (H : LoopSound s) : LoopSound s.stop := by
  rw [LoopServer.stop]
  split
  · exact H
  · rename_i hrunning
    have hleft : s.leftOpen = false := by
      rw [Bool.eq_false_iff, Ne, H.leftOpen]
      simp_all
    refine ⟨by simp, fun _ => rfl, by simp [hleft]⟩

theorem LoopSound.accepted (H : LoopSound s) (client : Bool) :
    LoopSound (s.accepted servesStopped client) := by
  obtain hsame | ⟨acceptor, htake, hacceptor, hrunning, hleft, hchains⟩ :=
    accepted_cases servesStopped s client
  · rw [hsame]
    exact H
  · obtain ⟨hopen, hpending, _, _⟩ := Acceptor.take_spec htake
    refine ⟨?_, ?_, ?_⟩
    · rw [hrunning, hacceptor, hopen, hchains]
      exact H.alive
    · rw [hrunning, hacceptor, hpending]
      exact H.rests
    · rw [hrunning, hacceptor, hopen, hleft]
      exact H.leftOpen

theorem LoopSound.handled (H : LoopSound s) : LoopSound s.handled := by
  obtain ⟨hrunning, hopen, hleft⟩ := handled_frame s
  refine ⟨fun hruns => ?_, fun hstopped => ?_, ?_⟩
  · rw [hrunning] at hruns
    rw [hopen, chains_handled hruns]
    exact H.alive hruns
  · rw [hrunning] at hstopped
    rw [handled_of_stopped hstopped]
    exact H.rests hstopped
  · rw [hrunning, hopen, hleft]
    exact H.leftOpen

theorem LoopSound.replace (H : LoopSound s) {a : Acceptor} (hopen : a.isOpen = s.acceptor.isOpen)
    (hchains : a.chains = s.acceptor.chains) (hpending : a.pending ≤ s.acceptor.pending) :
    LoopSound { s with acceptor := a } where
  alive := by
    intro hrunning
    obtain ⟨hisOpen, halive⟩ := H.alive hrunning
    refine ⟨hopen.trans hisOpen, ?_⟩
    simpa only [LoopServer.chains, hchains] using halive
  rests := fun hrunning => Nat.le_zero.mp (H.rests hrunning ▸ hpending)
  leftOpen := by
    rw [hopen]
    exact H.leftOpen

theorem loopSound_step (s : LoopServer) (e : LoopEvent) (H : LoopSound s) :
    LoopSound (loopStep servesStopped s e) := by
  cases e with
  | start result => exact H.start result
  | stop => exact H.stop
  | connect =>
      exact H.replace s.acceptor.isOpen_connect s.acceptor.chains_connect s.acceptor.pending_connect_le
  | fail => exact H.replace s.acceptor.isOpen_fail s.acceptor.chains_fail s.acceptor.pending_fail_le
  | accepted client => exact H.accepted client
  | handled => exact H.handled

theorem loopSound_run (evs : List LoopEvent) : LoopSound (run (loopStep servesStopped) .init evs) :=
  run_invariant LoopSound loopSound_step loopSound_init

end

/-- **A running server never ceases to accept**, whatever errors its accepts end with: an accept is
pending, or the handler that will begin the next is queued or at work. -/
theorem accept_loop_alive (servesStopped : Bool) (evs : List LoopEvent) :
    Always (loopStep servesStopped) LoopSound .init evs :=
  always_of_invariant (C := fun _ _ => True) _ (fun s e H _ => loopSound_step s e H) loopSound_init
    (along_const_iff.mpr fun _ _ => trivial)

/-! ## After a failed start -/

/-- The acceptor was left open, and no more clients are handed on than were accepted before. -/
def Abandoned (bound : ℕ) (s : LoopServer) : Prop :=
  s.leftOpen = true ∧ s.served + s.acceptor.accepted ≤ bound

theorem abandoned_step {servesStopped : Bool} {bound : ℕ} (s : LoopServer) (e : LoopEvent)
    (H : LoopSound s ∧ Abandoned bound s) :
    LoopSound (loopStep servesStopped s e) ∧ Abandoned bound (loopStep servesStopped s e) := by
  obtain ⟨hsound, hleft, hbound⟩ := H
  obtain ⟨hrunning, hopen⟩ := hsound.leftOpen.mp hleft
  have hpending := hsound.rests hrunning
  refine ⟨loopSound_step s e hsound, ?_⟩
  cases e with
  | start result =>
      have hstart : s.start result = { s with leftOpen := true } := by
        simp [LoopServer.start, hrunning, Acceptor.bindListen, hopen]
      show Abandoned bound (s.start result)
      rw [hstart]
      exact ⟨rfl, hbound⟩
  | stop =>
      have hstop : s.stop = s := by simp [LoopServer.stop, hrunning]
      show Abandoned bound s.stop
      rw [hstop]
      exact ⟨hleft, hbound⟩
  | connect =>
      have hconnect : s.acceptor.connect = s.acceptor := by simp [Acceptor.connect, hpending]
      refine ⟨hleft, ?_⟩
      show s.served + s.acceptor.connect.accepted ≤ bound
      rw [hconnect]
      exact hbound
  | fail =>
      have hfail : s.acceptor.fail = s.acceptor := by simp [Acceptor.fail, hpending]
      refine ⟨hleft, ?_⟩
      show s.served + s.acceptor.fail.accepted ≤ bound
      rw [hfail]
      exact hbound
  | accepted client =>
      show Abandoned bound (s.accepted servesStopped client)
      rw [LoopServer.accepted]
      split
      · exact ⟨hleft, hbound⟩
      · rename_i acceptor htake
        obtain ⟨_, _, _, haccepted⟩ := Acceptor.take_spec htake
        refine ⟨hleft, ?_⟩
        dsimp only
        cases client <;> simp at haccepted ⊢
        · omega
        · split <;> omega
  | handled =>
      show Abandoned bound s.handled
      rw [handled_of_stopped hrunning]
      exact ⟨hleft, hbound⟩

/-- **A start that fails with the acceptor open is final**: every later start fails too, and only
clients that were accepted before are handed on. -/
theorem failed_start_final (servesStopped : Bool) (evs later : List LoopEvent)
    (h : (run (loopStep servesStopped) .init evs).leftOpen = true) :
    Always (loopStep servesStopped) (fun s => s.leftOpen = true ∧ s.running = false ∧
        s.served ≤ (run (loopStep servesStopped) .init evs).served +
          (run (loopStep servesStopped) .init evs).acceptor.accepted)
      (run (loopStep servesStopped) .init evs) later := by
  have hkept : Always (loopStep servesStopped) (fun s => LoopSound s ∧ Abandoned
      ((run (loopStep servesStopped) .init evs).served +
        (run (loopStep servesStopped) .init evs).acceptor.accepted) s)
      (run (loopStep servesStopped) .init evs) later :=
    always_of_invariant (C := fun _ _ => True) _ (fun s e H _ => abandoned_step s e H)
      ⟨loopSound_run evs, h, le_rfl⟩ (along_const_iff.mpr fun _ _ => trivial)
  exact Always.imp (fun s H => ⟨H.2.1, (H.1.leftOpen.mp H.2.1).1, (Nat.le_add_right _ _).trans H.2.2⟩) hkept

/-- A port that is taken, and two more attempts. -/
def portTaken : List LoopEvent := [.start .notBound, .start .ok, .stop, .start .ok]

theorem failed_start_final_portTaken :
    Always (loopStep true) (fun s => s.leftOpen = true ∧ s.running = false ∧
        s.served ≤ (run (loopStep true) .init [.start .notBound]).served +
          (run (loopStep true) .init [.start .notBound]).acceptor.accepted)
      (run (loopStep true) .init [.start .notBound]) portTaken :=
  failed_start_final true [.start .notBound] portTaken (by decide)

/-! ## One accept at a time -/

def OneChain (s : LoopServer) : Prop := s.running = true → s.chains = 1

/-- A start that succeeds finds no handler queued or at work from before. -/
def NoneLeft (s : LoopServer) (e : LoopEvent) : Prop :=
  e = .start .ok → s.running = false → s.acceptor.isOpen = false → s.chains = 0

theorem oneChain_step {servesStopped : Bool} (s : LoopServer) (e : LoopEvent) (H : OneChain s) :
    OneChain (loopStep servesStopped s e) ↔ NoneLeft s e := by
  cases e with
  | start result =>
      show OneChain (s.start result) ↔ _
      rw [LoopServer.start]
      split
      · rename_i hrunning
        simp [NoneLeft, hrunning, H]
      · rename_i hrunning
        rw [Bool.not_eq_true] at hrunning
        cases hopen : s.acceptor.isOpen with
        | true => simp [OneChain, NoneLeft, Acceptor.bindListen, hopen, hrunning]
        | false =>
            have hchains : ∀ b, (⟨b, s.acceptor.pending, s.acceptor.accepted, s.acceptor.failed⟩ :
              Acceptor).chains = s.acceptor.chains := fun _ => rfl
            cases result with
            | ok =>
                simp [OneChain, NoneLeft, Acceptor.bindListen, LoopServer.doAccept, LoopServer.chains,
                  hopen, hrunning, hchains]
                omega
            | notOpened => simp [OneChain, NoneLeft, Acceptor.bindListen, hopen, hrunning]
            | notBound => simp [OneChain, NoneLeft, Acceptor.bindListen, hopen, hrunning]
  | stop =>
      show OneChain s.stop ↔ _
      rw [LoopServer.stop]
      split
      · simpa [NoneLeft] using H
      · simp [OneChain, NoneLeft]
  | connect => simpa [OneChain, NoneLeft, LoopServer.chains, loopStep] using H
  | fail => simpa [OneChain, NoneLeft, LoopServer.chains, loopStep] using H
  | accepted client =>
      refine iff_of_true ?_ (by simp [NoneLeft])
      show OneChain (s.accepted servesStopped client)
      obtain hsame | ⟨_, _, _, hrunning, _, hchains⟩ := accepted_cases servesStopped s client
      · rw [hsame]
        exact H
      · rw [OneChain, hrunning, hchains]
        exact H
  | handled =>
      refine iff_of_true ?_ (by simp [NoneLeft])
      intro hrunning
      replace hrunning : s.running = true := (handled_frame s).1.symm.trans hrunning
      exact (chains_handled hrunning).trans (H hrunning)

/-- **A running server has one accept at a time exactly if it was never started while a handler
from before it was stopped was queued or at work**; that handler goes on accepting beside the new
one. -/
theorem one_chain_iff (servesStopped : Bool) (evs : List LoopEvent) :
    Always (loopStep servesStopped) OneChain .init evs ↔
      Along (loopStep servesStopped) NoneLeft .init evs := by
  apply always_iff_along (fun _ => True) (fun _ _ _ => trivial) (fun s e _ => oneChain_step s e) trivial
  simp [OneChain, LoopServer.init]

/-- The health server is stopped and started again while it waits for the request of a client. -/
example : (run healthServerStep .init
    [.start .ok, .connect, .accepted true, .stop, .start .ok, .handled]).chains = 2 := by decide

end Protogate.Server
