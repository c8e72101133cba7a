import Protogate.Lib.Acceptor
import Protogate.Lib.Run

/-!
# The listeners of the TCP server

`TCPServer::start` opens one acceptor after the other and begins to accept on each, and sets
`running_` only after the last; an exception ends it in between.  The handler of an accept begins
the next one while the server is running.  One thread calls `start` and `stop`; handlers may run
while `start` is under way.

## Main definitions

* `ListeningServer`, `listenStep` — the listeners, and a start as a step for each of them.
* `Undisturbed`, `listeners_alive` — the listeners of a running server accept.
* `broken_start_final` — what can come after a start that has failed.
-/

namespace Protogate.Server

open Protogate.Lib

/-! ## The listeners -/

/-- A listener, with the number of clients whose accepts were handled. -/
structure Listener where
  port : ℕ
  acceptor : Acceptor
  served : ℕ
  deriving DecidableEq, Repr

structure ListeningServer where
  listeners : List Listener
  running : Bool
  /-- The listeners that the start under way has opened. -/
  starting : Option ℕ
  /-- An exception has left a handler, which ends the process. -/
  terminated : Bool
  deriving DecidableEq, Repr

/-- What the handler of an accept finds. -/
inductive AcceptOutcome
  | error
  | client
  /-- A client that has gone, so that `remote_endpoint` throws. -/
  | gone
  deriving DecidableEq, Repr

inductive ListenEvent
  | start
  /-- The loop of `start` goes on. -/
  | proceed (result : BindResult)
  | stop
  | connect (i : ℕ)
  | fail (i : ℕ)
  | accepted (i : ℕ) (outcome : AcceptOutcome)
  deriving DecidableEq, Repr

namespace ListeningServer

def init (ports : List ℕ) : ListeningServer := ⟨ports.map (⟨·, .new, 0⟩), false, none, false⟩

def put (s : ListeningServer) (i : ℕ) (l : Listener) : ListeningServer :=
  { s with listeners := s.listeners.set i l }

/-- `start`, up to its loop. -/
def start (s : ListeningServer) : ListeningServer :=
  if s.running || s.starting.isSome then s else { s with starting := some 0 }

/-- One turn of the loop of `start`, or its end. -/
def proceed (s : ListeningServer) (result : BindResult) : ListeningServer :=
  match s.starting with
  | none => s
  | some i =>
      match s.listeners[i]? with
      | none => { s with running := true, starting := none }
      | some l =>
          let (bound, acceptor) := l.acceptor.bindListen result
          if bound then
            { s.put i { l with acceptor := acceptor.asyncAccept } with starting := some (i + 1) }
          -- the exception goes on to the caller
          else { s.put i { l with acceptor := acceptor } with starting := none }

def stop (s : ListeningServer) : ListeningServer :=
  if ! s.running then s
  else
    { s with
      listeners := s.listeners.map fun l => { l with acceptor := l.acceptor.close }
      running := false }

/-- Something happens to the acceptor of a listener. -/
def onAcceptor (s : ListeningServer) (i : ℕ) (f : Acceptor → Acceptor) : ListeningServer :=
  match s.listeners[i]? with
  | none => s
  | some l => s.put i { l with acceptor := f l.acceptor }

/-- `handle_accept`; the client is refused or handed on. -/
def handleAccept (s : ListeningServer) (i : ℕ) (outcome : AcceptOutcome) : ListeningServer :=
  match s.listeners[i]? with
  | none => s
  | some l =>
      match l.acceptor.take (outcome ≠ .error) with
      | none => s
      | some acceptor =>
          if outcome = .gone then { s with terminated := true }
          else s.put i { l with
            acceptor := if s.running then acceptor.asyncAccept else acceptor
            served := if outcome = .client then l.served + 1 else l.served }

end ListeningServer

def listenStep (s : ListeningServer) (e : ListenEvent) : ListeningServer :=
  if s.terminated then s
  else
    match e with
    | .start => s.start
    | .proceed result => s.proceed result
    | .stop => s.stop
    | .connect i => s.onAcceptor i Acceptor.connect
    | .fail i => s.onAcceptor i Acceptor.fail
    | .accepted i outcome => s.handleAccept i outcome

/-! ## The listeners of a running server -/

/-- What holds of each listener. -/
def EachListener (P : ℕ → Listener → Prop) (s : ListeningServer) : Prop :=
  ∀ i l, s.listeners[i]? = some l → P i l

/-- The acceptor is open, and an accept is pending or its handler is queued. -/
def Alive (l : Listener) : Prop := l.acceptor.isOpen = true ∧ 0 < l.acceptor.chains

/-- No handler of an accept runs while `start` is under way. -/
def Undisturbed (s : ListeningServer) : ListenEvent → Prop
  | .accepted _ _ => s.starting = none
  | _ => True

instance (s : ListeningServer) : (e : ListenEvent) → Decidable (Undisturbed s e)
  | .accepted _ _ => inferInstanceAs (Decidable (s.starting = none))
  | .start | .proceed _ | .stop | .connect _ | .fail _ => isTrue trivial

/-- The listeners that a start under way has opened are alive, and while the server is running
all of them. -/
structure Listening (s : ListeningServer) : Prop where
  starting : ∀ k, s.starting = some k → s.running = false ∧ EachListener (fun i l => i < k → Alive l) s
  running : s.running = true → EachListener (fun _ l => Alive l) s

section
variable {P : ℕ → Listener → Prop} {s : ListeningServer}

theorem EachListener.put_of_ne {i : ℕ} {l : Listener}
    (H : ∀ j l', j ≠ i → s.listeners[j]? = some l' → P j l') (hnew : P i l) : EachListener P (s.put i l) := by
  intro j l' hl'
  rw [ListeningServer.put] at hl'
  by_cases hij : j = i
  · subst hij
    rw [List.getElem?_set_self'] at hl'
    obtain ⟨_, _, rfl⟩ := Option.map_eq_some_iff.mp hl'
    exact hnew
  · rw [List.getElem?_set_ne (Ne.symm hij)] at hl'
    exact H j l' hij hl'

theorem EachListener.put (H : EachListener P s) {i : ℕ} {l : Listener} (hnew : P i l) :
    EachListener P (s.put i l) :=
  put_of_ne (fun j l' _ hl' => H j l' hl') hnew

/-- An operation on acceptors that keeps `P`. -/
theorem EachListener.onAcceptor {f : Acceptor → Acceptor}
    (hf : ∀ i l, P i l → P i { l with acceptor := f l.acceptor }) (H : EachListener P s) (i : ℕ) :
    EachListener P (s.onAcceptor i f) := by
  rw [ListeningServer.onAcceptor]
  split
  · exact H
  · rename_i l hl
    exact H.put (hf i l (H i l hl))

/-- What the handler of an accept does. -/
theorem ListeningServer.handleAccept_cases (s : ListeningServer) (i : ℕ) (outcome : AcceptOutcome) :
    s.handleAccept i outcome = s ∨ s.handleAccept i outcome = { s with terminated := true } ∨
      ∃ l a n, s.listeners[i]? = some l ∧ a.isOpen = l.acceptor.isOpen ∧
        l.acceptor.chains = a.chains + 1 ∧ n ≤ l.served + 1 ∧
        s.handleAccept i outcome =
          s.put i { l with acceptor := if s.running then a.asyncAccept else a, served := n } := by
  rw [ListeningServer.handleAccept]
  split
  · exact .inl rfl
  · rename_i l hl
    split
    · exact .inl rfl
    · rename_i a htake
      obtain ⟨hopen, _, hchains, _⟩ := Acceptor.take_spec htake
      split
      · exact .inr (.inl rfl)
      · refine .inr (.inr ⟨l, a, _, hl, hopen, hchains, ?_, rfl⟩)
        split <;> omega

theorem onAcceptor_running (s : ListeningServer) (i : ℕ) (f : Acceptor → Acceptor) :
    (s.onAcceptor i f).running = s.running ∧ (s.onAcceptor i f).starting = s.starting := by
  rw [ListeningServer.onAcceptor]
  split <;> exact ⟨rfl, rfl⟩

theorem Listening.start (H : Listening s) : Listening s.start := by
  rw [ListeningServer.start]
  split
  · exact H
  · rename_i hidle
    rw [Bool.or_eq_true, not_or, Bool.not_eq_true] at hidle
    refine ⟨fun k hk => ⟨hidle.1, fun i l _ hi => ?_⟩, fun h => absurd h (by simp [hidle.1])⟩
    obtain rfl := Option.some.inj hk
    omega

theorem Listening.proceed (H : Listening s) (result : BindResult) : Listening (s.proceed result) := by
  rw [ListeningServer.proceed]
  split
  · exact H
  · rename_i k hk
    obtain ⟨hrunning, hopened⟩ := H.starting k hk
    split
    · -- all listeners are open
      rename_i hlast
      refine ⟨by simp, fun _ i l hl => hopened i l hl ?_⟩
      have hlength : s.listeners.length ≤ k := List.getElem?_eq_none_iff.mp hlast
      have hi : i < s.listeners.length := (List.getElem?_eq_some_iff.mp hl).1
      omega
    · rename_i l hl
      obtain ⟨_, _, _, hbound⟩ := l.acceptor.bindListen_spec result
      dsimp only
      split
      · rename_i hok
        refine ⟨fun k' hk' => ⟨hrunning, ?_⟩, fun h => absurd h (by simp [ListeningServer.put, hrunning])⟩
        obtain rfl := Option.some.inj hk'
        refine EachListener.put_of_ne (fun j l' hj hl' hlt => hopened j l' hl' (by omega)) fun _ => ?_
        exact ⟨(hbound hok).2, by simp⟩
      · exact ⟨by simp, fun h => absurd h (by simp [ListeningServer.put, hrunning])⟩

theorem Listening.stop (H : Listening s) : Listening s.stop := by
  rw [ListeningServer.stop]
  split
  · exact H
  · rename_i hrunning
    refine ⟨fun k hk => ?_, by simp⟩
    have hidle := (H.starting k hk).1
    simp [hidle] at hrunning

theorem Listening.onAcceptor {f : Acceptor → Acceptor} (hopen : ∀ a, (f a).isOpen = a.isOpen)
    (hchains : ∀ a, (f a).chains = a.chains) (H : Listening s) (i : ℕ) :
    Listening (s.onAcceptor i f) := by
  obtain ⟨hrunning, hstarting⟩ := onAcceptor_running s i f
  have hkept : ∀ l, Alive l → Alive { l with acceptor := f l.acceptor } := by
    intro l hl
    rw [Alive, hopen, hchains]
    exact hl
  constructor
  · intro k hk
    rw [hstarting] at hk
    obtain ⟨hidle, hopened⟩ := H.starting k hk
    exact ⟨hrunning.trans hidle, hopened.onAcceptor (fun _ l hl hlt => hkept l (hl hlt)) i⟩
  · intro hrun
    exact (H.running (hrunning ▸ hrun)).onAcceptor (fun _ l => hkept l) i

theorem Listening.accepted (H : Listening s) (hnone : s.starting = none) (i : ℕ) (outcome : AcceptOutcome) :
    Listening (s.handleAccept i outcome) := by
  rcases s.handleAccept_cases i outcome with heq | heq | ⟨l, a, n, hl, hopen, hchains, _, heq⟩
  · rw [heq]
    exact H
  · rw [heq]
    exact ⟨H.starting, H.running⟩
  · rw [heq]
    refine ⟨fun k hk => ?_, fun hrun => (H.running hrun).put ?_⟩
    · rw [ListeningServer.put, hnone] at hk
      cases hk
    · change s.running = true at hrun
      have hold := H.running hrun i l hl
      rw [hrun, if_pos rfl]
      refine ⟨hopen.trans hold.1, ?_⟩
      simp

theorem listening_step (s : ListeningServer) (e : ListenEvent) (H : Listening s) (hquiet : Undisturbed s e) :
    Listening (listenStep s e) := by
  unfold listenStep
  split
  · exact H
  · cases e with
    | start => exact H.start
    | proceed result => exact H.proceed result
    | stop => exact H.stop
    | connect i => exact H.onAcceptor Acceptor.isOpen_connect Acceptor.chains_connect i
    | fail i => exact H.onAcceptor Acceptor.isOpen_fail Acceptor.chains_fail i
    | accepted i outcome => exact H.accepted hquiet i outcome

end

theorem listening_init (ports : List ℕ) : Listening (.init ports) :=
  ⟨by simp [ListeningServer.init], by simp [ListeningServer.init]⟩

/-- **Every listener of a running server accepts**, in every run in which no handler ran while the
server was being started. -/
theorem listeners_alive (ports : List ℕ) (evs : List ListenEvent)
    (h : Along listenStep Undisturbed (.init ports) evs) :
    Always listenStep Listening (.init ports) evs :=
  always_of_invariant Listening listening_step (listening_init ports) h

/-- Two ports, and a client of the first. -/
def twoPorts : List ListenEvent :=
  [.start, .proceed .ok, .connect 0, .proceed .ok, .proceed .ok, .accepted 0 .client]

theorem listeners_alive_twoPorts : Always listenStep Listening (.init [9100, 515]) twoPorts :=
  listeners_alive [9100, 515] twoPorts (by decide)

/-! ## After a failed start -/

def HeadOpen (s : ListeningServer) : Prop := ∃ l, s.listeners[0]? = some l ∧ l.acceptor.isOpen = true

def Closed (_ : ℕ) (l : Listener) : Prop := l.acceptor.isOpen = false

/-- While the server does not run, its listeners are closed, or the first is open; a start opens
them in their order, unless it finds the first one open. -/
structure Placed (s : ListeningServer) : Prop where
  resting : s.running = false → s.starting = none → EachListener Closed s ∨ HeadOpen s
  starting : ∀ k, s.starting = some k → s.running = false ∧
    (EachListener (fun i l => l.acceptor.isOpen = true ↔ i < k) s ∨ k = 0 ∧ HeadOpen s)

/-- The clients that were served and those that may still be, on a listener that is not armed
again. -/
def due (s : ListeningServer) (i : ℕ) : ℕ :=
  match s.listeners[i]? with
  | none => 0
  | some l => l.served + l.acceptor.chains

/-- The server does not run, a start finds its first listener open, and no more clients are due
than `bound` says. -/
structure Broken (bound : ℕ → ℕ) (s : ListeningServer) : Prop where
  running : s.running = false
  starting : ∀ k, s.starting = some k → k = 0
  headOpen : HeadOpen s
  due : EachListener (fun i l => l.served + l.acceptor.chains ≤ bound i) s

section
variable {s : ListeningServer}

theorem HeadOpen.put (H : HeadOpen s) {i : ℕ} {l' : Listener}
    (hkeep : ∀ l, s.listeners[i]? = some l → l.acceptor.isOpen = true → l'.acceptor.isOpen = true) :
    HeadOpen (s.put i l') := by
  obtain ⟨h, hh, hhead⟩ := H
  rw [HeadOpen, ListeningServer.put]
  dsimp only
  by_cases hi : i = 0
  · subst hi
    refine ⟨l', ?_, hkeep h hh hhead⟩
    rw [List.getElem?_set_self (List.getElem?_eq_some_iff.mp hh).1]
  · exact ⟨h, by rw [List.getElem?_set_ne hi, hh], hhead⟩

theorem HeadOpen.onAcceptor {f : Acceptor → Acceptor} (hopen : ∀ a, (f a).isOpen = a.isOpen)
    (H : HeadOpen s) (i : ℕ) : HeadOpen (s.onAcceptor i f) := by
  rw [ListeningServer.onAcceptor]
  split
  · exact H
  · rename_i l hl
    refine H.put fun l' hl' hopen' => ?_
    obtain rfl : l = l' := Option.some.inj (hl.symm.trans hl')
    exact (hopen l.acceptor).trans hopen'

/-- An event at a listener that leaves its acceptor open or closed. -/
theorem Placed.same {s' : ListeningServer} (hrunning : s'.running = s.running)
    (hstarting : s'.starting = s.starting)
    (heach : ∀ P : ℕ → Bool → Prop, EachListener (fun i l => P i l.acceptor.isOpen) s →
      EachListener (fun i l => P i l.acceptor.isOpen) s')
    (hhead : HeadOpen s → HeadOpen s') (H : Placed s) : Placed s' where
  resting := by
    intro hrun hnone
    rw [hrunning] at hrun
    rw [hstarting] at hnone
    exact (H.resting hrun hnone).imp (heach fun _ isOpen => isOpen = false) hhead
  starting := by
    intro k hk
    rw [hstarting] at hk
    obtain ⟨hidle, hplaced⟩ := H.starting k hk
    exact ⟨hrunning.trans hidle,
      hplaced.imp (heach fun i isOpen => isOpen = true ↔ i < k) fun h => ⟨h.1, hhead h.2⟩⟩

theorem Placed.onAcceptor {f : Acceptor → Acceptor} (hopen : ∀ a, (f a).isOpen = a.isOpen) (H : Placed s)
    (i : ℕ) : Placed (s.onAcceptor i f) := by
  obtain ⟨hrunning, hstarting⟩ := onAcceptor_running s i f
  refine H.same hrunning hstarting (fun P hP => hP.onAcceptor (fun j l hl => ?_) i) fun h =>
    h.onAcceptor hopen i
  simpa [hopen] using hl

theorem Placed.accepted (H : Placed s) (i : ℕ) (outcome : AcceptOutcome) :
    Placed (s.handleAccept i outcome) := by
  rcases s.handleAccept_cases i outcome with heq | heq | ⟨l, a, n, hl, hopen, _, _, heq⟩
  · rw [heq]
    exact H
  · rw [heq]
    exact ⟨H.resting, H.starting⟩
  · rw [heq]
    have hsame : (if s.running then a.asyncAccept else a).isOpen = l.acceptor.isOpen := by
      split <;> simpa using hopen
    refine H.same (by rfl) (by rfl) (fun P hP => hP.put ?_) fun h => h.put fun l' hl' hopen' => ?_
    · have hold := hP i l hl
      simpa [hsame] using hold
    · obtain rfl : l = l' := Option.some.inj (hl.symm.trans hl')
      exact hsame.trans hopen'

theorem Placed.start (H : Placed s) : Placed s.start := by
  rw [ListeningServer.start]
  split
  · exact H
  · rename_i hidle
    rw [Bool.or_eq_true, not_or, Bool.not_eq_true, Option.isSome_iff_ne_none, not_not] at hidle
    refine ⟨fun _ h => by simp at h, fun k hk => ⟨hidle.1, ?_⟩⟩
    obtain rfl := Option.some.inj hk
    refine (H.resting hidle.1 hidle.2).imp (fun hclosed i l hl => ?_) fun h => ⟨rfl, h⟩
    simpa [Closed] using hclosed i l hl

theorem Placed.stop (H : Placed s) : Placed s.stop := by
  rw [ListeningServer.stop]
  split
  · exact H
  · rename_i hrunning
    refine ⟨fun _ _ => .inl fun i l hl => ?_, fun k hk => ?_⟩
    · rw [List.getElem?_map] at hl
      obtain ⟨l', _, rfl⟩ := Option.map_eq_some_iff.mp hl
      rfl
    · have hidle := (H.starting k hk).1
      simp [hidle] at hrunning

/-- A start fails at a listener. -/
theorem Placed.failed {k : ℕ} {l : Listener}
    (hplace : EachListener (fun i l => l.acceptor.isOpen = true ↔ i < k) s)
    (hl : s.listeners[k]? = some l) {a : Acceptor} (ha : k ≠ 0 ∨ a.isOpen = true ∨ a = l.acceptor) :
    EachListener Closed (s.put k { l with acceptor := a }) ∨ HeadOpen (s.put k { l with acceptor := a }) := by
  have hlength : k < s.listeners.length := (List.getElem?_eq_some_iff.mp hl).1
  by_cases hk : k = 0
  · subst hk
    rcases ha with hne | hopen | rfl
    · exact absurd rfl hne
    · exact .inr ⟨_, List.getElem?_set_self hlength, hopen⟩
    · left
      have hclosed : EachListener Closed s := fun i l hl => by simpa [Closed] using hplace i l hl
      exact hclosed.put (hclosed 0 l hl)
  · right
    have hpos : 0 < s.listeners.length := by omega
    have hhead : s.listeners[0]? = some s.listeners[0] := List.getElem?_eq_getElem hpos
    refine ⟨s.listeners[0], ?_, (hplace 0 _ hhead).mpr (by omega)⟩
    rw [ListeningServer.put, List.getElem?_set_ne hk, hhead]

theorem Placed.proceed (H : Placed s) (result : BindResult) : Placed (s.proceed result) := by
  rw [ListeningServer.proceed]
  split
  · exact H
  · rename_i k hk
    obtain ⟨hrunning, hplaced⟩ := H.starting k hk
    split
    · exact ⟨fun h => by simp at h, fun k' hk' => by simp at hk'⟩
    · rename_i l hl
      rcases hplaced with hplace | ⟨rfl, hhead⟩
      · have hclosed : ¬ l.acceptor.isOpen = true := by simpa using hplace k l hl
        cases result with
        | ok =>
            have hbind : l.acceptor.bindListen .ok = (true, { l.acceptor with isOpen := true }) :=
              if_neg hclosed
            rw [hbind]
            refine ⟨fun _ h => by simp at h, fun k' hk' => ⟨hrunning, .inl ?_⟩⟩
            obtain rfl := Option.some.inj hk'
            refine EachListener.put_of_ne (fun j l' hj hl' => ?_) (by simp)
            have hiff : l'.acceptor.isOpen = true ↔ j < k := hplace j l' hl'
            show l'.acceptor.isOpen = true ↔ j < k + 1
            rw [hiff]
            omega
        | notOpened =>
            have hbind : l.acceptor.bindListen .notOpened = (false, l.acceptor) := if_neg hclosed
            have hfailed := Placed.failed hplace hl (.inr (.inr rfl))
            rw [hbind]
            exact ⟨fun _ _ => hfailed, fun k' hk' => by simp at hk'⟩
        | notBound =>
            have hbind : l.acceptor.bindListen .notBound = (false, { l.acceptor with isOpen := true }) :=
              if_neg hclosed
            have hfailed :=
              Placed.failed hplace hl (a := { l.acceptor with isOpen := true }) (.inr (.inl rfl))
            rw [hbind]
            exact ⟨fun _ _ => hfailed, fun k' hk' => by simp at hk'⟩
      · -- the first listener cannot be opened again
        obtain ⟨h, hh, hopen⟩ := hhead
        obtain rfl : l = h := Option.some.inj (hl.symm.trans hh)
        have hthrows : l.acceptor.bindListen result = (false, l.acceptor) := if_pos hopen
        have hkept : HeadOpen (s.put 0 { l with acceptor := l.acceptor }) :=
          HeadOpen.put ⟨l, hl, hopen⟩ fun _ _ _ => hopen
        rw [hthrows]
        exact ⟨fun _ _ => .inr hkept, fun k' hk' => by simp at hk'⟩

theorem placed_step (s : ListeningServer) (e : ListenEvent) (H : Placed s) : Placed (listenStep s e) := by
  unfold listenStep
  split
  · exact H
  · cases e with
    | start => exact H.start
    | proceed result => exact H.proceed result
    | stop => exact H.stop
    | connect i => exact H.onAcceptor Acceptor.isOpen_connect i
    | fail i => exact H.onAcceptor Acceptor.isOpen_fail i
    | accepted i outcome => exact H.accepted i outcome

theorem placed_init (ports : List ℕ) : Placed (.init ports) where
  resting := by
    intro _ _
    left
    intro i l hl
    rw [ListeningServer.init, List.getElem?_map] at hl
    obtain ⟨port, _, rfl⟩ := Option.map_eq_some_iff.mp hl
    rfl
  starting := by simp [ListeningServer.init]

variable {bound : ℕ → ℕ}

theorem Broken.onAcceptor {f : Acceptor → Acceptor} (hopen : ∀ a, (f a).isOpen = a.isOpen)
    (hchains : ∀ a, (f a).chains = a.chains) (H : Broken bound s) (i : ℕ) :
    Broken bound (s.onAcceptor i f) := by
  obtain ⟨hrunning, hstarting⟩ := onAcceptor_running s i f
  refine ⟨hrunning.trans H.running, fun k hk => H.starting k (hstarting ▸ hk),
    H.headOpen.onAcceptor hopen i, H.due.onAcceptor (fun j l hl => ?_) i⟩
  rw [hchains]
  exact hl

theorem Broken.accepted (H : Broken bound s) (i : ℕ) (outcome : AcceptOutcome) :
    Broken bound (s.handleAccept i outcome) := by
  rcases s.handleAccept_cases i outcome with heq | heq | ⟨l, a, n, hl, hopen, hchains, hn, heq⟩
  · rw [heq]
    exact H
  · rw [heq]
    exact ⟨H.running, H.starting, H.headOpen, H.due⟩
  · rw [heq, H.running, if_neg Bool.false_ne_true]
    refine ⟨H.running, H.starting, H.headOpen.put fun l' hl' hopen' => ?_, H.due.put ?_⟩
    · obtain rfl : l = l' := Option.some.inj (hl.symm.trans hl')
      exact hopen.trans hopen'
    · -- the handler takes one accept away, and no other is begun
      have hold := H.due i l hl
      dsimp only
      omega

theorem Broken.start (H : Broken bound s) : Broken bound s.start := by
  rw [ListeningServer.start]
  split
  · exact H
  · exact ⟨H.running, fun k hk => (Option.some.inj hk).symm, H.headOpen, H.due⟩

theorem Broken.proceed (H : Broken bound s) (result : BindResult) : Broken bound (s.proceed result) := by
  rw [ListeningServer.proceed]
  split
  · exact H
  · rename_i k hk
    obtain rfl := H.starting k hk
    obtain ⟨l, hl, hopen⟩ := H.headOpen
    have hthrows : l.acceptor.bindListen result = (false, l.acceptor) := if_pos hopen
    have hkept : HeadOpen (s.put 0 { l with acceptor := l.acceptor }) :=
      HeadOpen.put ⟨l, hl, hopen⟩ fun _ _ _ => hopen
    rw [hl]
    dsimp only
    rw [hthrows]
    exact ⟨H.running, fun k' hk' => by simp at hk', hkept, H.due.put (H.due 0 l hl)⟩

theorem broken_step (s : ListeningServer) (e : ListenEvent) (H : Broken bound s) :
    Broken bound (listenStep s e) := by
  unfold listenStep
  split
  · exact H
  · cases e with
    | start => exact H.start
    | proceed result => exact H.proceed result
    | stop =>
        have hstop : s.stop = s := by simp [ListeningServer.stop, H.running]
        exact hstop.symm ▸ H
    | connect i => exact H.onAcceptor Acceptor.isOpen_connect Acceptor.chains_connect i
    | fail i => exact H.onAcceptor Acceptor.isOpen_fail Acceptor.chains_fail i
    | accepted i outcome => exact H.accepted i outcome

end

/-- **After a start that has failed**, or a stop: all listeners are closed, or the server never runs
again and each listener serves no more than the accepts that it had left. -/
theorem broken_start_final (ports : List ℕ) (evs later : List ListenEvent)
    (hrunning : (run listenStep (.init ports) evs).running = false)
    (hstarting : (run listenStep (.init ports) evs).starting = none) :
    EachListener Closed (run listenStep (.init ports) evs) ∨
      Always listenStep (Broken (due (run listenStep (.init ports) evs)))
        (run listenStep (.init ports) evs) later := by
  have hplaced : Placed (run listenStep (.init ports) evs) :=
    run_invariant Placed placed_step (placed_init ports)
  refine (hplaced.resting hrunning hstarting).imp id fun hhead => ?_
  have hdue : EachListener (fun i l => l.served + l.acceptor.chains ≤
      due (run listenStep (.init ports) evs) i) (run listenStep (.init ports) evs) := by
    intro i l hl
    rw [due, hl]
  have hbroken : Broken (due (run listenStep (.init ports) evs)) (run listenStep (.init ports) evs) :=
    ⟨hrunning, fun k hk => absurd hk (by simp [hstarting]), hhead, hdue⟩
  exact always_of_invariant (C := fun _ _ => True) _ (fun s e H _ => broken_step s e H) hbroken
    (along_const_iff.mpr fun _ _ => trivial)

/-- The second port is taken; then a client of the first, and another start. -/
def secondTaken : List ListenEvent := [.start, .proceed .ok, .proceed .notBound]

theorem broken_start_final_secondTaken :
    EachListener Closed (run listenStep (.init [9100, 515]) secondTaken) ∨
      Always listenStep (Broken (due (run listenStep (.init [9100, 515]) secondTaken)))
        (run listenStep (.init [9100, 515]) secondTaken)
        [.connect 0, .accepted 0 .client, .start, .proceed .ok] :=
  broken_start_final [9100, 515] secondTaken _ (by decide) (by decide)

end Protogate.Server
