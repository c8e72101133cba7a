import Protogate.Lib.Assoc
import Protogate.Lib.Run
import Protogate.Lib.Text

/-!
# The SNI callback of the TLS listener

`Connection` registers `sni_callback` with the context that it is made from, and itself as the
argument.  All connections are made from the default context, so the argument is the connection
that was made last from it.  A connection lives as long as an operation on it is pending; the
argument is a raw pointer.

The handler of an accept starts the handshake and then calls `do_accept`, which makes the next
connection.  In between another thread may run the callback of this very handshake, which finds
its own connection; afterwards it finds another one.

## Main definitions

* `SniServer`, `sniStep` — the connections of a listener and the argument of each context.
* `SniCall` — a call of the callback: which connection it found.
* `callbacks_find_live` — what it finds while nothing is replaced.
-/

namespace Protogate.Server

open Protogate.Lib

/-! ## Connections and callbacks -/

/-- What keeps a connection alive: the accept it was made for, the handler of the accept until it
has called `do_accept` (with the operations of the connection going on, or not), or these
operations alone. -/
inductive HolderPhase
  | accepting
  | handling (shaking : Bool)
  | opened
  | gone
  deriving DecidableEq, Repr

/-- Its operations have been started, and are not over. -/
def HolderPhase.Shakes : HolderPhase → Prop
  | .handling shaking => shaking = true
  | .opened => True
  | .accepting | .gone => False

instance : DecidablePred HolderPhase.Shakes
  | .handling shaking => inferInstanceAs (Decidable (shaking = true))
  | .opened => inferInstanceAs (Decidable True)
  | .accepting | .gone => inferInstanceAs (Decidable False)

/-- No accept of it, nor a handler of one, is over. -/
def HolderPhase.Waits : HolderPhase → Prop
  | .accepting | .handling _ => True
  | .opened | .gone => False

instance : DecidablePred HolderPhase.Waits
  | .accepting | .handling _ => inferInstanceAs (Decidable True)
  | .opened | .gone => inferInstanceAs (Decidable False)

structure SniConnection where
  context : ℕ
  phase : HolderPhase
  sniHostname : Str
  deriving DecidableEq, Repr

/-- A call in the handshake of a connection, which finds the connection `target`: in which phase
that one was, whether the server was running, and whether the context was still the default one. -/
structure SniCall where
  connection : ℕ
  target : ℕ
  found : HolderPhase
  running : Bool
  current : Bool
  deriving DecidableEq, Repr

/-- The contexts are numbered. -/
structure SniServer where
  running : Bool
  defaultContext : ℕ
  connections : List SniConnection
  callbackArg : Assoc ℕ ℕ
  calls : List SniCall

inductive SniEvent
  | start (ok : Bool)
  | stop
  /-- `load_certificate` makes a new context the default one. -/
  | replace
  /-- An accept ends with a client or an error, and its handler begins. -/
  | accepted (i : ℕ) (ok : Bool)
  /-- The handler of an accept calls `do_accept`, and ends. -/
  | rearmed (i : ℕ)
  /-- A ClientHello. -/
  | hello (i : ℕ) (servername : Option Str)
  /-- The last operation of a connection is over. -/
  | closed (i : ℕ)
  deriving DecidableEq, Repr

namespace SniServer

def init : SniServer := ⟨false, 0, [], ∅, []⟩

/-- The TLS branch of `do_accept`, with the constructor of `Connection`. -/
def doAccept (s : SniServer) : SniServer :=
  if ! s.running then s
  else
    { s with
      connections := s.connections ++ [⟨s.defaultContext, .accepting, []⟩]
      callbackArg := s.callbackArg.insert s.defaultContext s.connections.length }

def start (s : SniServer) (ok : Bool) : SniServer :=
  if s.running || ! ok then s else doAccept { s with running := true }

def setPhase (s : SniServer) (i : ℕ) (phase : HolderPhase) : SniServer :=
  { s with connections := s.connections.modify i fun c => { c with phase := phase } }

/-- The phase of a connection; of one that was never made, as if it were gone. -/
def phase (s : SniServer) (i : ℕ) : HolderPhase :=
  ((s.connections[i]?).map SniConnection.phase).getD .gone

/-- The handler of an accept, up to `do_accept`; with a client it starts the handshake. -/
def accepted (s : SniServer) (i : ℕ) (ok : Bool) : SniServer :=
  if s.phase i = .accepting then s.setPhase i (.handling ok) else s

/-- The handler of an accept calls `do_accept`, and lets go of its connection. -/
def rearmed (s : SniServer) (i : ℕ) : SniServer :=
  match s.phase i with
  | .handling shaking => (s.setPhase i (if shaking then .opened else .gone)).doAccept
  | _ => s

/-- The last operation of a connection is over. -/
def closed (s : SniServer) (i : ℕ) : SniServer :=
  match s.phase i with
  | .handling _ => s.setPhase i (.handling false)
  | .opened => s.setPhase i .gone
  | _ => s

/-- `sni_callback`, in the handshake of connection `i` of this context. -/
def sniCallback (s : SniServer) (i context : ℕ) (servername : Option Str) : SniServer :=
  match s.callbackArg.lookup context with
  | none => s
  | some target =>
      { s with
        calls := s.calls ++
          [⟨i, target, s.phase target, s.running, decide (context = s.defaultContext)⟩]
        connections :=
          match servername with
          | none => s.connections
          | some hostname => s.connections.modify target fun c => { c with sniHostname := hostname } }

def hello (s : SniServer) (i : ℕ) (servername : Option Str) : SniServer :=
  match s.connections[i]? with
  | none => s
  | some c => if c.phase.Shakes then s.sniCallback i c.context servername else s

end SniServer

def sniStep (s : SniServer) : SniEvent → SniServer
  | .start ok => s.start ok
  | .stop => { s with running := false }
  | .replace => { s with defaultContext := s.defaultContext + 1 }
  | .accepted i ok => s.accepted i ok
  | .rearmed i => s.rearmed i
  | .hello i servername => s.hello i servername
  | .closed i => s.closed i

/-! ## What callbacks find -/

/-- The index of the connection made last. -/
def SniServer.newest (s : SniServer) : ℕ := s.connections.length - 1

/-- The connection made last is the argument of its context, which is the newest there is a
connection of; while the server is running its accept is pending, or the handler of this at work. -/
structure NewestHeld (s : SniServer) : Prop where
  running : s.running = true → (s.phase s.newest).Waits
  argument : ∀ c, s.connections[s.newest]? = some c → s.callbackArg.lookup c.context = some s.newest
  last : ∀ (i : ℕ) (c : SniConnection), s.connections[i]? = some c →
    ∃ c', s.connections[s.newest]? = some c' ∧ c.context ≤ c'.context
  contexts : ∀ (i : ℕ) (c : SniConnection), s.connections[i]? = some c → c.context ≤ s.defaultContext

/-- In a running server a callback for the default context finds another connection, which waits
for a client, or one whose accept handler has not called `do_accept` yet. -/
def CallSound (call : SniCall) : Prop :=
  call.running = true → call.current = true →
    call.found = .accepting ∧ call.target ≠ call.connection ∨ ∃ shaking, call.found = .handling shaking

section
variable {s : SniServer}

theorem phase_of_get {i : ℕ} {c : SniConnection} (h : s.connections[i]? = some c) :
    s.phase i = c.phase := by
  rw [SniServer.phase, h]
  rfl

/-- A connection that waits has been made. -/
theorem exists_of_waits {i : ℕ} (h : (s.phase i).Waits) : ∃ c, s.connections[i]? = some c := by
  rw [SniServer.phase] at h
  cases hget : s.connections[i]? with
  | none =>
      rw [hget] at h
      exact h.elim
  | some c => exact ⟨c, rfl⟩

/-- An update of one connection that keeps its context, and does not end the wait of the newest. -/
theorem NewestHeld.modify {i : ℕ} {f : SniConnection → SniConnection} (hcontext : ∀ c, (f c).context = c.context)
    (hphase : s.running = true → i = s.newest → ∀ c, s.connections[i]? = some c →
      c.phase.Waits → (f c).phase.Waits)
    (H : NewestHeld s) : NewestHeld { s with connections := s.connections.modify i f } := by
  have hnewest : SniServer.newest { s with connections := s.connections.modify i f } = s.newest := by
    simp [SniServer.newest]
  have hget : ∀ (j : ℕ) (c : SniConnection), (s.connections.modify i f)[j]? = some c →
      ∃ c', s.connections[j]? = some c' ∧ c.context = c'.context := by
    intro j c hc
    rw [List.getElem?_modify] at hc
    split at hc
    · obtain ⟨c', hc', rfl⟩ := Option.map_eq_some_iff.mp hc
      exact ⟨c', hc', hcontext c'⟩
    · exact ⟨c, by simpa using hc, rfl⟩
  have hback : ∀ (j : ℕ) (c : SniConnection), s.connections[j]? = some c →
      ∃ c', (s.connections.modify i f)[j]? = some c' ∧ c.context = c'.context := by
    intro j c hc
    rw [List.getElem?_modify]
    split
    · exact ⟨f c, by simp [hc], (hcontext c).symm⟩
    · exact ⟨c, by simpa using hc, rfl⟩
  constructor
  · intro hrunning
    have hwaits := H.running hrunning
    obtain ⟨c, hc⟩ := exists_of_waits hwaits
    rw [phase_of_get hc] at hwaits
    rw [hnewest, SniServer.phase, List.getElem?_modify]
    split
    · rename_i heq
      rw [hc]
      exact hphase hrunning heq c (heq ▸ hc) hwaits
    · rw [hc]
      exact hwaits
  · intro c hc
    rw [hnewest] at hc ⊢
    obtain ⟨c', hc', heq⟩ := hget _ _ hc
    rw [heq]
    exact H.argument c' hc'
  · intro j c hc
    obtain ⟨c₁, hc₁, heq₁⟩ := hget _ _ hc
    obtain ⟨c₂, hc₂, hle⟩ := H.last j c₁ hc₁
    obtain ⟨c₃, hc₃, heq₃⟩ := hback _ _ hc₂
    rw [hnewest]
    exact ⟨c₃, hc₃, by omega⟩
  · intro j c hc
    obtain ⟨c', hc', heq⟩ := hget _ _ hc
    rw [heq]
    exact H.contexts j c' hc'

theorem newestHeld_doAccept (hrunning : s.running = true)
    (hcontexts : ∀ (i : ℕ) (c : SniConnection), s.connections[i]? = some c → c.context ≤ s.defaultContext) :
    NewestHeld s.doAccept := by
  have heq : s.doAccept = { s with
      connections := s.connections ++ [⟨s.defaultContext, .accepting, []⟩]
      callbackArg := s.callbackArg.insert s.defaultContext s.connections.length } := by
    simp [SniServer.doAccept, hrunning]
  have hnewest : s.doAccept.newest = s.connections.length := by simp [heq, SniServer.newest]
  have hlast : s.doAccept.connections[s.connections.length]? = some ⟨s.defaultContext, .accepting, []⟩ := by
    simp [heq]
  have hall : ∀ (i : ℕ) (c : SniConnection), s.doAccept.connections[i]? = some c → c.context ≤ s.defaultContext := by
    intro i c hc
    rw [heq, List.getElem?_append] at hc
    split at hc
    · exact hcontexts i c hc
    · rw [List.getElem?_singleton] at hc
      split at hc
      · obtain rfl := Option.some.inj hc
        exact le_rfl
      · cases hc
  have hdefault : s.doAccept.defaultContext = s.defaultContext := by rw [heq]
  constructor
  · intro _
    rw [hnewest, phase_of_get hlast]
    exact trivial
  · intro c hc
    rw [hnewest, hlast] at hc
    obtain rfl := Option.some.inj hc
    rw [hnewest, heq]
    exact AList.lookup_insert _
  · intro i c hc
    rw [hnewest]
    exact ⟨_, hlast, hall i c hc⟩
  · rw [hdefault]
    exact hall

/-- A phase changes, but not so that the wait of the newest connection ends. -/
theorem NewestHeld.setPhase {i : ℕ} {phase : HolderPhase}
    (hi : s.running = true → (s.phase i).Waits → phase.Waits) (H : NewestHeld s) :
    NewestHeld (s.setPhase i phase) := by
  refine H.modify (fun _ => rfl) fun hrunning _ c hc hwaits => ?_
  rw [← phase_of_get hc] at hwaits
  exact hi hrunning hwaits

/-- The phase of any connection may change while the server is not running. -/
theorem contexts_setPhase (H : NewestHeld s) (i : ℕ) (phase : HolderPhase) (j : ℕ) (c : SniConnection)
    (hc : (s.setPhase i phase).connections[j]? = some c) : c.context ≤ s.defaultContext := by
  rw [SniServer.setPhase, List.getElem?_modify] at hc
  split at hc
  · obtain ⟨c', hc', rfl⟩ := Option.map_eq_some_iff.mp hc
    exact H.contexts j c' hc'
  · exact H.contexts j c (by simpa using hc)

theorem NewestHeld.accepted (H : NewestHeld s) (i : ℕ) (ok : Bool) : NewestHeld (s.accepted i ok) := by
  rw [SniServer.accepted]
  split
  · exact H.setPhase fun _ _ => trivial
  · exact H

/-- The handler of an accept leaves a new connection behind, unless the server is stopped. -/
theorem NewestHeld.rearmed (H : NewestHeld s) (i : ℕ) : NewestHeld (s.rearmed i) := by
  rw [SniServer.rearmed]
  split
  · rename_i shaking _
    cases hrunning : s.running with
    | true => exact newestHeld_doAccept hrunning (contexts_setPhase H i _)
    | false =>
        have hstays : (s.setPhase i (if shaking then .opened else .gone)).doAccept =
            s.setPhase i (if shaking then .opened else .gone) := by
          simp [SniServer.doAccept, SniServer.setPhase, hrunning]
        rw [hstays]
        exact H.setPhase fun h => absurd h (by simp [hrunning])
  · exact H

theorem NewestHeld.closed (H : NewestHeld s) (i : ℕ) : NewestHeld (s.closed i) := by
  rw [SniServer.closed]
  split
  · exact H.setPhase fun _ _ => trivial
  · rename_i hopened
    refine H.setPhase fun _ hwaits => ?_
    rw [hopened] at hwaits
    exact hwaits
  · exact H

theorem NewestHeld.sniCallback (H : NewestHeld s) (i context : ℕ) (servername : Option Str) :
    NewestHeld (s.sniCallback i context servername) := by
  rw [SniServer.sniCallback]
  split
  · exact H
  · rename_i target _
    cases servername with
    | none => exact ⟨H.running, H.argument, H.last, H.contexts⟩
    | some hostname =>
        have hkept := H.modify (i := target) (f := fun c => { c with sniHostname := hostname })
          (fun _ => rfl) fun _ _ _ _ hwaits => hwaits
        exact ⟨hkept.running, hkept.argument, hkept.last, hkept.contexts⟩

theorem NewestHeld.hello (H : NewestHeld s) (i : ℕ) (servername : Option Str) :
    NewestHeld (s.hello i servername) := by
  rw [SniServer.hello]
  split
  · exact H
  · split
    · exact H.sniCallback i _ servername
    · exact H

theorem newestHeld_init : NewestHeld .init := by
  constructor <;> simp [SniServer.init]

theorem newestHeld_step (s : SniServer) (e : SniEvent) (H : NewestHeld s) : NewestHeld (sniStep s e) := by
  cases e with
  | start ok =>
      rw [sniStep, SniServer.start]
      split
      · exact H
      · exact newestHeld_doAccept (s := { s with running := true }) rfl H.contexts
  | stop => exact ⟨by simp [sniStep], H.argument, H.last, H.contexts⟩
  | replace => exact ⟨H.running, H.argument, H.last, fun i c hc => (H.contexts i c hc).trans (Nat.le_succ _)⟩
  | accepted i ok => exact H.accepted i ok
  | rearmed i => exact H.rearmed i
  | hello i servername => exact H.hello i servername
  | closed i => exact H.closed i

/-- The calls of a ClientHello are sound. -/
theorem callSound_hello (H : NewestHeld s) (i : ℕ) (servername : Option Str) :
    ∀ call ∈ (s.hello i servername).calls, call ∈ s.calls ∨ CallSound call := by
  intro call hcall
  rw [SniServer.hello] at hcall
  split at hcall
  · exact .inl hcall
  · rename_i c hc
    split at hcall
    · rename_i hshakes
      rw [SniServer.sniCallback] at hcall
      split at hcall
      · exact .inl hcall
      · rename_i target htarget
        rw [List.mem_append, List.mem_singleton] at hcall
        rcases hcall with hold | rfl
        · exact .inl hold
        · right
          intro hrunning hcurrent
          -- the newest connection has the default context too, so it is the one that is found
          obtain ⟨c', hc', hle⟩ := H.last i c hc
          have hsame : c'.context = c.context := by
            have hdefault : c.context = s.defaultContext := by simpa using hcurrent
            have hle' := H.contexts _ c' hc'
            omega
          have hfound := H.argument c' hc'
          rw [hsame, htarget] at hfound
          obtain rfl := Option.some.inj hfound
          have hwaits := H.running hrunning
          cases hphase : s.phase s.newest with
          | accepting =>
              refine .inl ⟨rfl, fun heq => ?_⟩
              rw [← phase_of_get hc, ← show s.newest = i from heq, hphase] at hshakes
              exact hshakes
          | handling shaking => exact .inr ⟨shaking, rfl⟩
          | opened | gone =>
              rw [hphase] at hwaits
              exact hwaits.elim
    · exact .inl hcall

/-- All calls so far are sound. -/
structure CallbacksSound (s : SniServer) : Prop extends NewestHeld s where
  calls : ∀ call ∈ s.calls, CallSound call

theorem calls_doAccept (s : SniServer) : s.doAccept.calls = s.calls := by
  rw [SniServer.doAccept]
  split <;> rfl

theorem callbacksSound_step (s : SniServer) (e : SniEvent) (H : CallbacksSound s) :
    CallbacksSound (sniStep s e) := by
  refine ⟨newestHeld_step s e H.toNewestHeld, ?_⟩
  cases e with
  | start ok =>
      rw [sniStep, SniServer.start]
      split
      · exact H.calls
      · rw [calls_doAccept]
        exact H.calls
  | stop | replace => exact H.calls
  | accepted i ok =>
      rw [sniStep, SniServer.accepted]
      split <;> exact H.calls
  | rearmed i =>
      rw [sniStep, SniServer.rearmed]
      split
      · rw [calls_doAccept]
        exact H.calls
      · exact H.calls
  | hello i servername =>
      intro call hcall
      exact (callSound_hello H.toNewestHeld i servername call hcall).elim (H.calls call) id
  | closed i =>
      rw [sniStep, SniServer.closed]
      split <;> exact H.calls

end

/-- **What the SNI callback finds**: while the server is running, in every handshake on the context
that is still the default one, a connection that is alive: another one, which waits for the next
client, or one whose accept handler has not called `do_accept` yet. -/
theorem callbacks_find_live (evs : List SniEvent) :
    Always sniStep CallbacksSound .init evs :=
  always_of_invariant (C := fun _ _ => True) CallbacksSound (fun s e H _ => callbacksSound_step s e H)
    ⟨newestHeld_init, by simp [SniServer.init]⟩ (along_const_iff.mpr fun _ _ => trivial)

/-- A handshake that is faster than the handler that started it, and then one that is not. -/
def helloFirst : List SniEvent :=
  [.start true, .accepted 0 true, .hello 0 none, .rearmed 0, .accepted 1 true, .rearmed 1, .hello 1 none]

example : (run sniStep .init helloFirst).calls =
    [⟨0, 0, .handling true, true, true⟩, ⟨1, 2, .accepting, true, true⟩] := by decide

/-- The default context is replaced between two handshakes. -/
def replacedBetween : List SniEvent :=
  [.start true, .accepted 0 true, .rearmed 0, .replace, .accepted 1 true, .rearmed 1, .closed 1,
    .hello 0 none]

example : (run sniStep .init replacedBetween).calls = [⟨0, 1, .gone, true, false⟩] := by decide

end Protogate.Server
