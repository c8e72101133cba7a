import Mathlib.Data.Nat.Notation

/-!
# Acceptors of an event loop

A listening socket and the accepts that have been started on it.  An accept is pending until a
client connects or an error occurs; closing the socket ends all of them with an error.  Then it
is queued until its handler runs.

## Main definitions

* `Acceptor`, and its operations `bindListen`, `asyncAccept`, `connect`, `fail`, `close`.
* `Acceptor.chains` — the accepts whose handler has not run.
-/

namespace Protogate.Lib

/-- How opening, binding and listening end, if the socket is not open yet. -/
inductive BindResult
  | ok
  /-- It cannot be opened. -/
  | notOpened
  /-- It is open, but an option, the bind or the listen fails. -/
  | notBound
  deriving DecidableEq, Repr

/-- The accepts are counted: their handlers are the same. -/
structure Acceptor where
  isOpen : Bool
  pending : ℕ
  /-- Those with a client, queued. -/
  accepted : ℕ
  /-- Those with an error, queued. -/
  failed : ℕ
  deriving DecidableEq, Repr

namespace Acceptor

def new : Acceptor := ⟨false, 0, 0, 0⟩

/-- Open, set an option, bind and listen; `false` stands for an exception.  A socket that is open
cannot be opened again. -/
def bindListen (a : Acceptor) (result : BindResult) : Bool × Acceptor :=
  if a.isOpen then (false, a)
  else
    match result with
    | .ok => (true, { a with isOpen := true })
    | .notOpened => (false, a)
    | .notBound => (false, { a with isOpen := true })

def asyncAccept (a : Acceptor) : Acceptor := { a with pending := a.pending + 1 }

/-- A client connects; it waits in the backlog if no accept is pending. -/
def connect (a : Acceptor) : Acceptor :=
  if a.pending = 0 then a else { a with pending := a.pending - 1, accepted := a.accepted + 1 }

/-- An accept ends with an error. -/
def fail (a : Acceptor) : Acceptor :=
  if a.pending = 0 then a else { a with pending := a.pending - 1, failed := a.failed + 1 }

def close (a : Acceptor) : Acceptor := ⟨false, 0, a.accepted, a.failed + a.pending⟩

/-- The accepts that are pending or queued. -/
def chains (a : Acceptor) : ℕ := a.pending + a.accepted + a.failed

/-- The handler of an accept is called, if one is queued with this outcome. -/
def take (a : Acceptor) (client : Bool) : Option Acceptor :=
  if client then if a.accepted = 0 then none else some { a with accepted := a.accepted - 1 }
  else if a.failed = 0 then none else some { a with failed := a.failed - 1 }

section
variable (a : Acceptor)

@[simp] theorem isOpen_asyncAccept : a.asyncAccept.isOpen = a.isOpen := rfl
@[simp] theorem pending_asyncAccept : a.asyncAccept.pending = a.pending + 1 := rfl
@[simp] theorem accepted_asyncAccept : a.asyncAccept.accepted = a.accepted := rfl
@[simp] theorem isOpen_close : a.close.isOpen = false := rfl
@[simp] theorem pending_close : a.close.pending = 0 := rfl
@[simp] theorem accepted_close : a.close.accepted = a.accepted := rfl

@[simp] theorem chains_asyncAccept : a.asyncAccept.chains = a.chains + 1 := by
  simp only [chains, asyncAccept]
  omega

@[simp] theorem chains_close : a.close.chains = a.chains := by
  simp only [chains, close]
  omega

@[simp] theorem isOpen_connect : a.connect.isOpen = a.isOpen := by
  rw [connect]
  split <;> rfl

@[simp] theorem isOpen_fail : a.fail.isOpen = a.isOpen := by
  rw [fail]
  split <;> rfl

theorem pending_connect_le : a.connect.pending ≤ a.pending := by
  rw [connect]
  split
  · exact Nat.le_refl _
  · exact Nat.sub_le _ _

theorem pending_fail_le : a.fail.pending ≤ a.pending := by
  rw [fail]
  split
  · exact Nat.le_refl _
  · exact Nat.sub_le _ _

@[simp] theorem chains_connect : a.connect.chains = a.chains := by
  rw [connect]
  split
  · rfl
  · simp only [chains]
    omega

@[simp] theorem chains_fail : a.fail.chains = a.chains := by
  rw [fail]
  split
  · rfl
  · simp only [chains]
    omega

variable {a} {a' : Acceptor} {client : Bool}

/-- A handler takes one of the queued accepts and leaves the rest alone. -/
theorem take_spec (h : a.take client = some a') :
    a'.isOpen = a.isOpen ∧ a'.pending = a.pending ∧ a.chains = a'.chains + 1 ∧
      a.accepted = a'.accepted + client.toNat := by
  cases client with
  | true =>
      simp only [take, if_true] at h
      split at h
      · cases h
      · obtain rfl := Option.some.inj h
        refine ⟨rfl, rfl, ?_, ?_⟩ <;> simp only [chains, Bool.toNat_true] <;> omega
  | false =>
      simp only [take, Bool.false_eq_true, if_false] at h
      split at h
      · cases h
      · obtain rfl := Option.some.inj h
        refine ⟨rfl, rfl, ?_, ?_⟩ <;> simp only [chains, Bool.toNat_false] <;> omega

/-- What a start makes of the socket. -/
theorem bindListen_spec (a : Acceptor) (result : BindResult) :
    (a.bindListen result).2.chains = a.chains ∧ (a.bindListen result).2.pending = a.pending ∧
      (a.bindListen result).2.accepted = a.accepted ∧
        ((a.bindListen result).1 = true → a.isOpen = false ∧ (a.bindListen result).2.isOpen = true) := by
  cases hopen : a.isOpen
  · cases result <;> simp [bindListen, hopen, chains]
  · simp [bindListen, hopen]

end
end Acceptor
end Protogate.Lib
