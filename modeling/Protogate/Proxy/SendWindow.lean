import Protogate.Lib.SlidingWindow
import Protogate.Proxy.Established
import Protogate.Proxy.ReceiveBounds

/-!
# The send window

The send buffer of a connection is a sliding window over the bytes of the client:
`send_data` appends as much as fits, `update_window` erases from the front, and
`bytes_sent` counts.  A ledger beside the proxy keeps what was appended to and
consumed from each object; every object agrees with its account.

## Main definitions

* `canSend` — the query of the source.
* `sendWindow`, `windowAt` — the window of an object.
* `appendedBy`, `consumedBy` — what a call appends and consumes.
* `Ledger`, `ledgerStep` — the proxy with its accounts.
* `sendWindow_invariant` — the accounts are right in every reachable state.
-/

namespace Protogate.Proxy

open Protogate.Lib Protogate.Models Protogate.Wire

/-- `can_send`. -/
def canSend (p : TcpProxy) (id : Str) : Bool :=
  match p.getConnection id with
  | none => false
  | some (_, c) => decide (c.sendBuffer.length < sendWindowSize)

/-- The send buffer of a connection and its counter. -/
def sendWindow (c : Connection) : Window UInt8 := ⟨c.sendBuffer, c.bytesSent⟩

/-- The window of the object `ref`. -/
def windowAt (p : TcpProxy) (ref : ℕ) : Option (Window UInt8) :=
  (p.objects.lookup ref).map sendWindow

/-! ## What a call appends and consumes -/

/-- The object and the bytes `send_data` appends. -/
def sendAccepts (p : TcpProxy) (id : Str) (data : Bytes) : Option (ℕ × Bytes) :=
  match p.getConnection id with
  | none => none
  | some (ref, c) =>
      if c.state = .established then some (ref, data.take (min data.length (available c))) else none

/-- The object and the amount of an `update_window` that is not too large. -/
def updateAccepts (p : TcpProxy) (id : Str) (n : ℕ) : Option (ℕ × ℕ) :=
  match p.getConnection id with
  | none => none
  | some (ref, c) => if n ≤ c.sendBuffer.length then some (ref, n) else none

/-- The bytes appended by a call, directly or by the read it completes. -/
def appendedBy (p : TcpProxy) : Call → Option (ℕ × Bytes)
  | .sendData id data _ => sendAccepts p id data
  | .event (.clientRead ref data _) =>
      match p.objects.lookup ref with
      | none => none
      | some c =>
          if c.reading then sendAccepts (p.update ref (·.finishRead data)) c.connectionId data
          else none
  | _ => none

/-- The amount consumed by a call. -/
def consumedBy (p : TcpProxy) : Call → Option (ℕ × ℕ)
  | .event (.updateWindow id n) => updateAccepts p id n
  | _ => none

/-- The share of an object. -/
def share {α : Type} (zero : α) (ref : ℕ) : Option (ℕ × α) → α
  | none => zero
  | some (r, a) => if ref = r then a else zero

/-! ## The ledger -/

/-- The proxy, the bytes appended to each object so far, and how many of them were
consumed. -/
structure Ledger where
  proxy : TcpProxy
  appended : ℕ → Bytes
  consumed : ℕ → ℕ

def Ledger.init : Ledger := ⟨.init, fun _ => [], fun _ => 0⟩

def ledgerStep (allows : List Str → Str → Bool) (s : Ledger) (c : Call) : Ledger where
  proxy := call allows s.proxy c
  appended := fun ref => s.appended ref ++ share [] ref (appendedBy s.proxy c)
  consumed := fun ref => s.consumed ref + share 0 ref (consumedBy s.proxy c)

/-- The account of every object, those not made yet included, is right. -/
structure Accounts (s : Ledger) : Prop where
  numbered : Numbered s.proxy
  balanced : ∀ ref w, windowAt s.proxy ref = some w →
    Balanced sendWindowSize (s.appended ref) (s.consumed ref) w
  unused : ∀ ref, s.proxy.created ≤ ref → s.appended ref = [] ∧ s.consumed ref = 0

/-! ## Windows after an operation -/

section
variable {p : TcpProxy}

theorem windowAt_update (p : TcpProxy) (ref r : ℕ) (f : Connection → Connection) :
    windowAt (p.update ref f) r =
      if r = ref then (p.objects.lookup r).map fun c => sendWindow (f c) else windowAt p r := by
  rw [windowAt, lookup_update]
  split
  · rw [Option.map_map]
    rfl
  · rfl

/-- An update of other fields. -/
theorem windowAt_update_of_same (p : TcpProxy) (ref r : ℕ) {f : Connection → Connection}
    (hf : ∀ c, sendWindow (f c) = sendWindow c) : windowAt (p.update ref f) r = windowAt p r := by
  rw [windowAt_update]
  simp only [hf]
  split <;> rfl

theorem windowAt_closeConnection (p : TcpProxy) (id : Str) (graceful agent : Bool) (r : ℕ) :
    windowAt (closeConnection p id graceful agent) r = windowAt p r := by
  refine closeConnection_rule (P := fun q => windowAt q r = windowAt p r) rfl ?_ ?_ ?_ graceful agent
  · intro ref
    exact windowAt_update_of_same p ref r (f := fun c => { c with state := .closing }) fun _ => rfl
  · intro ref
    exact windowAt_update_of_same p ref r (f := fun c => { c with state := .closed }) fun _ => rfl
  · exact fun q t hq => hq

theorem sendWindow_startWrite (c : Connection) : sendWindow c.startWrite = sendWindow c := by
  rw [Connection.startWrite]
  split <;> rfl

theorem windowAt_receiveData (p : TcpProxy) (id : Str) (data : Bytes) (length r : ℕ) :
    windowAt (receiveData p id data length) r = windowAt p r := by
  refine receiveData_rule (P := fun q => windowAt q r = windowAt p r) rfl fun ref c _ _ => ?_
  exact windowAt_update_of_same p ref r fun _ => rfl

theorem windowAt_agentFrame (p : TcpProxy) (frame : Bytes) (agent : Bool) (r : ℕ) :
    windowAt (handleAgentTcpFrame p frame agent) r = windowAt p r := by
  refine handleAgentTcpFrame_rule (P := fun q => windowAt q r = windowAt p r) rfl ?_ ?_ ?_
  · exact fun _ ref _ _ => windowAt_update_of_same p ref r sendWindow_startWrite
  · exact fun _ ref _ data length _ =>
      windowAt_update_of_same p ref r fun c => sendWindow_startWrite (c.accept data length)
  · exact fun id graceful => windowAt_closeConnection p id graceful agent r

/-- `send_data` appends what it accepts. -/
theorem windowAt_sendData (p : TcpProxy) (id : Str) (data : Bytes) (agent : Option Bool) (r : ℕ) :
    windowAt (sendData p id data agent).2 r =
      (windowAt p r).map (·.append (share [] r (sendAccepts p id data))) := by
  have hnone : (windowAt p r).map (·.append []) = windowAt p r := by simp
  cases hget : p.getConnection id with
  | none => simp only [sendData, sendAccepts, hget, share, hnone]
  | some found =>
      obtain ⟨ref, c⟩ := found
      by_cases hstate : c.state = .established
      · have hqueue : windowAt (p.update ref (·.queue (data.take (min data.length (available c))))) r =
            (windowAt p r).map (·.append (share [] r (sendAccepts p id data))) := by
          rw [windowAt_update]
          simp only [sendAccepts, hget, hstate, if_true, share]
          split
          · rw [windowAt, Option.map_map]
            rfl
          · exact hnone.symm
        by_cases hzero : min data.length (available c) = 0
        · simp only [sendData, sendAccepts, hget, hstate, hzero, ne_eq, not_true_eq_false, if_false,
            if_true, share, List.take_zero]
          split
          · exact hnone.symm
          · exact hnone.symm
        · rw [← hqueue]
          simp only [sendData, hget, hstate, hzero, ne_eq, not_true_eq_false, if_false]
          split
          · rfl
          · split <;> rfl
      · simp only [sendData, sendAccepts, hget, hstate, ne_eq, not_false_eq_true, if_true, if_false,
          share, hnone]

/-- `update_window` consumes what it accepts. -/
theorem windowAt_updateWindow (p : TcpProxy) (id : Str) (n r : ℕ) :
    windowAt (updateWindow p id n) r =
      (windowAt p r).map (·.consume (share 0 r (updateAccepts p id n))) := by
  have hnone : (windowAt p r).map (·.consume 0) = windowAt p r := by simp
  cases hget : p.getConnection id with
  | none => simp only [updateWindow, updateAccepts, hget, share, hnone]
  | some found =>
      obtain ⟨ref, c⟩ := found
      by_cases hfits : n ≤ c.sendBuffer.length
      · simp only [updateWindow, updateAccepts, hget, hfits, if_true, share]
        rw [windowAt_update]
        split
        · rw [windowAt, Option.map_map]
          rfl
        · exact hnone.symm
      · simp only [updateWindow, updateAccepts, hget, hfits, if_false, share, hnone]

/-- A new object has an empty window. -/
theorem windowAt_addObject (p : TcpProxy) (id tunnelId ip : Str) (port : ℕ) (state : ConnectionState)
    (r : ℕ) : windowAt (p.addObject (newConnection id tunnelId ip port state)) r = windowAt p r ∨
      (r = p.created ∧
        windowAt (p.addObject (newConnection id tunnelId ip port state)) r = some .empty) := by
  rw [windowAt, lookup_addObject]
  split
  · exact .inr ⟨‹_›, rfl⟩
  · exact .inl rfl

theorem windowAt_create (allows : List Str → Str → Bool) (env : CreateEnv) (t : Str) (r : ℕ) :
    windowAt (createConnection allows p env t) r = windowAt p r ∨
      (r = p.created ∧ windowAt (createConnection allows p env t) r = some .empty) :=
  createConnection_rule
    (P := fun q => windowAt q r = windowAt p r ∨ (r = p.created ∧ windowAt q r = some .empty))
    (.inl rfl) (fun ip ok => windowAt_addObject p _ t ip 0 (openState ok) r)
    (fun ip => windowAt_addObject p [] t ip 0 .established r) allows

theorem windowAt_createByPort (allows : List Str → Str → Bool) (env : CreateEnv)
    (order : List (Str × Tunnel)) (port : ℕ) (digits : Vector (Fin 16) 8) (r : ℕ) :
    windowAt (createConnectionByPort allows p env order port digits) r = windowAt p r ∨
      (r = p.created ∧
        windowAt (createConnectionByPort allows p env order port digits) r = some .empty) :=
  createConnectionByPort_rule
    (P := fun q => windowAt q r = windowAt p r ∨ (r = p.created ∧ windowAt q r = some .empty))
    (.inl rfl) (fun ip ok => windowAt_addObject p _ _ ip port (openState ok) r)
    (fun ip => windowAt_addObject p _ _ ip port .established r) allows

theorem windowAt_finishRead (p : TcpProxy) (ref : ℕ) (data : Bytes) (r : ℕ) :
    windowAt (p.update ref (·.finishRead data)) r = windowAt p r :=
  windowAt_update_of_same p ref r fun _ => rfl

theorem windowAt_startRead (p : TcpProxy) (ref r : ℕ) :
    windowAt (p.update ref Connection.startRead) r = windowAt p r :=
  windowAt_update_of_same p ref r fun _ => rfl

/-- A read that completes appends what its `send_data` accepts. -/
theorem windowAt_clientRead (p : TcpProxy) (ref : ℕ) (data : Bytes) (agent : Option Bool) (r : ℕ) :
    windowAt (clientRead p ref data agent) r =
      (windowAt p r).map (·.append (share [] r (appendedBy p (.event (.clientRead ref data agent))))) := by
  have hnone : (windowAt p r).map (·.append []) = windowAt p r := by simp
  cases hobj : p.objects.lookup ref with
  | none => simp only [clientRead, appendedBy, hobj, share, hnone]
  | some c =>
      by_cases hreading : c.reading = true
      · have hid : (c.finishRead data).connectionId = c.connectionId := rfl
        rw [clientRead_eq hobj hreading, windowAt_startRead, windowAt_sendData,
          windowAt_finishRead, hid]
        simp only [appendedBy, hobj, hreading, if_true]
      · simp only [clientRead, appendedBy, hobj, hreading, Bool.not_false, if_true, share]
        exact hnone.symm

/-- **What a call does to a window**: it is that of a new object, or what the call appends and
consumes is applied to it. -/
theorem windowAt_call (allows : List Str → Str → Bool) (p : TcpProxy) (c : Call) (r : ℕ) :
    (r = p.created ∧ windowAt (call allows p c) r = some .empty) ∨
      windowAt (call allows p c) r = (windowAt p r).map fun w =>
        (w.append (share [] r (appendedBy p c))).consume (share 0 r (consumedBy p c)) := by
  have hsame : ∀ w : Option (Window UInt8), (w.map fun w => (w.append []).consume 0) = w := by simp
  cases c with
  | sendData id data agent =>
      right
      simp only [call, appendedBy, consumedBy, share, windowAt_sendData, Window.consume_zero]
  | receiveData id data =>
      right
      simp only [call, appendedBy, consumedBy, share, windowAt_receiveData, hsame]
  | event e =>
      cases e with
      | create env t =>
          obtain hold | hnew := windowAt_create (p := p) allows env t r
          · right
            simp only [call, step, appendedBy, consumedBy, share, hold, hsame]
          · exact .inl hnew
      | createByPort env order port digits =>
          obtain hold | hnew := windowAt_createByPort (p := p) allows env order port digits r
          · right
            simp only [call, step, appendedBy, consumedBy, share, hold, hsame]
          · exact .inl hnew
      | clientRead ref data agent =>
          right
          simp only [call, step, windowAt_clientRead, consumedBy, share, Window.consume_zero]
      | clientEnd ref eof agent =>
          right
          have hend : windowAt (clientEnd p ref eof agent) r = windowAt p r := by
            refine clientEnd_rule (P := fun q => windowAt q r = windowAt p r) rfl fun c _ _ => ?_
            rw [windowAt_closeConnection]
            exact windowAt_update_of_same p ref r (f := fun c => { c with reading := false })
              fun _ => rfl
          simp only [call, step, hend, appendedBy, consumedBy, share, hsame]
      | writeDone ref i =>
          right
          have hdone : windowAt (writeDone p ref i) r = windowAt p r := by
            refine windowAt_update_of_same p ref r fun c => ?_
            split
            · rfl
            · rw [Connection.finishWrite, sendWindow_startWrite]
              rfl
          simp only [call, step, hdone, appendedBy, consumedBy, share, hsame]
      | agentFrame frame agent =>
          right
          simp only [call, step, windowAt_agentFrame, appendedBy, consumedBy, share, hsame]
      | updateWindow id n =>
          right
          simp only [call, step, windowAt_updateWindow, appendedBy, consumedBy, share,
            Window.append_nil]
      | close id graceful agent =>
          right
          simp only [call, step, windowAt_closeConnection, appendedBy, consumedBy, share, hsame]

/-! ## The accounts -/

/-- What `send_data` accepts fits. -/
theorem sendAccepts_fits {r : ℕ} {w : Window UInt8} (hw : windowAt p r = some w)
    (hfits : w.buffer.length ≤ sendWindowSize) (id : Str) (data : Bytes) :
    w.buffer.length + (share [] r (sendAccepts p id data)).length ≤ sendWindowSize := by
  simp only [sendAccepts]
  cases hget : p.getConnection id with
  | none => simpa [share] using hfits
  | some found =>
      obtain ⟨ref, c⟩ := found
      by_cases hstate : c.state = .established
      · by_cases hr : r = ref
        · have hobj := (getConnection_eq_some_iff.mp hget).2
          rw [windowAt, hr, hobj] at hw
          rw [← Option.some.inj hw] at hfits ⊢
          simp only [sendWindow] at hfits ⊢
          simp only [hstate, if_true, share, hr, List.length_take, available, sendWindowSize]
            at hfits ⊢
          omega
        · simpa [hstate, share, hr] using hfits
      · simpa [hstate, share] using hfits

theorem appendedBy_fits {r : ℕ} {w : Window UInt8} (hw : windowAt p r = some w)
    (hfits : w.buffer.length ≤ sendWindowSize) (c : Call) :
    w.buffer.length + (share [] r (appendedBy p c)).length ≤ sendWindowSize := by
  cases c with
  | sendData id data agent => exact sendAccepts_fits hw hfits id data
  | receiveData id data => simpa [appendedBy, share] using hfits
  | event e =>
      cases e with
      | clientRead ref data agent =>
          simp only [appendedBy]
          split
          · simpa [share] using hfits
          · split
            · refine sendAccepts_fits ?_ hfits _ data
              rw [windowAt_finishRead, hw]
            · simpa [share] using hfits
      | _ => simpa [appendedBy, share] using hfits

theorem consumedBy_le {r : ℕ} {w : Window UInt8} (hw : windowAt p r = some w) (c : Call) :
    share 0 r (consumedBy p c) ≤ w.buffer.length := by
  cases c with
  | event e =>
      cases e with
      | updateWindow id n =>
          simp only [consumedBy, updateAccepts]
          cases hget : p.getConnection id with
          | none => simp [share]
          | some found =>
              obtain ⟨ref, c⟩ := found
              by_cases hr : r = ref
              · have hobj := (getConnection_eq_some_iff.mp hget).2
                rw [windowAt, hr, hobj] at hw
                rw [← Option.some.inj hw]
                dsimp only
                split
                · simpa [share, hr, sendWindow] using ‹n ≤ c.sendBuffer.length›
                · simp [share]
              · dsimp only
                split <;> simp [share, hr]
      | _ => simp [consumedBy, share]
  | _ => simp [consumedBy, share]

/-- A call appends to objects that are found in the map. -/
theorem sendAccepts_key {id : Str} {data : Bytes} {ref : ℕ} {bytes : Bytes}
    (h : sendAccepts p id data = some (ref, bytes)) : p.connections.lookup id = some ref := by
  simp only [sendAccepts] at h
  split at h
  · cases h
  · rename_i r c hget
    split at h
    · rw [← (Prod.mk.inj (Option.some.inj h)).1]
      exact (getConnection_eq_some_iff.mp hget).1
    · cases h

theorem appendedBy_lt (H : Numbered p) {c : Call} {ref : ℕ} {bytes : Bytes}
    (h : appendedBy p c = some (ref, bytes)) : ref < p.created := by
  cases c with
  | sendData id data agent => exact H.keys id ref (sendAccepts_key h)
  | receiveData id data => cases h
  | event e =>
      cases e with
      | clientRead r data agent =>
          simp only [appendedBy] at h
          split at h
          · cases h
          · split at h
            · have hkey := sendAccepts_key h
              rw [connections_update] at hkey
              exact H.keys _ ref hkey
            · cases h
      | _ => cases h

theorem consumedBy_lt (H : Numbered p) {c : Call} {ref n : ℕ}
    (h : consumedBy p c = some (ref, n)) : ref < p.created := by
  cases c with
  | event e =>
      cases e with
      | updateWindow id m =>
          simp only [consumedBy, updateAccepts] at h
          split at h
          · cases h
          · rename_i r c hget
            split at h
            · rw [← (Prod.mk.inj (Option.some.inj h)).1]
              exact H.keys id r (getConnection_eq_some_iff.mp hget).1
            · cases h
      | _ => cases h
  | _ => cases h

theorem share_of_lt {α : Type} {zero : α} {r bound : ℕ} {o : Option (ℕ × α)}
    (h : ∀ ref a, o = some (ref, a) → ref < bound) (hr : bound ≤ r) : share zero r o = zero := by
  cases o with
  | none => rfl
  | some found =>
      obtain ⟨ref, a⟩ := found
      have hlt := h ref a rfl
      have hne : r ≠ ref := by omega
      simp only [share, hne, if_false]

theorem narrows_receiveData (p : TcpProxy) (id : Str) (data : Bytes) (length : ℕ) :
    Narrows p (receiveData p id data length) := by
  refine receiveData_rule (.refl p) fun ref c _ _ => ?_
  exact narrows_update p ref fun c => ⟨rfl, fun h => h⟩

theorem narrows_or_adds_call (allows : List Str → Str → Bool) (p : TcpProxy) (c : Call) :
    Narrows p (call allows p c) ∨ ∃ d, Adds p (call allows p c) d := by
  cases c with
  | event e => exact narrows_or_adds_step allows p e
  | sendData id data agent => exact .inl (narrows_sendData p id data agent)
  | receiveData id data => exact .inl (narrows_receiveData p id data data.length)

theorem numbered_call (allows : List Str → Str → Bool) (c : Call) (H : Numbered p) :
    Numbered (call allows p c) :=
  H.next (narrows_or_adds_call allows p c)

theorem created_le_call (allows : List Str → Str → Bool) (p : TcpProxy) (c : Call) :
    p.created ≤ (call allows p c).created :=
  created_le_next (narrows_or_adds_call allows p c)

end

theorem accounts_init : Accounts Ledger.init where
  numbered := numbered_init
  balanced := by
    intro ref w hw
    simp [windowAt, Ledger.init, TcpProxy.init] at hw
  unused := fun _ _ => ⟨rfl, rfl⟩

/-- Every call keeps the accounts. -/
theorem accounts_step (allows : List Str → Str → Bool) (s : Ledger) (c : Call) (H : Accounts s) :
    Accounts (ledgerStep allows s c) where
  numbered := numbered_call allows c H.numbered
  unused := by
    intro ref hle
    have hcreated := created_le_call allows s.proxy c
    have hold : s.proxy.created ≤ ref := Nat.le_trans hcreated hle
    obtain ⟨happended, hconsumed⟩ := H.unused ref hold
    refine ⟨?_, ?_⟩
    · simp only [ledgerStep, happended, share_of_lt (fun _ _ => appendedBy_lt H.numbered) hold,
        List.append_nil]
    · simp only [ledgerStep, hconsumed, share_of_lt (fun _ _ => consumedBy_lt H.numbered) hold]
  balanced := by
    intro ref w hw
    simp only [ledgerStep] at hw ⊢
    obtain ⟨rfl, hnew⟩ | hold := windowAt_call allows s.proxy c ref
    · -- nothing was entered for an object before it is made
      obtain ⟨happended, hconsumed⟩ := H.unused _ (Nat.le_refl _)
      rw [hnew] at hw
      rw [← Option.some.inj hw, happended, hconsumed,
        share_of_lt (fun _ _ => appendedBy_lt H.numbered) (Nat.le_refl _),
        share_of_lt (fun _ _ => consumedBy_lt H.numbered) (Nat.le_refl _)]
      exact .empty sendWindowSize
    · rw [hold] at hw
      obtain ⟨v, hv, rfl⟩ := Option.map_eq_some_iff.mp hw
      have hbalanced := H.balanced ref v hv
      have hconsumed := consumedBy_le hv c
      refine (hbalanced.append (appendedBy_fits hv hbalanced.fits c)).consume ?_
      rw [Window.buffer_append, List.length_append]
      omega

/-! ## Sending -/

/-- Within the window, `can_send` says whether an established connection takes a byte. -/
theorem canSend_iff {p : TcpProxy} {id : Str} {ref : ℕ} {c : Connection} {data : Bytes}
    (hget : p.getConnection id = some (ref, c)) (hstate : c.state = .established)
    (hfits : c.sendBuffer.length ≤ sendWindowSize) (hdata : data ≠ []) (agent : Option Bool) :
    canSend p id = true ↔ ∃ d, (sendData p id data agent).2.objects.lookup ref = some d ∧
      c.sendBuffer.length < d.sendBuffer.length := by
  have hobj := (getConnection_eq_some_iff.mp hget).2
  have hpos : 0 < data.length := List.length_pos_iff.mpr hdata
  have hwindow : windowAt p ref = some (sendWindow c) := by rw [windowAt, hobj, Option.map_some]
  -- the object after the call, by its window
  have hafter := windowAt_sendData p id data agent ref
  simp only [hwindow, Option.map_some, sendAccepts, hget, hstate, if_true, share] at hafter
  obtain ⟨d, hd, hsame⟩ := Option.map_eq_some_iff.mp hafter
  have hbuffer := congrArg (fun w => w.buffer.length) hsame
  simp only [sendWindow, Window.buffer_append, List.length_append, List.length_take, available,
    sendWindowSize] at hbuffer hfits
  have hcan : canSend p id = decide (c.sendBuffer.length < 65536) := by
    rw [canSend, hget]
    rfl
  rw [hcan, decide_eq_true_eq]
  constructor
  · intro hless
    exact ⟨d, hd, by omega⟩
  · rintro ⟨e, he, hless⟩
    obtain rfl := Option.some.inj (he.symm.trans hd)
    omega

/-- **The send window.**  In every reachable state the send buffer of every object fits into
its window and holds the bytes appended so far less a prefix, whose length is the sum of the
updates that were not too large; `bytes_sent` is this sum and the length of the buffer; and
`can_send` says whether an established connection takes a byte. -/
theorem sendWindow_invariant (allows : List Str → Str → Bool) (calls : List Call) :
    let s := run (ledgerStep allows) Ledger.init calls
    s.proxy = run (call allows) .init calls ∧
    (∀ ref c, s.proxy.objects.lookup ref = some c →
      c.sendBuffer.length ≤ sendWindowSize ∧
      s.consumed ref ≤ (s.appended ref).length ∧
      c.sendBuffer = (s.appended ref).drop (s.consumed ref) ∧
      c.bytesSent = s.consumed ref + c.sendBuffer.length) ∧
    ∀ id ref c data agent, s.proxy.getConnection id = some (ref, c) → c.state = .established →
      data ≠ [] →
        (canSend s.proxy id = true ↔
          ∃ d, (sendData s.proxy id data agent).2.objects.lookup ref = some d ∧
            c.sendBuffer.length < d.sendBuffer.length) := by
  intro s
  have hproxy : s.proxy = run (call allows) .init calls :=
    run_map (ledgerStep allows) Ledger.proxy (fun _ _ => rfl) Ledger.init calls
  have haccounts : Accounts s := run_invariant Accounts (accounts_step allows) accounts_init
  have hobject : ∀ ref c, s.proxy.objects.lookup ref = some c →
      Balanced sendWindowSize (s.appended ref) (s.consumed ref) (sendWindow c) := by
    intro ref c hc
    exact haccounts.balanced ref (sendWindow c) (by rw [windowAt, hc, Option.map_some])
  refine ⟨hproxy, ?_, ?_⟩
  · intro ref c hc
    have hbalanced := hobject ref c hc
    exact ⟨hbalanced.fits, hbalanced.consumed_le, hbalanced.buffer_eq, hbalanced.total_eq⟩
  · intro id ref c data agent hget hstate hdata
    have hbalanced := hobject ref c (getConnection_eq_some_iff.mp hget).2
    exact canSend_iff hget hstate hbalanced.fits hdata agent

/-- The client sends three bytes, the agent takes two of them off, and two more are appended. -/
def usedWindow : List Call :=
  [.event (.create sampleEnv "db".toList), .event (.clientRead 0 [1, 2, 3] (some true)),
    .event (.updateWindow (connectionIdToString sampleEnv.uuid) 2),
    .sendData (connectionIdToString sampleEnv.uuid) [4, 5] none]

/-- Three of the five bytes are left, and there is room for a sixth. -/
theorem sendWindow_invariant_used :
    let s := run (ledgerStep fun _ _ => false) Ledger.init usedWindow
    [3, 4, 5] = (s.appended 0).drop (s.consumed 0) ∧ 5 = s.consumed 0 + 3 ∧
    ∃ d, (sendData s.proxy (connectionIdToString sampleEnv.uuid) [6] none).2.objects.lookup 0 =
      some d ∧ 3 < d.sendBuffer.length := by
  intro s
  have hget : s.proxy.getConnection (connectionIdToString sampleEnv.uuid) = some (0,
      { newConnection (connectionIdToString sampleEnv.uuid) "db".toList "10.0.0.1".toList 0
          .established with
        bytesSent := 5, sendBuffer := [3, 4, 5], read := [1, 2, 3] }) := by decide +kernel
  have hobject := (getConnection_eq_some_iff.mp hget).2
  obtain ⟨_, haccounts, hcan⟩ := sendWindow_invariant (fun _ _ => false) usedWindow
  obtain ⟨_, _, hbuffer, hsent⟩ := haccounts 0 _ hobject
  exact ⟨hbuffer, hsent,
    (hcan _ 0 _ [6] none hget rfl (by decide)).mp (by decide +kernel)⟩

end Protogate.Proxy
