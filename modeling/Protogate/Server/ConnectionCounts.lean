import Protogate.Proxy.ClosingCompletes
import Protogate.Proxy.CreateOutcome
import Protogate.Server.TcpServer

/-!
# The connection counts of `TCPServer`

`handle_accept` counts a connection before it gives it to the proxy, on its listener and in
`active_connection_count_`, and passes a callback that takes it from both counts again.  The
proxy invokes the callback while it creates the connection, or never:
`start_forwarding_with_callback` does not keep it.  So the counts are right until an accepted
connection ends.

## Main definitions

* `PortListener`, `TcpListeners`, `handleAccept`, `handleConnectionClosed` — the server.
* `Counting`, `CountEvent`, `countStep` — the server with its proxy, the connections that are
  open, and the decrements made for each accept.
* `CountsExact` — the counts agree with each other and with the open connections.
* `KeepsCount` — the condition on a step.
* `counts_exact_iff` — the counts are exact throughout exactly if every step meets it.
-/

namespace Protogate.Server

open Protogate.Lib Protogate.Models Protogate.Proxy

/-! ## The server -/

/-- A listener: its port and its connection count. -/
structure PortListener where
  port : ℕ
  connectionCount : ℕ
  deriving DecidableEq, Repr

/-- The listeners, `active_connection_count_`, and the tunnels found so far. -/
structure TcpListeners where
  listeners : List PortListener
  activeConnectionCount : ℕ
  portToTunnel : Assoc ℕ Str

def TcpListeners.init (ports : List ℕ) : TcpListeners := ⟨ports.map (⟨·, 0⟩), 0, ∅⟩

/-- Change the count of the `i`-th listener. -/
def TcpListeners.modifyCount (s : TcpListeners) (i : ℕ) (f : ℕ → ℕ) : TcpListeners :=
  { s with listeners := s.listeners.modify i fun l => { l with connectionCount := f l.connectionCount } }

/-- Both counters go up. -/
def TcpListeners.countUp (s : TcpListeners) (i : ℕ) : TcpListeners :=
  { s.modifyCount i (· + 1) with activeConnectionCount := s.activeConnectionCount + 1 }

/-- The error path of `handle_accept`. -/
def TcpListeners.countDown (s : TcpListeners) (i : ℕ) : TcpListeners :=
  { s.modifyCount i (· - 1) with activeConnectionCount := s.activeConnectionCount - 1 }

/-- `handle_connection_closed` for the `i`-th listener. -/
def TcpListeners.handleConnectionClosed (s : TcpListeners) (i : ℕ) : TcpListeners :=
  { s.modifyCount i (fun n => if 0 < n then n - 1 else n) with
    activeConnectionCount :=
      if 0 < s.activeConnectionCount then s.activeConnectionCount - 1
      else s.activeConnectionCount }

/-- What an accept gives: an error, or a client, with the cache entries in the order of the
visit and what `create_connection` meets; `none` if it throws, which it does only before it
has stored or reported anything. -/
inductive Accepted
  | error
  | client (visit : List (Str × Tunnel)) (call : Option CreateCall)

/-- The server and the proxy after an accept, how often it decremented the counters, and the
connection that was opened. -/
structure AcceptResult where
  server : TcpListeners
  proxy : TcpProxy
  decrements : ℕ
  opened : Option ℕ

/-- `create_connection` is called for the tunnel, with the callback of the listener. -/
def TcpListeners.proxyConnection (allows : List Str → Str → Bool) (s : TcpListeners) (p : TcpProxy)
    (i : ℕ) (tunnelId : Str) : Option CreateCall → AcceptResult
  | none => ⟨s.countDown i, p, 1, none⟩
  | some call =>
      let result := createConnectionResult allows p call tunnelId
      { server := result.closeCalls.foldl (fun s _ => s.handleConnectionClosed i) s
        proxy := result.proxy
        decrements := result.closeCalls.length
        opened := if call.Succeeds allows then some p.created else none }

/-- `handle_accept` of the `i`-th listener. -/
def handleAccept (allows : List Str → Str → Bool) (s : TcpListeners) (p : TcpProxy) (i : ℕ) :
    Accepted → AcceptResult
  | .error => ⟨s, p, 0, none⟩
  | .client visit call =>
      match s.listeners[i]? with
      | none => ⟨s, p, 0, none⟩
      | some listener =>
          let (tunnelId, memo) := findTunnelForPort s.portToTunnel visit listener.port
          let s := { s with portToTunnel := memo }
          if tunnelId.isEmpty then ⟨s, p, 0, none⟩
          else (s.countUp i).proxyConnection allows p i tunnelId call

/-! ## Runs -/

/-- The id under which a call closes a connection. -/
def closingId (p : TcpProxy) : EndingCall → Option Str
  | .call (.event (.agentFrame frame _)) =>
      match decodeAgentFrame frame with
      | some (.close id) | some (.error id) => some id
      | _ => none
  | .call (.event (.clientEnd ref _ _)) => (p.objects.lookup ref).map (·.connectionId)
  | .writeError ref _ _ => (p.objects.lookup ref).map (·.connectionId)
  | .call (.event (.close id _ _)) => some id
  | _ => none

/-- The connections a call closes: the one whose handler reports the end, and the one that
`close_connection` finds. -/
def closedBy (p : TcpProxy) (e : EndingCall) : List ℕ :=
  failedBy p e ++ ((closingId p e).bind p.connections.lookup).toList

/-- The server with its proxy, the number of accepts so far, the accepted connections that
are open, and the accepts for which the counters were decremented, once for each time. -/
structure Counting where
  server : TcpListeners
  proxy : TcpProxy
  accepts : ℕ
  opened : List ℕ
  decremented : List ℕ

def Counting.init (ports : List ℕ) : Counting := ⟨.init ports, .init, 0, [], []⟩

/-- An accept of the `i`-th listener completes, or something happens at the proxy. -/
inductive CountEvent
  | accept (i : ℕ) (accepted : Accepted)
  | proxy (e : EndingCall)

def countStep (allows : List Str → Str → Bool) (s : Counting) : CountEvent → Counting
  | .accept i accepted =>
      let result := handleAccept allows s.server s.proxy i accepted
      { server := result.server
        proxy := result.proxy
        accepts := s.accepts + 1
        opened := s.opened ++ result.opened.toList
        decremented := s.decremented ++ List.replicate result.decrements s.accepts }
  | .proxy e =>
      { s with
        proxy := endingCall allows s.proxy e
        opened := s.opened.filter fun ref => ref ∉ closedBy s.proxy e }

/-! ## What should hold, and when it does -/

/-- The sum of the listeners' counts. -/
def total (listeners : List PortListener) : ℕ := (listeners.map (·.connectionCount)).sum

/-- The counts agree with each other and with the number of open connections, and for no
connection is a counter decremented twice. -/
structure CountsExact (s : Counting) : Prop where
  sum : s.server.activeConnectionCount = total s.server.listeners
  opened : s.server.activeConnectionCount = s.opened.length
  once : s.decremented.Nodup

/-- A client for a tunnel passes the checks, and then the agent is gone. -/
def FindsAgentGone (allows : List Str → Str → Bool) (s : TcpListeners) (i : ℕ) : Accepted → Prop
  | .error => False
  | .client visit call =>
      ∃ listener c, s.listeners[i]? = some listener ∧ call = some c ∧
        (findTunnelForPort s.portToTunnel visit listener.port).1 ≠ [] ∧
        (admitClient allows c.env).isSome ∧ c.agent = none

/-- No client that passes the checks finds the agent gone, and no open connection is closed. -/
def KeepsCount (allows : List Str → Str → Bool) (s : Counting) : CountEvent → Prop
  | .accept i accepted => ¬ FindsAgentGone allows s.server i accepted
  | .proxy e => ∀ ref ∈ closedBy s.proxy e, ref ∉ s.opened

/-! ## The counters -/

section
variable {listeners : List PortListener} {s : TcpListeners} {i : ℕ}

theorem total_modify {l : PortListener} (h : listeners[i]? = some l) (f : PortListener → PortListener) :
    total (listeners.modify i f) + l.connectionCount = total listeners + (f l).connectionCount := by
  induction listeners generalizing i with
  | nil => cases h
  | cons a listeners ih =>
      cases i with
      | zero =>
          obtain rfl := Option.some.inj h
          simp [total]
          omega
      | succ i =>
          have hrest := ih h
          simp only [total, List.modify_succ_cons, List.map_cons, List.sum_cons] at hrest ⊢
          omega

/-- `active_connection_count_` is the sum of the listeners' counts. -/
def TcpListeners.Agrees (s : TcpListeners) : Prop := s.activeConnectionCount = total s.listeners

theorem TcpListeners.Agrees.countUp (H : s.Agrees) {l : PortListener}
    (h : s.listeners[i]? = some l) : (s.countUp i).Agrees := by
  have hmodify := total_modify h fun l => { l with connectionCount := l.connectionCount + 1 }
  simp only [TcpListeners.Agrees] at H
  simp only [TcpListeners.Agrees, TcpListeners.countUp, TcpListeners.modifyCount]
  rw [H]
  dsimp only at hmodify
  omega

/-- Undoing a change of a count. -/
theorem modifyCount_modifyCount {f g : ℕ → ℕ} (h : ∀ n, g (f n) = n) :
    (s.modifyCount i f).modifyCount i g = s := by
  simp only [TcpListeners.modifyCount, List.modify_modify_eq, Function.comp_def, h]
  exact congrArg (fun l => { s with listeners := l }) (List.modify_id i s.listeners)

theorem countDown_countUp : (s.countUp i).countDown i = s := by
  have hcount := modifyCount_modifyCount (s := s) (i := i) (f := (· + 1)) (g := (· - 1)) fun n => rfl
  exact congrArg (fun s' => { s' with activeConnectionCount := s.activeConnectionCount }) hcount

/-- The callback undoes the count. -/
theorem handleConnectionClosed_countUp : (s.countUp i).handleConnectionClosed i = s := by
  have hcount := modifyCount_modifyCount (s := s) (i := i) (f := (· + 1))
    (g := fun n => if 0 < n then n - 1 else n) fun n => by simp
  simp only [TcpListeners.handleConnectionClosed, TcpListeners.countUp, Nat.zero_lt_succ, if_pos,
    Nat.add_sub_cancel]
  exact congrArg (fun s' => { s' with activeConnectionCount := s.activeConnectionCount }) hcount

end

/-! ## Accepts -/

section
variable (allows : List Str → Str → Bool) (s : TcpListeners) (p : TcpProxy) (i : ℕ)

/-- A connection given to the proxy stays counted unless it is refused, or the frame to the
agent fails; then the counters are decremented once. -/
theorem proxyConnection_cases (tunnelId : Str) (call : Option CreateCall) :
    (∃ p', (s.countUp i).proxyConnection allows p i tunnelId call = ⟨s, p', 1, none⟩ ∧
      ∀ c, call = some c → (admitClient allows c.env).isSome → c.agent ≠ none) ∨
    ∃ c p', call = some c ∧ (admitClient allows c.env).isSome ∧
      (s.countUp i).proxyConnection allows p i tunnelId call =
        ⟨s.countUp i, p', 0, if c.agent = none then none else some p.created⟩ := by
  cases call with
  | none => exact .inl ⟨p, by simp [TcpListeners.proxyConnection, countDown_countUp]⟩
  | some c =>
      have hcalls : (createConnectionResult allows p c tunnelId).closeCalls.length = _ :=
        length_closeCalls p tunnelId
      have hagent : c.env.agent = c.agent.map fun a => sendTcpDataOk a.1 a.2 := rfl
      simp only [TcpListeners.proxyConnection]
      by_cases hkept : (admitClient allows c.env).isSome ∧ c.env.agent ≠ some false
      · rw [if_pos hkept, List.length_eq_zero_iff] at hcalls
        refine .inr ⟨c, (createConnectionResult allows p c tunnelId).proxy, rfl, hkept.1, ?_⟩
        have hsucceeds : c.Succeeds allows ↔ c.agent ≠ none := by
          have hne := hkept.2
          rw [CreateCall.Succeeds, hagent, and_iff_right hkept.1]
          rw [hagent] at hne
          cases hc : c.agent with
          | none => simp
          | some a =>
              rw [hc] at hne
              simpa using hne
        rw [hcalls]
        simp only [hsucceeds, ite_not]
        rfl
      · rw [if_neg hkept] at hcalls
        obtain ⟨call, hcall⟩ := List.length_eq_one_iff.mp hcalls
        have hfails : ¬ c.Succeeds allows := fun h => hkept ⟨h.1, by simp [h.2]⟩
        refine .inl ⟨(createConnectionResult allows p c tunnelId).proxy, ?_, ?_⟩
        · rw [hcall, if_neg hfails]
          simp only [List.foldl_cons, List.foldl_nil, handleConnectionClosed_countUp,
            List.length_singleton]
        · rintro c' hc' hadmitted hnone
          obtain rfl := Option.some.inj hc'
          exact hkept ⟨hadmitted, by simp [hagent, hnone]⟩

/-- An accept leaves the counters as they were, or counts a connection: one that is open, or
one that finds the agent gone. -/
theorem handleAccept_cases (accepted : Accepted) :
    ∃ memo p', (∃ n ≤ 1, handleAccept allows s p i accepted =
        ⟨{ s with portToTunnel := memo }, p', n, none⟩ ∧ ¬ FindsAgentGone allows s i accepted) ∨
      ∃ l opened, s.listeners[i]? = some l ∧ handleAccept allows s p i accepted =
        ⟨TcpListeners.countUp { s with portToTunnel := memo } i, p', 0, opened⟩ ∧
        (opened = none ↔ FindsAgentGone allows s i accepted) := by
  cases accepted with
  | error => exact ⟨s.portToTunnel, p, .inl ⟨0, by omega, rfl, id⟩⟩
  | client visit call =>
      cases hl : s.listeners[i]? with
      | none =>
          refine ⟨s.portToTunnel, p, .inl ⟨0, by omega, by simp [handleAccept, hl], ?_⟩⟩
          rintro ⟨l, c, hl', _⟩
          rw [hl] at hl'
          cases hl'
      | some l =>
          have hgone : FindsAgentGone allows s i (.client visit call) ↔
              (findTunnelForPort s.portToTunnel visit l.port).1 ≠ [] ∧
                ∃ c, call = some c ∧ (admitClient allows c.env).isSome ∧ c.agent = none := by
            simp only [FindsAgentGone, hl]
            grind
          rw [hgone]
          refine ⟨(findTunnelForPort s.portToTunnel visit l.port).2, ?_⟩
          by_cases hfind : (findTunnelForPort s.portToTunnel visit l.port).1 = []
          · exact ⟨p, .inl ⟨0, by omega, by simp [handleAccept, hl, hfind], fun h => h.1 hfind⟩⟩
          · have hempty : (findTunnelForPort s.portToTunnel visit l.port).1.isEmpty = false := by
              simpa using hfind
            simp only [handleAccept, hl, hempty, Bool.false_eq_true, if_false]
            obtain ⟨p', hresult, hstays⟩ | ⟨c, p', rfl, hadmitted, hresult⟩ :=
              proxyConnection_cases allows { s with portToTunnel := _ } p i _ call
            · refine ⟨p', .inl ⟨1, by omega, hresult, ?_⟩⟩
              rintro ⟨_, c, hc, hadmitted, hnone⟩
              exact hstays c hc hadmitted hnone
            · exact ⟨p', .inr ⟨l, _, rfl, hresult, by simp [hfind, hadmitted]⟩⟩

end

/-! ## Runs -/

/-- The counters agree, and no accept has decremented them twice. -/
structure CountInv (s : Counting) : Prop where
  agrees : s.server.Agrees
  past : ∀ n ∈ s.decremented, n < s.accepts
  once : s.decremented.Nodup

theorem countInv_init (ports : List ℕ) : CountInv (.init ports) where
  agrees := by simp [TcpListeners.Agrees, Counting.init, TcpListeners.init, total, Function.comp_def]
  past := by simp [Counting.init]
  once := List.nodup_nil

section
variable {s : Counting}

/-- The decrements of an accept are the first for it. -/
theorem CountInv.decremented (H : CountInv s) {n : ℕ} (hn : n ≤ 1) :
    (∀ k ∈ s.decremented ++ List.replicate n s.accepts, k < s.accepts + 1) ∧
      (s.decremented ++ List.replicate n s.accepts).Nodup := by
  constructor
  · intro k hk
    obtain hk | hk := List.mem_append.mp hk
    · exact Nat.lt_succ_of_lt (H.past k hk)
    · rw [List.eq_of_mem_replicate hk]
      exact Nat.lt_succ_self _
  · refine H.once.append (List.nodup_replicate.mpr hn) fun k hk hk' => ?_
    rw [List.eq_of_mem_replicate hk'] at hk
    exact Nat.lt_irrefl _ (H.past _ hk)

theorem countInv_step (allows : List Str → Str → Bool) (s : Counting) (e : CountEvent)
    (H : CountInv s) : CountInv (countStep allows s e) := by
  cases e with
  | proxy e => exact ⟨H.agrees, H.past, H.once⟩
  | accept i accepted =>
      simp only [countStep]
      obtain ⟨memo, p', ⟨n, hn, hresult, _⟩ | ⟨l, opened, hl, hresult, _⟩⟩ :=
        handleAccept_cases allows s.server s.proxy i accepted
      · have hdecremented := H.decremented hn
        rw [hresult]
        exact ⟨H.agrees, hdecremented.1, hdecremented.2⟩
      · have hdecremented := H.decremented (n := 0) (by omega)
        have hagrees : TcpListeners.Agrees { s.server with portToTunnel := memo } := H.agrees
        rw [hresult]
        exact ⟨hagrees.countUp hl, hdecremented.1, hdecremented.2⟩

/-- Closing a connection that is open makes the count wrong. -/
theorem length_opened_iff (p : TcpProxy) (e : EndingCall) (opened : List ℕ) :
    opened.length = (opened.filter fun ref => ref ∉ closedBy p e).length ↔
      ∀ ref ∈ closedBy p e, ref ∉ opened := by
  rw [eq_comm, List.length_filter_eq_length_iff]
  simp only [decide_eq_true_eq]
  exact ⟨fun h ref hclosed hopen => h ref hopen hclosed, fun h ref hopen hclosed => h ref hclosed hopen⟩

/-- From exact counts a step leads to exact counts exactly if it meets the condition. -/
theorem countsExact_step_iff (allows : List Str → Str → Bool) (e : CountEvent) (H : CountInv s)
    (h : CountsExact s) : CountsExact (countStep allows s e) ↔ KeepsCount allows s e := by
  have hnext := countInv_step allows s e H
  have hopened : CountsExact (countStep allows s e) ↔
      (countStep allows s e).server.activeConnectionCount = (countStep allows s e).opened.length :=
    ⟨CountsExact.opened, fun hlength => ⟨hnext.agrees, hlength, hnext.once⟩⟩
  rw [hopened]
  cases e with
  | proxy e =>
      simp only [countStep, KeepsCount]
      rw [h.opened]
      exact length_opened_iff s.proxy e s.opened
  | accept i accepted =>
      simp only [countStep, KeepsCount]
      obtain ⟨memo, p', ⟨n, _, hresult, hstays⟩ | ⟨l, opened, _, hresult, hgone⟩⟩ :=
        handleAccept_cases allows s.server s.proxy i accepted
      · simp [hresult, hstays, h.opened]
      · rw [hresult, ← hgone]
        -- the counters go up; an object is open in addition unless the agent was gone
        cases opened with
        | none => simp [TcpListeners.countUp, h.opened]
        | some ref => simp [TcpListeners.countUp, h.opened]

end

theorem countsExact_init (ports : List ℕ) : CountsExact (.init ports) :=
  ⟨(countInv_init ports).agrees, rfl, List.nodup_nil⟩

/-- **The counts are exact** throughout a run exactly if no client that passes the checks
finds the agent gone and no connection that is open is closed. -/
theorem counts_exact_iff (allows : List Str → Str → Bool) (ports : List ℕ) (evs : List CountEvent) :
    Always (countStep allows) CountsExact (.init ports) evs ↔
      Along (countStep allows) (KeepsCount allows) (.init ports) evs :=
  always_iff_along CountInv (countInv_step allows) (fun _ e => countsExact_step_iff allows e)
    (countInv_init ports) (countsExact_init ports)

/-- A client on port 9100 while `db` has an entry for the port. -/
def sampleAccept (agent : Option (Agent.State × WriteOutcome)) : CountEvent :=
  .accept 0 (.client [("db:tcp:9100".toList, sampleTunnel)] (some (sampleCall agent)))

/-- The client leaves; and another one finds the agent gone. -/
theorem not_counts_exact :
    ¬ Always (countStep fun _ _ => false) CountsExact (.init [9100])
        [sampleAccept (some (.connected, .written)),
          .proxy (.call (.event (.clientEnd 0 true true)))] ∧
      ¬ Always (countStep fun _ _ => false) CountsExact (.init [9100]) [sampleAccept none] := by
  constructor
  · intro H
    exact absurd H.2.2.opened (by decide +kernel)
  · intro H
    exact absurd H.2.opened (by decide +kernel)

end Protogate.Server
