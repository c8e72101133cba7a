import Protogate.TunnelAgent.AgentConfig

/-!
# Two readers of the local URL

The local URL is read twice: by `RequestForwarder`, for requests, and by `run_agent`, for the
TCP connections.  The first looks for the port before the path, and takes 80 where there is
none.  The second looks for the first colon wherever it is, and where there is none it goes to
port 8080 of `localhost`, whatever the host.

## Main definitions

* `parseLocalUrl`, `RequestTarget` — what `RequestForwarder` stores.
* `RequestTarget.HasPort` — its port is a number of a port.
* `NamesPort` — the URL names a port before its path.
* `same_target_iff` — both readers have the same target exactly then.
-/

namespace Protogate.TunnelAgent

open Protogate.Lib

/-! ## The reader for requests -/

/-- `local_host_`, `local_port_` and `local_path_prefix_`. -/
structure RequestTarget where
  host : Str
  port : Str
  pathPrefix : Str
  deriving DecidableEq

/-- What stands before the first slash. -/
def authority (rest : Str) : Str := rest.takeWhile (· ≠ '/')

/-- `parse_local_url`; the error is the text it throws. -/
def parseLocalUrl (url : Str) : Except Str RequestTarget :=
  match afterScheme url with
  | none => .error "Invalid local URL: missing scheme".toList
  | some rest =>
      let pathPrefix := if '/' ∈ rest then rest.dropWhile (· ≠ '/') else "/".toList
      -- a colon counts when no slash stands before it
      if ':' ∈ authority rest then
        .ok ⟨(authority rest).takeWhile (· ≠ ':'), ((authority rest).dropWhile (· ≠ ':')).drop 1,
          pathPrefix⟩
      else .ok ⟨authority rest, "80".toList, pathPrefix⟩

/-- The port is a decimal number from 1 to 65535. -/
structure RequestTarget.HasPort (target : RequestTarget) : Prop where
  numeral : IsNumeral target.port
  bounds : 1 ≤ digitsValue target.port ∧ digitsValue target.port ≤ 65535

/-- A colon stands between the scheme and the path. -/
def NamesPort (url : Str) : Prop := ':' ∈ authority (withoutScheme url)

instance (url : Str) : Decidable (NamesPort url) :=
  inferInstanceAs (Decidable (_ ∈ _))

/-! ## Cutting -/

/-- A text is its authority, and nothing or a slash and more. -/
theorem authority_append (rest : Str) :
    '/' ∉ authority rest ∧
      (rest = authority rest ∨ ∃ path, rest = authority rest ++ '/' :: path) := by
  by_cases hslash : '/' ∈ rest
  · have hcut := eq_append_of_mem hslash
    exact ⟨hcut.1, .inr ⟨_, hcut.2⟩⟩
  · have hall : authority rest = rest := by
      rw [authority, List.takeWhile_eq_self_iff]
      intro c hc
      simpa using ne_of_mem_of_not_mem hc hslash
    rw [hall]
    exact ⟨hslash, .inl rfl⟩

/-- Before the first slash the first colon is the first of all. -/
theorem takeWhile_colon_of_mem {rest : Str} (h : ':' ∈ authority rest) :
    rest.takeWhile (· ≠ ':') = (authority rest).takeWhile (· ≠ ':') ∧
      portStr rest = ((authority rest).dropWhile (· ≠ ':')).drop 1 := by
  obtain ⟨hslash, hrest⟩ := authority_append rest
  obtain ⟨hcut, hauthority⟩ := eq_append_of_mem h
  generalize (authority rest).takeWhile (· ≠ ':') = host at hcut hauthority ⊢
  generalize ((authority rest).dropWhile (· ≠ ':')).drop 1 = port at hauthority ⊢
  have hport : '/' ∉ port := by
    intro hmem
    exact hslash (hauthority ▸ List.mem_append_right _ (List.mem_cons_of_mem _ hmem))
  rw [hauthority] at hrest
  obtain hrest | ⟨path, hrest⟩ := hrest
  · refine ⟨?_, ?_⟩
    · rw [hrest, takeWhile_ne_append hcut]
    · rw [portStr, hrest, dropWhile_ne_append hcut, List.drop_one, List.tail_cons,
        List.takeWhile_eq_self_iff]
      intro c hc
      simpa using ne_of_mem_of_not_mem hc hport
  · rw [List.append_assoc, List.cons_append] at hrest
    refine ⟨?_, ?_⟩
    · rw [hrest, takeWhile_ne_append hcut]
    · rw [portStr, hrest, dropWhile_ne_append hcut, List.drop_one, List.tail_cons,
        takeWhile_ne_append hport]

/-- A colon that only the path has leaves a slash in front of it. -/
theorem takeWhile_colon_ne {rest : Str} (h : ':' ∉ authority rest) (hcolon : ':' ∈ rest) :
    rest.takeWhile (· ≠ ':') ≠ authority rest := by
  obtain ⟨hslash, hrest | ⟨path, hrest⟩⟩ := authority_append rest
  · rw [hrest] at hcolon
    exact absurd hcolon h
  · intro heq
    have hbefore : '/' ∈ rest.takeWhile (· ≠ ':') := by
      rw [hrest, List.takeWhile_append_of_pos]
      · simp
      · intro c hc
        simpa using ne_of_mem_of_not_mem hc h
    rw [heq] at hbefore
    exact hslash hbefore

/-- The text of a port is read as its number. -/
theorem portOf_of_hasPort {target : RequestTarget} (h : target.HasPort) :
    portOf target.port = some (digitsValue target.port) := by
  have hread : stoi target.port = some (digitsValue target.port : ℤ) := by
    rw [h.numeral.stoi_eq_some_iff]
    have hbound := h.bounds.2
    omega
  have hfits : toUint16 (digitsValue target.port) = digitsValue target.port := by
    have hbound := h.bounds.2
    rw [toUint16]
    omega
  rw [portOf, hread, Option.map_some, hfits]

/-! ## Both readers -/

/-- **The targets.**  Where requests have a target with a port, TCP connections have the same
exactly if the URL names the port before its path. -/
theorem same_target_iff {url : Str} {target : RequestTarget} (hparse : parseLocalUrl url = .ok target)
    (hport : target.HasPort) :
    tcpTarget url = some (target.host, digitsValue target.port) ↔ NamesPort url := by
  rw [parseLocalUrl] at hparse
  cases hscheme : afterScheme url with
  | none =>
      rw [hscheme] at hparse
      cases hparse
  | some rest =>
      have hwithout : withoutScheme url = rest := by rw [withoutScheme, hscheme, Option.getD_some]
      rw [hscheme] at hparse
      simp only at hparse
      simp only [NamesPort, tcpTarget, hwithout]
      split at hparse
      · rename_i hcolon
        obtain ⟨hhost, hportStr⟩ := takeWhile_colon_of_mem hcolon
        have hmem : ':' ∈ rest := (List.takeWhile_prefix _).subset hcolon
        cases hparse
        rw [if_pos hmem, hportStr, hhost, portOf_of_hasPort hport]
        exact iff_of_true rfl hcolon
      · rename_i hcolon
        cases hparse
        refine iff_of_false ?_ hcolon
        split
        · -- the colon is one of the path
          rename_i hmem
          intro heq
          obtain ⟨p, _, hpair⟩ := Option.map_eq_some_iff.mp heq
          exact takeWhile_colon_ne hcolon hmem (congrArg Prod.fst hpair)
        · intro heq
          have hports : (8080 : ℕ) = digitsValue "80".toList := congrArg Prod.snd (Option.some.inj heq)
          exact absurd hports (by decide)

/-- A port, and a colon in the path. -/
theorem same_target_named :
    tcpTarget "http://shop:3000/a:b".toList = some ("shop".toList, 3000) :=
  have hparse : parseLocalUrl "http://shop:3000/a:b".toList =
      .ok ⟨"shop".toList, "3000".toList, "/a:b".toList⟩ := by decide
  (same_target_iff hparse ⟨by decide, by decide⟩).mpr (by decide)

/-- Without a port, requests go to port 80 of the host, and TCP connections to `localhost`. -/
theorem not_same_target :
    parseLocalUrl "http://shop/".toList = .ok ⟨"shop".toList, "80".toList, "/".toList⟩ ∧
    tcpTarget "http://shop/".toList = some ("localhost".toList, 8080) ∧
    ¬ ∀ (url : Str) (target : RequestTarget), parseLocalUrl url = .ok target → target.host ≠ [] →
      target.HasPort → tcpTarget url = some (target.host, digitsValue target.port) := by
  refine ⟨by decide, by decide, ?_⟩
  intro H
  have hsame := H "http://shop/".toList ⟨"shop".toList, "80".toList, "/".toList⟩ (by decide)
    (by decide) ⟨by decide, by decide⟩
  exact absurd hsame (by decide)

end Protogate.TunnelAgent
