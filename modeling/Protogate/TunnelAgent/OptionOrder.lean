import Mathlib.Data.List.Nodup
import Protogate.TunnelAgent.AgentConfig

/-!
# The order of the options

Most options of the command line set a value of their own, so their order does not matter.  Two
work on the local URL: `--target-host` writes a new one, with port 3000, and `--target-port`
replaces what follows the last colon of the URL there is.  The port is kept only when it is
given after the host.

## Main definitions

* `CliOption`, `CliOption.args` — the options, and the arguments they are written as.
* `CliOption.set`, `parseArgs_args` — what an option does.
* `Admissible` — every option once, one way for each setting, numbers that are read.
* `options_commute_iff` — when every order gives the same configuration.
-/

namespace Protogate.TunnelAgent

open Protogate.Lib

/-! ## Options -/

/-- The options other than `--config` and `--help`. -/
inductive CliOption
  | server (value : Str)
  | serverHost (value : Str)
  | serverPort (value : Str)
  | token (value : Str)
  | tunnelId (value : Str)
  | localUrl (value : Str)
  | targetHost (value : Str)
  | targetPort (value : Str)
  | logFile (value : Str)
  | verifyTls
  | noVerifyTls
  deriving DecidableEq

/-- What an option is about. -/
inductive Setting
  | address
  | token
  | tunnelId
  | url
  | logFile
  | verifyTls
  deriving DecidableEq

namespace CliOption

def name : CliOption → Str
  | server _ => "--server".toList
  | serverHost _ => "--server-host".toList
  | serverPort _ => "--server-port".toList
  | token _ => "--token".toList
  | tunnelId _ => "--tunnel-id".toList
  | localUrl _ => "--local-url".toList
  | targetHost _ => "--target-host".toList
  | targetPort _ => "--target-port".toList
  | logFile _ => "--log-file".toList
  | verifyTls => "--verify-tls".toList
  | noVerifyTls => "--no-verify-tls".toList

def value : CliOption → Option Str
  | server v | serverHost v | serverPort v | token v | tunnelId v => some v
  | localUrl v | targetHost v | targetPort v | logFile v => some v
  | verifyTls | noVerifyTls => none

/-- The arguments the option is written as. -/
def args (o : CliOption) : List Str := o.name :: o.value.toList

def setting : CliOption → Setting
  | server _ | serverHost _ | serverPort _ => .address
  | token _ => .token
  | tunnelId _ => .tunnelId
  | localUrl _ | targetHost _ | targetPort _ => .url
  | logFile _ => .logFile
  | verifyTls | noVerifyTls => .verifyTls

/-- A port in the value is one that `std::stoi` reads. -/
def WellFormed : CliOption → Prop
  | server v => ':' ∈ v → (portOf ((v.dropWhile (· ≠ ':')).drop 1)).isSome
  | serverPort v => (portOf v).isSome
  | _ => True

/-- The URL with another port. -/
def withPort (url port : Str) : Str := if ':' ∈ url then url.rdropWhile (· ≠ ':') ++ port else url

/-- What a well-formed option does to a configuration. -/
def set (config : AgentConfig) : CliOption → AgentConfig
  | server v =>
      { config with
        server :=
          { config.server with
            host := if ':' ∈ v then v.takeWhile (· ≠ ':') else v
            port :=
              if ':' ∈ v then (portOf ((v.dropWhile (· ≠ ':')).drop 1)).getD config.server.port
              else config.server.port } }
  | serverHost v => { config with server := { config.server with host := v } }
  | serverPort v =>
      { config with server := { config.server with port := (portOf v).getD config.server.port } }
  | token v => { config with tunnel := { config.tunnel with token := v } }
  | tunnelId v => { config with tunnel := { config.tunnel with id := v } }
  | localUrl v => config.setUrl v
  | targetHost v => config.setUrl ("http://".toList ++ v ++ ":3000".toList)
  | targetPort v => config.setUrl (withPort config.localConfig.url v)
  | logFile _ => config
  | verifyTls => config.setVerifyTls true
  | noVerifyTls => config.setVerifyTls false

end CliOption

/-- Every option is given once, each setting by one option, or by one for the host and one for
the port, and every port is read as a number. -/
structure Admissible (opts : List CliOption) : Prop where
  distinct : (opts.map CliOption.name).Nodup
  oneServer : ∀ s, .server s ∈ opts → ∀ v, .serverHost v ∉ opts ∧ .serverPort v ∉ opts
  oneUrl : ∀ u, .localUrl u ∈ opts → ∀ v, .targetHost v ∉ opts ∧ .targetPort v ∉ opts
  oneVerifyTls : .verifyTls ∈ opts → .noVerifyTls ∉ opts
  wellFormed : ∀ o ∈ opts, o.WellFormed

/-! ## Reading them -/

section
open AgentConfig
variable (readFile : Str → Option Json) (config : AgentConfig)

theorem setServer_of_wellFormed {v : Str} (h : (CliOption.server v).WellFormed) :
    config.setServer v = some ((CliOption.server v).set config) := by
  rw [setServer]
  split
  · rename_i hcolon
    obtain ⟨port, hport⟩ := Option.isSome_iff_exists.mp (h hcolon)
    simp only [CliOption.set, hcolon, hport, if_true, Option.map_some, Option.getD_some]
  · rename_i hcolon
    simp [CliOption.set, hcolon]

theorem setServerPort_of_wellFormed {v : Str} (h : (CliOption.serverPort v).WellFormed) :
    config.setServerPort v = some ((CliOption.serverPort v).set config) := by
  obtain ⟨port, hport⟩ := Option.isSome_iff_exists.mp h
  simp [setServerPort, CliOption.set, hport]

theorem setTargetPort_eq (v : Str) : config.setTargetPort v = (CliOption.targetPort v).set config := by
  simp only [setTargetPort, CliOption.set, CliOption.withPort]
  split <;> rfl

/-- The name of a flag is none of the names before it in the loop. -/
def IsFlag (arg : Str) : Prop :=
  arg ∉ ["--config".toList, "--server".toList, "--token".toList, "--tunnel-id".toList,
    "--local-url".toList, "--server-host".toList, "--server-port".toList, "--target-host".toList,
    "--target-port".toList, "--log-file".toList]

instance (arg : Str) : Decidable (IsFlag arg) := inferInstanceAs (Decidable (_ ∉ _))

theorem parseArgs_flag {arg : Str} {c : AgentConfig} (hname : IsFlag arg)
    (hflag : config.flag arg = some c) (rest : List Str) :
    parseArgs readFile config (arg :: rest) = parseArgs readFile c rest := by
  cases rest with
  | nil => exact hflag
  | cons v rest =>
      simp only [IsFlag, List.mem_cons, List.not_mem_nil, or_false, not_or] at hname
      obtain ⟨h1, h2, h3, h4, h5, h6, h7, h8, h9, h10⟩ := hname
      rw [parseArgs, if_neg h1, if_neg h2, if_neg h3, if_neg h4, if_neg h5, if_neg h6, if_neg h7,
        if_neg h8, if_neg h9, if_neg h10, hflag, Option.bind_some]

/-- The loop takes the arguments of an option and does what it does. -/
theorem parseArgs_args (o : CliOption) (h : o.WellFormed) (rest : List Str) :
    parseArgs readFile config (o.args ++ rest) = parseArgs readFile (o.set config) rest := by
  cases o with
  | server v =>
      show parseArgs readFile config ("--server".toList :: v :: rest) = _
      rw [parseArgs, if_neg (by decide), if_pos rfl, setServer_of_wellFormed config h]
      rfl
  | token v =>
      show parseArgs readFile config ("--token".toList :: v :: rest) = _
      rw [parseArgs, if_neg (by decide), if_neg (by decide), if_pos rfl]
      rfl
  | tunnelId v =>
      show parseArgs readFile config ("--tunnel-id".toList :: v :: rest) = _
      rw [parseArgs, if_neg (by decide), if_neg (by decide), if_neg (by decide), if_pos rfl]
      rfl
  | localUrl v =>
      show parseArgs readFile config ("--local-url".toList :: v :: rest) = _
      rw [parseArgs, if_neg (by decide), if_neg (by decide), if_neg (by decide), if_neg (by decide),
        if_pos rfl]
      rfl
  | serverHost v =>
      show parseArgs readFile config ("--server-host".toList :: v :: rest) = _
      rw [parseArgs, if_neg (by decide), if_neg (by decide), if_neg (by decide), if_neg (by decide),
        if_neg (by decide), if_pos rfl]
      rfl
  | serverPort v =>
      show parseArgs readFile config ("--server-port".toList :: v :: rest) = _
      rw [parseArgs, if_neg (by decide), if_neg (by decide), if_neg (by decide), if_neg (by decide),
        if_neg (by decide), if_neg (by decide), if_pos rfl, setServerPort_of_wellFormed config h]
      rfl
  | targetHost v =>
      show parseArgs readFile config ("--target-host".toList :: v :: rest) = _
      rw [parseArgs, if_neg (by decide), if_neg (by decide), if_neg (by decide), if_neg (by decide),
        if_neg (by decide), if_neg (by decide), if_neg (by decide), if_pos rfl]
      rfl
  | targetPort v =>
      show parseArgs readFile config ("--target-port".toList :: v :: rest) = _
      rw [parseArgs, if_neg (by decide), if_neg (by decide), if_neg (by decide), if_neg (by decide),
        if_neg (by decide), if_neg (by decide), if_neg (by decide), if_neg (by decide), if_pos rfl,
        setTargetPort_eq]
  | logFile v =>
      show parseArgs readFile config ("--log-file".toList :: v :: rest) = _
      rw [parseArgs, if_neg (by decide), if_neg (by decide), if_neg (by decide), if_neg (by decide),
        if_neg (by decide), if_neg (by decide), if_neg (by decide), if_neg (by decide),
        if_neg (by decide), if_pos rfl]
      rfl
  | verifyTls =>
      have hflag : config.flag "--verify-tls".toList = some (config.setVerifyTls true) := by
        rw [flag, if_neg (by decide), if_pos rfl]
      exact parseArgs_flag readFile config (by decide) hflag rest
  | noVerifyTls =>
      have hflag : config.flag "--no-verify-tls".toList = some (config.setVerifyTls false) := by
        rw [flag, if_pos rfl]
      exact parseArgs_flag readFile config (by decide) hflag rest

/-- **The whole command line** does what its options do, one after the other. -/
theorem parseArgs_flatMap {opts : List CliOption} (h : ∀ o ∈ opts, o.WellFormed) :
    parseArgs readFile config (opts.flatMap CliOption.args) =
      some (opts.foldl CliOption.set config) := by
  induction opts generalizing config with
  | nil => rfl
  | cons o opts ih =>
      rw [List.flatMap_cons, parseArgs_args readFile config o (h o List.mem_cons_self),
        ih _ fun o ho => h o (List.mem_cons_of_mem _ ho), List.foldl_cons]

end

/-! ## Changing the order -/

section
variable {opts : List CliOption} {x y : CliOption}

/-- Options for different settings commute. -/
theorem set_comm_of_setting (h : x.setting ≠ y.setting) (config : AgentConfig) :
    CliOption.set (x.set config) y = CliOption.set (y.set config) x := by
  cases x <;> cases y <;> first | rfl | exact absurd rfl h

/-- The URL of a target. -/
def targetUrl (host port : Str) : Str := "http://".toList ++ host ++ ':' :: port

theorem targetUrl_inj {host port port' : Str} :
    targetUrl host port = targetUrl host port' ↔ port = port' := by
  unfold targetUrl
  rw [List.append_cancel_left_eq, List.cons.injEq, and_iff_right rfl]

/-- The port written with a host is 3000. -/
theorem set_targetHost (config : AgentConfig) (host : Str) :
    (CliOption.targetHost host).set config = config.setUrl (targetUrl host "3000".toList) := by
  have hcolon : ":3000".toList = ':' :: "3000".toList := by decide +kernel
  unfold targetUrl
  rw [CliOption.set, hcolon]

/-- Another port takes the place of what follows the last colon. -/
theorem withPort_targetUrl (host port : Str) {old : Str} (hold : ':' ∉ old) :
    CliOption.withPort (targetUrl host old) port = targetUrl host port := by
  unfold targetUrl
  generalize "http://".toList ++ host = front
  have hcolon : ':' ∈ front ++ ':' :: old := List.mem_append_right _ List.mem_cons_self
  have hlast : (front ++ ':' :: old).rdropWhile (· ≠ ':') = front ++ [':'] := by
    have hdrop : (old.reverse ++ ':' :: front.reverse).dropWhile (· ≠ ':') = ':' :: front.reverse :=
      dropWhile_ne_append (by rwa [List.mem_reverse]) _
    rw [List.rdropWhile, List.reverse_append, List.reverse_cons, List.append_assoc,
      List.singleton_append, hdrop, List.reverse_cons, List.reverse_reverse]
  rw [CliOption.withPort, if_pos hcolon, hlast, List.append_assoc, List.singleton_append]

/-- The port after the host is kept. -/
theorem set_host_port (config : AgentConfig) (host port : Str) :
    (CliOption.targetPort port).set ((CliOption.targetHost host).set config) =
      config.setUrl (targetUrl host port) := by
  have hport : CliOption.withPort (targetUrl host "3000".toList) port = targetUrl host port :=
    withPort_targetUrl host port (by decide +kernel)
  rw [set_targetHost, ← hport]
  rfl

/-- The port before the host is not. -/
theorem set_port_host (config : AgentConfig) (host port : Str) :
    (CliOption.targetHost host).set ((CliOption.targetPort port).set config) =
      config.setUrl (targetUrl host "3000".toList) := by
  rw [set_targetHost]
  rfl

/-- Options for other settings leave the URL. -/
theorem url_foldl (h : ∀ o ∈ opts, o.setting ≠ .url) (config : AgentConfig) :
    (opts.foldl CliOption.set config).localConfig.url = config.localConfig.url := by
  induction opts generalizing config with
  | nil => rfl
  | cons o opts ih =>
      rw [List.foldl_cons, ih fun o ho => h o (List.mem_cons_of_mem _ ho)]
      have hother := h o List.mem_cons_self
      cases o <;> first | rfl | exact absurd rfl hother

namespace Admissible

/-- An option is given with one value. -/
theorem eq_of_name (H : Admissible opts) (hx : x ∈ opts) (hy : y ∈ opts) (h : x.name = y.name) :
    x = y := List.inj_on_of_nodup_map H.distinct hx hy h

theorem set_comm (H : Admissible opts)
    (hport : ∀ host port, .targetHost host ∈ opts → .targetPort port ∈ opts → port = "3000".toList)
    (hx : x ∈ opts) (hy : y ∈ opts) (config : AgentConfig) :
    CliOption.set (x.set config) y = CliOption.set (y.set config) x := by
  by_cases hname : x.name = y.name
  · rw [H.eq_of_name hx hy hname]
  · by_cases hsetting : x.setting = y.setting
    · match x, y, hsetting with
      | .server _, .server _, _ | .serverHost _, .serverHost _, _ | .serverPort _, .serverPort _, _ |
        .token _, .token _, _ | .tunnelId _, .tunnelId _, _ | .localUrl _, .localUrl _, _ |
        .targetHost _, .targetHost _, _ | .targetPort _, .targetPort _, _ | .logFile _, .logFile _, _ |
        .verifyTls, .verifyTls, _ | .noVerifyTls, .noVerifyTls, _ => exact absurd rfl hname
      | .server s, .serverHost v, _ => exact absurd hy (H.oneServer s hx v).1
      | .server s, .serverPort v, _ => exact absurd hy (H.oneServer s hx v).2
      | .serverHost v, .server s, _ => exact absurd hx (H.oneServer s hy v).1
      | .serverPort v, .server s, _ => exact absurd hx (H.oneServer s hy v).2
      | .serverHost _, .serverPort _, _ | .serverPort _, .serverHost _, _ => rfl
      | .localUrl u, .targetHost v, _ => exact absurd hy (H.oneUrl u hx v).1
      | .localUrl u, .targetPort v, _ => exact absurd hy (H.oneUrl u hx v).2
      | .targetHost v, .localUrl u, _ => exact absurd hx (H.oneUrl u hy v).1
      | .targetPort v, .localUrl u, _ => exact absurd hx (H.oneUrl u hy v).2
      | .targetHost host, .targetPort port, _ =>
          rw [set_host_port, set_port_host, hport host port hx hy]
      | .targetPort port, .targetHost host, _ =>
          rw [set_host_port, set_port_host, hport host port hy hx]
      | .verifyTls, .noVerifyTls, _ => exact absurd hy (H.oneVerifyTls hx)
      | .noVerifyTls, .verifyTls, _ => exact absurd hx (H.oneVerifyTls hy)
    · exact set_comm_of_setting hsetting config

/-- Besides a host and a port no option is about the URL. -/
theorem setting_ne_url (H : Admissible opts) {host port : Str} (hhost : .targetHost host ∈ opts)
    (hport : .targetPort port ∈ opts) {o : CliOption}
    (ho : o ∈ (opts.erase (.targetHost host)).erase (.targetPort port)) : o.setting ≠ .url := by
  have hnodup : opts.Nodup := List.Nodup.of_map _ H.distinct
  rw [(hnodup.erase _).mem_erase_iff, hnodup.mem_erase_iff] at ho
  obtain ⟨hneport, hnehost, hmem⟩ := ho
  intro hsetting
  match o, hsetting with
  | .localUrl u, _ => exact (H.oneUrl u hmem host).1 hhost
  | .targetHost _, _ => exact hnehost (H.eq_of_name hmem hhost rfl)
  | .targetPort _, _ => exact hneport (H.eq_of_name hmem hport rfl)

theorem of_perm (H : Admissible opts) {order : List CliOption} (h : order.Perm opts) :
    ∀ o ∈ order, o.WellFormed :=
  fun o ho => H.wellFormed o (h.subset ho)

end Admissible

/-- **The order.**  All orders of admissible options give one configuration exactly if a port of
the target that comes with a host is written 3000. -/
theorem options_commute_iff (readFile : Str → Option Json) {opts : List CliOption}
    (hopts : Admissible opts) :
    (∀ order : List CliOption, order.Perm opts →
      AgentConfig.fromCliArgs readFile (order.flatMap CliOption.args) =
        AgentConfig.fromCliArgs readFile (opts.flatMap CliOption.args)) ↔
      ∀ host port, .targetHost host ∈ opts → .targetPort port ∈ opts → port = "3000".toList := by
  constructor
  · intro H host port hhost hport
    have hne : CliOption.targetPort port ≠ .targetHost host := by simp
    have hperm := ((List.perm_cons_erase hhost).trans
      ((List.perm_cons_erase ((List.mem_erase_of_ne hne).mpr hport)).cons _)).symm
    have hfirst := H _ hperm
    have hsecond := H _ ((List.Perm.swap _ _ _).trans hperm)
    -- the two orders differ in the first two options only
    have hsame := hfirst.trans hsecond.symm
    rw [AgentConfig.fromCliArgs, AgentConfig.fromCliArgs,
      parseArgs_flatMap readFile _ (hopts.of_perm hperm),
      parseArgs_flatMap readFile _ (hopts.of_perm ((List.Perm.swap _ _ _).trans hperm)),
      Option.some.injEq] at hsame
    simp only [List.foldl_cons, set_host_port, set_port_host] at hsame
    have hurl := congrArg (fun c : AgentConfig => c.localConfig.url) hsame
    simp only [url_foldl fun o => hopts.setting_ne_url hhost hport] at hurl
    exact targetUrl_inj.mp hurl
  · intro hport order hperm
    rw [AgentConfig.fromCliArgs, AgentConfig.fromCliArgs,
      parseArgs_flatMap readFile _ (hopts.of_perm hperm),
      parseArgs_flatMap readFile _ hopts.wellFormed]
    congr 1
    refine hperm.foldl_eq' (fun x hx y hy config => ?_) _
    exact hopts.set_comm hport (hperm.subset hx) (hperm.subset hy) config

/-- The host and the port of the server, in either order. -/
theorem options_commute_server :
    AgentConfig.fromCliArgs (fun _ => none) ["--server-port".toList, "443".toList,
        "--server-host".toList, "s".toList, "--verify-tls".toList] =
      AgentConfig.fromCliArgs (fun _ => none) ["--server-host".toList, "s".toList,
        "--server-port".toList, "443".toList, "--verify-tls".toList] :=
  have hopts : Admissible [.serverHost "s".toList, .serverPort "443".toList, .verifyTls] :=
    { distinct := by decide +kernel
      oneServer := by simp
      oneUrl := by simp
      oneVerifyTls := by simp
      wellFormed := by
        intro o ho
        simp only [List.mem_cons, List.not_mem_nil, or_false] at ho
        obtain rfl | rfl | rfl := ho
        · trivial
        · show (portOf "443".toList).isSome
          decide +kernel
        · trivial }
  (options_commute_iff _ hopts).mpr (by simp)
    [.serverPort "443".toList, .serverHost "s".toList, .verifyTls] (List.Perm.swap _ _ _)

/-- `--target-port 8080 --target-host shop` goes to port 3000. -/
theorem options_not_commute :
    ¬ ∀ (readFile : Str → Option Json) (opts order : List CliOption), Admissible opts →
      order.Perm opts →
      AgentConfig.fromCliArgs readFile (order.flatMap CliOption.args) =
        AgentConfig.fromCliArgs readFile (opts.flatMap CliOption.args) := by
  intro H
  have hopts : Admissible [.targetHost "shop".toList, .targetPort "8080".toList] :=
    { distinct := by decide +kernel
      oneServer := by simp
      oneUrl := by simp
      oneVerifyTls := by simp
      wellFormed := by simp [CliOption.WellFormed] }
  have hsame := H (fun _ => none) _ _ hopts (List.Perm.swap _ _ [])
  revert hsame
  decide +kernel

end
end Protogate.TunnelAgent
