import Protogate.Lib.Json

/-!
# The configuration of the agent

It is taken from the command line, from the environment or from a file, and is then checked.  The
port of the server is read with `std::stoi` and kept in an `unsigned short`; that of the local
service is read from its URL in the same way, each time the agent connects.

An exception is `none`.  Reading a file and the environment are parameters.

## Main definitions

* `AgentConfig`, `AgentConfig.defaults`, `AgentConfig.validate`.
* `AgentConfig.fromJson`, `fromCliArgs`, `fromEnvironment`, `loadConfig` — where it comes from.
* `tcpTarget` — the host and the port in a local URL.
* `loadConfig_port` — what is accepted has a port of a server.
-/

namespace Protogate.TunnelAgent

open Protogate.Lib

structure ServerConfig where
  host : Str
  port : ℕ
  verifyTls : Bool
  deriving DecidableEq

structure TunnelConfig where
  id : Str
  token : Str
  deriving DecidableEq

structure LocalConfig where
  url : Str
  timeoutSeconds : ℤ
  deriving DecidableEq

structure HealthConfig where
  heartbeatIntervalSeconds : ℤ
  heartbeatTimeoutSeconds : ℤ
  deriving DecidableEq

structure ReconnectConfig where
  initialDelaySeconds : ℤ
  maxDelaySeconds : ℤ
  maxAttempts : ℤ
  deriving DecidableEq

structure LoggingConfig where
  level : Str
  format : Str
  deriving DecidableEq

structure AgentConfig where
  server : ServerConfig
  tunnel : TunnelConfig
  localConfig : LocalConfig
  health : HealthConfig
  reconnect : ReconnectConfig
  logging : LoggingConfig
  deriving DecidableEq

/-- An `int` kept in an `unsigned short`. -/
def toUint16 (n : ℤ) : ℕ := (n % 65536).toNat

/-- The number at the front of a text, as a port. -/
def portOf (text : Str) : Option ℕ := (stoi text).map toUint16

namespace AgentConfig

/-- What the command line and the environment start from. -/
def defaults : AgentConfig where
  server := ⟨"localhost".toList, 8443, true⟩
  tunnel := ⟨[], []⟩
  localConfig := ⟨"http://localhost:3000".toList, 1800⟩
  health := ⟨30, 60⟩
  reconnect := ⟨1, 60, 0⟩
  logging := ⟨"info".toList, "json".toList⟩

/-! ## From a file -/

/-- `j[section][key]`, converted. -/
def entry {α : Type} (j : Json) (convert : Json → Option α) (name key : String) : Option α :=
  ((j.field name.toList).bind (·.field key.toList)).bind convert

/-- `get<int>()`. -/
def getInt32 (j : Json) : Option ℤ := j.getInt.map fun n => n.bmod (2 ^ 32)

def serverOf (j : Json) : Option ServerConfig := do
  let host ← entry j Json.getString "server" "host"
  let port ← entry j (Json.getUnsigned 16) "server" "port"
  let verifyTls ← entry j Json.getBool "server" "verify_tls"
  return ⟨host, port, verifyTls⟩

def tunnelOf (j : Json) : Option TunnelConfig := do
  let id ← entry j Json.getString "tunnel" "id"
  let token ← entry j Json.getString "tunnel" "token"
  return ⟨id, token⟩

def localOf (j : Json) : Option LocalConfig := do
  let url ← entry j Json.getString "local" "url"
  let timeoutSeconds ← entry j getInt32 "local" "timeout_seconds"
  return ⟨url, timeoutSeconds⟩

def healthOf (j : Json) : Option HealthConfig := do
  let heartbeatIntervalSeconds ← entry j getInt32 "health" "heartbeat_interval_seconds"
  let heartbeatTimeoutSeconds ← entry j getInt32 "health" "heartbeat_timeout_seconds"
  return ⟨heartbeatIntervalSeconds, heartbeatTimeoutSeconds⟩

def reconnectOf (j : Json) : Option ReconnectConfig := do
  let initialDelaySeconds ← entry j getInt32 "reconnect" "initial_delay_seconds"
  let maxDelaySeconds ← entry j getInt32 "reconnect" "max_delay_seconds"
  let maxAttempts ← entry j getInt32 "reconnect" "max_attempts"
  return ⟨initialDelaySeconds, maxDelaySeconds, maxAttempts⟩

def loggingOf (j : Json) : Option LoggingConfig := do
  let level ← entry j Json.getString "logging" "level"
  let format ← entry j Json.getString "logging" "format"
  return ⟨level, format⟩

/-- The configuration in a parsed file. -/
def fromJson (j : Json) : Option AgentConfig := do
  let server ← serverOf j
  let tunnel ← tunnelOf j
  let localConfig ← localOf j
  let health ← healthOf j
  let reconnect ← reconnectOf j
  let logging ← loggingOf j
  return { server, tunnel, localConfig, health, reconnect, logging }

/-! ## From the command line -/

/-- `host:port`, cut at the first colon, or a host alone. -/
def setServer (config : AgentConfig) (server : Str) : Option AgentConfig :=
  if ':' ∈ server then
    (portOf ((server.dropWhile (· ≠ ':')).drop 1)).map fun port =>
      { config with server := { config.server with host := server.takeWhile (· ≠ ':'), port } }
  else some { config with server := { config.server with host := server } }

def setServerPort (config : AgentConfig) (text : Str) : Option AgentConfig :=
  (portOf text).map fun port => { config with server := { config.server with port } }

def setVerifyTls (config : AgentConfig) (verifyTls : Bool) : AgentConfig :=
  { config with server := { config.server with verifyTls } }

def setUrl (config : AgentConfig) (url : Str) : AgentConfig :=
  { config with localConfig := { config.localConfig with url } }

/-- Put the port after the last colon of the local URL. -/
def setTargetPort (config : AgentConfig) (port : Str) : AgentConfig :=
  let url := config.localConfig.url
  if ':' ∈ url then config.setUrl (url.rdropWhile (· ≠ ':') ++ port) else config

/-- An argument without a value; any other is skipped. -/
def flag (config : AgentConfig) (arg : Str) : Option AgentConfig :=
  if arg = "--no-verify-tls".toList then some (config.setVerifyTls false)
  else if arg = "--verify-tls".toList then some (config.setVerifyTls true)
  else if arg = "--help".toList ∨ arg = "-h".toList then none
  else some config

section
variable (readFile : Str → Option Json)

def fromJsonFile (path : Str) : Option AgentConfig := (readFile path).bind fromJson

/-- The loop over the arguments; an option that takes a value is skipped where none follows. -/
def parseArgs (config : AgentConfig) : List Str → Option AgentConfig
  | [] => some config
  | [arg] => config.flag arg
  | arg :: value :: rest =>
      if arg = "--config".toList then fromJsonFile readFile value
      else if arg = "--server".toList then (config.setServer value).bind (parseArgs · rest)
      else if arg = "--token".toList then
        parseArgs { config with tunnel := { config.tunnel with token := value } } rest
      else if arg = "--tunnel-id".toList then
        parseArgs { config with tunnel := { config.tunnel with id := value } } rest
      else if arg = "--local-url".toList then parseArgs (config.setUrl value) rest
      else if arg = "--server-host".toList then
        parseArgs { config with server := { config.server with host := value } } rest
      else if arg = "--server-port".toList then (config.setServerPort value).bind (parseArgs · rest)
      else if arg = "--target-host".toList then
        parseArgs (config.setUrl ("http://".toList ++ value ++ ":3000".toList)) rest
      else if arg = "--target-port".toList then parseArgs (config.setTargetPort value) rest
      else if arg = "--log-file".toList then parseArgs config rest
      else (config.flag arg).bind (parseArgs · (value :: rest))

/-- The arguments after the name of the program. -/
def fromCliArgs (args : List Str) : Option AgentConfig := parseArgs readFile defaults args

end

/-! ## From the environment -/

/-- The address of the server, if the variable for it is set. -/
def setServerFrom (server : Option Str) (config : AgentConfig) : Option AgentConfig :=
  match server with
  | some server => config.setServer server
  | none => some config

def fromEnvironment (getenv : String → Option Str) : Option AgentConfig :=
  (setServerFrom (getenv "TUNNEL_SERVER") defaults).map fun config =>
    { config with
      tunnel :=
        { token := (getenv "TUNNEL_TOKEN").getD config.tunnel.token
          id := (getenv "TUNNEL_ID").getD config.tunnel.id }
      localConfig :=
        { config.localConfig with url := (getenv "LOCAL_URL").getD config.localConfig.url } }

/-! ## The check -/

/-- The text that `validate` throws, if it does. -/
def validate (config : AgentConfig) : Option Str :=
  if config.server.host.isEmpty then some "Server host is required".toList
  else if config.server.port = 0 then some "Server port is required".toList
  else if config.tunnel.id.isEmpty then some "Tunnel ID is required".toList
  else if config.tunnel.token.isEmpty then some "Tunnel token is required".toList
  else if config.localConfig.url.isEmpty then some "Local URL is required".toList
  else if config.localConfig.timeoutSeconds ≤ 0 then some "Local timeout must be positive".toList
  else if config.health.heartbeatIntervalSeconds ≤ 0 then
    some "Heartbeat interval must be positive".toList
  else if config.health.heartbeatTimeoutSeconds ≤ config.health.heartbeatIntervalSeconds then
    some "Heartbeat timeout must be greater than interval".toList
  else none

/-- The command line, else the environment, else `config.json`; and the check. -/
def loadConfig (readFile : Str → Option Json) (getenv : String → Option Str) (args : List Str) :
    Option AgentConfig :=
  ((fromCliArgs readFile args).or ((fromEnvironment getenv).or
    (fromJsonFile readFile "config.json".toList))).filter fun config => config.validate = none

/-! ## The port of the server -/

/-- A configuration whose port is 0 does not pass. -/
theorem port_ne_zero {config : AgentConfig} (h : config.validate = none) : config.server.port ≠ 0 := by
  intro hzero
  simp only [validate, hzero, if_true] at h
  split at h <;> cases h

/-- The port is a value of an `unsigned short`. -/
def PortFits (config : AgentConfig) : Prop := config.server.port < 65536

instance (config : AgentConfig) : Decidable config.PortFits :=
  inferInstanceAs (Decidable (config.server.port < 65536))

theorem toUint16_lt (n : ℤ) : toUint16 n < 65536 := by
  rw [toUint16]
  omega

theorem portOf_lt {text : Str} {p : ℕ} (h : portOf text = some p) : p < 65536 := by
  obtain ⟨n, _, rfl⟩ := Option.map_eq_some_iff.mp h
  exact toUint16_lt n

theorem PortFits.setServer {config c : AgentConfig} (h : config.PortFits) {server : Str}
    (hset : config.setServer server = some c) : c.PortFits := by
  rw [AgentConfig.setServer] at hset
  split at hset
  · obtain ⟨p, hp, rfl⟩ := Option.map_eq_some_iff.mp hset
    exact portOf_lt hp
  · cases hset
    exact h

theorem portFits_setServerPort {config c : AgentConfig} {text : Str}
    (hset : config.setServerPort text = some c) : c.PortFits := by
  obtain ⟨p, hp, rfl⟩ := Option.map_eq_some_iff.mp hset
  exact portOf_lt hp

theorem PortFits.setTargetPort {config : AgentConfig} (h : config.PortFits) (port : Str) :
    (config.setTargetPort port).PortFits := by
  simp only [AgentConfig.setTargetPort]
  split <;> exact h

theorem PortFits.flag {config c : AgentConfig} (h : config.PortFits) {arg : Str}
    (hflag : config.flag arg = some c) : c.PortFits := by
  simp only [AgentConfig.flag] at hflag
  split_ifs at hflag <;> cases hflag <;> exact h

theorem portFits_fromJson {j : Json} {c : AgentConfig} (h : fromJson j = some c) : c.PortFits := by
  obtain ⟨server, hserver, h⟩ := Option.bind_eq_some_iff.mp h
  have hport : server.port < 65536 := by
    obtain ⟨host, _, hserver⟩ := Option.bind_eq_some_iff.mp hserver
    obtain ⟨port, hentry, hserver⟩ := Option.bind_eq_some_iff.mp hserver
    obtain ⟨verifyTls, _, hserver⟩ := Option.bind_eq_some_iff.mp hserver
    cases hserver
    obtain ⟨value, _, hvalue⟩ := Option.bind_eq_some_iff.mp hentry
    exact Json.getUnsigned_lt (by decide) hvalue
  have hsame : c.server = server := by
    obtain ⟨tunnel, _, h⟩ := Option.bind_eq_some_iff.mp h
    obtain ⟨localConfig, _, h⟩ := Option.bind_eq_some_iff.mp h
    obtain ⟨health, _, h⟩ := Option.bind_eq_some_iff.mp h
    obtain ⟨reconnect, _, h⟩ := Option.bind_eq_some_iff.mp h
    obtain ⟨logging, _, h⟩ := Option.bind_eq_some_iff.mp h
    cases h
    rfl
  rw [PortFits, hsame]
  exact hport

theorem portFits_fromJsonFile {readFile : Str → Option Json} {path : Str} {c : AgentConfig}
    (h : fromJsonFile readFile path = some c) : c.PortFits := by
  obtain ⟨j, _, hj⟩ := Option.bind_eq_some_iff.mp h
  exact portFits_fromJson hj

/-- The loop over the arguments. -/
theorem PortFits.parseArgs {readFile : Str → Option Json} {config c : AgentConfig} {args : List Str}
    (h : config.PortFits) (hparse : parseArgs readFile config args = some c) : c.PortFits := by
  fun_induction AgentConfig.parseArgs readFile config args with
  | case1 config =>
      cases hparse
      exact h
  | case2 config arg => exact h.flag hparse
  | case3 config value rest => exact portFits_fromJsonFile hparse
  | case4 config value rest _ ih =>
      obtain ⟨config', hset, hrest⟩ := Option.bind_eq_some_iff.mp hparse
      exact ih config' (h.setServer hset) hrest
  | case5 config value rest _ _ ih => exact ih h hparse
  | case6 config value rest _ _ _ ih => exact ih h hparse
  | case7 config value rest _ _ _ _ ih => exact ih h hparse
  | case8 config value rest _ _ _ _ _ ih => exact ih h hparse
  | case9 config value rest _ _ _ _ _ _ ih =>
      obtain ⟨config', hset, hrest⟩ := Option.bind_eq_some_iff.mp hparse
      exact ih config' (portFits_setServerPort hset) hrest
  | case10 config value rest _ _ _ _ _ _ _ ih => exact ih h hparse
  | case11 config value rest _ _ _ _ _ _ _ _ ih => exact ih (h.setTargetPort value) hparse
  | case12 config value rest _ _ _ _ _ _ _ _ _ ih => exact ih h hparse
  | case13 config arg value rest _ _ _ _ _ _ _ _ _ _ ih =>
      obtain ⟨config', hflag, hrest⟩ := Option.bind_eq_some_iff.mp hparse
      exact ih config' (h.flag hflag) hrest

theorem portFits_fromEnvironment {getenv : String → Option Str} {c : AgentConfig}
    (h : fromEnvironment getenv = some c) : c.PortFits := by
  obtain ⟨config, hserver, rfl⟩ := Option.map_eq_some_iff.mp h
  have hdefaults : defaults.PortFits := by decide
  have hfits : config.PortFits := by
    cases hvariable : getenv "TUNNEL_SERVER" with
    | some server =>
        rw [hvariable, setServerFrom] at hserver
        exact hdefaults.setServer hserver
    | none =>
        rw [hvariable, setServerFrom] at hserver
        cases hserver
        exact hdefaults
  exact hfits

/-- **What is accepted has a port of a server**, though not always the one that was written. -/
theorem loadConfig_port {readFile : Str → Option Json} {getenv : String → Option Str} {args : List Str}
    {c : AgentConfig} (h : loadConfig readFile getenv args = some c) :
    1 ≤ c.server.port ∧ c.server.port ≤ 65535 := by
  obtain ⟨hload, hvalid⟩ := Option.filter_eq_some_iff.mp h
  have hfits : c.PortFits := by
    rcases Option.or_eq_some_iff.mp hload with hcli | ⟨_, hload⟩
    · exact PortFits.parseArgs (by decide : defaults.PortFits) hcli
    · rcases Option.or_eq_some_iff.mp hload with henv | ⟨_, hfile⟩
      · exact portFits_fromEnvironment henv
      · exact portFits_fromJsonFile hfile
  have hne := port_ne_zero (of_decide_eq_true hvalid)
  rw [PortFits] at hfits
  omega

end AgentConfig

/-! ## The target of the forwarder -/

/-- What follows the first `://`. -/
def afterScheme : Str → Option Str
  | [] => none
  | c :: url => if hasPrefix "://".toList (c :: url) then some ((c :: url).drop 3) else afterScheme url

/-- The local URL without its scheme. -/
def withoutScheme (url : Str) : Str := (afterScheme url).getD url

/-- What follows the first colon, up to a slash. -/
def portStr (url : Str) : Str := ((url.dropWhile (· ≠ ':')).drop 1).takeWhile (· ≠ '/')

/-- The host and the port for TCP, from the local URL; `none` where `std::stoi` throws. -/
def tcpTarget (url : Str) : Option (Str × ℕ) :=
  let url := withoutScheme url
  if ':' ∈ url then (portOf (portStr url)).map fun port => (url.takeWhile (· ≠ ':'), port)
  else some ("localhost".toList, 8080)

example : tcpTarget "http://localhost:3000/".toList = some ("localhost".toList, 3000) := by decide

end Protogate.TunnelAgent
