import Protogate.Lib.HttpMessage
import Protogate.Lib.Throwing

/-!
# The configuration of the server

It is read from environment variables, where an empty one counts as not set, and then checked.
Ports are read with `std::stoi` and checked before they are cast; the limits are read with
`std::stoul`, which takes a minus, and are cast to 32 bits before they are checked.

An exception is its text.

## Main definitions

* `Config`, `Config.validate`.
* `Environment`, `getEnv`, `parsePortList`, `fromEnvironment`.
* `WellFormed`, `environmentOf` — the configurations that can be asked for, and how.
* `accepted_iff` — these are the configurations that an environment gives.
-/

namespace Protogate.Utils

open Protogate.Lib

structure Config where
  port : ℕ
  agentPort : ℕ
  keyVaultUri : Str
  dnsZone : Str
  logAnalyticsWorkspaceId : Option Str
  logAnalyticsKey : Option Str
  applicationInsightsKey : Option Str
  tcpPorts : List ℕ
  maxConcurrentTunnels : ℕ
  maxConnectionsPerTunnel : ℕ
  ioThreadPoolSize : ℕ
  tunnelEstablishTimeoutMs : ℕ
  requestTimeoutMs : ℕ
  idleTimeoutMs : ℕ
  deriving DecidableEq, Repr

/-! ## The check -/

/-- `Config::validate`. -/
def Config.validate (config : Config) : Except Str Unit := do
  throwIf (config.keyVaultUri.isEmpty ∨ ¬ hasPrefix "https://".toList config.keyVaultUri ∨
      ¬ ".vault.azure.net".toList <:+: config.keyVaultUri)
    "KEY_VAULT_URI must be in format: https://<name>.vault.azure.net".toList
  throwIf (config.dnsZone.isEmpty ∨ '.' ∉ config.dnsZone)
    "DNS_ZONE must be a valid domain name".toList
  throwIf (config.port = config.agentPort) "PORT and AGENT_PORT cannot be the same".toList
  throwIf (∃ tcpPort ∈ config.tcpPorts, tcpPort = config.port ∨ tcpPort = config.agentPort)
    "TCP_PORTS cannot include PORT or AGENT_PORT values".toList
  throwIf (config.maxConcurrentTunnels = 0 ∨ 10000 < config.maxConcurrentTunnels)
    "MAX_CONCURRENT_TUNNELS must be between 1 and 10000".toList
  throwIf (config.maxConnectionsPerTunnel = 0)
    "MAX_CONNECTIONS_PER_TUNNEL must be greater than 0".toList

/-! ## The environment -/

/-- The variables of a process; their values are C strings. -/
structure Environment where
  getenv : String → Option Str
  noNul : ∀ name value, getenv name = some value → '\x00' ∉ value

/-- `get_env`. -/
def getEnv (env : Environment) (name : String) : Option Str :=
  (env.getenv name).filter (! ·.isEmpty)

/-- A port between 1 and 65535; the exceptions of `std::stoi` and of the range get the same text. -/
def parsePort (what text : Str) : Except Str ℕ :=
  match stoi text with
  | none => .error (what ++ text)
  | some port => if port < 1 ∨ 65535 < port then .error (what ++ text) else .ok port.toNat

/-- `PORT` and `AGENT_PORT`. -/
def portVariable (env : Environment) (name : String) (port : ℕ) : Except Str ℕ :=
  match getEnv env name with
  | none => .ok port
  | some text => parsePort ("Invalid ".toList ++ name.toList ++ " value: ".toList) text

/-- `KEY_VAULT_URI` and `DNS_ZONE`. -/
def requiredVariable (env : Environment) (name : String) : Except Str Str :=
  match getEnv env name with
  | none => .error (name.toList ++ " environment variable is required".toList)
  | some text => .ok text

/-- The loop of `parse_port_list`. -/
def parsePorts : List Str → Except Str (List ℕ)
  | [] => .ok []
  | token :: tokens =>
      let token := trim (fun c => c = ' ' || c = '\t') token
      if token.isEmpty then parsePorts tokens
      else do
        let port ← parsePort "Invalid port in TCP_PORTS: ".toList token
        let ports ← parsePorts tokens
        return port :: ports

def parsePortList (portsStr : Str) : Except Str (List ℕ) := parsePorts (fields ',' portsStr)

def tcpPortsVariable (env : Environment) : Except Str (List ℕ) :=
  match getEnv env "TCP_PORTS" with
  | none => .ok []
  | some text => parsePortList text

/-- A limit; the `unsigned long` is cast to `uint32_t`. -/
def countVariable (env : Environment) (name : String) (count : ℕ) : Except Str ℕ :=
  match getEnv env name with
  | none => .ok count
  | some text =>
      match stoul text with
      | none => .error "stoul".toList
      | some n => .ok (n % 2 ^ 32)

/-- `Config::from_environment`. -/
def fromEnvironment (env : Environment) : Except Str Config := do
  let port ← portVariable env "PORT" 443
  let agentPort ← portVariable env "AGENT_PORT" 8443
  let keyVaultUri ← requiredVariable env "KEY_VAULT_URI"
  let dnsZone ← requiredVariable env "DNS_ZONE"
  let tcpPorts ← tcpPortsVariable env
  let maxConcurrentTunnels ← countVariable env "MAX_CONCURRENT_TUNNELS" 50
  let maxConnectionsPerTunnel ← countVariable env "MAX_CONNECTIONS_PER_TUNNEL" 10000
  let ioThreadPoolSize ← countVariable env "IO_THREAD_POOL_SIZE" 0
  let config : Config :=
    { port, agentPort, keyVaultUri, dnsZone
      logAnalyticsWorkspaceId := getEnv env "LOG_ANALYTICS_WORKSPACE_ID"
      logAnalyticsKey := getEnv env "LOG_ANALYTICS_KEY"
      applicationInsightsKey := getEnv env "APPLICATION_INSIGHTS_KEY"
      tcpPorts, maxConcurrentTunnels, maxConnectionsPerTunnel, ioThreadPoolSize
      tunnelEstablishTimeoutMs := 30000
      requestTimeoutMs := 1800000
      idleTimeoutMs := 300000 }
  config.validate
  return config

/-! ## What is accepted -/

def IsPort (p : ℕ) : Prop := 1 ≤ p ∧ p ≤ 65535

instance (p : ℕ) : Decidable (IsPort p) := inferInstanceAs (Decidable (1 ≤ p ∧ p ≤ 65535))

/-- The value of a variable that is set. -/
def IsValue (text : Str) : Prop := text ≠ [] ∧ '\x00' ∉ text

instance (text : Str) : Decidable (IsValue text) :=
  inferInstanceAs (Decidable (text ≠ [] ∧ '\x00' ∉ text))

/-- The configurations that can be asked for. -/
structure WellFormed (c : Config) : Prop where
  port : IsPort c.port
  agentPort : IsPort c.agentPort
  ports_ne : c.port ≠ c.agentPort
  tcpPorts : ∀ p ∈ c.tcpPorts, IsPort p ∧ p ≠ c.port ∧ p ≠ c.agentPort
  keyVaultUri : IsValue c.keyVaultUri ∧ hasPrefix "https://".toList c.keyVaultUri = true ∧
    ".vault.azure.net".toList <:+: c.keyVaultUri
  dnsZone : IsValue c.dnsZone ∧ '.' ∈ c.dnsZone
  keys : (∀ text ∈ c.logAnalyticsWorkspaceId, IsValue text) ∧
    (∀ text ∈ c.logAnalyticsKey, IsValue text) ∧ ∀ text ∈ c.applicationInsightsKey, IsValue text
  maxConcurrentTunnels : 1 ≤ c.maxConcurrentTunnels ∧ c.maxConcurrentTunnels ≤ 10000
  maxConnectionsPerTunnel : 1 ≤ c.maxConnectionsPerTunnel ∧ c.maxConnectionsPerTunnel < 2 ^ 32
  ioThreadPoolSize : c.ioThreadPoolSize < 2 ^ 32
  timeouts : c.tunnelEstablishTimeoutMs = 30000 ∧ c.requestTimeoutMs = 1800000 ∧ c.idleTimeoutMs = 300000

section
variable {env : Environment} {name : String}

theorem isValue_of_getEnv {text : Str} (h : getEnv env name = some text) : IsValue text := by
  obtain ⟨hget, hne⟩ := Option.filter_eq_some_iff.mp h
  exact ⟨by simpa using hne, env.noNul name text hget⟩

theorem parsePort_eq_ok_iff {what text : Str} {p : ℕ} :
    parsePort what text = .ok p ↔ stoi text = some (p : ℤ) ∧ IsPort p := by
  rw [parsePort, IsPort]
  cases hstoi : stoi text with
  | none => simp
  | some n =>
      dsimp only
      by_cases hrange : n < 1 ∨ 65535 < n
      · rw [if_pos hrange]
        simp only [reduceCtorEq, false_iff, Option.some.injEq]
        omega
      · rw [if_neg hrange]
        simp only [Except.ok.injEq, Option.some.injEq]
        omega

theorem isPort_of_portVariable {port p : ℕ} (hport : IsPort port)
    (h : portVariable env name port = .ok p) : IsPort p := by
  rw [portVariable] at h
  cases hvalue : getEnv env name with
  | none =>
      rw [hvalue] at h
      cases h
      exact hport
  | some text =>
      rw [hvalue] at h
      exact (parsePort_eq_ok_iff.mp h).2

theorem isValue_of_requiredVariable {text : Str} (h : requiredVariable env name = .ok text) :
    IsValue text := by
  rw [requiredVariable] at h
  cases hvalue : getEnv env name with
  | none =>
      rw [hvalue] at h
      cases h
  | some value =>
      rw [hvalue] at h
      cases h
      exact isValue_of_getEnv hvalue

theorem isPort_of_parsePorts {tokens : List Str} {ports : List ℕ} (h : parsePorts tokens = .ok ports) :
    ∀ p ∈ ports, IsPort p := by
  induction tokens generalizing ports with
  | nil =>
      cases h
      simp
  | cons token tokens ih =>
      rw [parsePorts] at h
      split at h
      · exact ih h
      · obtain ⟨p, hp, h⟩ := bind_eq_ok_iff.mp h
        obtain ⟨rest, hrest, h⟩ := bind_eq_ok_iff.mp h
        cases h
        rw [List.forall_mem_cons]
        exact ⟨(parsePort_eq_ok_iff.mp hp).2, ih hrest⟩

theorem isPort_of_tcpPortsVariable {ports : List ℕ} (h : tcpPortsVariable env = .ok ports) :
    ∀ p ∈ ports, IsPort p := by
  rw [tcpPortsVariable] at h
  cases hvalue : getEnv env "TCP_PORTS" with
  | none =>
      rw [hvalue] at h
      cases h
      simp
  | some text =>
      rw [hvalue] at h
      exact isPort_of_parsePorts h

theorem lt_of_countVariable {count n : ℕ} (hcount : count < 2 ^ 32)
    (h : countVariable env name count = .ok n) : n < 2 ^ 32 := by
  rw [countVariable] at h
  cases hvalue : getEnv env name with
  | none =>
      rw [hvalue] at h
      cases h
      exact hcount
  | some text =>
      rw [hvalue] at h
      dsimp only at h
      cases hstoul : stoul text with
      | none =>
          rw [hstoul] at h
          cases h
      | some m =>
          rw [hstoul] at h
          cases h
          omega

end

/-- What the check finds. -/
structure Config.Valid (c : Config) : Prop where
  keyVaultUri : c.keyVaultUri ≠ [] ∧ hasPrefix "https://".toList c.keyVaultUri = true ∧
    ".vault.azure.net".toList <:+: c.keyVaultUri
  dnsZone : c.dnsZone ≠ [] ∧ '.' ∈ c.dnsZone
  ports_ne : c.port ≠ c.agentPort
  tcpPorts : ∀ p ∈ c.tcpPorts, p ≠ c.port ∧ p ≠ c.agentPort
  maxConcurrentTunnels : 1 ≤ c.maxConcurrentTunnels ∧ c.maxConcurrentTunnels ≤ 10000
  maxConnectionsPerTunnel : 1 ≤ c.maxConnectionsPerTunnel

theorem validate_eq_ok_iff {c : Config} {u : Unit} : c.validate = .ok u ↔ c.Valid := by
  simp only [Config.validate, bind_eq_ok_iff, throwIf_eq_ok_iff]
  constructor
  · rintro ⟨_, huri, _, hzone, _, hne, _, htcp, _, htunnels, hconnections⟩
    simp only [not_or, not_not, List.isEmpty_iff] at huri hzone
    refine ⟨huri, hzone, hne, fun p hp => ?_, by omega, by omega⟩
    exact ⟨fun h => htcp ⟨p, hp, .inl h⟩, fun h => htcp ⟨p, hp, .inr h⟩⟩
  · intro H
    refine ⟨(), ?_, (), ?_, (), H.ports_ne, (), ?_, (), ?_, ?_⟩
    · simpa only [not_or, not_not, List.isEmpty_iff] using H.keyVaultUri
    · simpa only [not_or, not_not, List.isEmpty_iff] using H.dnsZone
    · rintro ⟨p, hp, h | h⟩
      · exact (H.tcpPorts p hp).1 h
      · exact (H.tcpPorts p hp).2 h
    · have h := H.maxConcurrentTunnels
      omega
    · have h := H.maxConnectionsPerTunnel
      omega

/-- An environment gives well-formed configurations only. -/
theorem wellFormed_of_fromEnvironment {env : Environment} {c : Config}
    (h : fromEnvironment env = .ok c) : WellFormed c := by
  obtain ⟨port, hport, h⟩ := bind_eq_ok_iff.mp h
  obtain ⟨agentPort, hagentPort, h⟩ := bind_eq_ok_iff.mp h
  obtain ⟨uri, huri, h⟩ := bind_eq_ok_iff.mp h
  obtain ⟨zone, hzone, h⟩ := bind_eq_ok_iff.mp h
  obtain ⟨tcpPorts, htcpPorts, h⟩ := bind_eq_ok_iff.mp h
  obtain ⟨tunnels, htunnels, h⟩ := bind_eq_ok_iff.mp h
  obtain ⟨connections, hconnections, h⟩ := bind_eq_ok_iff.mp h
  obtain ⟨threads, hthreads, h⟩ := bind_eq_ok_iff.mp h
  obtain ⟨_, hvalid, h⟩ := bind_eq_ok_iff.mp h
  cases h
  have H := validate_eq_ok_iff.mp hvalid
  have htcp := isPort_of_tcpPortsVariable htcpPorts
  exact
    { port := isPort_of_portVariable (by simp [IsPort]) hport
      agentPort := isPort_of_portVariable (by simp [IsPort]) hagentPort
      ports_ne := H.ports_ne
      tcpPorts := fun p hp => ⟨htcp p hp, H.tcpPorts p hp⟩
      keyVaultUri := ⟨isValue_of_requiredVariable huri, H.keyVaultUri.2⟩
      dnsZone := ⟨isValue_of_requiredVariable hzone, H.dnsZone.2⟩
      keys := ⟨fun _ h => isValue_of_getEnv h, fun _ h => isValue_of_getEnv h,
        fun _ h => isValue_of_getEnv h⟩
      maxConcurrentTunnels := H.maxConcurrentTunnels
      maxConnectionsPerTunnel :=
        ⟨H.maxConnectionsPerTunnel, lt_of_countVariable (by norm_num) hconnections⟩
      ioThreadPoolSize := lt_of_countVariable (by norm_num) hthreads
      timeouts := ⟨rfl, rfl, rfl⟩ }

/-! ## Asking for a configuration -/

def portText (p : ℕ) : Str := decimal p

def joinPorts (ports : List ℕ) : Str := [','].intercalate (ports.map portText)

/-- The variables that ask for a configuration. -/
def settings (c : Config) : List (String × Option Str) :=
  [("PORT", some (portText c.port)),
    ("AGENT_PORT", some (portText c.agentPort)),
    ("KEY_VAULT_URI", some c.keyVaultUri),
    ("DNS_ZONE", some c.dnsZone),
    ("LOG_ANALYTICS_WORKSPACE_ID", c.logAnalyticsWorkspaceId),
    ("LOG_ANALYTICS_KEY", c.logAnalyticsKey),
    ("APPLICATION_INSIGHTS_KEY", c.applicationInsightsKey),
    ("TCP_PORTS", some (joinPorts c.tcpPorts)),
    ("MAX_CONCURRENT_TUNNELS", some (decimal c.maxConcurrentTunnels)),
    ("MAX_CONNECTIONS_PER_TUNNEL", some (decimal c.maxConnectionsPerTunnel)),
    ("IO_THREAD_POOL_SIZE", some (decimal c.ioThreadPoolSize))]

theorem mem_intercalate {c d : Char} {pieces : List Str} (h : c ∈ [d].intercalate pieces) :
    c = d ∨ ∃ piece ∈ pieces, c ∈ piece := by
  induction pieces with
  | nil => simp at h
  | cons piece pieces ih =>
      cases pieces with
      | nil => exact .inr ⟨piece, by simp, by simpa using h⟩
      | cons next pieces =>
          rw [List.intercalate_cons_cons, List.append_assoc, List.mem_append, List.mem_append] at h
          rcases h with h | h | h
          · exact .inr ⟨piece, by simp, h⟩
          · exact .inl (List.mem_singleton.mp h)
          · rcases ih h with rfl | ⟨l, hl, hc⟩
            · exact .inl rfl
            · exact .inr ⟨l, List.mem_cons_of_mem _ hl, hc⟩

theorem nul_not_mem_joinPorts (ports : List ℕ) : '\x00' ∉ joinPorts ports := by
  intro hmem
  rcases mem_intercalate hmem with h | ⟨piece, hpiece, h⟩
  · cases h
  · obtain ⟨p, _, rfl⟩ := List.mem_map.mp hpiece
    exact not_mem_decimal rfl p h

theorem nul_not_mem_settings {c : Config} (h : WellFormed c) :
    ∀ setting ∈ settings c, ∀ value ∈ setting.2, '\x00' ∉ value := by
  have hdecimal (n : ℕ) : ∀ value ∈ some (decimal n), '\x00' ∉ value :=
    fun _ hvalue => Option.some.inj hvalue ▸ not_mem_decimal rfl n
  have hjoin : ∀ value ∈ some (joinPorts c.tcpPorts), '\x00' ∉ value :=
    fun _ hvalue => Option.some.inj hvalue ▸ nul_not_mem_joinPorts c.tcpPorts
  simp only [settings, List.forall_mem_cons]
  exact ⟨hdecimal _, hdecimal _, fun _ hvalue => Option.some.inj hvalue ▸ h.keyVaultUri.1.2,
    fun _ hvalue => Option.some.inj hvalue ▸ h.dnsZone.1.2, fun _ hvalue => (h.keys.1 _ hvalue).2,
    fun _ hvalue => (h.keys.2.1 _ hvalue).2, fun _ hvalue => (h.keys.2.2 _ hvalue).2, hjoin,
    hdecimal _, hdecimal _, hdecimal _, by simp⟩

/-- The environment in which these variables are set, and no others. -/
def environmentOf (c : Config) (h : WellFormed c) : Environment where
  getenv name := ((settings c).lookup name).join
  noNul := by
    intro name value hvalue
    obtain ⟨setting, hlook, hsetting⟩ := Option.bind_eq_some_iff.mp hvalue
    obtain ⟨before, after, hcut, _⟩ := List.lookup_eq_some_iff.mp hlook
    have hmem : (name, setting) ∈ settings c := by
      rw [hcut]
      exact List.mem_append_right _ List.mem_cons_self
    exact nul_not_mem_settings h _ hmem value hsetting

theorem decimal_ne_nil (n : ℕ) : decimal n ≠ [] := (isNumeral_decimal n).1

/-- The ports that are joined are read back. -/
theorem fields_joinPorts (ports : List ℕ) :
    fields ',' (joinPorts ports) = ports.map portText := by
  cases ports with
  | nil => rfl
  | cons p ports =>
      have hcomma : ∀ piece ∈ (p :: ports).map portText, ',' ∉ piece := by
        intro piece hpiece
        obtain ⟨q, _, rfl⟩ := List.mem_map.mp hpiece
        exact not_mem_decimal rfl q
      have hsplit := List.splitOn_intercalate ',' hcomma (by simp)
      have hlast : ((p :: ports).map portText).getLast? ≠ some [] := by
        intro h
        obtain ⟨q, _, hq⟩ := List.mem_map.mp (List.mem_of_getLast? h)
        exact decimal_ne_nil q hq
      rw [fields, joinPorts, hsplit, if_neg hlast]

theorem parsePort_portText {p : ℕ} (h : IsPort p) (what : Str) : parsePort what (portText p) = .ok p :=
  parsePort_eq_ok_iff.mpr ⟨stoi_decimal (by have := h.2; omega), h⟩

theorem parsePorts_portText {ports : List ℕ} (h : ∀ p ∈ ports, IsPort p) :
    parsePorts (ports.map portText) = .ok ports := by
  induction ports with
  | nil => rfl
  | cons p ports ih =>
      rw [List.forall_mem_cons] at h
      have htrim : trim (fun c => c = ' ' || c = '\t') (portText p) = portText p := trim_decimal p
      have hne : (portText p).isEmpty = false := by simp [portText, decimal_ne_nil]
      rw [List.map_cons, parsePorts]
      simp only [htrim, hne, Bool.false_eq_true, if_false]
      rw [bind_of_eq_ok (parsePort_portText h.1 _), bind_of_eq_ok (ih h.2)]
      rfl

section
variable {c : Config} (h : WellFormed c)

/-- A variable whose setting is a value. -/
theorem getEnv_environmentOf {name : String} {setting : Option Str}
    (hlook : (settings c).lookup name = some setting) (hvalue : ∀ text ∈ setting, text ≠ []) :
    getEnv (environmentOf c h) name = setting := by
  have hget : (environmentOf c h).getenv name = setting := by
    show ((settings c).lookup name).join = setting
    rw [hlook]
    rfl
  rw [getEnv, hget]
  cases setting with
  | none => rfl
  | some text =>
      have hne := hvalue text rfl
      simp [hne]

theorem portVariable_environmentOf {name : String} {p port : ℕ} (hp : IsPort p)
    (hlook : (settings c).lookup name = some (some (portText p))) :
    portVariable (environmentOf c h) name port = .ok p := by
  have hget := getEnv_environmentOf h hlook
    (fun _ htext => Option.some.inj htext ▸ decimal_ne_nil p)
  rw [portVariable, hget]
  exact parsePort_portText hp _

theorem requiredVariable_environmentOf {name : String} {text : Str} (htext : IsValue text)
    (hlook : (settings c).lookup name = some (some text)) :
    requiredVariable (environmentOf c h) name = .ok text := by
  have hget := getEnv_environmentOf h hlook (fun _ hvalue => Option.some.inj hvalue ▸ htext.1)
  rw [requiredVariable, hget]

theorem countVariable_environmentOf {name : String} {n count : ℕ} (hn : n < 2 ^ 32)
    (hlook : (settings c).lookup name = some (some (decimal n))) :
    countVariable (environmentOf c h) name count = .ok n := by
  have hget := getEnv_environmentOf h hlook
    (fun _ htext => Option.some.inj htext ▸ decimal_ne_nil n)
  rw [countVariable, hget]
  dsimp only
  rw [stoul_decimal (by omega)]
  exact congrArg Except.ok (Nat.mod_eq_of_lt hn)

theorem tcpPortsVariable_environmentOf :
    tcpPortsVariable (environmentOf c h) = .ok c.tcpPorts := by
  have hports : ∀ p ∈ c.tcpPorts, IsPort p := fun p hp => (h.tcpPorts p hp).1
  by_cases hnil : c.tcpPorts = []
  · have hget : getEnv (environmentOf c h) "TCP_PORTS" = none := by
      have hvalue : (environmentOf c h).getenv "TCP_PORTS" = some (joinPorts c.tcpPorts) := rfl
      rw [getEnv, hvalue, hnil]
      rfl
    rw [tcpPortsVariable, hget, hnil]
  · have hne : joinPorts c.tcpPorts ≠ [] := by
      intro hempty
      have hfields := fields_joinPorts c.tcpPorts
      rw [hempty] at hfields
      exact hnil (List.map_eq_nil_iff.mp hfields.symm)
    have hlook : (settings c).lookup "TCP_PORTS" = some (some (joinPorts c.tcpPorts)) := rfl
    have hget := getEnv_environmentOf h hlook (fun _ htext => Option.some.inj htext ▸ hne)
    rw [tcpPortsVariable, hget]
    dsimp only
    rw [parsePortList, fields_joinPorts]
    exact parsePorts_portText hports

/-- A well-formed configuration is read back. -/
theorem fromEnvironment_environmentOf : fromEnvironment (environmentOf c h) = .ok c := by
  have hvalid : c.validate = .ok () := validate_eq_ok_iff.mpr
    { keyVaultUri := ⟨h.keyVaultUri.1.1, h.keyVaultUri.2⟩
      dnsZone := ⟨h.dnsZone.1.1, h.dnsZone.2⟩
      ports_ne := h.ports_ne
      tcpPorts := fun p hp => (h.tcpPorts p hp).2
      maxConcurrentTunnels := h.maxConcurrentTunnels
      maxConnectionsPerTunnel := h.maxConnectionsPerTunnel.1 }
  have htunnels := h.maxConcurrentTunnels.2
  rw [fromEnvironment,
    bind_of_eq_ok (portVariable_environmentOf h h.port rfl),
    bind_of_eq_ok (portVariable_environmentOf h h.agentPort rfl),
    bind_of_eq_ok (requiredVariable_environmentOf h h.keyVaultUri.1 rfl),
    bind_of_eq_ok (requiredVariable_environmentOf h h.dnsZone.1 rfl),
    bind_of_eq_ok (tcpPortsVariable_environmentOf h),
    bind_of_eq_ok (countVariable_environmentOf h (n := c.maxConcurrentTunnels) (by omega) rfl),
    bind_of_eq_ok (countVariable_environmentOf h h.maxConnectionsPerTunnel.2 rfl),
    bind_of_eq_ok (countVariable_environmentOf h h.ioThreadPoolSize rfl)]
  have hid := getEnv_environmentOf h
    (rfl : (settings c).lookup "LOG_ANALYTICS_WORKSPACE_ID" = some c.logAnalyticsWorkspaceId)
    (fun text htext => (h.keys.1 text htext).1)
  have hkey := getEnv_environmentOf h
    (rfl : (settings c).lookup "LOG_ANALYTICS_KEY" = some c.logAnalyticsKey)
    (fun text htext => (h.keys.2.1 text htext).1)
  have hinsights := getEnv_environmentOf h
    (rfl : (settings c).lookup "APPLICATION_INSIGHTS_KEY" = some c.applicationInsightsKey)
    (fun text htext => (h.keys.2.2 text htext).1)
  rw [hid, hkey, hinsights]
  have hconfig : (⟨c.port, c.agentPort, c.keyVaultUri, c.dnsZone, c.logAnalyticsWorkspaceId,
      c.logAnalyticsKey, c.applicationInsightsKey, c.tcpPorts, c.maxConcurrentTunnels,
      c.maxConnectionsPerTunnel, c.ioThreadPoolSize, 30000, 1800000, 300000⟩ : Config) = c := by
    obtain ⟨htunnel, hrequest, hidle⟩ := h.timeouts
    rw [← htunnel, ← hrequest, ← hidle]
  dsimp only
  rw [hconfig, bind_of_eq_ok hvalid]
  rfl

end

/-- **The configurations that an environment gives** are the well-formed ones. -/
theorem accepted_iff (c : Config) :
    (∃ env, fromEnvironment env = .ok c) ↔ WellFormed c := by
  constructor
  · rintro ⟨env, henv⟩
    exact wellFormed_of_fromEnvironment henv
  · exact fun h => ⟨environmentOf c h, fromEnvironment_environmentOf h⟩

end Protogate.Utils
