import Protogate.Lib.Text

/-!
# Tunnels

The record the server keeps for a tunnel, and the checks of its fields and of its clients.

## Main definitions

* `Tunnel`, `TunnelProtocol`, `TunnelStatus`.
* `isValidTunnelId`, `Tunnel.validate`.
* `Tunnel.isIpAllowed` — the check of a client, on the texts of the entries.
-/

namespace Protogate.Models

open Protogate.Lib

/-- Tunnel protocol types. -/
inductive TunnelProtocol
  | http
  | tcp
  deriving DecidableEq, Repr

/-- Tunnel status. -/
inductive TunnelStatus
  | inactive
  | active
  | suspended
  deriving DecidableEq, Repr

/-- Tunnel entity representing a logical tunnel configuration; times are in
nanoseconds of the system clock. -/
structure Tunnel where
  tunnelId : Str
  protocol : TunnelProtocol
  targetHost : Str
  targetPort : ℕ
  ipAllowlist : List Str
  rateLimitRpm : ℕ
  createdAt : ℤ
  updatedAt : ℤ
  status : TunnelStatus
  deriving DecidableEq, Repr

/-! ## Validation -/

/-- `[a-z0-9]`. -/
def isLowerAlnum (c : Char) : Bool := c.isLower || c.isDigit

/-- `^[a-z0-9]([a-z0-9-]*[a-z0-9])?$`, for the whole of the text. -/
def matchesTunnelId : Str → Bool
  | [] => false
  | [c] => isLowerAlnum c
  | c :: d :: rest =>
      isLowerAlnum c && ((d :: rest).dropLast.all fun x => isLowerAlnum x || x = '-') &&
        isLowerAlnum ((d :: rest).getLastD '-')

/-- 3 to 63 characters of the pattern. -/
def isValidTunnelId (id : Str) : Bool :=
  if id.length < 3 ∨ 63 < id.length then false else matchesTunnelId id

/-- The text that `validate` throws, if it does. -/
def Tunnel.validate (t : Tunnel) : Option Str :=
  if !isValidTunnelId t.tunnelId then
    some "tunnel_id must be 3-63 characters, lowercase alphanumeric with hyphens".toList
  else if t.targetHost.isEmpty then some "target_host cannot be empty".toList
  else if t.targetPort = 0 then some "target_port must be between 1 and 65535".toList
  else if 1000000 < t.rateLimitRpm then some "rate_limit_rpm cannot exceed 1,000,000".toList
  else (t.ipAllowlist.find? fun cidr => cidr.isEmpty || !cidr.contains '/').map
    ("Invalid CIDR format in ip_allowlist: ".toList ++ ·)

/-! ## Clients -/

/-- `is_ip_allowed`, which compares texts. -/
def Tunnel.isIpAllowed (t : Tunnel) (ip : Str) : Bool :=
  t.ipAllowlist.isEmpty ||
    t.ipAllowlist.any fun cidr => cidr == ip || cidr == "0.0.0.0/0".toList || cidr == "::/0".toList

end Protogate.Models
