import Protogate.Lib.Json
import Protogate.Models.Tunnel

/-!
# Tunnels as JSON

`to_json` writes every field of a tunnel, times in whole milliseconds; `from_json`
reads them back and throws where a field is absent or of another type.

## Main definitions

* `Tunnel.toJson`, `Tunnel.fromJson`.
* `Tunnel.Fits` — the widths of the fields in the source.
* `Tunnel.fromJson_toJson` — what comes back has its times truncated.
-/

namespace Protogate.Models

open Protogate.Lib

/-- `duration_cast<milliseconds>(t.time_since_epoch()).count()`. -/
def epochMillis (t : ℤ) : ℤ := t.tdiv 1000000

/-- `time_point(milliseconds(ms))`. -/
def ofMillis (ms : ℤ) : ℤ := ms * 1000000

def TunnelProtocol.toJson : TunnelProtocol → Json
  | .http => .str "HTTP".toList
  | .tcp => .str "TCP".toList

def TunnelStatus.toJson : TunnelStatus → Json
  | .inactive => .str "INACTIVE".toList
  | .active => .str "ACTIVE".toList
  | .suspended => .str "SUSPENDED".toList

namespace Tunnel

/-- The object that `to_json` dumps. -/
def toJson (t : Tunnel) : Json := .object [
  ("tunnel_id".toList, .str t.tunnelId),
  ("protocol".toList, t.protocol.toJson),
  ("target_host".toList, .str t.targetHost),
  ("target_port".toList, .number t.targetPort),
  ("ip_allowlist".toList, .array (t.ipAllowlist.map .str)),
  ("rate_limit_rpm".toList, .number t.rateLimitRpm),
  ("created_at".toList, .number (epochMillis t.createdAt)),
  ("updated_at".toList, .number (epochMillis t.updatedAt)),
  ("status".toList, t.status.toJson)]

/-- The elements of a field that is an array of strings. -/
def allowlistOf (j : Json) : Option (List Str) :=
  match j.field "ip_allowlist".toList with
  | some (.array elements) => Json.getStrings elements
  | _ => none

/-- The parsed text as a tunnel; an absent field reads as null, which converts to
nothing. -/
def fromJson (j : Json) : Option Tunnel := do
  let tunnelId ← (j.field "tunnel_id".toList).bind Json.getString
  let protocolStr ← (j.field "protocol".toList).bind Json.getString
  let targetHost ← (j.field "target_host".toList).bind Json.getString
  let targetPort ← (j.field "target_port".toList).bind (Json.getUnsigned 16)
  let ipAllowlist ← allowlistOf j
  let rateLimitRpm ← (j.field "rate_limit_rpm".toList).bind (Json.getUnsigned 32)
  let createdAt ← (j.field "created_at".toList).bind Json.getInt64
  let updatedAt ← (j.field "updated_at".toList).bind Json.getInt64
  let statusStr ← (j.field "status".toList).bind Json.getString
  return {
    tunnelId, targetHost, targetPort, ipAllowlist, rateLimitRpm
    protocol := if protocolStr = "HTTP".toList then .http else .tcp
    createdAt := ofMillis createdAt
    updatedAt := ofMillis updatedAt
    status :=
      if statusStr = "ACTIVE".toList then .active
      else if statusStr = "SUSPENDED".toList then .suspended
      else .inactive }

/-! ## Round trip -/

/-- The bounds that the types of the fields impose. -/
structure Fits (t : Tunnel) : Prop where
  targetPort : t.targetPort < 2 ^ 16
  rateLimitRpm : t.rateLimitRpm < 2 ^ 32
  createdAt : -2 ^ 63 ≤ t.createdAt ∧ t.createdAt < 2 ^ 63
  updatedAt : -2 ^ 63 ≤ t.updatedAt ∧ t.updatedAt < 2 ^ 63

/-- The tunnel with its times truncated to milliseconds. -/
def truncated (t : Tunnel) : Tunnel :=
  { t with
    createdAt := ofMillis (epochMillis t.createdAt)
    updatedAt := ofMillis (epochMillis t.updatedAt) }

/-- The milliseconds of a time fit into 64 bits. -/
theorem getInt64_epochMillis {t : ℤ} (h : -2 ^ 63 ≤ t ∧ t < 2 ^ 63) :
    Json.getInt64 (.number (epochMillis t)) = some (epochMillis t) := by
  have habs : (epochMillis t).natAbs = t.natAbs / 1000000 := Int.natAbs_tdiv t 1000000
  have hbound : -2 ^ 63 ≤ epochMillis t ∧ epochMillis t < 2 ^ 63 := by omega
  rw [Json.getInt64, Int.bmod_eq_of_le (by omega) (by omega)]

theorem protocol_toJson (p : TunnelProtocol) : ∃ s, p.toJson = .str s ∧
    (if s = "HTTP".toList then TunnelProtocol.http else .tcp) = p := by
  cases p with
  | http => exact ⟨_, rfl, if_pos rfl⟩
  | tcp => exact ⟨_, rfl, if_neg (by decide)⟩

theorem status_toJson (s : TunnelStatus) : ∃ text, s.toJson = .str text ∧
    (if text = "ACTIVE".toList then TunnelStatus.active
      else if text = "SUSPENDED".toList then .suspended else .inactive) = s := by
  cases s with
  | inactive => exact ⟨_, rfl, by decide⟩
  | active => exact ⟨_, rfl, by decide⟩
  | suspended => exact ⟨_, rfl, by decide⟩

/-- **What `from_json` makes of `to_json`.** -/
theorem fromJson_toJson {t : Tunnel} (h : t.Fits) : fromJson t.toJson = some t.truncated := by
  have hport : (((t.targetPort : ℤ) % 2 ^ 16).toNat) = t.targetPort := by
    have hlt := h.targetPort
    omega
  have hrate : (((t.rateLimitRpm : ℤ) % 2 ^ 32).toNat) = t.rateLimitRpm := by
    have hlt := h.rateLimitRpm
    omega
  obtain ⟨protocolStr, hprotocol, hprotocolStr⟩ := protocol_toJson t.protocol
  obtain ⟨statusStr, hstatus, hstatusStr⟩ := status_toJson t.status
  have hallow : allowlistOf t.toJson = some t.ipAllowlist := Json.getStrings_map_str t.ipAllowlist
  have hid : t.toJson.field "tunnel_id".toList = some (.str t.tunnelId) := rfl
  have hproto : t.toJson.field "protocol".toList = some t.protocol.toJson := rfl
  have hhost : t.toJson.field "target_host".toList = some (.str t.targetHost) := rfl
  have htport : t.toJson.field "target_port".toList = some (.number t.targetPort) := rfl
  have hrpm : t.toJson.field "rate_limit_rpm".toList = some (.number t.rateLimitRpm) := rfl
  have hcreated : t.toJson.field "created_at".toList =
      some (.number (epochMillis t.createdAt)) := rfl
  have hupdated : t.toJson.field "updated_at".toList =
      some (.number (epochMillis t.updatedAt)) := rfl
  have hstat : t.toJson.field "status".toList = some t.status.toJson := rfl
  simp only [fromJson, hid, hproto, hhost, htport, hallow, hrpm, hcreated, hupdated, hstat,
    hprotocol, hstatus, Option.bind_some, Json.getString, Json.getUnsigned,
    getInt64_epochMillis h.createdAt, getInt64_epochMillis h.updatedAt, Option.bind_eq_bind,
    Option.pure_def, hport, hrate, hprotocolStr, hstatusStr]
  rfl

end Tunnel
end Protogate.Models
