import Protogate.Models.TunnelJson

/-!
# Tunnels as texts

`to_json` dumps the object of a tunnel and `from_json` parses the text again.  The JSON
library comes in as `dump` and `parse`; what it promises of a value is `ReadsBack`, which
leaves the order of the fields open.

## Main definitions

* `toText`, `fromText` — the two functions on texts.
* `ReadsBack` — a value is parsed as it was dumped.
* `text_round_trip` — what comes back, and that the text tells tunnels apart.
-/

namespace Protogate.Models

open Protogate.Lib

namespace Tunnel

section
variable (parse : Str → Option Json) (dump : Json → Str)

def toText (t : Tunnel) : Str := dump t.toJson

def fromText (text : Str) : Option Tunnel := (parse text).bind fromJson

/-- The text of the value parses to an object with the same fields. -/
def ReadsBack (j : Json) : Prop :=
  ∃ j', parse (dump j) = some j' ∧ ∀ key, j'.field key = j.field key

end

/-- The timestamps are whole milliseconds. -/
def WholeMillis (t : Tunnel) : Prop := 1000000 ∣ t.createdAt ∧ 1000000 ∣ t.updatedAt

instance (t : Tunnel) : Decidable t.WholeMillis :=
  inferInstanceAs (Decidable (1000000 ∣ t.createdAt ∧ 1000000 ∣ t.updatedAt))

/-! ## What is kept -/

/-- A tunnel is read from the fields of the object only. -/
theorem fromJson_congr {j j' : Json} (h : ∀ key, j'.field key = j.field key) :
    fromJson j' = fromJson j := by
  simp only [fromJson, allowlistOf, h]

theorem epochMillis_ofMillis (ms : ℤ) : epochMillis (ofMillis ms) = ms :=
  Int.mul_tdiv_cancel ms (by decide)

theorem ofMillis_epochMillis {t : ℤ} (h : 1000000 ∣ t) : ofMillis (epochMillis t) = t :=
  Int.tdiv_mul_cancel h

theorem toJson_truncated (t : Tunnel) : t.truncated.toJson = t.toJson := by
  simp only [toJson, truncated, epochMillis_ofMillis]

theorem truncated_of_wholeMillis {t : Tunnel} (h : t.WholeMillis) : t.truncated = t := by
  rw [truncated, ofMillis_epochMillis h.1, ofMillis_epochMillis h.2]

variable {parse : Str → Option Json} {dump : Json → Str}

theorem fromText_toText {t : Tunnel} (h : t.Fits) (H : ReadsBack parse dump t.toJson) :
    fromText parse (toText dump t) = some t.truncated := by
  obtain ⟨j, hparse, hfields⟩ := H
  rw [fromText, toText, hparse, Option.bind_some, fromJson_congr hfields, fromJson_toJson h]

/-- **The round trip through the text**: a tunnel comes back with its timestamps truncated to
milliseconds, which gives the same text again, and of two tunnels with whole milliseconds no other
has the same text. -/
theorem text_round_trip (parse : Str → Option Json) (dump : Json → Str) (t u : Tunnel) (ht : t.Fits)
    (hu : u.Fits) (Ht : ReadsBack parse dump t.toJson) (Hu : ReadsBack parse dump u.toJson) :
    fromText parse (toText dump t) = some t.truncated ∧
      toText dump t.truncated = toText dump t ∧
      (t.WholeMillis → u.WholeMillis → toText dump t = toText dump u → t = u) := by
  have hback := fromText_toText ht Ht
  refine ⟨hback, by rw [toText, toJson_truncated, toText], fun hwhole hwhole' heq => ?_⟩
  rw [heq, fromText_toText hu Hu, truncated_of_wholeMillis hwhole, truncated_of_wholeMillis hwhole'] at hback
  exact (Option.some.inj hback).symm

/-! ## Two tunnels -/

def web : Tunnel where
  tunnelId := "web".toList
  protocol := .http
  targetHost := "localhost".toList
  targetPort := 80
  ipAllowlist := ["10.0.0.0/8".toList]
  rateLimitRpm := 0
  createdAt := 1500000000
  updatedAt := 1500000000
  status := .active

def webText : Str :=
  ("\x7b\"created_at\":1500,\"ip_allowlist\":[\"10.0.0.0/8\"],\"protocol\":\"HTTP\"," ++
    "\"rate_limit_rpm\":0,\"status\":\"ACTIVE\",\"target_host\":\"localhost\"," ++
    "\"target_port\":80,\"tunnel_id\":\"web\",\"updated_at\":1500\x7d").toList

/-- The tunnel after a later update that took no whole millisecond. -/
def webLater : Tunnel := { web with updatedAt := 1500000001 }

/-- The library on the two objects, which are the same. -/
def webDump (_ : Json) : Str := webText

def webParse (text : Str) : Option Json := if text = webText then some web.toJson else none

/-- The later update is lost in the text, and what comes back is the tunnel as it was before. -/
theorem text_round_trip_web :
    fromText webParse (toText webDump webLater) = some webLater.truncated ∧
      toText webDump webLater.truncated = toText webDump webLater ∧ webLater.truncated = web := by
  have hfits : web.Fits := ⟨by decide, by decide, by decide, by decide⟩
  have hreads : ReadsBack webParse webDump web.toJson := ⟨web.toJson, if_pos rfl, fun _ => rfl⟩
  have htrip := fun t ht Ht => text_round_trip webParse webDump t web ht hfits Ht hreads
  obtain ⟨hback, hsame, _⟩ := htrip webLater ⟨by decide, by decide, by decide, by decide⟩
    ⟨web.toJson, if_pos rfl, fun _ => rfl⟩
  obtain ⟨_, _, hinjective⟩ := htrip webLater.truncated
    ⟨by decide, by decide, by decide, by decide⟩ ⟨web.toJson, if_pos rfl, fun _ => rfl⟩
  exact ⟨hback, hsame, hinjective (by decide) (by decide) rfl⟩

end Tunnel
end Protogate.Models
