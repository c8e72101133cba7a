import Protogate.Lib.LastMatch
import Protogate.Proxy.HttpProxy
import Protogate.Proxy.TcpProxy
import Protogate.Security.IpAllowlist
import Protogate.Storage.Cache

/-!
# Deciding about a request

`handle_request` answers some requests itself: a health check, a host without a tunnel, a
client that the tunnel's allowlist keeps out.  The others go to the agent of the tunnel.
Both overloads of `create_connection` make the same check of a client.  The host and the
path are logged on the way, and the calls are taken to return.

## Main definitions

* `matchTunnel`, `handleRequest`, `Decision`.
* `Admits` — what an allowlist says about a client.
* `handleRequest_eq_route_iff`, `admitClient_eq_some_iff` — who gets through.
-/

namespace Protogate.Proxy

open Protogate.Lib Protogate.Models Protogate.Security Protogate.Storage

/-! ## Requests -/

/-- `match_tunnel` over the cached tunnels in the order visited. -/
def matchTunnel (order : List (Str × Tunnel)) (hostname : Str) : Str :=
  match lastMatch (fun e => hasPrefix (e.1 ++ ".".toList) hostname || e.1 == hostname) order with
  | some (tunnelId, _) => tunnelId
  | none => []

/-- `HTTPResponse::forbidden`; the reason needs no escapes. -/
def HTTPResponse.forbidden (reason : Str) : HTTPResponse where
  statusCode := 403
  statusMessage := "Forbidden".toList
  headers := [("Content-Type".toList, "application/json".toList)]
  body := "\x7b\n  \"error\": \x7b\n    \"code\": 403,\n    \"message\": \"Forbidden\",\n".toList ++
    "    \"reason\": \"".toList ++ reason ++ "\"\n  \x7d\n\x7d\n".toList

/-- The answer to a health check, from the status and the text of the health handler. -/
def HTTPResponse.health (statusCode : ℕ) (json : Str) : HTTPResponse where
  statusCode := statusCode
  statusMessage := if statusCode = 200 then "OK".toList else "Service Unavailable".toList
  headers := [("Content-Type".toList, "application/json".toList),
    ("Content-Length".toList, decimal json.length)]
  body := json

/-- A request is answered by the proxy, or goes on to `route_to_agent`. -/
inductive Decision
  | respond (response : HTTPResponse)
  | route (tunnelId : Str)
  deriving DecidableEq, Repr

/-- `handle_request` up to `route_to_agent`; `order` is what `match_tunnel` visited, and
`health` what the health handler reports. -/
def handleRequest (allows : List Str → Str → Bool) (tunnelCache : Cache Str Tunnel) (now : ℤ)
    (order : List (Str × Tunnel)) (health : ℕ × Str) (request : HTTPRequest) : Decision :=
  if request.path = "/health".toList then .respond (.health health.1 health.2)
  else
    let tunnelId := matchTunnel order request.host
    if tunnelId.isEmpty then .respond (.error 404 "Tunnel not found".toList)
    else
      match tunnelCache.get now tunnelId with
      | none => .respond (.error 500 "Tunnel configuration error".toList)
      | some tunnel =>
          if validateIpAllowlist allows tunnel request.clientIp then .route tunnelId
          else .respond (.forbidden "IP address not allowed".toList)

/-! ## Who gets through -/

/-- The list is empty, or it parses and one of its entries covers the address. -/
def Admits (pton : InetPton) (allowlist : List Str) (ip : Str) : Prop :=
  allowlist = [] ∨
    (∀ entry ∈ allowlist, Parses pton entry) ∧ ∃ entry ∈ allowlist, Covers pton entry ip

section
variable {pton : InetPton}

theorem validateIpAllowlist_iff {tunnel : Tunnel} {ip : Str} :
    validateIpAllowlist (allows pton) tunnel ip = true ↔ Admits pton tunnel.ipAllowlist ip := by
  rw [validateIpAllowlist, Bool.or_eq_true, List.isEmpty_iff, allows_iff, Admits]
  exact or_self_left

/-- An address that cannot be read is admitted by the empty list only. -/
theorem not_admits_of_unparsable {allowlist : List Str} {ip : Str} (h : Unparsable pton ip)
    (hne : allowlist ≠ []) : ¬ Admits pton allowlist ip := by
  rintro (hnil | ⟨_, entry, _, hcovers⟩)
  · exact hne hnil
  · exact not_covers_of_unparsable h hcovers

/-- **A request goes to an agent** exactly if it is no health check, and the tunnel cached
under the key its host matches admits the client. -/
theorem handleRequest_eq_route_iff {tunnelCache : Cache Str Tunnel} {now : ℤ}
    {order : List (Str × Tunnel)} {health : ℕ × Str} {request : HTTPRequest} {t : Str} :
    handleRequest (allows pton) tunnelCache now order health request = .route t ↔
      request.path ≠ "/health".toList ∧ t = matchTunnel order request.host ∧ t ≠ [] ∧
        ∃ tunnel, tunnelCache.get now t = some tunnel ∧
          Admits pton tunnel.ipAllowlist request.clientIp := by
  simp only [handleRequest, ← validateIpAllowlist_iff]
  by_cases hhealth : request.path = "/health".toList
  · simp [hhealth]
  · rw [if_neg hhealth]
    by_cases hempty : matchTunnel order request.host = []
    · rw [if_pos (List.isEmpty_iff.mpr hempty)]
      constructor
      · intro h
        cases h
      · rintro ⟨_, rfl, hne, _⟩
        exact absurd hempty hne
    · rw [if_neg (by simpa using hempty)]
      cases hget : tunnelCache.get now (matchTunnel order request.host) with
      | none =>
          constructor
          · intro h
            cases h
          · rintro ⟨_, rfl, _, tunnel, htunnel, _⟩
            rw [hget] at htunnel
            cases htunnel
      | some tunnel =>
          simp only
          constructor
          · intro h
            split at h
            · rename_i hvalid
              cases h
              exact ⟨hhealth, rfl, hempty, tunnel, hget, hvalid⟩
            · cases h
          · rintro ⟨_, rfl, _, tunnel', htunnel', hvalid⟩
            rw [hget] at htunnel'
            cases htunnel'
            rw [if_pos hvalid]

/-- **A TCP client gets through** exactly if its address is known, the cached tunnel admits
it, and the agent is connected. -/
theorem admitClient_eq_some_iff {env : CreateEnv} {ip : Str} :
    admitClient (allows pton) env = some ip ↔
      env.clientIp = some ip ∧ env.connected = true ∧
        ∃ tunnel, env.tunnel = some tunnel ∧ Admits pton tunnel.ipAllowlist ip := by
  simp only [admitClient, ← validateIpAllowlist_iff]
  cases env.tunnel with
  | none => simp
  | some tunnel =>
      cases env.clientIp with
      | none => simp
      | some client =>
          constructor
          · intro h
            simp only [Option.bind_eq_bind, Option.bind_some] at h
            split at h
            · rename_i hboth
              cases h
              obtain ⟨hvalid, hconnected⟩ := Bool.and_eq_true_iff.mp hboth
              exact ⟨rfl, hconnected, tunnel, rfl, hvalid⟩
            · cases h
          · rintro ⟨hip, hconnected, _, ⟨⟩, hvalid⟩
            cases hip
            simp [hvalid, hconnected]

end

/-! ## TCP_OPEN frames -/

/-- The TCP_OPEN frames among what went to the agents, with the tunnels they went to. -/
def opens (sent : List AgentSend) : List (Str × TCPOpenFrame) :=
  sent.filterMap fun s =>
    match s with
    | .tcpOpen tunnelId _ frame _ => some (tunnelId, frame)
    | .tcpData _ _ _ _ | .tcpClose _ _ => none

@[simp] theorem opens_append (as bs : List AgentSend) : opens (as ++ bs) = opens as ++ opens bs :=
  List.filterMap_append

section
variable {allows : List Str → Str → Bool} {p : TcpProxy} {env : CreateEnv} {t ip : Str}
  {order : List (Str × Tunnel)} {port : ℕ} {digits : Vector (Fin 16) 8} {ok : Bool}

/-- A client that is kept out changes nothing. -/
theorem createConnection_of_none (h : admitClient allows env = none) :
    createConnection allows p env t = p := by
  rw [createConnection, h]

/-- For a client that gets through, one TCP_OPEN frame goes to the tunnel's agent. -/
theorem opens_createConnection (h : admitClient allows env = some ip) (hagent : env.agent = some ok) :
    opens (createConnection allows p env t).sent = opens p.sent ++ [(t, ⟨env.uuid, 0⟩)] := by
  simp only [createConnection, h, hagent]
  exact opens_append _ _

theorem createConnectionByPort_of_none
    (h : matchTunnelByPort order port = [] ∨ admitClient allows env = none) :
    createConnectionByPort allows p env order port digits = p := by
  simp only [createConnectionByPort]
  rcases h with h | h
  · simp [h]
  · simp [h]

theorem opens_createConnectionByPort (hne : matchTunnelByPort order port ≠ [])
    (h : admitClient allows env = some ip) (hagent : env.agent = some ok) :
    opens (createConnectionByPort allows p env order port digits).sent =
      opens p.sent ++ [(matchTunnelByPort order port, ⟨env.uuid, 0⟩)] := by
  simp only [createConnectionByPort, h, hagent, List.isEmpty_iff, hne, if_false]
  exact opens_append _ _

end

/-- A call of `create_connection`. -/
def Event.creates : Event → Bool
  | .create _ _ | .createByPort _ _ _ _ => true
  | _ => false

theorem opens_closeConnection (p : TcpProxy) (id : Str) (graceful agent : Bool) :
    opens (closeConnection p id graceful agent).sent = opens p.sent := by
  refine closeConnection_rule (P := fun q => opens q.sent = opens p.sent) rfl ?_ ?_ ?_ graceful agent
  · intro ref
    rw [sent_update]
  · intro ref
    dsimp only
    rw [sent_update]
  · intro q t hq
    have hclose : opens [.tcpClose t id] = [] := rfl
    rw [opens_append, hq, hclose, List.append_nil]

theorem opens_sendData (p : TcpProxy) (id : Str) (data : Bytes) (agent : Option Bool) :
    opens (sendData p id data agent).2.sent = opens p.sent := by
  refine sendData_rule (P := fun q => opens q.sent = opens p.sent) rfl ?_ ?_ data agent
  · intro ref c data _
    rw [sent_update]
  · intro ref c data frame ok _ _
    have hdata : opens [.tcpData c.tunnelId id frame ok] = [] := rfl
    rw [sent_update, opens_append, hdata, List.append_nil]

/-- Nothing but a call of `create_connection` opens a connection at an agent. -/
theorem opens_step {allows : List Str → Str → Bool} {p : TcpProxy} {e : Event}
    (h : e.creates = false) : opens (step allows p e).sent = opens p.sent := by
  cases e with
  | create _ _ => cases h
  | createByPort _ _ _ _ => cases h
  | clientRead ref data agent =>
      refine clientRead_rule (P := fun q => opens q.sent = opens p.sent) rfl fun c _ _ => ?_
      rw [sent_update, opens_sendData, sent_update]
  | clientEnd ref eof agent =>
      refine clientEnd_rule (P := fun q => opens q.sent = opens p.sent) rfl fun c _ _ => ?_
      rw [opens_closeConnection, sent_update]
  | writeDone ref i => simp [step, writeDone]
  | agentFrame frame agent =>
      rw [step]
      refine handleAgentTcpFrame_rule (P := fun q => opens q.sent = opens p.sent) rfl ?_ ?_ ?_
      · exact fun _ ref _ _ => by rw [sent_update]
      · exact fun _ ref _ data length _ => by rw [sent_update]
      · exact fun id graceful => opens_closeConnection p id graceful agent
  | updateWindow id n =>
      refine updateWindow_rule (P := fun q => opens q.sent = opens p.sent) rfl fun ref c _ _ => ?_
      rw [sent_update]
  | close id graceful agent => exact opens_closeConnection p id graceful agent

end Protogate.Proxy
