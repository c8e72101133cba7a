import Protogate.Api.UsableTunnels
import Protogate.Server.PortOwners

/-!
# What the management API lists

`GET` of one tunnel and of all tunnels read the cache that `POST` and `DELETE` write.  The
handshakes of agents add entries for ports to the same cache, and these are listed with the
tunnels.  What a request gets is stated by the answers that were given before: a tunnel is there
from its 201 until its 204, for a year.  A request is one step: requests are handled one after
the other, and only the handshakes go on between the steps of each other.

## Main definitions

* `handleGetTunnel`, `handleListTunnels` — the two handlers.
* `ApiState`, `apiStep` — the server, with the tunnels that its answers report.
* `Reported` — what the cache holds, by the answers.
* `ReadsBack`, `listed_as_created` — what is read.
-/

namespace Protogate.Api

open Protogate.Lib Protogate.Models Protogate.Storage

/-- The tunnel, unless there is none. -/
def handleGetTunnel (s : Handler) (env : Surroundings) (id : Str) : HttpResponse :=
  match s.tunnelCache.get env.clock.steady id with
  | none => .setError ⟨404, "Tunnel not found".toList⟩
  | some tunnel => ⟨200, some (tunnelToJson tunnel)⟩

/-- All entries, in the order in which the cache is visited. -/
def handleListTunnels (visit : List (Str × Tunnel)) : HttpResponse :=
  ⟨200, some (.array (visit.map fun entry => tunnelToJson entry.2))⟩

end Protogate.Api

namespace Protogate.Server

open Protogate.Lib Protogate.Models Protogate.Security Protogate.Storage Protogate.Api

/-! ## Answers -/

/-- A tunnel that was answered with 201, and when. -/
structure Created where
  tunnel : Tunnel
  since : ℤ

/-- The server with its clock, and what the answers say is there. -/
structure ApiState where
  ports : PortState
  created : Assoc Str Created

section
variable (parse : Str → Option Json) (sha256 : Str → Digest)

/-- What an answer says. -/
def noteAnswer (created : Assoc Str Created) (env : Surroundings) (response : HttpResponse) :
    Request → Assoc Str Created
  | .create body =>
      match described parse env body with
      | some tunnel =>
          if response.statusCode = 201 then created.insert tunnel.tunnelId ⟨tunnel, env.clock.steady⟩
          else created
      | none => created
  | .delete id => if response.statusCode = 204 then created.erase id else created
  | .rotateToken _ => created

def apiStep (s : ApiState) (e : PortEvent) : ApiState where
  ports := portStep parse sha256 s.ports e
  created :=
    match e.event with
    | .api ⟨env, .request r⟩ =>
        if ReadsClock (s.ports.now + e.elapsed) e.event then
          noteAnswer parse s.created env (s.ports.server.handler.handle parse sha256 env r).1 r
        else s.created
    | _ => s.created

end

/-- A server without tunnels. -/
def ApiState.init (tokenCache : TokenCache) (maxAgents : ℕ) (now : ℤ) : ApiState :=
  ⟨⟨.init Cache.empty tokenCache maxAgents, now⟩, ∅⟩

/-! ## The cache by the answers -/

/-- Under a key without a colon is the tunnel that was created, and under a key with one an entry
for a port of the tunnel that the entry names. -/
structure Reported (cache : Cache Str Tunnel) (created : Assoc Str Created) : Prop where
  tunnels : ∀ key, ':' ∉ key → cache.entries.lookup key =
    (created.lookup key).map fun c => ⟨c.tunnel, c.since + seconds yearTtl⟩
  named : ∀ key c, created.lookup key = some c → ':' ∉ key ∧ c.tunnel.tunnelId = key
  ports : ∀ key e, cache.entries.lookup key = some e → ':' ∈ key →
    ∃ port < 65536, key = tcpTunnelKey e.value.tunnelId port

section
variable {parse : Str → Option Json} {sha256 : Str → Digest} {cache : Cache Str Tunnel}
  {created : Assoc Str Created}

theorem reported_empty : Reported Cache.empty ∅ where
  tunnels := fun _ _ => rfl
  named := by simp
  ports := by simp

theorem Reported.create (H : Reported cache created) {t : Tunnel} (hcolon : ':' ∉ t.tunnelId) (now : ℤ) :
    Reported (cache.put now t.tunnelId t yearTtl) (created.insert t.tunnelId ⟨t, now⟩) where
  tunnels := by
    intro key hkey
    rw [Cache.lookup_put, Assoc.lookup_insert_ite]
    split
    · rfl
    · exact H.tunnels key hkey
  named := by
    intro key c hlook
    rw [Assoc.lookup_insert_ite] at hlook
    split at hlook
    · rename_i hkey
      obtain rfl := Option.some.inj hlook
      exact ⟨hkey ▸ hcolon, hkey.symm⟩
    · exact H.named key c hlook
  ports := by
    intro key e hlook hkey
    have hne : key ≠ t.tunnelId := fun h => hcolon (h ▸ hkey)
    rw [Cache.lookup_put, if_neg hne] at hlook
    exact H.ports key e hlook hkey

theorem Reported.delete (H : Reported cache created) (id : Str) :
    Reported (cache.remove id) (created.erase id) where
  tunnels := by
    intro key hkey
    rw [Cache.lookup_remove, Assoc.lookup_erase_ite]
    split
    · rfl
    · exact H.tunnels key hkey
  named := by
    intro key c hlook
    rw [Assoc.lookup_erase_ite] at hlook
    split at hlook
    · cases hlook
    · exact H.named key c hlook
  ports := by
    intro key e hlook hkey
    rw [Cache.lookup_remove] at hlook
    split at hlook
    · cases hlook
    · exact H.ports key e hlook hkey

theorem Reported.listen (H : Reported cache created) (now : ℤ) {port : ℕ} (hport : port < 65536)
    (t : Tunnel) (ttl : ℤ) :
    Reported (cache.put now (tcpTunnelKey t.tunnelId port) t ttl) created where
  tunnels := by
    intro key hkey
    have hne : key ≠ tcpTunnelKey t.tunnelId port := by
      rintro rfl
      exact hkey (by simp [tcpTunnelKey])
    rw [Cache.lookup_put, if_neg hne]
    exact H.tunnels key hkey
  named := H.named
  ports := by
    intro key e hlook hkey
    rw [Cache.lookup_put] at hlook
    split at hlook
    · obtain rfl := Option.some.inj hlook
      exact ⟨port, hport, by assumption⟩
    · exact H.ports key e hlook hkey

/-! ## Steps -/

/-- What a creation does is told by its answer. -/
theorem tunnelCache_create (s : Handler) (env : Surroundings) (body : Str) :
    (handleCreateTunnel parse sha256 s env body).2.tunnelCache =
      match described parse env body with
      | some t =>
          if (handleCreateTunnel parse sha256 s env body).1.statusCode = 201 then
            s.tunnelCache.put env.clock.steady t.tunnelId t yearTtl
          else s.tunnelCache
      | none => s.tunnelCache := by
  cases hparse : parse body with
  | none => simp [handleCreateTunnel, described, hparse]
  | some json =>
      cases hbody : tunnelOfBody env json with
      | error e => simp [handleCreateTunnel, described, hparse, hbody, Except.toOption]
      | ok t =>
          simp only [handleCreateTunnel, described, hparse, hbody, Option.bind_some, Except.toOption,
            createTunnel]
          cases validateTunnelConfig t with
          | some error => simp [HttpResponse.setError]
          | none =>
              cases s.tunnelCache.get env.clock.steady t.tunnelId with
              | some old => simp [HttpResponse.setError]
              | none => simp [createdResponse]

theorem colon_not_mem_of_created {s : Handler} {env : Surroundings} {body : Str} {t : Tunnel}
    (hdescribed : described parse env body = some t)
    (hcode : (handleCreateTunnel parse sha256 s env body).1.statusCode = 201) : ':' ∉ t.tunnelId := by
  obtain ⟨t', hdescribed', hvalid, _⟩ := status_eq_201_iff.mp hcode
  obtain rfl : t' = t := Option.some.inj (hdescribed'.symm.trans hdescribed)
  intro hcolon
  exact absurd (List.all_eq_true.mp (isTunnelIdChar_of_validate hvalid) ':' hcolon) (by decide)

theorem Reported.request {s : Handler} (H : Reported s.tunnelCache created) (env : Surroundings)
    (r : Request) :
    Reported (s.handle parse sha256 env r).2.tunnelCache
      (noteAnswer parse created env (s.handle parse sha256 env r).1 r) := by
  cases r with
  | create body =>
      show Reported (handleCreateTunnel parse sha256 s env body).2.tunnelCache
        (noteAnswer parse created env (handleCreateTunnel parse sha256 s env body).1 (.create body))
      rw [tunnelCache_create, noteAnswer]
      cases hdescribed : described parse env body with
      | none => exact H
      | some t =>
          dsimp only
          by_cases hcode : (handleCreateTunnel parse sha256 s env body).1.statusCode = 201
          · rw [if_pos hcode, if_pos hcode]
            exact H.create (colon_not_mem_of_created hdescribed hcode) _
          · rw [if_neg hcode, if_neg hcode]
            exact H
  | delete id =>
      simp only [Handler.handle, noteAnswer, handleDeleteTunnel]
      split
      · exact H
      · exact H.delete id
  | rotateToken id =>
      simp only [Handler.handle, noteAnswer, handleRotateToken]
      split
      · exact H
      · split <;> exact H

/-- An entry that a handshake adds. -/
theorem exists_port_of_addedEntry {s : AgentServer} {e : ServerEvent} {key : Str} {t : Tunnel}
    (h : addedEntry s e = some (key, t)) : ∃ port < 65536, key = tcpTunnelKey t.tunnelId port := by
  unfold addedEntry at h
  split at h
  · split at h
    · obtain ⟨n, _, hentry⟩ := Option.map_eq_some_iff.mp h
      obtain ⟨rfl, rfl⟩ := Prod.mk.inj hentry
      exact ⟨(n % 65536).toNat, by omega, rfl⟩
    · cases h
  · cases h

/-- The state after the answers so far. -/
def ApiState.Told (s : ApiState) : Prop := Reported s.ports.server.handler.tunnelCache s.created

theorem told_step (s : ApiState) (e : PortEvent) (H : s.Told) : (apiStep parse sha256 s e).Told := by
  obtain ⟨elapsed, event⟩ := e
  by_cases hclock : ReadsClock (s.ports.now + elapsed) event
  · cases event with
    | agent a =>
        show Reported _ s.created
        simp only [apiStep, portStep, hclock, if_true, serverStep]
        rw [tunnelCache_agentStep s.ports.server a hclock]
        cases hadded : addedEntry s.ports.server (.agent a) with
        | none => exact H
        | some entry =>
            obtain ⟨key, t⟩ := entry
            obtain ⟨port, hport, rfl⟩ := exists_port_of_addedEntry hadded
            exact H.listen _ hport t _
    | api a =>
        obtain ⟨env, op⟩ := a
        cases op with
        | validator c =>
            show Reported _ s.created
            simp only [apiStep, portStep, hclock, if_true, serverStep, Api.step, Handler.call]
            exact H
        | request r =>
            show Reported _ (apiStep parse sha256 s ⟨elapsed, .api ⟨env, .request r⟩⟩).created
            simp only [apiStep, portStep, hclock, if_true, serverStep, Api.step]
            exact Reported.request H env r
  · have hcreated : (apiStep parse sha256 s ⟨elapsed, event⟩).created = s.created := by
      simp only [apiStep, hclock, if_false]
      split <;> rfl
    show Reported _ (apiStep parse sha256 s ⟨elapsed, event⟩).created
    rw [hcreated]
    simp only [apiStep, portStep, hclock, if_false]
    exact H

/-! ## What is read -/

/-- The tunnels that were created less than a year ago. -/
def ApiState.there (s : ApiState) (now : ℤ) : List (Str × Tunnel) :=
  s.created.keys.filterMap fun id =>
    ((s.created.lookup id).filter fun c => now < c.since + seconds yearTtl).map fun c => (id, c.tunnel)

/-- `GET` finds the tunnels that were created and not deleted since, for a year, as they were
created; the list has each of them once, and one element for each entry of a port. -/
structure ReadsBack (s : ApiState) : Prop where
  get : ∀ env id, ':' ∉ id → handleGetTunnel s.ports.server.handler env id =
    match (s.created.lookup id).filter fun c => env.clock.steady < c.since + seconds yearTtl with
    | none => .setError ⟨404, "Tunnel not found".toList⟩
    | some c => ⟨200, some (tunnelToJson c.tunnel)⟩
  list : ∀ now visit, s.ports.server.handler.tunnelCache.Visits now visit →
    ∃ ports elements, handleListTunnels visit = ⟨200, some (.array elements)⟩ ∧
      elements.Perm ((s.there now ++ ports).map fun entry => tunnelToJson entry.2) ∧
      (ports.map Prod.fst).Nodup ∧ ∀ entry ∈ ports,
        s.ports.server.handler.tunnelCache.get now entry.1 = some entry.2 ∧
          ∃ port < 65536, entry.1 = tcpTunnelKey entry.2.tunnelId port

theorem Reported.get_eq (H : Reported cache created) (now : ℤ) {id : Str} (hid : ':' ∉ id) :
    cache.get now id =
      ((created.lookup id).filter fun c => now < c.since + seconds yearTtl).map Created.tunnel := by
  rw [Cache.get, H.tunnels id hid]
  cases created.lookup id with
  | none => rfl
  | some c =>
      by_cases hnow : now < c.since + seconds yearTtl
      · simp [Entry.isExpired, hnow, Int.not_le.mpr hnow, Option.filter]
      · simp [Entry.isExpired, hnow, Int.not_lt.mp hnow, Option.filter]

theorem mem_there_iff {s : ApiState} (H : s.Told) {now : ℤ} {entry : Str × Tunnel} :
    entry ∈ s.there now ↔
      ':' ∉ entry.1 ∧ s.ports.server.handler.tunnelCache.get now entry.1 = some entry.2 := by
  obtain ⟨id, t⟩ := entry
  simp only [ApiState.there, List.mem_filterMap, Option.map_eq_some_iff, Prod.mk.injEq]
  constructor
  · rintro ⟨_, _, c, hc, rfl, rfl⟩
    have hcolon := (H.named _ _ (Option.filter_eq_some_iff.mp hc).1).1
    rw [H.get_eq now hcolon, hc]
    exact ⟨hcolon, rfl⟩
  · rintro ⟨hcolon, hget⟩
    rw [H.get_eq now hcolon, Option.map_eq_some_iff] at hget
    obtain ⟨c, hc, rfl⟩ := hget
    exact ⟨id, Assoc.mem_of_lookup (Option.filter_eq_some_iff.mp hc).1, c, hc, rfl, rfl⟩

theorem nodup_there (s : ApiState) (now : ℤ) : (s.there now).Nodup := by
  apply s.created.keys_nodup.filterMap
  intro id id' entry hentry hentry'
  obtain ⟨c, _, rfl⟩ := Option.map_eq_some_iff.mp hentry
  obtain ⟨c', _, heq⟩ := Option.map_eq_some_iff.mp hentry'
  exact (Prod.mk.inj heq).1.symm

theorem ApiState.Told.readsBack {s : ApiState} (H : s.Told) : ReadsBack s where
  get := by
    intro env id hid
    rw [handleGetTunnel, H.get_eq _ hid]
    cases (s.created.lookup id).filter fun c => env.clock.steady < c.since + seconds yearTtl with
    | none => rfl
    | some c => rfl
  list := by
    intro now visit hvisit
    have hnodup : (visit.map Prod.fst).Nodup := (hvisit.map Prod.fst).nodup_iff.mpr (Cache.nodup_live _ _)
    refine ⟨visit.filter fun entry => ':' ∈ entry.1, _, rfl, List.Perm.map _ ?_,
      hnodup.sublist (List.filter_sublist.map _), fun entry hentry => ?_⟩
    · have hthere : (visit.filter fun entry => ! decide (':' ∈ entry.1)).Perm (s.there now) := by
        rw [List.perm_ext_iff_of_nodup (hnodup.of_map.filter _) (nodup_there s now)]
        intro entry
        rw [mem_there_iff H, List.mem_filter, Cache.mem_visit_iff hvisit]
        simp [and_comm]
      exact ((List.filter_append_perm _ visit).symm.trans List.perm_append_comm).trans
        (hthere.append_right _)
    · obtain ⟨hmem, hcolon⟩ := List.mem_filter.mp hentry
      have hget := (Cache.mem_visit_iff hvisit).mp hmem
      refine ⟨hget, ?_⟩
      obtain ⟨e, hlook, hvalue, _⟩ := Cache.get_eq_some_iff.mp hget
      rw [← hvalue]
      exact H.ports _ e hlook (of_decide_eq_true hcolon)

end

/-- **What was created is read back until it is deleted**, by `GET` of the tunnel and of all
tunnels, after any requests, handshakes and disconnects. -/
theorem listed_as_created (parse : Str → Option Json) (sha256 : Str → Digest) (tokenCache : TokenCache)
    (maxAgents : ℕ) (now : ℤ) (evs : List PortEvent) :
    Always (apiStep parse sha256) ReadsBack (.init tokenCache maxAgents now) evs :=
  Always.imp (fun _ H => H.readsBack)
    (always_of_invariant (C := fun _ _ => True) _ (fun s e H _ => told_step s e H) reported_empty
      (along_const_iff.mpr fun _ _ => trivial))

end Protogate.Server
