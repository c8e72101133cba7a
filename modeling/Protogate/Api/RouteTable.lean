import Protogate.Api.Router
import Protogate.Lib.LastMatch

/-!
# The routes of the management API

`register_routes` registers seven routes.  Their patterns are the path of all tunnels, and the
path of one tunnel with nothing or one more segment behind its id; so a path fits one of them
at most, and the order of registration does not matter.

## Main definitions

* `Endpoint`, `registerRoutes` — the table.
* `Registration`, `registrations`, `registerAll` — the same in any order.
* `Fits`, `fits_of_captures`, `matches_of_fits` — what a route of the table matches.
* `PassedOn` — the parameters that a handler gets.
* `dispatch_unambiguous` — one route at most is for a request.
-/

namespace Protogate.Api

open Protogate.Lib

/-- The handlers of `TunnelsHandler`. -/
inductive Endpoint
  | createTunnel
  | listTunnels
  | getTunnel
  | deleteTunnel
  | rotateToken
  | getTunnelMetrics
  | getTunnelAgents
  deriving DecidableEq, Repr

section
variable {σ : Type} (handle : Endpoint → RouteHandler σ)

/-- Register all routes with the router. -/
def registerRoutes (router : Router σ) : Except PatternError (Router σ) := do
  let router ← router.post "/api/v1/tunnels".toList (handle .createTunnel)
  let router ← router.get "/api/v1/tunnels".toList (handle .listTunnels)
  let router ← router.get "/api/v1/tunnels/\x7bid\x7d".toList (handle .getTunnel)
  let router ← router.deleteRoute "/api/v1/tunnels/\x7bid\x7d".toList (handle .deleteTunnel)
  let router ← router.post "/api/v1/tunnels/\x7bid\x7d/rotate-token".toList (handle .rotateToken)
  let router ← router.get "/api/v1/tunnels/\x7bid\x7d/metrics".toList (handle .getTunnelMetrics)
  router.get "/api/v1/tunnels/\x7bid\x7d/agents".toList (handle .getTunnelAgents)

end

/-! ## The table in any order -/

/-- One line of `register_routes`. -/
structure Registration where
  method : Str
  pattern : Str
  endpoint : Endpoint
  deriving DecidableEq, Repr

def registrations : List Registration := [
  ⟨"POST".toList, "/api/v1/tunnels".toList, .createTunnel⟩,
  ⟨"GET".toList, "/api/v1/tunnels".toList, .listTunnels⟩,
  ⟨"GET".toList, "/api/v1/tunnels/\x7bid\x7d".toList, .getTunnel⟩,
  ⟨"DELETE".toList, "/api/v1/tunnels/\x7bid\x7d".toList, .deleteTunnel⟩,
  ⟨"POST".toList, "/api/v1/tunnels/\x7bid\x7d/rotate-token".toList, .rotateToken⟩,
  ⟨"GET".toList, "/api/v1/tunnels/\x7bid\x7d/metrics".toList, .getTunnelMetrics⟩,
  ⟨"GET".toList, "/api/v1/tunnels/\x7bid\x7d/agents".toList, .getTunnelAgents⟩]

section
variable {σ : Type} (handle : Endpoint → RouteHandler σ)

/-- Register the lines in the given order. -/
def registerAll (order : List Registration) (router : Router σ) : Except PatternError (Router σ) :=
  order.foldlM (fun router g => router.addRoute g.method g.pattern (handle g.endpoint)) router

/-- The expression of the pattern and the names of its parameters. -/
def Registration.compiled (g : Registration) : List (Atom Char) × List Str :=
  (compilePattern g.pattern).toOption.getD ([], [])

def Registration.route (g : Registration) : Route σ :=
  ⟨g.method, g.compiled.1, g.compiled.2, handle g.endpoint⟩

theorem compiled_of_ok {g : Registration} {pattern : Str} {c : List (Atom Char) × List Str}
    (hg : g.pattern = pattern) (hc : compilePattern pattern = .ok c) : g.compiled = c := by
  rw [Registration.compiled, hg, hc]
  rfl

theorem registerRoutes_eq (router : Router σ) :
    registerRoutes handle router = registerAll handle registrations router := by
  simp only [registerRoutes, registerAll, registrations, List.foldlM_cons, List.foldlM_nil, bind_pure]
  rfl

/-- If every pattern compiles, the routes are those of the lines. -/
theorem registerAll_eq {order : List Registration}
    (h : ∀ g ∈ order, ∃ c, compilePattern g.pattern = .ok c) (router : Router σ) :
    registerAll handle order router = .ok ⟨router.routes ++ order.map (·.route handle)⟩ := by
  induction order generalizing router with
  | nil => simp [registerAll, pure, Except.pure]
  | cons g order ih =>
      obtain ⟨⟨c, hc⟩, horder⟩ := List.forall_mem_cons.mp h
      have hstep : router.addRoute g.method g.pattern (handle g.endpoint) =
          .ok ⟨router.routes ++ [g.route handle]⟩ := by
        rw [Registration.route, compiled_of_ok rfl hc, Router.addRoute, hc]
        rfl
      rw [registerAll, List.foldlM_cons, hstep]
      refine (ih horder _).trans ?_
      simp

end

/-! ## The two kinds of patterns -/

/-- The path of all tunnels. -/
def tunnelsPath : Str := "/api/v1/tunnels".toList

/-- What stands before the id. -/
def tunnelPath : Str := "/api/v1/tunnels/".toList

/-- The path of all tunnels, or of one with nothing or one more segment behind its id. -/
inductive TablePattern : Str → Prop
  | tunnels : TablePattern tunnelsPath
  | tunnel (after : Str) (hplain : isPlain after = true) (hends : EndsSegment '/' after) :
      TablePattern (tunnelPath ++ '{' :: ("id".toList ++ '}' :: after))

theorem tablePattern_of_mem {g : Registration} (h : g ∈ registrations) : TablePattern g.pattern := by
  have hends : ∀ after : Str, EndsSegment '/' ('/' :: after) := fun after => .inr ⟨after, rfl⟩
  simp only [registrations, List.mem_cons, List.not_mem_nil, or_false] at h
  rcases h with rfl | rfl | rfl | rfl | rfl | rfl | rfl
  · exact .tunnels
  · exact .tunnels
  · exact .tunnel [] (by decide) (.inl rfl)
  · exact .tunnel [] (by decide) (.inl rfl)
  · exact .tunnel "/rotate-token".toList (by decide) (hends _)
  · exact .tunnel "/metrics".toList (by decide) (hends _)
  · exact .tunnel "/agents".toList (by decide) (hends _)

theorem compilePattern_tunnels : compilePattern tunnelsPath = .ok (tunnelsPath.map .lit, []) :=
  compilePattern_plain (by decide)

theorem compilePattern_tunnel {after : Str} (h : isPlain after = true) :
    compilePattern (tunnelPath ++ '{' :: ("id".toList ++ '}' :: after)) =
      .ok (tunnelPath.map .lit ++ .segment :: after.map .lit, ["id".toList]) :=
  compilePattern_param (by decide) h (by decide)

/-- Every pattern of the table is compiled. -/
theorem TablePattern.compiles {pattern : Str} (h : TablePattern pattern) :
    ∃ c, compilePattern pattern = .ok c := by
  cases h with
  | tunnels => exact ⟨_, compilePattern_tunnels⟩
  | tunnel after hplain hends => exact ⟨_, compilePattern_tunnel hplain⟩

/-- How a path fits a pattern, and the parameters that are taken from it. -/
inductive Fits : Str → Str → Assoc Str Str → Prop
  | tunnels : Fits tunnelsPath tunnelsPath ∅
  | tunnel (after id : Str) (hplain : isPlain after = true) (hends : EndsSegment '/' after)
      (hid : IsSegment '/' id) :
      Fits (tunnelPath ++ '{' :: ("id".toList ++ '}' :: after)) (tunnelPath ++ id ++ after)
        (AList.singleton "id".toList id)

section
variable {σ : Type} {handle : Endpoint → RouteHandler σ} {g : Registration} {request : HttpRequest}

theorem captures_route (handle : Endpoint → RouteHandler σ) (g : Registration) (request : HttpRequest) :
    (g.route handle).captures request =
      if g.method = request.method then matchAll '/' g.compiled.1 request.path else none := rfl

/-- What a route of the table takes from a path. -/
theorem fits_of_captures (hpattern : TablePattern g.pattern) {captures : List Str}
    (h : (g.route handle).captures request = some captures) :
    g.method = request.method ∧ Fits g.pattern request.path (extractParams captures g.compiled.2) := by
  rw [captures_route] at h
  split at h
  · rename_i hmethod
    refine ⟨hmethod, ?_⟩
    generalize hg : g.pattern = pattern at hpattern ⊢
    cases hpattern with
    | tunnels =>
        rw [compiled_of_ok hg compilePattern_tunnels] at h ⊢
        obtain ⟨hpath, rfl⟩ := matchAll_lit_iff.mp h
        rw [hpath, extractParams_nil]
        exact Fits.tunnels
    | tunnel after hplain hends =>
        rw [compiled_of_ok hg (compilePattern_tunnel hplain)] at h ⊢
        obtain ⟨id, hid, hpath, rfl⟩ := (matchAll_segment_iff hends).mp h
        rw [hpath, extractParams_singleton]
        exact Fits.tunnel after id hplain hends hid
  · cases h

/-- A path that fits the pattern is matched. -/
theorem matches_of_fits (hmethod : g.method = request.method) {params : Assoc Str Str}
    (h : Fits g.pattern request.path params) : (g.route handle).Matches request := by
  rw [Route.Matches, captures_route, if_pos hmethod, Option.isSome_iff_exists]
  generalize hg : g.pattern = pattern at h
  generalize request.path = path at h
  cases h with
  | tunnels =>
      rw [compiled_of_ok hg compilePattern_tunnels]
      exact ⟨[], matchAll_lit_iff.mpr ⟨rfl, rfl⟩⟩
  | tunnel after id hplain hends hid =>
      rw [compiled_of_ok hg (compilePattern_tunnel hplain)]
      exact ⟨[id], (matchAll_segment_iff hends).mpr ⟨id, hid, rfl, rfl⟩⟩

/-- The path of one tunnel is longer than that of all tunnels. -/
theorem tunnelsPath_ne (rest : Str) : tunnelsPath ≠ tunnelPath ++ rest := by
  intro h
  have hlength := congrArg List.length h
  have htunnels : tunnelsPath.length = 15 := by decide
  have htunnel : tunnelPath.length = 16 := by decide
  rw [List.length_append] at hlength
  omega

/-- **A path fits one pattern at most.** -/
theorem Fits.pattern_unique {pattern pattern' path : Str} {params params' : Assoc Str Str}
    (h : Fits pattern path params) (h' : Fits pattern' path params') : pattern = pattern' := by
  generalize hpath : path = path' at h'
  cases h with
  | tunnels =>
      cases h' with
      | tunnels => rfl
      | tunnel after id hplain hends hid =>
          rw [List.append_assoc] at hpath
          exact absurd hpath (tunnelsPath_ne _)
  | tunnel after id hplain hends hid =>
      cases h' with
      | tunnels =>
          rw [List.append_assoc] at hpath
          exact absurd hpath.symm (tunnelsPath_ne _)
      | tunnel after' id' hplain' hends' hid' =>
          -- what is behind the id can be told from the path
          rw [List.append_assoc, List.append_assoc] at hpath
          obtain ⟨_, rfl⟩ := append_segment_inj hid.2 hid'.2 hends hends' (List.append_cancel_left hpath)
          rfl

/-! ## Dispatch -/

/-- What a handler gets as parameters: where the pattern has `{id}`, the segment of the path in its
place, which gives the path when it is put back; else nothing, and the path is the pattern. -/
structure PassedOn (pattern path : Str) (params : Assoc Str Str) : Prop where
  id : "\x7bid\x7d".toList <:+: pattern → ∃ before id after,
    pattern = before ++ "\x7bid\x7d".toList ++ after ∧ path = before ++ id ++ after ∧
      IsSegment '/' id ∧ ∀ name, params.lookup name = if name = "id".toList then some id else none
  plain : ¬ "\x7bid\x7d".toList <:+: pattern → path = pattern ∧ params = ∅

theorem Fits.passedOn {pattern path : Str} {params : Assoc Str Str} (h : Fits pattern path params) :
    PassedOn pattern path params := by
  cases h with
  | tunnels =>
      have hno : '{' ∉ tunnelsPath := by decide
      have hmem : '{' ∈ "\x7bid\x7d".toList := by decide
      exact ⟨fun hsub => absurd (hsub.subset hmem) hno, fun _ => ⟨rfl, rfl⟩⟩
  | tunnel after id hplain hends hid =>
      have hname : "\x7bid\x7d".toList = '{' :: ("id".toList ++ ['}']) := by decide
      have hpattern : tunnelPath ++ '{' :: ("id".toList ++ '}' :: after) =
          tunnelPath ++ "\x7bid\x7d".toList ++ after := by
        rw [hname]
        simp
      constructor
      · intro _
        refine ⟨tunnelPath, id, after, hpattern, rfl, hid, fun name => ?_⟩
        rw [← AList.insert_empty, Assoc.lookup_insert_ite, AList.lookup_empty]
      · intro hno
        exact absurd ⟨tunnelPath, after, hpattern.symm⟩ hno

/-- The table on a request: one route at most matches, in every order of registration the request is
treated in the same way, a handler gets the parameters of its pattern, and without a match the answer
is 404 and the state is as before. -/
structure Unambiguous (handle : Endpoint → RouteHandler σ) (router : Router σ) (request : HttpRequest) :
    Prop where
  exclusive : router.routes.Pairwise fun a b => ¬ (a.Matches request ∧ b.Matches request)
  anyOrder : ∀ order, order.Perm registrations → ∃ other,
    registerAll handle order .empty = .ok other ∧
      ∀ response s, other.route request response s = router.route request response s
  passedOn : ∀ g ∈ registrations, (g.route handle).Matches request → ∃ params,
    PassedOn g.pattern request.path params ∧ ∀ response s, router.route request response s =
      invoke (handle g.endpoint) { request with pathParams := params } response s
  notFound : (∀ route ∈ router.routes, ¬ route.Matches request) → ∀ response s,
    router.route request response s = (some false, .setError ⟨404, "Not found".toList⟩, s)

theorem exclusive_routes (handle : Endpoint → RouteHandler σ) (request : HttpRequest) :
    (registrations.map (·.route handle)).Pairwise
      fun a b => ¬ (a.Matches request ∧ b.Matches request) := by
  have hdistinct : registrations.Pairwise fun g g' => g.method ≠ g'.method ∨ g.pattern ≠ g'.pattern := by
    decide
  rw [List.pairwise_map]
  refine hdistinct.imp_of_mem ?_
  rintro g g' hg hg' hne ⟨h, h'⟩
  obtain ⟨captures, hcaptures⟩ := Option.isSome_iff_exists.mp h
  obtain ⟨captures', hcaptures'⟩ := Option.isSome_iff_exists.mp h'
  obtain ⟨hmethod, hfits⟩ := fits_of_captures (tablePattern_of_mem hg) hcaptures
  obtain ⟨hmethod', hfits'⟩ := fits_of_captures (tablePattern_of_mem hg') hcaptures'
  obtain hne | hne := hne
  · exact hne (hmethod.trans hmethod'.symm)
  · exact hne (hfits.pattern_unique hfits')

theorem exclusive_captures {routes : List (Route σ)}
    (h : routes.Pairwise fun a b => ¬ (a.Matches request ∧ b.Matches request)) :
    Exclusive (fun route => (route.captures request).map (route, ·)) routes := by
  refine h.imp fun {a b} hno hboth => hno ?_
  simpa [Route.Matches] using hboth

/-- **Dispatch is unambiguous**, for every request and whatever the handlers do. -/
theorem dispatch_unambiguous (handle : Endpoint → RouteHandler σ) (request : HttpRequest) :
    ∃ router, registerRoutes handle .empty = .ok router ∧ Unambiguous handle router request := by
  have hregister : ∀ order, order.Perm registrations →
      ∃ router : Router σ, registerAll handle order .empty = .ok router ∧
        router.routes = order.map (·.route handle) := by
    intro order horder
    refine ⟨_, registerAll_eq handle (fun g hg => ?_) Router.empty, rfl⟩
    exact (tablePattern_of_mem (horder.mem_iff.mp hg)).compiles
  obtain ⟨router, hrouter, hroutes⟩ := hregister registrations (List.Perm.refl _)
  have hexclusive := exclusive_routes handle request
  rw [← hroutes] at hexclusive
  refine ⟨router, by rw [registerRoutes_eq, hrouter], hexclusive, ?_, ?_, ?_⟩
  · intro order horder
    obtain ⟨other, hother, hsame⟩ := hregister order horder
    have hperm : other.routes.Perm router.routes := by
      rw [hsame, hroutes]
      exact horder.map _
    refine ⟨other, hother, fun response s => ?_⟩
    rw [Router.route_eq, Router.route_eq,
      findSome?_of_exclusive_perm (exclusive_captures hexclusive) hperm]
  · intro g hg hmatches
    obtain ⟨captures, hcaptures⟩ := Option.isSome_iff_exists.mp hmatches
    obtain ⟨_, hfits⟩ := fits_of_captures (tablePattern_of_mem hg) hcaptures
    have hmem : g.route handle ∈ router.routes := by
      rw [hroutes]
      exact List.mem_map_of_mem hg
    refine ⟨_, hfits.passedOn, fun response s => ?_⟩
    rw [Router.route_eq, findSome?_of_exclusive (exclusive_captures hexclusive) hmem
      (by rw [hcaptures]; rfl)]
    rfl
  · intro hnone response s
    have hfound : router.routes.findSome? (fun route => (route.captures request).map (route, ·)) =
        none := by
      rw [List.findSome?_eq_none_iff]
      intro route hroute
      rw [Option.map_eq_none_iff]
      exact Option.not_isSome_iff_eq_none.mp (hnone route hroute)
    rw [Router.route_eq, hfound]
    rfl

end

end Protogate.Api
