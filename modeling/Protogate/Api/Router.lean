import Protogate.Api.TunnelsHandler
import Protogate.Lib.SegmentPattern

/-!
# The router of the management API

`compile_pattern` turns a pattern such as `/tunnels/{id}` into a regular expression with one
group for each parameter.  `route` calls the handler of the first route whose method is that of
the request and whose expression matches the whole path.

Of the regular expressions only those are covered that the patterns of this API give: plain
characters and the group of a parameter.  `std::regex_match` recurses along the path, and is
taken to have stack enough for it.

## Main definitions

* `compilePattern`, `extractParams` — patterns and their parameters.
* `Router.route` — the dispatch of a request.
* `compilePattern_plain`, `compilePattern_param` — what a pattern is compiled to.
* `Router.route_eq` — the request goes to the first route that matches.
-/

namespace Protogate.Api

open Protogate.Lib

/-- A request of the management API. -/
structure HttpRequest where
  method : Str
  path : Str
  queryString : Str
  headers : Assoc Str Str
  /-- Captured route parameters. -/
  pathParams : Assoc Str Str
  body : Str
  remoteIp : Str

/-- How a handler ends: it returns, or throws a `std::exception` or something else. -/
inductive Ending
  | returned
  | stdException
  | otherException
  deriving DecidableEq, Repr

/-- A handler writes the response and changes the state of the server. -/
abbrev RouteHandler (σ : Type) := HttpRequest → HttpResponse → σ → Ending × HttpResponse × σ

/-! ## Patterns -/

/-- Why a pattern is not registered. -/
inductive PatternError
  /-- A `std::runtime_error` with its text. -/
  | unclosed (what : Str)
  /-- The regular expression has operators that are not covered here. -/
  | notCovered
  deriving DecidableEq, Repr

/-- The group for a parameter: match anything except `/`. -/
def paramGroup : Str := "([^/]+)".toList

/-- The loop of `compile_pattern`, on the rest of the pattern. -/
def compileLoop (pattern rest regexPattern : Str) (paramNames : List Str) :
    Except PatternError (Str × List Str) :=
  if '{' ∈ rest then
    let inner := (rest.dropWhile (· ≠ '{')).drop 1
    if '}' ∈ inner then
      compileLoop pattern ((inner.dropWhile (· ≠ '}')).drop 1)
        (regexPattern ++ rest.takeWhile (· ≠ '{') ++ paramGroup)
        (paramNames ++ [inner.takeWhile (· ≠ '}')])
    else .error (.unclosed ("Unclosed parameter in route pattern: ".toList ++ pattern))
  else .ok (regexPattern ++ rest, paramNames)
termination_by rest.length
decreasing_by
  have houter := (List.dropWhile_sublist (l := rest) (· ≠ '{')).length_le
  have hinner := (List.dropWhile_sublist (l := (rest.dropWhile (· ≠ '{')).drop 1) (· ≠ '}')).length_le
  have hpos : 0 < rest.length := List.length_pos_of_mem ‹_›
  simp only [List.length_drop] at hinner ⊢
  omega

/-- The characters with a meaning in an ECMAScript expression. -/
def isSyntaxCharacter (c : Char) : Bool := c ∈ "^$\\.*+?()[]\x7b\x7d|".toList

def isPlain (literal : Str) : Bool := literal.all (! isSyntaxCharacter ·)

/-- The expression that a text denotes. -/
def regex : Str → Option (List (Atom Char))
  | [] => some []
  | '(' :: '[' :: '^' :: '/' :: ']' :: '+' :: ')' :: rest => (regex rest).map (.segment :: ·)
  | c :: rest => if isSyntaxCharacter c then none else (regex rest).map (.lit c :: ·)

/-- The expression of a pattern and the names of its parameters. -/
def compilePattern (pattern : Str) : Except PatternError (List (Atom Char) × List Str) := do
  let (regexPattern, paramNames) ← compileLoop pattern pattern [] []
  match regex regexPattern with
  | none => .error .notCovered
  | some expression => return (expression, paramNames)

/-- Each name with the text of its group. -/
def extractParams (captures paramNames : List Str) : Assoc Str Str :=
  (paramNames.zip captures).foldl (fun params p => params.insert p.1 p.2) ∅

/-! ## What a pattern is compiled to -/

theorem compileLoop_of_not_mem {rest : Str} (h : '{' ∉ rest) (pattern regexPattern : Str)
    (paramNames : List Str) :
    compileLoop pattern rest regexPattern paramNames = .ok (regexPattern ++ rest, paramNames) := by
  rw [compileLoop, if_neg h]

/-- One turn of the loop. -/
theorem compileLoop_param {literal name : Str} (hliteral : '{' ∉ literal) (hname : '}' ∉ name)
    (pattern rest regexPattern : Str) (paramNames : List Str) :
    compileLoop pattern (literal ++ '{' :: (name ++ '}' :: rest)) regexPattern paramNames =
      compileLoop pattern rest (regexPattern ++ literal ++ paramGroup) (paramNames ++ [name]) := by
  rw [compileLoop]
  simp only [dropWhile_ne_append hliteral, takeWhile_ne_append hliteral, List.drop_one, List.tail_cons,
    dropWhile_ne_append hname, takeWhile_ne_append hname]
  rw [if_pos (by simp), if_pos (by simp)]

/-- Plain characters match themselves. -/
theorem regex_append {literal : Str} (h : isPlain literal = true) (rest : Str) :
    regex (literal ++ rest) = (regex rest).map (literal.map .lit ++ ·) := by
  induction literal with
  | nil => simp
  | cons c literal ih =>
      simp only [isPlain, List.all_cons, Bool.and_eq_true, Bool.not_eq_true'] at h
      obtain ⟨hc, hliteral⟩ := h
      have hopen : c ≠ '(' := by
        rintro rfl
        cases hc
      rw [List.cons_append, regex, if_neg (by simp [hc]), ih hliteral, Option.map_map]
      · rfl
      · rintro rest' rfl
        exact absurd rfl hopen

theorem regex_paramGroup (rest : Str) :
    regex (paramGroup ++ rest) = (regex rest).map (.segment :: ·) := rfl

theorem not_mem_of_plain {literal : Str} (h : isPlain literal = true) :
    '{' ∉ literal := by
  intro hmem
  have hbrace := List.all_eq_true.mp h _ hmem
  cases hbrace

/-- A pattern without parameters. -/
theorem compilePattern_plain {pattern : Str} (h : isPlain pattern = true) :
    compilePattern pattern = .ok (pattern.map .lit, []) := by
  have hregex : regex pattern = some (pattern.map .lit) := by
    have happend := regex_append h []
    simpa [regex] using happend
  simp [compilePattern, compileLoop_of_not_mem (not_mem_of_plain h), hregex, bind, Except.bind, pure,
    Except.pure]

/-- A pattern with one parameter. -/
theorem compilePattern_param {before name after : Str}
    (hbefore : isPlain before = true) (hafter : isPlain after = true) (hname : '}' ∉ name) :
    compilePattern (before ++ '{' :: (name ++ '}' :: after)) =
      .ok (before.map .lit ++ .segment :: after.map .lit, [name]) := by
  have hloop : ∀ pattern, compileLoop pattern (before ++ '{' :: (name ++ '}' :: after)) [] [] =
      .ok (before ++ (paramGroup ++ (after ++ [])), [name]) := by
    intro pattern
    rw [compileLoop_param (not_mem_of_plain hbefore) hname, compileLoop_of_not_mem (not_mem_of_plain hafter)]
    simp
  have hregex : regex (before ++ (paramGroup ++ (after ++ []))) =
      some (before.map .lit ++ .segment :: after.map .lit) := by
    rw [regex_append hbefore, regex_paramGroup, regex_append hafter]
    simp [regex]
  simp only [compilePattern, hloop, bind, Except.bind, hregex]
  rfl

theorem extractParams_nil (captures : List Str) : extractParams captures [] = ∅ := rfl

theorem extractParams_singleton (capture name : Str) :
    extractParams [capture] [name] = AList.singleton name capture := rfl

/-! ## Routing -/

structure Route (σ : Type) where
  method : Str
  pattern : List (Atom Char)
  paramNames : List Str
  handler : RouteHandler σ

structure Router (σ : Type) where
  routes : List (Route σ)

section
variable {σ : Type}

namespace Router

def empty : Router σ := ⟨[]⟩

/-- The common part of `get`, `post`, `put` and `delete_route`. -/
def addRoute (router : Router σ) (method pattern : Str) (handler : RouteHandler σ) :
    Except PatternError (Router σ) := do
  let (expression, paramNames) ← compilePattern pattern
  return ⟨router.routes ++ [⟨method, expression, paramNames, handler⟩]⟩

def get (router : Router σ) (pattern : Str) (handler : RouteHandler σ) :
    Except PatternError (Router σ) := router.addRoute "GET".toList pattern handler

def post (router : Router σ) (pattern : Str) (handler : RouteHandler σ) :
    Except PatternError (Router σ) := router.addRoute "POST".toList pattern handler

def put (router : Router σ) (pattern : Str) (handler : RouteHandler σ) :
    Except PatternError (Router σ) := router.addRoute "PUT".toList pattern handler

def deleteRoute (router : Router σ) (pattern : Str) (handler : RouteHandler σ) :
    Except PatternError (Router σ) := router.addRoute "DELETE".toList pattern handler

end Router

/-- Call the handler; a `std::exception` is answered, another exception leaves `route`. -/
def invoke (handler : RouteHandler σ) (request : HttpRequest) (response : HttpResponse) (s : σ) :
    Option Bool × HttpResponse × σ :=
  match handler request response s with
  | (.returned, response, s) => (some true, response, s)
  | (.stdException, _, s) => (some true, .setError internalServerError, s)
  | (.otherException, response, s) => (none, response, s)

/-- The loop of `route`. -/
def routeLoop (request : HttpRequest) (response : HttpResponse) (s : σ) :
    List (Route σ) → Option Bool × HttpResponse × σ
  | [] => (some false, .setError ⟨404, "Not found".toList⟩, s)
  | route :: routes =>
      if route.method ≠ request.method then routeLoop request response s routes
      else
        match matchAll '/' route.pattern request.path with
        | none => routeLoop request response s routes
        | some captures =>
            invoke route.handler { request with pathParams := extractParams captures route.paramNames }
              response s

/-- Dispatch a request; the first result is what `route` returns, unless an exception leaves it. -/
def Router.route (router : Router σ) (request : HttpRequest) (response : HttpResponse) (s : σ) :
    Option Bool × HttpResponse × σ := routeLoop request response s router.routes

/-! ## The route that is taken -/

/-- The groups of the match, if the route is one for the request. -/
def Route.captures (route : Route σ) (request : HttpRequest) : Option (List Str) :=
  if route.method = request.method then matchAll '/' route.pattern request.path else none

def Route.Matches (route : Route σ) (request : HttpRequest) : Prop :=
  (route.captures request).isSome

/-- What is done once a route has been found, or none. -/
def answer (request : HttpRequest) (response : HttpResponse) (s : σ) :
    Option (Route σ × List Str) → Option Bool × HttpResponse × σ
  | none => (some false, .setError ⟨404, "Not found".toList⟩, s)
  | some (route, captures) =>
      invoke route.handler { request with pathParams := extractParams captures route.paramNames }
        response s

/-- The request goes to the first route that matches. -/
theorem Router.route_eq (router : Router σ) (request : HttpRequest) (response : HttpResponse) (s : σ) :
    router.route request response s = answer request response s
      (router.routes.findSome? fun route => (route.captures request).map (route, ·)) := by
  rw [Router.route]
  induction router.routes with
  | nil => rfl
  | cons route routes ih =>
      rw [routeLoop, List.findSome?_cons, Route.captures]
      by_cases hmethod : route.method = request.method
      · rw [if_pos hmethod, if_neg (not_not_intro hmethod)]
        cases matchAll '/' route.pattern request.path with
        | none => exact ih
        | some captures => rfl
      · rw [if_neg hmethod, if_pos hmethod]
        exact ih

end

end Protogate.Api
