import Stateform.Config.Schema

/-!
# Route predicates

`predicate.rs`: the method and header conditions of a route, checked on a live
request once a path rule has matched. Header patterns without metacharacters
are substring tests; the others are compiled, and one that does not compile
matches nothing.
-/

namespace Stateform

section
variable (rx : RegexCrate)

/-- `None` accepts every method. -/
def methodMatches (routeMethod : Option Str) (reqMethod : Str) : Bool :=
  match routeMethod with
  | none => true
  | some m => eqIgnoreAsciiCase m reqMethod

def isPlainString (s : Str) : Bool :=
  !s.any fun c => c ∈ ".*+?()[]\x7b\x7d^$|\\".toList

def valueMatches (value pattern : Str) : Bool :=
  if isPlainString pattern then contains value pattern
  else
    match rx.new pattern with
    | .ok () => rx.isMatch pattern value
    | .error _ => false

/-- The regex crate on patterns without metacharacters: each compiles, and it
matches the texts that contain it. -/
def RegexCrate.literal : RegexCrate where
  new := fun pattern => if isPlainString pattern then .ok () else .error "unsupported".toList
  captures := fun pattern text => if contains text pattern then some [] else none

/-- Every declared header is on the request, readable, and its value matches. -/
def headersMatch (routeHeaders : StrMap Str) (reqHeaders : HeaderMap) : Bool :=
  routeHeaders.entries.all fun e =>
    match reqHeaders.get e.1 with
    | none => false
    | some value =>
        match value.toStr with
        | none => false
        | some valueStr => valueMatches rx valueStr e.2

def matchesPredicates (routeMethod : Option Str) (routeHeaders : StrMap Str) (reqMethod : Str)
    (reqHeaders : HeaderMap) : Bool :=
  if !methodMatches routeMethod reqMethod then false
  else if !headersMatch rx routeHeaders reqHeaders then false
  else true

/-- The predicates of a route, as `match_request` passes them. -/
def RouteConfig.predicatesHold (route : RouteConfig) (method : Str) (headers : HeaderMap) : Bool :=
  matchesPredicates rx route.match_.method route.match_.headers method headers

end

end Stateform
