import Stateform.Router.Predicate
import Stateform.Router.Trie

/-!
# The router

`router.rs`: building the matching engine of a config and matching a request
in three stages (exact, prefix, regex).
-/

namespace Stateform

inductive RouterError : Type where
  | noMatch (path : Str)
  | invalidRegex (pattern : Str) (source : Str)
deriving DecidableEq

/-- `Display`. -/
def RouterError.toText : RouterError → Str
  | .noMatch path => "no route matched: ".toList ++ path
  | .invalidRegex pattern source =>
      "invalid regex pattern `".toList ++ pattern ++ "`: ".toList ++ source

structure MatchedRoute : Type where
  route : RouteConfig
  pathParams : List (Str × Str)
deriving DecidableEq

/-- `MatchedRoute::new`. -/
def MatchedRoute.new (route : RouteConfig) : MatchedRoute := ⟨route, []⟩

/-- A regex route; `regex` is the pattern that compiled. -/
structure CompiledRoute : Type where
  route : RouteConfig
  regex : Option Str

structure Router : Type where
  exactTrie : TrieNode
  prefixTrie : TrieNode
  regexRoutes : List CompiledRoute

/-- The loop of `normalise_path`, from a given `last_was_slash`. -/
def collapseSlashes : Bool → Str → Str
  | _, [] => []
  | lastWasSlash, ch :: rest =>
      if ch = '/' then
        if lastWasSlash then collapseSlashes true rest else ch :: collapseSlashes true rest
      else ch.toLower :: collapseSlashes false rest

/-- Strip leading slashes, lowercase, collapse runs of slashes. -/
def normalisePath (path : Str) : Str :=
  collapseSlashes false (path.dropWhile (· = '/'))

namespace Router

variable (rx : RegexCrate)

/-- One round of the loop of `Router::build`. -/
def addRoute (router : Router) (route : RouteConfig) : Except RouterError Router :=
  match route.match_.path with
  | .exactPath value =>
      .ok { router with exactTrie := router.exactTrie.insertPrefix (normalisePath value) route }
  | .prefixPath value =>
      .ok { router with prefixTrie := router.prefixTrie.insertPrefix (normalisePath value) route }
  | .regexPath pattern =>
      match rx.new pattern with
      | .ok () => .ok { router with regexRoutes := router.regexRoutes ++ [⟨route, some pattern⟩] }
      | .error e => .error (.invalidRegex pattern e)

/-- `Router::build`. -/
def build (cfg : GatewayConfig) : Except RouterError Router :=
  cfg.routes.foldlM (addRoute rx) ⟨TrieNode.default, TrieNode.default, []⟩

/-- Stage 1: the route the exact trie holds at the path, if its predicates hold. -/
def matchExact (router : Router) (normalised method : Str) (headers : HeaderMap) :
    Option MatchedRoute :=
  match router.exactTrie.findExact normalised with
  | some route => if route.predicatesHold rx method headers then some (.new route) else none
  | none => none

/-- Stage 2: the candidates of the prefix trie, longest first. -/
def matchPrefix (router : Router) (normalised method : Str) (headers : HeaderMap) :
    Option MatchedRoute :=
  let candidates := (router.prefixTrie.collectPrefixMatches normalised []).reverse
  (candidates.find? (fun route => route.predicatesHold rx method headers)).map .new

/-- One round of stage 3. -/
def matchCompiled (compiled : CompiledRoute) (path method : Str) (headers : HeaderMap) :
    Option MatchedRoute :=
  match compiled.regex with
  | none => none
  | some pattern =>
      match rx.captures pattern path with
      | none => none
      | some params =>
          if compiled.route.predicatesHold rx method headers then some ⟨compiled.route, params⟩
          else none

/-- `Router::match_request`. -/
def matchRequest (router : Router) (path method : Str) (headers : HeaderMap) :
    Except RouterError MatchedRoute :=
  let normalised := normalisePath path
  match router.matchExact rx normalised method headers with
  | some m => .ok m
  | none =>
      match router.matchPrefix rx normalised method headers with
      | some m => .ok m
      | none =>
          match router.regexRoutes.findSome? (fun c => matchCompiled rx c path method headers) with
          | some m => .ok m
          | none => .error (.noMatch path)

end Router

end Stateform
