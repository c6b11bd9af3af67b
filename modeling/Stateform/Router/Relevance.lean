import Stateform.Router.Order

/-!
# Edits elsewhere

What `match_request` reads of a config. It tries the routes in groups: the Exact routes of
the request's segments, the Prefix routes of each segment list on the way to them, and the
Regex routes. Of each group one route at most decides, and two configs that have the same
one in every group answer the request alike (`decided_by_candidates`): routes may be added,
taken out, changed and reordered around them.
-/

namespace Stateform

open Library

/-- What `match_request` finds a route in. -/
inductive RouteGroup : Type where
  | exactAt (segs : List Str)
  | prefixAt (segs : List Str)
  | regexes
deriving DecidableEq

section
variable (rx : RegexCrate) (routes : List RouteConfig) (path method : Str) (headers : HeaderMap)

/-- A Regex route that accepts the request. -/
def RouteConfig.regexAccepts (route : RouteConfig) : Bool :=
  match route.match_.path with
  | .regexPath pattern => rx.isMatch pattern path && route.predicatesHold rx method headers
  | _ => false

/-- The route that decides for its group: of the Exact routes the first one declared,
whether it accepts or not, of the Prefix routes the last one that accepts, of the Regex
routes the first one. -/
def candidate : RouteGroup → Option RouteConfig
  | .exactAt segs => routes.find? fun r => r.exactSegments = some segs
  | .prefixAt segs =>
      (routes.filter fun r => r.prefixSegments = some segs &&
        r.predicatesHold rx method headers).getLast?
  | .regexes => routes.find? fun r => r.regexAccepts rx path method headers

/-- The groups that lie on the way of the request. -/
def RouteGroup.OnTheWay : RouteGroup → Prop
  | .exactAt segs => segs = segments path
  | .prefixAt segs => segs <+: segments path
  | .regexes => True

end

section
variable {rx : RegexCrate} {routes : List RouteConfig} {path method : Str} {headers : HeaderMap}

/-- What the prefix stage finds is the last accepting route on the way. -/
theorem find?_prefixesAlong :
    (prefixesAlong routes path).reverse.find? (fun r => r.predicatesHold rx method headers) =
      (PathMap.along (fun p => routes.filter fun r => r.prefixSegments = some p &&
        r.predicatesHold rx method headers) (segments path)).getLast? := by
  rw [← List.getLast?_filter, prefixesAlong, PathMap.filter_along_each]
  congr 2
  funext p
  rw [List.filter_filter]
  apply List.filter_congr
  intro r _
  exact Bool.and_comm _ _

theorem regexAccepts_iff {r : RouteConfig} : r.regexAccepts rx path method headers = true ↔
    r.IsRegex ∧ r.Accepts rx path method headers := by
  unfold RouteConfig.regexAccepts RouteConfig.IsRegex
  cases hpath : r.match_.path with
  | exactPath value => simp
  | prefixPath value => simp
  | regexPath pattern =>
      rw [Bool.and_eq_true]
      constructor
      · rintro ⟨hmatch, hpred⟩
        exact ⟨⟨pattern, rfl⟩, hpred, by rwa [RouteConfig.PathRule, hpath]⟩
      · rintro ⟨-, hpred, hrule⟩
        rw [RouteConfig.PathRule, hpath] at hrule
        exact ⟨hrule, hpred⟩

/-- Stage 3 matches a Regex route exactly when it accepts. -/
theorem isSome_matchCompiled (r : RouteConfig) :
    (r.compiled.bind fun c => Router.matchCompiled rx c path method headers).isSome =
      r.regexAccepts rx path method headers := by
  unfold RouteConfig.compiled RouteConfig.regexAccepts Router.matchCompiled RegexCrate.isMatch
  cases r.match_.path with
  | exactPath value => rfl
  | prefixPath value => rfl
  | regexPath pattern =>
      simp only [Option.bind_some]
      cases rx.captures pattern path with
      | none => rfl
      | some params => cases r.predicatesHold rx method headers <;> rfl

/-- Stage 3 finds the first accepting Regex route. -/
theorem findSome?_matchCompiled :
    (routes.filterMap RouteConfig.compiled).findSome?
        (fun c => Router.matchCompiled rx c path method headers) =
      (candidate rx routes path method headers .regexes).bind fun r =>
        r.compiled.bind fun c => Router.matchCompiled rx c path method headers := by
  rw [findSome?_compiled, candidate]
  induction routes with
  | nil => rfl
  | cons r routes ih =>
      rw [List.findSome?_cons, List.find?_cons, ← isSome_matchCompiled r]
      cases hmatch : r.compiled.bind fun c => Router.matchCompiled rx c path method headers with
      | none => exact ih
      | some m =>
          simp only [Option.isSome_some, Option.bind_some]
          exact hmatch.symm

/-- The scan reads the deciding routes only. -/
theorem scanRequest_congr {routes' : List RouteConfig}
    (hsame : ∀ group : RouteGroup, group.OnTheWay path →
      candidate rx routes path method headers group =
        candidate rx routes' path method headers group) :
    scanRequest rx routes path method headers = scanRequest rx routes' path method headers := by
  have hexact : firstExact routes path = firstExact routes' path :=
    hsame (.exactAt (segments path)) rfl
  have hprefix : (prefixesAlong routes path).reverse.find?
        (fun r => r.predicatesHold rx method headers) =
      (prefixesAlong routes' path).reverse.find?
        (fun r => r.predicatesHold rx method headers) := by
    rw [find?_prefixesAlong, find?_prefixesAlong]
    exact PathMap.getLast?_along_congr fun segs hsegs => hsame (.prefixAt segs) hsegs
  have hregex : (routes.filterMap RouteConfig.compiled).findSome?
        (fun c => Router.matchCompiled rx c path method headers) =
      (routes'.filterMap RouteConfig.compiled).findSome?
        (fun c => Router.matchCompiled rx c path method headers) := by
    rw [findSome?_matchCompiled, findSome?_matchCompiled, hsame .regexes trivial]
  rw [scanRequest, scanRequest, hexact, hprefix, hregex]

/-- A route that does not accept the request decides for no group, unless it is an Exact
route of its segments. -/
theorem candidate_insert {r : RouteConfig} (before after : List RouteConfig)
    (hexact : r.exactSegments ≠ some (segments path))
    (haccepts : ¬ r.Accepts rx path method headers) {group : RouteGroup}
    (hway : group.OnTheWay path) :
    candidate rx (before ++ r :: after) path method headers group =
      candidate rx (before ++ after) path method headers group := by
  cases group with
  | exactAt segs =>
      obtain rfl : segs = segments path := hway
      simp [candidate, List.find?_append, hexact]
  | prefixAt segs =>
      have hout : (decide (r.prefixSegments = some segs) &&
          r.predicatesHold rx method headers) = false := by
        by_contra hin
        simp only [Bool.not_eq_false, Bool.and_eq_true, decide_eq_true_eq] at hin
        exact haccepts ((accepts_of_prefixSegments hin.1).mpr ⟨hway, hin.2⟩)
      simp only [candidate, List.filter_append, List.filter_cons, hout]
      rfl
  | regexes =>
      have hout : r.regexAccepts rx path method headers = false := by
        by_contra hin
        rw [Bool.not_eq_false, regexAccepts_iff] at hin
        exact haccepts hin.2
      simp [candidate, List.find?_append, hout]

end

/-- A route added anywhere does not change the answer to a request it does not accept,
unless it is an Exact route of the request's segments. -/
theorem matchRequest_insert {rx : RegexCrate} {cfg : GatewayConfig} {router router' : Router}
    {r : RouteConfig} {before after : List RouteConfig} {path method : Str} {headers : HeaderMap}
    (hbuild : Router.build rx { cfg with routes := before ++ after } = .ok router)
    (hbuild' : Router.build rx { cfg with routes := before ++ r :: after } = .ok router')
    (hexact : r.exactSegments ≠ some (segments path))
    (haccepts : ¬ r.Accepts rx path method headers) :
    router'.matchRequest rx path method headers = router.matchRequest rx path method headers := by
  rw [matchRequest_eq_scan hbuild, matchRequest_eq_scan hbuild']
  exact scanRequest_congr fun group hway => candidate_insert before after hexact haccepts hway

/-- **Edits elsewhere.** Two configs that have the same deciding route in every group on the
way of a request answer it alike. -/
theorem decided_by_candidates {rx : RegexCrate} {cfg cfg' : GatewayConfig}
    {router router' : Router} (hbuild : Router.build rx cfg = .ok router)
    (hbuild' : Router.build rx cfg' = .ok router') {path method : Str} {headers : HeaderMap}
    (hsame : ∀ group : RouteGroup, group.OnTheWay path →
      candidate rx cfg.routes path method headers group =
        candidate rx cfg'.routes path method headers group) :
    router.matchRequest rx path method headers = router'.matchRequest rx path method headers := by
  rw [matchRequest_eq_scan hbuild, matchRequest_eq_scan hbuild']
  exact scanRequest_congr hsame

/-- Without the first of the two routes, and with another one before the second. -/
def editedConfig : GatewayConfig :=
  .withRoutes [.onPath "health".toList (.exactPath "/health".toList),
    .onPath "second".toList (.prefixPath "/api".toList)]

/-- `GET /api/users` is answered as before. -/
theorem decided_by_candidates_edited :
    ∃ router router', Router.build .literal twinConfig = .ok router ∧
      Router.build .literal editedConfig = .ok router' ∧
      router.matchRequest .literal "/api/users".toList "GET".toList .empty =
        router'.matchRequest .literal "/api/users".toList "GET".toList .empty := by
  obtain ⟨router, hbuild⟩ := twinConfig_build
  obtain ⟨router', hbuild'⟩ : ∃ router, Router.build .literal editedConfig = .ok router := by
    refine build_ok ?_
    simp [editedConfig, GatewayConfig.withRoutes, RouteConfig.onPath]
  refine ⟨router, router', hbuild, hbuild', decided_by_candidates hbuild hbuild' ?_⟩
  rintro (segs | segs | _) hway
  · obtain rfl : segs = segments "/api/users".toList := hway
    rfl
  · have hinits := (List.mem_inits _ _).mpr hway
    have hlist : (segments "/api/users".toList).inits =
        [[], ["api".toList], ["api".toList, "users".toList]] := by decide
    rw [hlist] at hinits
    simp only [List.mem_cons, List.not_mem_nil, or_false] at hinits
    rcases hinits with rfl | rfl | rfl <;> rfl
  · rfl

end Stateform
