import Stateform.Router.Matching

/-!
# Declaration order and spelling

The routing rules are documented as evaluated top to bottom, but the candidates of the
prefix stage are tried in reverse: among the accepting routes under the longest prefix the
last one declared wins (`scanRequest_contested`). How a path is spelled does not matter to
the exact and the prefix stage, as they see its segments only (`same_route`).
-/

namespace Stateform

open Library

section
variable (rx : RegexCrate) (routes : List RouteConfig) (path method : Str) (headers : HeaderMap)

/-- The Prefix routes declared with these segments that accept the request, in the order of
their declaration. -/
def acceptedAt (segs : List Str) : List RouteConfig :=
  routes.filter fun r => r.prefixSegments = some segs ∧ segs <+: segments path ∧
    r.predicatesHold rx method headers = true

/-- Several Prefix routes with these segments accept the request, and neither an Exact route
nor a longer Prefix route does. -/
structure Contested (segs : List Str) : Prop where
  several : 2 ≤ (acceptedAt rx routes path method headers segs).length
  noExact : ∀ r ∈ routes, r.IsExact → ¬ r.Accepts rx path method headers
  noLonger : ∀ r ∈ routes, ∀ longer, r.prefixSegments = some longer →
    segs.length < longer.length → ¬ r.Accepts rx path method headers

/-- Wherever several Prefix routes compete, the answer is the one declared first. -/
def FirstDeclaredWins (answer : Except RouterError MatchedRoute) : Prop :=
  ∀ segs, Contested rx routes path method headers segs →
    ∃ m, answer = .ok m ∧ (acceptedAt rx routes path method headers segs).head? = some m.route

end

section
variable {rx : RegexCrate} {routes : List RouteConfig} {path method : Str} {headers : HeaderMap}
  {segs : List Str} {r : RouteConfig}

theorem accepts_of_prefixSegments (h : r.prefixSegments = some segs) :
    r.Accepts rx path method headers ↔
      segs <+: segments path ∧ r.predicatesHold rx method headers = true := by
  obtain ⟨value, hvalue, rfl⟩ := prefixSegments_eq_some.mp h
  rw [accepts_of_isPrefix ⟨value, hvalue⟩]
  simp [hvalue, and_comm]

theorem mem_acceptedAt : r ∈ acceptedAt rx routes path method headers segs ↔
    r ∈ routes ∧ r.prefixSegments = some segs ∧ r.Accepts rx path method headers := by
  rw [acceptedAt, List.mem_filter, decide_eq_true_eq]
  constructor
  · rintro ⟨hmem, hsegs, haccepts⟩
    exact ⟨hmem, hsegs, (accepts_of_prefixSegments hsegs).mpr haccepts⟩
  · rintro ⟨hmem, hsegs, haccepts⟩
    exact ⟨hmem, hsegs, (accepts_of_prefixSegments hsegs).mp haccepts⟩

/-- Where no Exact route accepts, the exact stage finds none. -/
theorem firstExact_none (h : ∀ r ∈ routes, r.IsExact → ¬ r.Accepts rx path method headers) :
    (firstExact routes path).filter (fun r => r.predicatesHold rx method headers) = none := by
  rw [Option.eq_none_iff_forall_ne_some]
  intro r hr
  obtain ⟨hfound, hpred⟩ := Option.filter_eq_some_iff.mp hr
  obtain ⟨value, hvalue, hsegs⟩ :=
    exactSegments_eq_some.mp (by simpa using List.find?_some hfound)
  exact h r (List.mem_of_find?_eq_some hfound) ⟨value, hvalue⟩
    ⟨hpred, by simpa [RouteConfig.PathRule, hvalue] using hsegs⟩

/-- The number of segments a Prefix route is declared with. -/
def RouteConfig.prefixLength (r : RouteConfig) : ℕ := (r.prefixSegments.getD []).length

theorem prefixLength_of_some (h : r.prefixSegments = some segs) : r.prefixLength = segs.length := by
  rw [RouteConfig.prefixLength, h, Option.getD_some]

/-- Along the path the routes of one length are those of one segment list. -/
theorem prefixesAlong_filter (h : segs <+: segments path) :
    (prefixesAlong routes path).filter (fun r => r.prefixLength = segs.length) =
      routes.filter fun r => r.prefixSegments = some segs := by
  have hlen : ∀ p r, r ∈ routes.filter (fun r => r.prefixSegments = some p) →
      r.prefixLength = p.length := by
    intro p r hr
    exact prefixLength_of_some (of_decide_eq_true (List.mem_filter.mp hr).2)
  rw [prefixesAlong, PathMap.filter_along hlen, if_pos h.length_le, ← List.prefix_iff_eq_take.mp h]

theorem prefixesAlong_pairwise (routes : List RouteConfig) (path : Str) :
    (prefixesAlong routes path).Pairwise fun a b => a.prefixLength ≤ b.prefixLength := by
  have hsegs : ∀ p r, r ∈ routes.filter (fun r => r.prefixSegments = some p) →
      r.prefixSegments.getD [] = p := by
    intro p r hr
    rw [of_decide_eq_true (List.mem_filter.mp hr).2, Option.getD_some]
  exact PathMap.pairwise_along hsegs _

/-- **The last one declared.** Where several Prefix routes compete, the answer is the one
declared last. -/
theorem scanRequest_contested (h : Contested rx routes path method headers segs) :
    ∃ r, (acceptedAt rx routes path method headers segs).getLast? = some r ∧
      scanRequest rx routes path method headers = .ok (.new r) := by
  have hne : acceptedAt rx routes path method headers segs ≠ [] := by
    intro hnil
    have hseveral := h.several
    rw [hnil] at hseveral
    cases hseveral
  obtain ⟨r₀, hr₀⟩ := List.exists_mem_of_ne_nil _ hne
  obtain ⟨hmem₀, hsegs₀, hacc₀⟩ := mem_acceptedAt.mp hr₀
  obtain ⟨hstarts, hpred₀⟩ := (accepts_of_prefixSegments hsegs₀).mp hacc₀
  have hlast : ((prefixesAlong routes path).filter
      fun r => r.predicatesHold rx method headers).getLast? =
        (acceptedAt rx routes path method headers segs).getLast? := by
    rw [getLast?_filter_greatest (n := segs.length) (prefixesAlong_pairwise routes path),
      prefixesAlong_filter hstarts, List.filter_filter, acceptedAt]
    · congr 1
      apply List.filter_congr
      intro r _
      simp [hstarts, Bool.and_comm]
    · intro r hr hpred
      obtain ⟨hmem, value, hvalue, hpre⟩ := mem_prefixesAlong.mp hr
      have hsegs := prefixSegments_eq_some.mpr ⟨value, hvalue, rfl⟩
      rw [prefixLength_of_some hsegs]
      by_contra hlonger
      exact h.noLonger r hmem _ hsegs (Nat.lt_of_not_le hlonger)
        ((accepts_of_prefixSegments hsegs).mpr ⟨hpre, hpred⟩)
    · obtain ⟨value, hvalue, rfl⟩ := prefixSegments_eq_some.mp hsegs₀
      exact ⟨r₀, mem_prefixesAlong.mpr ⟨hmem₀, value, hvalue, hstarts⟩, hpred₀,
        prefixLength_of_some hsegs₀⟩
  refine ⟨_, List.getLast?_eq_some_getLast hne, ?_⟩
  rw [List.getLast?_filter, List.getLast?_eq_some_getLast hne] at hlast
  rw [scanRequest, firstExact_none h.noExact]
  simp only [hlast]

end

/-- **Top to bottom?** The route declared first wins exactly where the first and the last of
the accepting routes in question are the same. -/
theorem first_declared_iff {rx : RegexCrate} {cfg : GatewayConfig} {router : Router}
    (hbuild : Router.build rx cfg = .ok router) (path method : Str) (headers : HeaderMap) :
    FirstDeclaredWins rx cfg.routes path method headers
        (router.matchRequest rx path method headers) ↔
      ∀ segs, Contested rx cfg.routes path method headers segs →
        (acceptedAt rx cfg.routes path method headers segs).head? =
          (acceptedAt rx cfg.routes path method headers segs).getLast? := by
  rw [matchRequest_eq_scan hbuild]
  constructor
  · intro h segs hcontested
    obtain ⟨m, hanswer, hfirst⟩ := h segs hcontested
    obtain ⟨r, hlast, hscan⟩ := scanRequest_contested hcontested
    obtain rfl := Except.ok.inj (hanswer.symm.trans hscan)
    rw [hfirst, hlast]
    rfl
  · intro h segs hcontested
    obtain ⟨r, hlast, hscan⟩ := scanRequest_contested hcontested
    exact ⟨.new r, hscan, (h segs hcontested).trans hlast⟩

/-- Two routes under one prefix that accept the same requests. -/
def twinConfig : GatewayConfig :=
  .withRoutes [.onPath "first".toList (.prefixPath "/api".toList),
    .onPath "second".toList (.prefixPath "/api".toList)]

theorem twinConfig_build : ∃ router, Router.build .literal twinConfig = .ok router := by
  refine build_ok ?_
  simp [twinConfig, GatewayConfig.withRoutes, RouteConfig.onPath]

theorem twinConfig_contested :
    Contested .literal twinConfig.routes "/api/users".toList "GET".toList .empty
      ["api".toList] where
  several := by decide
  noExact := by
    rintro r hr ⟨value, hvalue⟩
    simp only [twinConfig, GatewayConfig.withRoutes, List.mem_cons, List.not_mem_nil,
      or_false] at hr
    rcases hr with rfl | rfl <;> cases hvalue
  noLonger := by
    intro r hr longer hlonger hlt
    simp only [twinConfig, GatewayConfig.withRoutes, List.mem_cons, List.not_mem_nil,
      or_false] at hr
    rcases hr with rfl | rfl <;> cases hlonger <;> exact absurd hlt (by decide)

/-- `GET /api/users` is answered by the second of them. -/
theorem second_declared_wins :
    ∃ router, Router.build .literal twinConfig = .ok router ∧
      ¬ FirstDeclaredWins .literal twinConfig.routes "/api/users".toList "GET".toList .empty
          (router.matchRequest .literal "/api/users".toList "GET".toList .empty) := by
  obtain ⟨router, hbuild⟩ := twinConfig_build
  have hscan : scanRequest .literal twinConfig.routes "/api/users".toList "GET".toList .empty =
      .ok (.new (.onPath "second".toList (.prefixPath "/api".toList))) := rfl
  refine ⟨router, hbuild, ?_⟩
  rw [matchRequest_eq_scan hbuild, hscan]
  intro h
  obtain ⟨m, hanswer, hfirst⟩ := h _ twinConfig_contested
  obtain rfl := Except.ok.inj hanswer
  exact absurd hfirst (by decide)

/-- The two routes of `first_declared_iff` in that config differ, so the first does not win. -/
theorem first_declared_iff_twins :
    ∃ router, Router.build .literal twinConfig = .ok router ∧
      (FirstDeclaredWins .literal twinConfig.routes "/api/users".toList "GET".toList .empty
          (router.matchRequest .literal "/api/users".toList "GET".toList .empty) ↔
        ∀ segs, Contested .literal twinConfig.routes "/api/users".toList "GET".toList .empty segs →
          (acceptedAt .literal twinConfig.routes "/api/users".toList "GET".toList .empty
            segs).head? =
          (acceptedAt .literal twinConfig.routes "/api/users".toList "GET".toList .empty
            segs).getLast?) := by
  obtain ⟨router, hbuild⟩ := twinConfig_build
  exact ⟨router, hbuild, first_declared_iff hbuild _ _ _⟩

/-! ## Spellings of a path -/

/-- The last stage finds Regex routes only. -/
theorem isRegex_of_findSome? {rx : RegexCrate} {routes : List RouteConfig} {path method : Str}
    {headers : HeaderMap} {m : MatchedRoute}
    (h : (routes.filterMap RouteConfig.compiled).findSome?
      (fun c => Router.matchCompiled rx c path method headers) = some m) : m.route.IsRegex := by
  obtain ⟨c, hc, hm⟩ := List.exists_of_findSome?_eq_some h
  obtain ⟨r, -, hcompiled⟩ := List.mem_filterMap.mp hc
  obtain ⟨pattern, hpattern, rfl⟩ := compiled_eq_some.mp hcompiled
  obtain ⟨_, _, _, _, _, rfl⟩ := matchCompiled_eq_some.mp hm
  exact ⟨pattern, hpattern⟩

/-- **One route for all spellings.** Paths with the same segments are answered by the same
Exact or Prefix route. -/
theorem same_route {rx : RegexCrate} {cfg : GatewayConfig} {router : Router}
    (hbuild : Router.build rx cfg = .ok router) {path path' method : Str} {headers : HeaderMap}
    (hpaths : segments path = segments path') {m : MatchedRoute}
    (hm : router.matchRequest rx path method headers = .ok m)
    (hkind : m.route.IsExact ∨ m.route.IsPrefix) :
    router.matchRequest rx path' method headers = .ok m := by
  rw [matchRequest_eq_scan hbuild] at hm ⊢
  -- the first two stages see the segments only
  have hexact : firstExact cfg.routes path' = firstExact cfg.routes path := by
    rw [firstExact, firstExact, hpaths]
  have halong : prefixesAlong cfg.routes path' = prefixesAlong cfg.routes path := by
    rw [prefixesAlong, prefixesAlong, hpaths]
  unfold scanRequest at hm ⊢
  rw [hexact, halong]
  cases hfirst : (firstExact cfg.routes path).filter
      (fun r => r.predicatesHold rx method headers) with
  | some r => rwa [hfirst] at hm
  | none =>
      cases hsecond : (prefixesAlong cfg.routes path).reverse.find?
          (fun r => r.predicatesHold rx method headers) with
      | some r => rwa [hfirst, hsecond] at hm
      | none =>
          simp only [hfirst, hsecond] at hm
          split at hm
          · next hthird =>
              obtain rfl := Except.ok.inj hm
              obtain ⟨pattern, hpattern⟩ := isRegex_of_findSome? hthird
              rcases hkind with ⟨value, hvalue⟩ | ⟨value, hvalue⟩
              · cases hpattern.symm.trans hvalue
              · cases hpattern.symm.trans hvalue
          · cases hm

/-- Another spelling of a path does not escape its route. -/
theorem same_route_users :
    ∃ router m, Router.build .literal apiConfig = .ok router ∧
      m.route.id = "users".toList ∧
      router.matchRequest .literal "//API//Users/7/".toList "GET".toList .empty = .ok m := by
  obtain ⟨router, hbuild⟩ : ∃ router, Router.build .literal apiConfig = .ok router := by
    refine build_ok ?_
    simp [apiConfig, GatewayConfig.withRoutes, RouteConfig.onPath]
  have hm : router.matchRequest .literal "/api/users/7".toList "GET".toList .empty =
      .ok (.new (.onPath "users".toList (.prefixPath "/api/Users/".toList))) := by
    rw [matchRequest_eq_scan hbuild]
    rfl
  exact ⟨router, _, hbuild, rfl, same_route hbuild (by decide) hm (.inr ⟨_, rfl⟩)⟩

end Stateform
