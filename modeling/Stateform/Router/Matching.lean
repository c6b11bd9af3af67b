import Stateform.Router.Router
import Stateform.Router.TrieRefinement

/-!
# What the router matches

A route accepts a request when its predicates hold and its path rule does, on
segment lists (`RouteConfig.Accepts`). `scanRequest` says what `match_request`
computes as scans of the route list, without tries; `matchRequest_eq_scan`
ties the built router to it. The results of the module are about which route
wins: a match accepts the request and nothing more specific was passed over
(`matchRequest_sound`), and a match is found whenever a route accepts, as long
as the first Exact route of the path is not turned down by its predicates
(`matchRequest_complete_iff`).
-/

namespace Stateform

open Library

/-! ## Segments -/

/-- The non-empty, lowercased segments of a path. -/
def segments (path : Str) : List Str := (words '/' path).map toAsciiLowercase

theorem collapseSlashes_true (path : Str) :
    collapseSlashes true path = normalisePath path := by
  unfold normalisePath
  induction path with
  | nil => rfl
  | cons c path ih =>
      by_cases hc : c = '/'
      · subst hc
        simpa [collapseSlashes] using ih
      · simp [collapseSlashes, hc]

/-- Up to the first slash the loop only lowers. -/
theorem collapseSlashes_append {w : Str} (hw : '/' ∉ w) (rest : Str) :
    collapseSlashes false (w ++ rest) = toAsciiLowercase w ++ collapseSlashes false rest := by
  induction w with
  | nil => rfl
  | cons c w ih =>
      have hc : c ≠ '/' := by
        rintro rfl
        exact hw List.mem_cons_self
      have hw' : '/' ∉ w := by
        intro h
        exact hw (List.mem_cons_of_mem _ h)
      simp [collapseSlashes, hc, ih hw', toAsciiLowercase]

theorem slash_notMem_lower {w : Str} (hw : '/' ∉ w) : '/' ∉ toAsciiLowercase w := by
  rwa [mem_toAsciiLowercase (by decide) (by decide)]

/-- A word without a slash, character by character. -/
theorem notSlash_of_mem {w : Str} (hw : '/' ∉ w) : ∀ x ∈ w, decide (x ≠ '/') = true := by
  intro x hx
  rw [decide_eq_true_eq]
  rintro rfl
  exact hw hx

theorem splitFirstSegment_block {w : Str} (hw : '/' ∉ w) (hne : w ≠ []) (rest : Str) :
    splitFirstSegment (w ++ '/' :: rest) = (w, rest) := by
  have hall := notSlash_of_mem hw
  rcases List.exists_cons_of_ne_nil hne with ⟨c, w', rfl⟩
  have hc : c ≠ '/' := by simpa using hall c List.mem_cons_self
  have htrim : ((c :: w') ++ '/' :: rest).dropWhile (fun x => decide (x = '/')) =
      (c :: w') ++ '/' :: rest := by
    simp [hc]
  simp only [splitFirstSegment, htrim]
  rw [List.takeWhile_append_of_pos hall, List.dropWhile_append_of_pos hall]
  simp

theorem splitFirstSegment_last {w : Str} (hw : '/' ∉ w) (hne : w ≠ []) :
    splitFirstSegment w = (w, []) := by
  have hall := notSlash_of_mem hw
  rcases List.exists_cons_of_ne_nil hne with ⟨c, w', rfl⟩
  have hc : c ≠ '/' := by simpa using hall c List.mem_cons_self
  have htrim : (c :: w').dropWhile (fun x => decide (x = '/')) = c :: w' := by simp [hc]
  simp only [splitFirstSegment, htrim]
  rw [List.takeWhile_eq_self_iff.mpr hall, List.dropWhile_eq_nil_iff.mpr hall]
  rfl

theorem normalisePath_slash (path : Str) : normalisePath ('/' :: path) = normalisePath path := by
  simp [normalisePath]

theorem normalisePath_of_ne_slash {c : Char} (hc : c ≠ '/') (path : Str) :
    normalisePath (c :: path) = collapseSlashes false (c :: path) := by
  simp [normalisePath, hc]

theorem lower_ne_nil {w : Str} (h : w ≠ []) : toAsciiLowercase w ≠ [] := by
  simpa [toAsciiLowercase] using h

/-- What `normalise_path` does, block by block: leading slashes go one by one, a block is
lowered, and one slash stays behind it if any follows. -/
theorem normalisePath_induction {P : Str → Str → Prop} (nil : P [] [])
    (slash : ∀ path, P path (normalisePath path) → P ('/' :: path) (normalisePath path))
    (last : ∀ w, '/' ∉ w → w ≠ [] → P w (toAsciiLowercase w))
    (block : ∀ w rest, '/' ∉ w → w ≠ [] → P rest (normalisePath rest) →
      P (w ++ '/' :: rest) (toAsciiLowercase w ++ '/' :: normalisePath rest))
    (path : Str) : P path (normalisePath path) := by
  induction hn : path.length using Nat.strongRecOn generalizing path with
  | ind n ih =>
    subst hn
    cases path with
    | nil => exact nil
    | cons c path =>
      by_cases hc : c = '/'
      · subst hc
        rw [normalisePath_slash]
        exact slash path (ih path.length (by simp) path rfl)
      have hw := sep_notMem_takeWhile '/' (c :: path)
      have hne : (c :: path).takeWhile (· ≠ '/') ≠ [] := by simp [hc]
      rw [normalisePath_of_ne_slash hc]
      rcases takeWhile_or_split '/' (c :: path) with hall | ⟨rest, hsplit, -⟩
      · rw [hall]
        generalize (c :: path).takeWhile (· ≠ '/') = w at hw hne
        have hcoll : collapseSlashes false w = toAsciiLowercase w := by
          simpa [collapseSlashes] using collapseSlashes_append hw []
        rw [hcoll]
        exact last w hw hne
      · have hlen : rest.length < (c :: path).length := by
          rw [hsplit]
          simp only [List.length_append, List.length_cons]
          omega
        rw [hsplit]
        generalize (c :: path).takeWhile (· ≠ '/') = w at hw hne
        have hcoll : collapseSlashes false (w ++ '/' :: rest) =
            toAsciiLowercase w ++ '/' :: normalisePath rest := by
          rw [collapseSlashes_append hw]
          simp [collapseSlashes, collapseSlashes_true]
        rw [hcoll]
        exact block w rest hw hne (ih _ hlen rest rfl)

/-- **Normalising and splitting step by step gives the segments.** -/
theorem pathSegments_normalisePath (path : Str) :
    pathSegments (normalisePath path) = segments path := by
  apply normalisePath_induction (P := fun path n => pathSegments n = segments path)
  · simp [segments]
  · intro path ih
    rw [ih]
    simp [segments]
  · intro w hw hne
    have hlow := lower_ne_nil hne
    rw [pathSegments_of_ne hlow, splitFirstSegment_last (slash_notMem_lower hw) hlow,
      pathSegments_nil, segments, words_of_notMem hw hne]
    rfl
  · intro w rest hw hne ih
    rw [pathSegments_of_ne (by simp),
      splitFirstSegment_block (slash_notMem_lower hw) (lower_ne_nil hne), ih]
    simp only [segments, words_append_sep_cons hw hne, List.map_cons]

/-- Normalising leaves the segments of a path as its words. -/
theorem words_normalisePath (path : Str) : words '/' (normalisePath path) = segments path := by
  apply normalisePath_induction (P := fun path n => words '/' n = segments path)
  · simp [segments]
  · intro path ih
    rw [ih]
    simp [segments]
  · intro w hw hne
    rw [segments, words_of_notMem hw hne,
      words_of_notMem (slash_notMem_lower hw) (lower_ne_nil hne)]
    rfl
  · intro w rest hw hne ih
    rw [words_append_sep_cons (slash_notMem_lower hw) (lower_ne_nil hne), ih, segments, segments,
      words_append_sep_cons hw hne, List.map_cons]

/-! ## Which routes accept a request -/

def RouteConfig.IsExact (route : RouteConfig) : Prop := ∃ value, route.match_.path = .exactPath value

def RouteConfig.IsPrefix (route : RouteConfig) : Prop :=
  ∃ value, route.match_.path = .prefixPath value

def RouteConfig.IsRegex (route : RouteConfig) : Prop :=
  ∃ pattern, route.match_.path = .regexPath pattern

/-- The path rule of a route, on the request's path. -/
def RouteConfig.PathRule (rx : RegexCrate) (route : RouteConfig) (path : Str) : Prop :=
  match route.match_.path with
  | .exactPath value => segments value = segments path
  | .prefixPath value => segments value <+: segments path
  | .regexPath pattern => rx.isMatch pattern path = true

/-- A route accepts a request. -/
structure RouteConfig.Accepts (rx : RegexCrate) (route : RouteConfig) (path method : Str)
    (headers : HeaderMap) : Prop where
  predicates : route.predicatesHold rx method headers = true
  pathRule : route.PathRule rx path

/-- The segment list an Exact route is declared with. -/
def RouteConfig.exactSegments (route : RouteConfig) : Option (List Str) :=
  match route.match_.path with
  | .exactPath value => some (segments value)
  | _ => none

/-- The segment list a Prefix route is declared with. -/
def RouteConfig.prefixSegments (route : RouteConfig) : Option (List Str) :=
  match route.match_.path with
  | .prefixPath value => some (segments value)
  | _ => none

/-- The entry a Regex route gets in `regex_routes`. -/
def RouteConfig.compiled (route : RouteConfig) : Option CompiledRoute :=
  match route.match_.path with
  | .regexPath pattern => some ⟨route, some pattern⟩
  | _ => none

/-! ## The built router reads as scans of the route list -/

/-- The items a list of routes puts into a trie. -/
def keyed (key : RouteConfig → Option (List Str)) (routes : List RouteConfig) :
    List (List Str × RouteConfig) :=
  routes.filterMap fun r => (key r).map fun p => (p, r)

theorem keyed_append (key : RouteConfig → Option (List Str)) (routes routes' : List RouteConfig) :
    keyed key (routes ++ routes') = keyed key routes ++ keyed key routes' := by
  simp [keyed]

/-- What a path holds, after the items of a route list were pushed. -/
theorem fill_keyed_apply (key : RouteConfig → Option (List Str)) (routes : List RouteConfig)
    (p : List Str) :
    PathMap.empty.fill (keyed key routes) p = routes.filter (fun r => key r = some p) := by
  rw [PathMap.fill_apply, PathMap.empty, List.nil_append]
  induction routes with
  | nil => rfl
  | cons r routes ih =>
      cases hkey : key r with
      | none => simpa [keyed, hkey] using ih
      | some q => by_cases hq : q = p <;> simpa [keyed, hkey, hq] using ih

theorem fill_append {m : PathMap Str RouteConfig} {items : List (List Str × RouteConfig)}
    {p : List Str} {r : RouteConfig} :
    m.fill (items ++ [(p, r)]) = (m.fill items).push p r := by
  simp [PathMap.fill]

/-- A router represents a list of routes. -/
structure Represents (router : Router) (routes : List RouteConfig) : Prop where
  exact_sorted : router.exactTrie.Sorted
  prefix_sorted : router.prefixTrie.Sorted
  exact_map : router.exactTrie.toPathMap =
    PathMap.empty.fill (keyed RouteConfig.exactSegments routes)
  prefix_map : router.prefixTrie.toPathMap =
    PathMap.empty.fill (keyed RouteConfig.prefixSegments routes)
  regex : router.regexRoutes = routes.filterMap RouteConfig.compiled

theorem represents_nil : Represents ⟨TrieNode.default, TrieNode.default, []⟩ [] where
  exact_sorted := TrieNode.sorted_default
  prefix_sorted := TrieNode.sorted_default
  exact_map := TrieNode.toPathMap_default
  prefix_map := TrieNode.toPathMap_default
  regex := rfl

theorem addRoute_represents {rx : RegexCrate} {router router' : Router} {routes : List RouteConfig}
    {route : RouteConfig} (h : Represents router routes)
    (hadd : Router.addRoute rx router route = .ok router') :
    Represents router' (routes ++ [route]) := by
  unfold Router.addRoute at hadd
  cases hpath : route.match_.path with
  | exactPath value =>
      obtain rfl : { router with exactTrie :=
          router.exactTrie.insertPrefix (normalisePath value) route } = router' := by
        simpa [hpath] using hadd
      refine ⟨h.exact_sorted.insertPrefix _ _, h.prefix_sorted, ?_, ?_, ?_⟩
      · rw [TrieNode.toPathMap_insertPrefix h.exact_sorted, h.exact_map,
          pathSegments_normalisePath, keyed_append]
        simp [keyed, RouteConfig.exactSegments, hpath, fill_append]
      · rw [h.prefix_map, keyed_append]
        simp [keyed, RouteConfig.prefixSegments, hpath]
      · simp [h.regex, RouteConfig.compiled, hpath]
  | prefixPath value =>
      obtain rfl : { router with prefixTrie :=
          router.prefixTrie.insertPrefix (normalisePath value) route } = router' := by
        simpa [hpath] using hadd
      refine ⟨h.exact_sorted, h.prefix_sorted.insertPrefix _ _, ?_, ?_, ?_⟩
      · rw [h.exact_map, keyed_append]
        simp [keyed, RouteConfig.exactSegments, hpath]
      · rw [TrieNode.toPathMap_insertPrefix h.prefix_sorted, h.prefix_map,
          pathSegments_normalisePath, keyed_append]
        simp [keyed, RouteConfig.prefixSegments, hpath, fill_append]
      · simp [h.regex, RouteConfig.compiled, hpath]
  | regexPath pattern =>
      cases hnew : rx.new pattern with
      | error e => simp [hpath, hnew] at hadd
      | ok u =>
          obtain rfl : { router with regexRoutes :=
              router.regexRoutes ++ [⟨route, some pattern⟩] } = router' := by
            simpa [hpath, hnew] using hadd
          refine ⟨h.exact_sorted, h.prefix_sorted, ?_, ?_, ?_⟩
          · rw [h.exact_map, keyed_append]
            simp [keyed, RouteConfig.exactSegments, hpath]
          · rw [h.prefix_map, keyed_append]
            simp [keyed, RouteConfig.prefixSegments, hpath]
          · simp [h.regex, RouteConfig.compiled, hpath]

/-- The loop of `build`, from any router that represents what came before. -/
theorem foldlM_represents {rx : RegexCrate} {routes : List RouteConfig} :
    ∀ {pre : List RouteConfig} {router router' : Router}, Represents router pre →
      routes.foldlM (Router.addRoute rx) router = .ok router' →
      Represents router' (pre ++ routes) := by
  induction routes with
  | nil =>
      intro pre router router' h hfold
      obtain rfl : router = router' := by simpa [pure, Except.pure] using hfold
      simpa using h
  | cons route routes ih =>
      intro pre router router' h hfold
      rw [List.foldlM_cons] at hfold
      cases hadd : Router.addRoute rx router route with
      | error e => simp [hadd, bind, Except.bind] at hfold
      | ok next =>
          have hnext := ih (addRoute_represents h hadd) (by simpa [hadd, bind, Except.bind] using hfold)
          simpa using hnext

theorem build_represents {rx : RegexCrate} {cfg : GatewayConfig} {router : Router}
    (h : Router.build rx cfg = .ok router) : Represents router cfg.routes := by
  simpa using foldlM_represents represents_nil h

/-! ## Matching as a scan -/

section
variable (rx : RegexCrate) (routes : List RouteConfig) (path method : Str) (headers : HeaderMap)

/-- The first Exact route declared with the request's segments. -/
def firstExact : Option RouteConfig :=
  routes.find? fun r => r.exactSegments = some (segments path)

/-- The Prefix routes along the request's segments, shortest prefix first. -/
def prefixesAlong : List RouteConfig :=
  PathMap.along (fun p => routes.filter fun r => r.prefixSegments = some p) (segments path)

/-- `match_request`, on the list of routes instead of the tries. -/
def scanRequest : Except RouterError MatchedRoute :=
  match (firstExact routes path).filter (fun r => r.predicatesHold rx method headers) with
  | some r => .ok (.new r)
  | none =>
      match (prefixesAlong routes path).reverse.find?
          (fun r => r.predicatesHold rx method headers) with
      | some r => .ok (.new r)
      | none =>
          match (routes.filterMap RouteConfig.compiled).findSome?
              (fun c => Router.matchCompiled rx c path method headers) with
          | some m => .ok m
          | none => .error (.noMatch path)

end

/-- **The router refines the scan.** -/
theorem matchRequest_eq_scan {rx : RegexCrate} {cfg : GatewayConfig} {router : Router}
    (hbuild : Router.build rx cfg = .ok router) (path method : Str) (headers : HeaderMap) :
    router.matchRequest rx path method headers = scanRequest rx cfg.routes path method headers := by
  have h := build_represents hbuild
  have hexact : router.exactTrie.findExact (normalisePath path) = firstExact cfg.routes path := by
    rw [TrieNode.findExact_eq h.exact_sorted, h.exact_map, pathSegments_normalisePath,
      fill_keyed_apply, List.head?_filter]
    rfl
  have hprefix : router.prefixTrie.collectPrefixMatches (normalisePath path) [] =
      prefixesAlong cfg.routes path := by
    rw [TrieNode.collectPrefixMatches_eq h.prefix_sorted, h.prefix_map,
      pathSegments_normalisePath, List.nil_append]
    unfold prefixesAlong
    congr 1
    funext p
    exact fill_keyed_apply _ _ _
  simp only [Router.matchRequest, Router.matchExact, Router.matchPrefix, scanRequest, hexact,
    hprefix, h.regex]
  cases firstExact cfg.routes path with
  | none =>
      simp only [Option.filter_none]
      cases (prefixesAlong cfg.routes path).reverse.find? _ <;> rfl
  | some r =>
      by_cases hp : r.predicatesHold rx method headers = true
      · simp [hp, Option.filter_some]
      · simp only [hp, Option.filter_some]
        cases (prefixesAlong cfg.routes path).reverse.find? _ <;> rfl

/-! ## Where a match comes from -/

section
variable {rx : RegexCrate} {routes : List RouteConfig} {path method : Str} {headers : HeaderMap}

theorem exactSegments_eq_some {route : RouteConfig} {p : List Str} :
    route.exactSegments = some p ↔ ∃ value, route.match_.path = .exactPath value ∧ segments value = p := by
  unfold RouteConfig.exactSegments
  cases route.match_.path <;> simp

theorem prefixSegments_eq_some {route : RouteConfig} {p : List Str} :
    route.prefixSegments = some p ↔
      ∃ value, route.match_.path = .prefixPath value ∧ segments value = p := by
  unfold RouteConfig.prefixSegments
  cases route.match_.path <;> simp

theorem compiled_eq_some {route : RouteConfig} {c : CompiledRoute} :
    route.compiled = some c ↔
      ∃ pattern, route.match_.path = .regexPath pattern ∧ c = ⟨route, some pattern⟩ := by
  unfold RouteConfig.compiled
  cases route.match_.path <;> simp [eq_comm]

theorem mem_prefixesAlong {route : RouteConfig} :
    route ∈ prefixesAlong routes path ↔
      route ∈ routes ∧ ∃ value, route.match_.path = .prefixPath value ∧
        segments value <+: segments path := by
  simp only [prefixesAlong, PathMap.mem_along, List.mem_filter, decide_eq_true_eq,
    prefixSegments_eq_some]
  constructor
  · rintro ⟨p, hp, hmem, value, hvalue, rfl⟩
    exact ⟨hmem, value, hvalue, hp⟩
  · rintro ⟨hmem, value, hvalue, hp⟩
    exact ⟨_, hp, hmem, value, hvalue, rfl⟩

/-- Going through `prefixesAlong`, the declared segment lists get longer. -/
theorem prefixesAlong_longest {ok : RouteConfig → Bool} {r r' : RouteConfig}
    (hr : (prefixesAlong routes path).reverse.find? ok = some r)
    (hr' : r' ∈ prefixesAlong routes path) (hok : ok r' = true) :
    (r'.prefixSegments.getD []).length ≤ (r.prefixSegments.getD []).length := by
  apply PathMap.find?_reverse_along_longest (fun r => r.prefixSegments.getD []) _ hr hr' hok
  intro p a ha
  have hp := of_decide_eq_true (List.mem_filter.mp ha).2
  show a.prefixSegments.getD [] = p
  rw [hp, Option.getD_some]

/-- What a successful round of stage 3 says. -/
theorem matchCompiled_eq_some {c : CompiledRoute} {m : MatchedRoute} :
    Router.matchCompiled rx c path method headers = some m ↔
      ∃ pattern params, c.regex = some pattern ∧ rx.captures pattern path = some params ∧
        c.route.predicatesHold rx method headers = true ∧ m = ⟨c.route, params⟩ := by
  unfold Router.matchCompiled
  cases hre : c.regex with
  | none => simp
  | some pattern =>
      cases hcap : rx.captures pattern path with
      | none => simp [hcap]
      | some params =>
          by_cases hp : c.route.predicatesHold rx method headers = true <;>
            simp [hcap, hp, eq_comm]

/-- Stage 3 goes through the routes themselves: those that are no Regex route
have no entry to try. -/
theorem findSome?_compiled {f : CompiledRoute → Option MatchedRoute} :
    (routes.filterMap RouteConfig.compiled).findSome? f =
      routes.findSome? fun r => r.compiled.bind f := by
  induction routes with
  | nil => rfl
  | cons r routes ih => cases hc : r.compiled <;> simp [hc, ih, List.findSome?_cons]

/-- A Regex route is matched in stage 3 exactly when it accepts. -/
theorem matchCompiled_isSome {route : RouteConfig} {c : CompiledRoute}
    (hc : route.compiled = some c) :
    (∃ m, Router.matchCompiled rx c path method headers = some m) ↔
      route.Accepts rx path method headers := by
  rcases compiled_eq_some.mp hc with ⟨pattern, hpath, rfl⟩
  constructor
  · rintro ⟨m, hm⟩
    rcases matchCompiled_eq_some.mp hm with ⟨pattern', params, hre, hcap, hpred, -⟩
    obtain rfl : pattern = pattern' := by simpa using hre
    exact ⟨hpred, by simp [RouteConfig.PathRule, hpath, RegexCrate.isMatch, hcap]⟩
  · rintro ⟨hpred, hrule⟩
    simp only [RouteConfig.PathRule, hpath, RegexCrate.isMatch] at hrule
    rcases Option.isSome_iff_exists.mp hrule with ⟨params, hcap⟩
    exact ⟨_, matchCompiled_eq_some.mpr ⟨pattern, params, rfl, hcap, hpred, rfl⟩⟩

/-- The three ways a scan can end, and what each has ruled out. -/
inductive ScanOutcome (rx : RegexCrate) (routes : List RouteConfig) (path method : Str)
    (headers : HeaderMap) : Except RouterError MatchedRoute → Prop where
  | exactStage {r : RouteConfig} : r ∈ routes → r.IsExact → r.Accepts rx path method headers →
      firstExact routes path = some r → ScanOutcome rx routes path method headers (.ok (.new r))
  | prefixStage {r : RouteConfig} : r ∈ routes → r.IsPrefix → r.Accepts rx path method headers →
      (∀ first, firstExact routes path = some first →
        first.predicatesHold rx method headers = false) →
      (∀ r' ∈ routes, r'.IsPrefix → r'.Accepts rx path method headers →
        (r'.prefixSegments.getD []).length ≤ (r.prefixSegments.getD []).length) →
      ScanOutcome rx routes path method headers (.ok (.new r))
  | regexStage {m : MatchedRoute} {pre post : List RouteConfig} :
      routes = pre ++ m.route :: post → m.route.IsRegex → m.route.Accepts rx path method headers →
      (∀ first, firstExact routes path = some first →
        first.predicatesHold rx method headers = false) →
      (∀ r' ∈ routes, r'.IsPrefix → ¬ r'.Accepts rx path method headers) →
      (∀ r' ∈ pre, r'.IsRegex → ¬ r'.Accepts rx path method headers) →
      ScanOutcome rx routes path method headers (.ok m)
  | noMatch : (∀ first, firstExact routes path = some first →
        first.predicatesHold rx method headers = false) →
      (∀ r ∈ routes, ¬ r.IsExact → ¬ r.Accepts rx path method headers) →
      ScanOutcome rx routes path method headers (.error (.noMatch path))

/-- What a scan finds is one of the routes. -/
theorem ScanOutcome.route_mem {m : MatchedRoute}
    (h : ScanOutcome rx routes path method headers (.ok m)) : m.route ∈ routes := by
  cases h with
  | exactStage hr _ _ _ => exact hr
  | prefixStage hr _ _ _ _ => exact hr
  | regexStage hsplit _ _ _ _ _ =>
      rw [hsplit]
      exact List.mem_append_right _ List.mem_cons_self

theorem accepts_of_isPrefix {route : RouteConfig} (h : route.IsPrefix) :
    route.Accepts rx path method headers ↔ route.predicatesHold rx method headers = true ∧
      ∃ value, route.match_.path = .prefixPath value ∧ segments value <+: segments path := by
  obtain ⟨value, hvalue⟩ := h
  constructor
  · rintro ⟨hpred, hrule⟩
    exact ⟨hpred, value, hvalue, by simpa [RouteConfig.PathRule, hvalue] using hrule⟩
  · rintro ⟨hpred, value', hvalue', hpre⟩
    obtain rfl : value = value' := by simpa [hvalue] using hvalue'
    exact ⟨hpred, by simpa [RouteConfig.PathRule, hvalue] using hpre⟩

theorem scanRequest_outcome :
    ScanOutcome rx routes path method headers (scanRequest rx routes path method headers) := by
  unfold scanRequest
  cases hfirst : (firstExact routes path).filter (fun r => r.predicatesHold rx method headers) with
  | some r =>
      rcases Option.filter_eq_some_iff.mp hfirst with ⟨hfound, hpred⟩
      obtain ⟨value, hvalue, hseg⟩ :=
        exactSegments_eq_some.mp (by simpa using List.find?_some hfound)
      exact .exactStage (List.mem_of_find?_eq_some hfound) ⟨value, hvalue⟩
        ⟨hpred, by simpa [RouteConfig.PathRule, hvalue] using hseg⟩ hfound
  | none =>
      have hexact : ∀ first, firstExact routes path = some first →
          first.predicatesHold rx method headers = false := by
        intro first h
        simpa [h] using hfirst
      cases hprefix : (prefixesAlong routes path).reverse.find?
          (fun r => r.predicatesHold rx method headers) with
      | some r =>
          have hmem := List.mem_reverse.mp (List.mem_of_find?_eq_some hprefix)
          rcases mem_prefixesAlong.mp hmem with ⟨hroutes, value, hvalue, hpre⟩
          have hpred : r.predicatesHold rx method headers = true := by
            simpa using List.find?_some hprefix
          refine .prefixStage hroutes ⟨value, hvalue⟩
            ((accepts_of_isPrefix ⟨value, hvalue⟩).mpr ⟨hpred, value, hvalue, hpre⟩) hexact ?_
          intro r' hr' hkind hacc
          rcases (accepts_of_isPrefix hkind).mp hacc with ⟨hpred', value', hvalue', hpre'⟩
          exact prefixesAlong_longest hprefix
            (mem_prefixesAlong.mpr ⟨hr', value', hvalue', hpre'⟩) hpred'
      | none =>
          have hnoPrefix : ∀ r' ∈ routes, r'.IsPrefix → ¬ r'.Accepts rx path method headers := by
            intro r' hr' hkind hacc
            rcases (accepts_of_isPrefix hkind).mp hacc with ⟨hpred', value', hvalue', hpre'⟩
            have hmem := mem_prefixesAlong.mpr ⟨hr', value', hvalue', hpre'⟩
            exact List.find?_eq_none.mp hprefix r' (List.mem_reverse.mpr hmem) hpred'
          cases hregex : (routes.filterMap RouteConfig.compiled).findSome?
              (fun c => Router.matchCompiled rx c path method headers) with
          | some m =>
              rw [findSome?_compiled, List.findSome?_eq_some_iff] at hregex
              obtain ⟨pre, r, post, hsplit, hm, hpre⟩ := hregex
              rcases Option.bind_eq_some_iff.mp hm with ⟨c, hc, hcm⟩
              rcases compiled_eq_some.mp hc with ⟨pattern, hpath, rfl⟩
              rcases matchCompiled_eq_some.mp hcm with ⟨_, params, _, _, _, rfl⟩
              refine .regexStage hsplit ⟨pattern, hpath⟩
                ((matchCompiled_isSome hc).mp ⟨_, hcm⟩) hexact hnoPrefix ?_
              rintro r' hr' ⟨pattern', hpath'⟩ hacc
              obtain ⟨m', hm'⟩ :=
                (matchCompiled_isSome (compiled_eq_some.mpr ⟨pattern', hpath', rfl⟩)).mpr hacc
              have := hpre r' hr'
              simp [RouteConfig.compiled, hpath', hm'] at this
          | none =>
              refine .noMatch hexact ?_
              intro r hr hkind hacc
              cases hpath : r.match_.path with
              | exactPath value => exact hkind ⟨value, hpath⟩
              | prefixPath value => exact hnoPrefix r hr ⟨value, hpath⟩ hacc
              | regexPath pattern =>
                  have hc : r.compiled = some ⟨r, some pattern⟩ := by
                    simp [RouteConfig.compiled, hpath]
                  rcases (matchCompiled_isSome hc).mpr hacc with ⟨m, hm⟩
                  have := List.findSome?_eq_none_iff.mp hregex _ (List.mem_filterMap.mpr ⟨r, hr, hc⟩)
                  rw [hm] at this
                  exact absurd this (by simp)

end

/-! ## Every config whose patterns compile has a router -/

theorem foldlM_addRoute_ok {rx : RegexCrate} {routes : List RouteConfig}
    (h : ∀ r ∈ routes, ∀ pattern, r.match_.path = .regexPath pattern → rx.new pattern = .ok ())
    (router : Router) : ∃ router', routes.foldlM (Router.addRoute rx) router = .ok router' := by
  induction routes generalizing router with
  | nil => exact ⟨router, rfl⟩
  | cons r routes ih =>
      obtain ⟨next, hnext⟩ : ∃ next, Router.addRoute rx router r = .ok next := by
        unfold Router.addRoute
        cases hpath : r.match_.path with
        | regexPath pattern => simp [h r List.mem_cons_self pattern hpath]
        | _ => exact ⟨_, rfl⟩
      rcases ih (fun x hx => h x (List.mem_cons_of_mem _ hx)) next with ⟨router', hrouter'⟩
      exact ⟨router', by simpa [List.foldlM_cons, hnext, bind, Except.bind] using hrouter'⟩

theorem build_ok {rx : RegexCrate} {cfg : GatewayConfig}
    (h : ∀ r ∈ cfg.routes, ∀ pattern, r.match_.path = .regexPath pattern →
      rx.new pattern = .ok ()) : ∃ router, Router.build rx cfg = .ok router :=
  foldlM_addRoute_ok h _

/-! ## No accepting route is missed -/

section
variable (rx : RegexCrate) (routes : List RouteConfig) (path method : Str) (headers : HeaderMap)

/-- `NoMatch` is answered only when no route accepts, and an Exact route that
accepts beats every other route. -/
def CompleteMatch (answer : Except RouterError MatchedRoute) : Prop :=
  (answer = .error (.noMatch path) ↔ ∀ r ∈ routes, ¬ r.Accepts rx path method headers) ∧
    ((∃ r ∈ routes, r.IsExact ∧ r.Accepts rx path method headers) →
      ∃ m, answer = .ok m ∧ m.route ∈ routes ∧ m.route.IsExact ∧
        m.route.Accepts rx path method headers)

/-- If an Exact route accepts the request, then so does the first one declared
with the request's segments: `find_exact` looks no further. -/
def FirstExactAccepts : Prop :=
  (∃ r ∈ routes, r.IsExact ∧ r.Accepts rx path method headers) →
    ∃ first, firstExact routes path = some first ∧ first.predicatesHold rx method headers = true

end

section
variable {rx : RegexCrate} {routes : List RouteConfig} {path method : Str} {headers : HeaderMap}

theorem not_isExact_of_isPrefix {r : RouteConfig} (h : r.IsPrefix) : ¬ r.IsExact := by
  rintro ⟨value, hvalue⟩
  obtain ⟨value', hvalue'⟩ := h
  simp [hvalue] at hvalue'

theorem not_isExact_of_isRegex {r : RouteConfig} (h : r.IsRegex) : ¬ r.IsExact := by
  rintro ⟨value, hvalue⟩
  obtain ⟨pattern, hpattern⟩ := h
  simp [hvalue] at hpattern

/-- Once the first Exact route was turned down, no Exact route may accept. -/
theorem no_exact_of_firstExactAccepts (h : FirstExactAccepts rx routes path method headers)
    (hfirst : ∀ first, firstExact routes path = some first →
      first.predicatesHold rx method headers = false) {r : RouteConfig} (hr : r ∈ routes)
    (hkind : r.IsExact) : ¬ r.Accepts rx path method headers := by
  intro hacc
  rcases h ⟨r, hr, hkind, hacc⟩ with ⟨first, hfound, hpred⟩
  simp [hfirst first hfound] at hpred

theorem completeMatch_scanRequest_iff :
    CompleteMatch rx routes path method headers (scanRequest rx routes path method headers) ↔
      FirstExactAccepts rx routes path method headers := by
  generalize hans : scanRequest rx routes path method headers = answer
  have hout : ScanOutcome rx routes path method headers answer := hans ▸ scanRequest_outcome
  constructor
  · rintro ⟨-, hexact⟩ hsome
    rcases hexact hsome with ⟨m, rfl, -, hkind, hacc⟩
    cases hout with
    | exactStage _ _ hacc' hfirst => exact ⟨_, hfirst, hacc'.predicates⟩
    | prefixStage _ hkind' => exact absurd hkind (not_isExact_of_isPrefix hkind')
    | regexStage _ hkind' => exact absurd hkind (not_isExact_of_isRegex hkind')
  · intro h
    cases hout with
    | @exactStage r hr hkind hacc hfirst =>
        refine ⟨⟨nofun, ?_⟩, ?_⟩
        · intro hnone
          exact absurd hacc (hnone r hr)
        · intro _
          exact ⟨_, rfl, hr, hkind, hacc⟩
    | @prefixStage r hr hkind hacc hfirst hlong =>
        refine ⟨⟨nofun, ?_⟩, ?_⟩
        · intro hnone
          exact absurd hacc (hnone r hr)
        · rintro ⟨r', hr', hkind', hacc'⟩
          exact absurd hacc' (no_exact_of_firstExactAccepts h hfirst hr' hkind')
    | @regexStage m pre post hsplit hkind hacc hfirst =>
        have hmem : m.route ∈ routes := by
          rw [hsplit]
          exact List.mem_append_right _ List.mem_cons_self
        refine ⟨⟨nofun, ?_⟩, ?_⟩
        · intro hnone
          exact absurd hacc (hnone m.route hmem)
        · rintro ⟨r', hr', hkind', hacc'⟩
          exact absurd hacc' (no_exact_of_firstExactAccepts h hfirst hr' hkind')
    | noMatch hfirst hrest =>
        have hnone : ∀ r ∈ routes, ¬ r.Accepts rx path method headers := by
          intro r hr
          by_cases hkind : r.IsExact
          · exact no_exact_of_firstExactAccepts h hfirst hr hkind
          · exact hrest r hr hkind
        refine ⟨⟨fun _ => hnone, fun _ => rfl⟩, ?_⟩
        rintro ⟨r, hr, -, hacc⟩
        exact absurd hacc (hnone r hr)

end

/-- **The built router misses no accepting route and prefers Exact routes,
exactly when the first Exact route of the request's path is not turned down
while a later one accepts.** -/
theorem matchRequest_complete_iff {rx : RegexCrate} {cfg : GatewayConfig} {router : Router}
    (hbuild : Router.build rx cfg = .ok router) (path method : Str) (headers : HeaderMap) :
    CompleteMatch rx cfg.routes path method headers
        (router.matchRequest rx path method headers) ↔
      FirstExactAccepts rx cfg.routes path method headers := by
  rw [matchRequest_eq_scan hbuild]
  exact completeMatch_scanRequest_iff

/-- Two Exact routes on one path, told apart by their method. -/
def usersConfig : GatewayConfig :=
  let get := RouteConfig.onPath "get-users".toList (.exactPath "/users".toList)
  let post := RouteConfig.onPath "post-users".toList (.exactPath "/users".toList)
  .withRoutes
    [{ get with match_ := { get.match_ with method := some "GET".toList } },
      { post with match_ := { post.match_ with method := some "POST".toList } }]

theorem usersConfig_build : ∃ router, Router.build .literal usersConfig = .ok router := by
  refine build_ok ?_
  simp [usersConfig, GatewayConfig.withRoutes, RouteConfig.onPath]

theorem matchRequest_complete_get :
    ∃ router, Router.build .literal usersConfig = .ok router ∧
      (CompleteMatch .literal usersConfig.routes "/users".toList "GET".toList .empty
          (router.matchRequest .literal "/users".toList "GET".toList .empty) ↔
        FirstExactAccepts .literal usersConfig.routes "/users".toList "GET".toList .empty) := by
  obtain ⟨router, hbuild⟩ := usersConfig_build
  exact ⟨router, hbuild, matchRequest_complete_iff hbuild _ _ _⟩

/-- `POST /users` is accepted by the second route, and is answered `NoMatch`. -/
theorem exact_post_not_matched :
    ∃ router, Router.build .literal usersConfig = .ok router ∧
      router.matchRequest .literal "/users".toList "POST".toList .empty =
        .error (.noMatch "/users".toList) ∧
      ¬ CompleteMatch .literal usersConfig.routes "/users".toList "POST".toList .empty
          (router.matchRequest .literal "/users".toList "POST".toList .empty) := by
  obtain ⟨router, hbuild⟩ := usersConfig_build
  have hscan : scanRequest .literal usersConfig.routes "/users".toList "POST".toList .empty =
      .error (.noMatch "/users".toList) := by decide
  refine ⟨router, hbuild, ?_, ?_⟩
  · rw [matchRequest_eq_scan hbuild, hscan]
  · rw [matchRequest_eq_scan hbuild, hscan]
    rintro ⟨hnone, -⟩
    obtain ⟨r, hr, hacc⟩ : ∃ r ∈ usersConfig.routes,
        r.Accepts .literal "/users".toList "POST".toList .empty :=
      ⟨_, List.mem_cons_of_mem _ List.mem_cons_self, by decide, rfl⟩
    exact hnone.mp rfl r hr hacc

/-! ## What a match says -/

/-- **A match accepts the request, and nothing more specific was passed over.**
A Prefix route is the longest that accepts; a Regex route is the first that
accepts, and no Prefix route does. -/
theorem matchRequest_sound {rx : RegexCrate} {cfg : GatewayConfig} {router : Router}
    (hbuild : Router.build rx cfg = .ok router) {path method : Str} {headers : HeaderMap}
    {m : MatchedRoute} (hm : router.matchRequest rx path method headers = .ok m) :
    m.route ∈ cfg.routes ∧ m.route.Accepts rx path method headers ∧
      (∀ value, m.route.match_.path = .prefixPath value →
        ∀ r ∈ cfg.routes, ∀ value', r.match_.path = .prefixPath value' →
          (segments value).length < (segments value').length →
            ¬ r.Accepts rx path method headers) ∧
      (m.route.IsRegex →
        (∀ r ∈ cfg.routes, r.IsPrefix → ¬ r.Accepts rx path method headers) ∧
          ∃ pre post, cfg.routes = pre ++ m.route :: post ∧
            ∀ r ∈ pre, r.IsRegex → ¬ r.Accepts rx path method headers) := by
  rw [matchRequest_eq_scan hbuild] at hm
  have hout : ScanOutcome rx cfg.routes path method headers (.ok m) := hm ▸ scanRequest_outcome
  have hmem : m.route ∈ cfg.routes := hout.route_mem
  cases hout with
  | exactStage hr hkind hacc =>
      obtain ⟨v, hv⟩ := hkind
      refine ⟨hr, hacc, ?_, ?_⟩
      · intro value hvalue
        simp [MatchedRoute.new, hv] at hvalue
      · rintro ⟨pattern, hpattern⟩
        simp [MatchedRoute.new, hv] at hpattern
  | prefixStage hr hkind hacc _ hlong =>
      obtain ⟨v, hv⟩ := hkind
      refine ⟨hr, hacc, ?_, ?_⟩
      · intro value hvalue r' hr' value' hvalue' hlt hacc'
        obtain rfl : v = value := by simpa [MatchedRoute.new, hv] using hvalue
        have := hlong r' hr' ⟨value', hvalue'⟩ hacc'
        simp only [RouteConfig.prefixSegments, hv, hvalue', Option.getD_some] at this
        omega
      · rintro ⟨pattern, hpattern⟩
        simp [MatchedRoute.new, hv] at hpattern
  | regexStage hsplit hkind hacc _ hnoPrefix hpre =>
      refine ⟨hmem, hacc, ?_, ?_⟩
      · intro value hvalue
        obtain ⟨pattern, hpattern⟩ := hkind
        rw [hvalue] at hpattern
        simp at hpattern
      · intro _
        exact ⟨hnoPrefix, _, _, hsplit, hpre⟩

-- A prefix ends at a segment boundary.
example : ¬ segments "/api".toList <+: segments "/apiary".toList := by decide

/-- Two nested prefixes. -/
def apiConfig : GatewayConfig :=
  .withRoutes [.onPath "api".toList (.prefixPath "/api".toList),
    .onPath "users".toList (.prefixPath "/api/Users/".toList)]

theorem matchRequest_sound_users :
    ∃ router m, Router.build .literal apiConfig = .ok router ∧
      router.matchRequest .literal "/api/users/123".toList "GET".toList .empty = .ok m ∧
      m.route.id = "users".toList ∧
      m.route.Accepts .literal "/api/users/123".toList "GET".toList .empty := by
  obtain ⟨router, hbuild⟩ : ∃ router, Router.build .literal apiConfig = .ok router := by
    refine build_ok ?_
    simp [apiConfig, GatewayConfig.withRoutes, RouteConfig.onPath]
  have hm : router.matchRequest .literal "/api/users/123".toList "GET".toList .empty =
      .ok (.new (.onPath "users".toList (.prefixPath "/api/Users/".toList))) := by
    rw [matchRequest_eq_scan hbuild]
    rfl
  exact ⟨router, _, hbuild, hm, rfl, (matchRequest_sound hbuild hm).2.1⟩

end Stateform
