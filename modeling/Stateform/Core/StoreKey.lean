import Stateform.Cache.Directives
import Stateform.Core.Server

/-!
# What `handle` stores, and under which key

The store step of `handle` has the response's headers in the place of the
request's, and does not look at what made the lookup a bypass. So the key of a
response is its request's own exactly where its headers repeat the request's
(`store_keys_iff`), and a request that bypasses the cache is still stored unless
its response or its route forbid it (`bypass_untouched_iff`).
-/

namespace Stateform

open Library

section
variable {rx : RegexCrate} {uc : UriCrate} {pl : Pipeline} {env : HandleEnv} {req : Request}
  {h : Handled} {route : RouteConfig} {resp : Response}

/-! ## The store step -/

/-- A forwarded request leaves its route's store step on what its lookup left. -/
theorem handle_forwarded (hrun : (pl.handle rx uc env req).1 = .ok h)
    (hexit : h.exit = .forwarded resp) (hroute : h.route = some route) :
    (pl.handle rx uc env req).2.cache =
      (pl.cache.lookup env.lookup (cacheRequest route req)).2.store env.store
        (cacheExchange route req resp) := by
  have hout := Pipeline.handle_outcome rx uc pl env req
  rw [hrun] at hout
  generalize (pl.handle rx uc env req).2 = left at hout
  cases hout with
  | forwarded hadm hexit' =>
      cases hexit.symm.trans hexit'
      cases hroute.symm.trans hadm.route_eq
      rfl
  | noRoute hexit' => cases hexit.symm.trans hexit'
  | refused hexit' => cases hexit.symm.trans hexit'
  | authFailed hexit' => cases hexit.symm.trans hexit'
  | rateLimited _ hexit' => cases hexit.symm.trans hexit'
  | cacheHit _ _ hexit' => cases hexit.symm.trans hexit'
  | upstreamMissing _ hexit' => cases hexit.symm.trans hexit'
  | upstreamFailed _ hexit' => cases hexit.symm.trans hexit'

/-- A run of `handle` that forwards the request on this route and stores the response
under this key. -/
structure StoredUnder (rx : RegexCrate) (uc : UriCrate) (pl : Pipeline) (env : HandleEnv)
    (req : Request) (route : RouteConfig) (resp : Response) (key : CacheKey) : Prop where
  answered : ∃ h, (pl.handle rx uc env req).1 = .ok h ∧ h.exit = .forwarded resp ∧
    h.route = some route
  written : ∃ w, (cacheExchange route req resp).written env.store.now = some w ∧ w.key = key

variable {key : CacheKey}

/-- The response is then in the cache, under that key. -/
theorem StoredUnder.lookup (hstored : StoredUnder rx uc pl env req route resp key) :
    ∃ entry, (pl.handle rx uc env req).2.cache.l1.store.lookup key.text = some entry ∧
      entry.status = resp.status ∧ entry.body = resp.body := by
  obtain ⟨h, hrun, hexit, hroute⟩ := hstored.answered
  obtain ⟨w, hw, rfl⟩ := hstored.written
  rw [handle_forwarded hrun hexit hroute, ResponseCache.store_of_written _ hw]
  refine ⟨w.entry, L1Cache.putThrough_lookup_self, ?_⟩
  obtain ⟨cfg, ttl, names, -, -, -, -, -, -, rfl⟩ := written_eq_some.mp hw
  exact ⟨rfl, rfl⟩

theorem StoredUnder.key_eq (hstored : StoredUnder rx uc pl env req route resp key)
    {names : List Str} (hvary : parseVary resp.headers = some names) :
    key = (cacheRequest route req).baseKey.withVary names resp.headers := by
  obtain ⟨w, hw, rfl⟩ := hstored.written
  obtain ⟨cfg, ttl, names', -, -, -, -, -, hvary', rfl⟩ := written_eq_some.mp hw
  cases hvary.symm.trans hvary'
  rfl

end

/-! ## The texts of keys -/

theorem CacheKey.withVary_text (key : CacheKey) (names : List Str) (headers : HeaderMap) :
    (key.withVary names headers).text = key.text ++ varySuffix names headers := by
  unfold CacheKey.withVary
  cases names with
  | nil => exact (List.append_nil _).symm
  | cons name names => rfl

theorem withVary_inj {key : CacheKey} {names names' : List Str} {headers headers' : HeaderMap} :
    key.withVary names headers = key.withVary names' headers' ↔
      CacheKey.varySuffix names headers = CacheKey.varySuffix names' headers' := by
  rw [CacheKey.ext_iff, CacheKey.withVary_text, CacheKey.withVary_text, List.append_cancel_left_eq]

theorem notMem_toAsciiUppercase {s : Str} (h : ':' ∉ s) : ':' ∉ toAsciiUppercase s := by
  intro hmem
  obtain ⟨c, hc, hup⟩ := List.mem_map.mp hmem
  have halpha : c.isAlpha = false := by
    rw [← Char.isAlpha_toUpper_eq_isAlpha, hup]
    rfl
  have hlower : ¬ c.isLower := by
    simp only [Char.isAlpha, Bool.or_eq_false_iff] at halpha
    simp [halpha.2]
  rw [Char.toUpper_eq_of_not_isLower hlower] at hup
  rw [hup] at hc
  exact h hc

/-- A text is what stands before its first separator, and what stands after it. -/
theorem append_separator_inj {c : Char} {m m' rest rest' : Str} (hm : c ∉ m) (hm' : c ∉ m')
    (h : m ++ c :: rest = m' ++ c :: rest') : m = m' ∧ rest = rest' := by
  induction m generalizing m' with
  | nil =>
      cases m' with
      | nil => exact ⟨rfl, (List.cons.inj h).2⟩
      | cons d m' =>
          obtain rfl := (List.cons.inj h).1
          exact absurd List.mem_cons_self hm'
  | cons d m ih =>
      cases m' with
      | nil =>
          obtain rfl := (List.cons.inj h).1
          exact absurd List.mem_cons_self hm
      | cons d' m' =>
          obtain ⟨rfl, htail⟩ := List.cons.inj h
          obtain ⟨rfl, hrest⟩ := ih (List.not_mem_of_not_mem_cons hm)
            (List.not_mem_of_not_mem_cons hm') htail
          exact ⟨rfl, hrest⟩

/-- Method tokens have no separator, so keys of one route, path and query show the
method. -/
theorem withVary_eq_iff {q₁ q₂ : CacheRequest} {names : List Str} {headers₁ headers₂ : HeaderMap}
    (hroute : q₁.routeId = q₂.routeId) (hpath : q₁.path = q₂.path) (hquery : q₁.query = q₂.query)
    (htoken₁ : ':' ∉ q₁.method) (htoken₂ : ':' ∉ q₂.method) :
    q₁.baseKey.withVary names headers₁ = q₂.baseKey.withVary names headers₂ ↔
      toAsciiUppercase q₁.method = toAsciiUppercase q₂.method ∧
        CacheKey.varySuffix names headers₁ = CacheKey.varySuffix names headers₂ := by
  rw [CacheKey.ext_iff, CacheKey.withVary_text, CacheKey.withVary_text]
  unfold CacheRequest.baseKey CacheKey.new
  simp only [List.append_assoc, List.cons_append, hroute, hpath, hquery, List.append_cancel_left_eq]
  constructor
  · intro heq
    obtain ⟨hmethod, hrest⟩ := append_separator_inj (notMem_toAsciiUppercase htoken₁)
      (notMem_toAsciiUppercase htoken₂) heq
    simp only [List.append_cancel_left_eq, List.cons.injEq, true_and] at hrest
    exact ⟨hmethod, hrest⟩
  · rintro ⟨hmethod, hsuffix⟩
    rw [hmethod, hsuffix]

/-! ## One key for each variant -/

/-- Some header of the list has other values in the one request than in the other. -/
def Differ (names : List Str) (q₁ q₂ : Request) : Prop :=
  ∃ name ∈ names, q₁.headers.getAll name ≠ q₂.headers.getAll name

/-- The key that a lookup of the request looks under, once it knows the list. -/
def ownKey (route : RouteConfig) (req : Request) (names : List Str) : CacheKey :=
  (cacheRequest route req).baseKey.withVary names req.headers

/-- **When variants are kept apart.** Two requests for one route, path and query are
answered by responses with one Vary list, and both responses are stored. Each is stored
under its request's own key, and variants under different ones, exactly if each response
spells out under the names of the list what its request does, and requests that differ
are told apart by their methods or by what they spell out. -/
theorem store_keys_iff {rx : RegexCrate} {uc : UriCrate} {pl₁ pl₂ : Pipeline}
    {env₁ env₂ : HandleEnv} {q₁ q₂ : Request} {route : RouteConfig} {r₁ r₂ : Response}
    {key₁ key₂ : CacheKey} {names : List Str}
    (hstored₁ : StoredUnder rx uc pl₁ env₁ q₁ route r₁ key₁)
    (hstored₂ : StoredUnder rx uc pl₂ env₂ q₂ route r₂ key₂)
    (hpath : q₁.uri.path = q₂.uri.path) (hquery : q₁.uri.query = q₂.uri.query)
    (hvary₁ : parseVary r₁.headers = some names) (hvary₂ : parseVary r₂.headers = some names)
    (htoken₁ : ':' ∉ q₁.method) (htoken₂ : ':' ∉ q₂.method) :
    (key₁ = ownKey route q₁ names ∧ key₂ = ownKey route q₂ names ∧
        (Differ names q₁ q₂ → key₁ ≠ key₂)) ↔
      (CacheKey.varySuffix names r₁.headers = CacheKey.varySuffix names q₁.headers ∧
        CacheKey.varySuffix names r₂.headers = CacheKey.varySuffix names q₂.headers ∧
        (Differ names q₁ q₂ → toAsciiUppercase q₁.method ≠ toAsciiUppercase q₂.method ∨
          CacheKey.varySuffix names q₁.headers ≠ CacheKey.varySuffix names q₂.headers)) := by
  have hown₁ : key₁ = ownKey route q₁ names ↔
      CacheKey.varySuffix names r₁.headers = CacheKey.varySuffix names q₁.headers := by
    rw [hstored₁.key_eq hvary₁]
    exact withVary_inj
  have hown₂ : key₂ = ownKey route q₂ names ↔
      CacheKey.varySuffix names r₂.headers = CacheKey.varySuffix names q₂.headers := by
    rw [hstored₂.key_eq hvary₂]
    exact withVary_inj
  rw [← hown₁, ← hown₂]
  apply and_congr_right
  intro hkey₁
  apply and_congr_right
  intro hkey₂
  have hsame : key₁ = key₂ ↔ toAsciiUppercase q₁.method = toAsciiUppercase q₂.method ∧
      CacheKey.varySuffix names q₁.headers = CacheKey.varySuffix names q₂.headers := by
    rw [hkey₁, hkey₂]
    exact withVary_eq_iff rfl hpath hquery htoken₁ htoken₂
  rw [Ne, hsame, not_and_or]

/-! ## A route with a cache -/

def cachedRoute : RouteConfig :=
  { RouteConfig.onPath "users".toList (.exactPath "/users".toList) with
    middleware := ⟨none, none, some ⟨60, false⟩⟩ }

def cachedConfig : GatewayConfig := .withRoutes [cachedRoute]

/-- `GET /users`, accepting this. -/
def acceptRequest (value : Str) : Request := .get "/users".toList (acceptHeader value)

/-- A response that varies on `Accept`, and has these headers too. -/
def acceptResponse (headers : HeaderMap) : Response where
  status := 200
  headers := ⟨(varyHeader "Accept".toList).fields ++ headers.fields⟩
  body := []

/-- The pipeline of that config, before any request. -/
theorem cachedConfig_build : ∃ router, Router.build .literal cachedConfig = .ok router :=
  (validate_eq_ok_iff.mp (by decide : validate .literal cachedConfig = .ok ())).build

theorem accept_forwarded {router : Router}
    (hrouter : Router.build .literal cachedConfig = .ok router) (value : Str) (resp : Response) :
    ∃ h, ((GatewayServer.initialPipeline cachedConfig router).handle .literal .plain
        (.answering resp) (acceptRequest value)).1 = .ok h ∧
      h.exit = .forwarded resp ∧ h.route = some cachedRoute := by
  rw [Pipeline.handle_eq_handleMatched hrouter rfl]
  exact ⟨_, rfl, rfl, rfl⟩

/-- `text` and `json` variants, and one key: the responses do not repeat what was
accepted. -/
theorem variants_collide :
    ¬ ∀ (rx : RegexCrate) (uc : UriCrate) (pl₁ pl₂ : Pipeline) (env₁ env₂ : HandleEnv)
      (q₁ q₂ : Request) (route : RouteConfig) (r₁ r₂ : Response) (key₁ key₂ : CacheKey)
      (names : List Str),
        StoredUnder rx uc pl₁ env₁ q₁ route r₁ key₁ →
        StoredUnder rx uc pl₂ env₂ q₂ route r₂ key₂ →
        q₁.uri.path = q₂.uri.path → q₁.uri.query = q₂.uri.query →
        parseVary r₁.headers = some names → parseVary r₂.headers = some names →
          key₁ = ownKey route q₁ names ∧ key₂ = ownKey route q₂ names ∧
            (Differ names q₁ q₂ → key₁ ≠ key₂) := by
  intro h
  obtain ⟨router, hrouter⟩ := cachedConfig_build
  let key : CacheKey := ⟨"stateform:cache:GET:users:/users:accept=".toList⟩
  have hstored : ∀ value, StoredUnder .literal .plain
      (GatewayServer.initialPipeline cachedConfig router) (.answering (acceptResponse .empty))
      (acceptRequest value) cachedRoute (acceptResponse .empty) key := fun value =>
    ⟨accept_forwarded hrouter value _, _, rfl, rfl⟩
  have hkeys := h _ _ _ _ _ _ _ _ _ _ _ _ _ ["accept".toList] (hstored "text".toList)
    (hstored "json".toList) rfl rfl rfl rfl
  have hdiffer : Differ ["accept".toList] (acceptRequest "text".toList)
      (acceptRequest "json".toList) := ⟨_, List.mem_cons_self, by decide⟩
  exact hkeys.2.2 hdiffer rfl

/-- Responses that repeat it are kept apart. -/
theorem store_keys_iff_repeated :
    ∃ (pl : Pipeline) (env₁ env₂ : HandleEnv) (key₁ key₂ : CacheKey),
      StoredUnder .literal .plain pl env₁ (acceptRequest "text".toList) cachedRoute
        (acceptResponse (acceptHeader "text".toList)) key₁ ∧
      StoredUnder .literal .plain pl env₂ (acceptRequest "json".toList) cachedRoute
        (acceptResponse (acceptHeader "json".toList)) key₂ ∧ key₁ ≠ key₂ := by
  obtain ⟨router, hrouter⟩ := cachedConfig_build
  have htext : StoredUnder .literal .plain (GatewayServer.initialPipeline cachedConfig router)
      (.answering (acceptResponse (acceptHeader "text".toList))) (acceptRequest "text".toList)
      cachedRoute (acceptResponse (acceptHeader "text".toList))
      ⟨"stateform:cache:GET:users:/users:accept=text".toList⟩ :=
    ⟨accept_forwarded hrouter _ _, _, rfl, rfl⟩
  have hjson : StoredUnder .literal .plain (GatewayServer.initialPipeline cachedConfig router)
      (.answering (acceptResponse (acceptHeader "json".toList))) (acceptRequest "json".toList)
      cachedRoute (acceptResponse (acceptHeader "json".toList))
      ⟨"stateform:cache:GET:users:/users:accept=json".toList⟩ :=
    ⟨accept_forwarded hrouter _ _, _, rfl, rfl⟩
  have hvary : ∀ headers : HeaderMap,
      parseVary (acceptResponse headers).headers = some ["accept".toList] := fun _ => rfl
  have hkeys := (store_keys_iff htext hjson rfl rfl (hvary _) (hvary _)
    (by decide) (by decide)).mpr ⟨by decide, by decide, fun _ => .inr (by decide)⟩
  exact ⟨_, _, _, _, _, htext, hjson, hkeys.2.2 ⟨_, List.mem_cons_self, by decide⟩⟩

/-! ## Requests that bypass the cache -/

section
variable {rx : RegexCrate} {uc : UriCrate} {pl : Pipeline} {env : HandleEnv} {req : Request}
  {h : Handled} {route : RouteConfig} {resp : Response}

/-- What keeps a response out of the cache: the route, the status, or its headers. -/
def KeptOut (route : RouteConfig) (resp : Response) : Prop :=
  (∀ cfg ∈ route.middleware.cache, cfg.readOnly = true) ∨
    ¬ (200 ≤ resp.status ∧ resp.status < 300) ∨ Refused resp.headers

theorem written_eq_none_iff {now : ℕ} :
    (cacheExchange route req resp).written now = none ↔ KeptOut route resp := by
  constructor
  · intro hnone
    by_contra hkept
    obtain ⟨hroute, hrest⟩ := not_or.mp hkept
    obtain ⟨hstatus, hheaders⟩ := not_or.mp hrest
    push Not at hroute hstatus
    obtain ⟨cfg, hcfg, hwrite⟩ := hroute
    obtain ⟨w, hw, -⟩ := written_of_not_refused (x := cacheExchange route req resp) hcfg
      (Bool.eq_false_iff.mpr hwrite) hstatus.1 hstatus.2 hheaders now
    cases hnone.symm.trans hw
  · intro hkept
    rw [Option.eq_none_iff_forall_ne_some]
    intro w hw
    obtain ⟨cfg, ttl, names, hcfg, hwrite, hlow, hhigh, -⟩ := written_eq_some.mp hw
    rcases hkept with h | h | h
    · cases (h cfg hcfg).symm.trans hwrite
    · exact h ⟨hlow, hhigh⟩
    · cases (written_of_refused (x := cacheExchange route req resp) h now).symm.trans hw

/-- A store leaves every cache as it is exactly if it writes nothing. -/
theorem store_eq_self_iff {x : CacheExchange} :
    (∀ (cache : ResponseCache) (cenv : CacheEnv), cache.store cenv x = cache) ↔
      ∀ now, x.written now = none := by
  constructor
  · intro hsame now
    rw [Option.eq_none_iff_forall_ne_some]
    intro w hw
    have hempty := congrArg (fun cache => cache.l1.store.lookup w.key.text)
      (hsame (.new 1) ⟨now, 0, fun _ => ⟨true, 0⟩⟩)
    rw [ResponseCache.store_of_written _ hw] at hempty
    simp only [L1Cache.putThrough_lookup_self] at hempty
    cases hempty
  · intro hnone cache cenv
    exact ResponseCache.store_of_not_written cenv (hnone cenv.now)

/-- **Bypasses.** A request that bypasses the cache is stored all the same: its store
step works on the cache as it was, and leaves every cache as it is exactly if the route,
the status or the response's headers keep the response out. -/
theorem bypass_untouched_iff (hrun : (pl.handle rx uc env req).1 = .ok h)
    (hexit : h.exit = .forwarded resp) (hroute : h.route = some route)
    (hbypass : (cacheRequest route req).bypasses = true) :
    (pl.handle rx uc env req).2.cache =
        pl.cache.store env.store (cacheExchange route req resp) ∧
      ((∀ (cache : ResponseCache) (cenv : CacheEnv),
          cache.store cenv (cacheExchange route req resp) = cache) ↔
        KeptOut route resp) := by
  refine ⟨?_, ?_⟩
  · rw [handle_forwarded hrun hexit hroute, ResponseCache.lookup, if_pos hbypass]
  · rw [store_eq_self_iff]
    simp only [written_eq_none_iff, forall_const]

end

/-- `POST /users`. -/
def postRequest : Request := { acceptRequest "text".toList with method := "POST".toList }

theorem post_forwarded {router : Router}
    (hrouter : Router.build .literal cachedConfig = .ok router) (resp : Response) :
    ∃ h, ((GatewayServer.initialPipeline cachedConfig router).handle .literal .plain
        (.answering resp) postRequest).1 = .ok h ∧
      h.exit = .forwarded resp ∧ h.route = some cachedRoute := by
  rw [Pipeline.handle_eq_handleMatched hrouter rfl]
  exact ⟨_, rfl, rfl, rfl⟩

/-- A `POST` is stored. -/
theorem post_stored :
    ¬ ∀ (rx : RegexCrate) (uc : UriCrate) (pl : Pipeline) (env : HandleEnv) (req : Request)
      (h : Handled) (route : RouteConfig) (resp : Response),
        (pl.handle rx uc env req).1 = .ok h → h.exit = .forwarded resp → h.route = some route →
        (cacheRequest route req).bypasses = true →
          (pl.handle rx uc env req).2.cache = pl.cache := by
  intro hall
  obtain ⟨router, hrouter⟩ := cachedConfig_build
  have hforwarded := post_forwarded hrouter (acceptResponse .empty)
  have hstored : StoredUnder .literal .plain (GatewayServer.initialPipeline cachedConfig router)
      (.answering (acceptResponse .empty)) postRequest cachedRoute (acceptResponse .empty)
      ⟨"stateform:cache:POST:users:/users:accept=".toList⟩ := ⟨hforwarded, _, rfl, rfl⟩
  obtain ⟨entry, hentry, -⟩ := hstored.lookup
  obtain ⟨h, hrun, hexit, hroute⟩ := hforwarded
  rw [hall _ _ _ _ _ h _ _ hrun hexit hroute rfl] at hentry
  cases hentry

/-- Answered with a response that varies on everything, it is not. -/
theorem bypass_untouched_iff_star :
    ∃ (pl : Pipeline) (h : Handled),
      (pl.handle .literal .plain (.answering ⟨200, varyHeader "*".toList, []⟩) postRequest).1 =
        .ok h ∧
      ∀ (cache : ResponseCache) (cenv : CacheEnv),
        cache.store cenv (cacheExchange cachedRoute postRequest
          ⟨200, varyHeader "*".toList, []⟩) = cache := by
  obtain ⟨router, hrouter⟩ := cachedConfig_build
  obtain ⟨h, hrun, hexit, hroute⟩ := post_forwarded hrouter ⟨200, varyHeader "*".toList, []⟩
  have hkept : KeptOut cachedRoute ⟨200, varyHeader "*".toList, []⟩ :=
    .inr (.inr (.inr (.inr rfl)))
  exact ⟨_, h, hrun, (bypass_untouched_iff hrun hexit hroute rfl).2.mpr hkept⟩

end Stateform
