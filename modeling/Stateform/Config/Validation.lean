import Stateform.Config.Schema

/-!
# Config validation

`validation::validate`, check by check and with its messages, and what a
config it accepts is known to satisfy: `validate_eq_ok_iff` turns the run of
checks into the proposition `ValidConfig`.
-/

namespace Stateform

inductive ConfigError : Type where
  | io (message : Str)
  | parse (message : Str)
  | validation (message : Str)
deriving DecidableEq

/-- `Display`. -/
def ConfigError.toText : ConfigError → Str
  | .io message => "io error: ".toList ++ message
  | .parse message => "yaml parse error: ".toList ++ message
  | .validation message => "validation error: ".toList ++ message

/-- A name between backquotes, as the messages show it. -/
def quoted (s : Str) : Str := "`".toList ++ s ++ "`".toList

/-! ## The checks -/

def validateEndpoint (name : Str) (ep : EndpointConfig) : Except ConfigError Unit :=
  if ep.weight = 0 then
    .error (.validation ("upstream ".toList ++ quoted name ++ " endpoint ".toList ++
      quoted ep.address ++ " has weight 0 — use `active: false` to disable".toList))
  else .ok ()

/-- The body of the loop of `validate_upstreams`. -/
def validateUpstream (name : Str) (upstream : UpstreamConfig) : Except ConfigError Unit := do
  if upstream.endpoints.isEmpty then
    throw (.validation ("upstream ".toList ++ quoted name ++
      " must have at least one endpoint".toList))
  upstream.endpoints.forM (validateEndpoint name)
  match upstream.loadBalancing with
  | .consistentHashing hashHeader _ =>
      -- the number of virtual nodes is not looked at
      if (trim hashHeader).isEmpty then
        throw (.validation ("upstream ".toList ++ quoted name ++
          ": consistent_hashing requires a non-empty `hash_header`".toList))
  | _ => pure ()

def validateUpstreams (cfg : GatewayConfig) : Except ConfigError Unit :=
  cfg.upstreams.entries.forM fun e => validateUpstream e.1 e.2

/-- The body of the first loop of `validate_routes`. -/
def validateRoute (rx : RegexCrate) (cfg : GatewayConfig) (route : RouteConfig) :
    Except ConfigError Unit := do
  if (trim route.id).isEmpty then
    throw (.validation "every route must have a non-empty `id`".toList)
  if (cfg.upstreams.lookup route.upstream).isNone then
    throw (.validation ("route ".toList ++ quoted route.id ++ " references unknown upstream ".toList ++
      quoted route.upstream))
  match route.match_.path with
  | .regexPath pattern =>
      match rx.new pattern with
      | .ok () => pure ()
      | .error e => throw (.validation ("route ".toList ++ quoted route.id ++
          " has invalid path regex ".toList ++ quoted pattern ++ ": ".toList ++ e))
  | _ => pure ()

/-- The second loop of `validate_routes`: `ids` are the ids inserted so far. -/
def validateIds : List Str → List RouteConfig → Except ConfigError Unit
  | _, [] => .ok ()
  | ids, route :: rest =>
      if route.id ∈ ids then
        .error (.validation ("duplicate route id ".toList ++ quoted route.id ++
          " — each route must have a unique id".toList))
      else validateIds (route.id :: ids) rest

def validateRoutes (rx : RegexCrate) (cfg : GatewayConfig) : Except ConfigError Unit := do
  cfg.routes.forM (validateRoute rx cfg)
  validateIds [] cfg.routes

def validateRateLimitRef (cfg : GatewayConfig) (route : RouteConfig) : Except ConfigError Unit :=
  match route.middleware.rateLimit with
  | some rl =>
      if (cfg.rateLimiting.policies.lookup rl.policy).isNone then
        .error (.validation ("route ".toList ++ quoted route.id ++
          " references unknown rate-limit policy ".toList ++ quoted rl.policy))
      else .ok ()
  | none => .ok ()

def validateRateLimitRefs (cfg : GatewayConfig) : Except ConfigError Unit :=
  cfg.routes.forM (validateRateLimitRef cfg)

/-- `validation::validate`. -/
def validate (rx : RegexCrate) (cfg : GatewayConfig) : Except ConfigError Unit := do
  validateUpstreams cfg
  validateRoutes rx cfg
  validateRateLimitRefs cfg

/-! ## What the checks establish -/

theorem bind_eq_ok_unit {ε : Type} {a b : Except ε Unit} :
    (do a; b) = .ok () ↔ a = .ok () ∧ b = .ok () := by
  cases a <;> simp [bind, Except.bind]

theorem forM_eq_ok {ε α : Type} {f : α → Except ε Unit} {l : List α} :
    l.forM f = .ok () ↔ ∀ a ∈ l, f a = .ok () := by
  induction l with
  | nil => simp [List.forM, pure, Except.pure]
  | cons a l ih =>
      show (do f a; l.forM f) = .ok () ↔ _
      rw [bind_eq_ok_unit, ih]
      simp

theorem validateEndpoint_eq_ok {name : Str} {ep : EndpointConfig} :
    validateEndpoint name ep = .ok () ↔ ep.weight ≠ 0 := by
  by_cases h : ep.weight = 0 <;> simp [validateEndpoint, h]

/-- What `validate_upstreams` asks of one upstream. -/
structure ValidUpstream (upstream : UpstreamConfig) : Prop where
  endpoints_ne : upstream.endpoints ≠ []
  weights : ∀ ep ∈ upstream.endpoints, ep.weight ≠ 0
  hash_header : ∀ hashHeader virtualNodes,
    upstream.loadBalancing = .consistentHashing hashHeader virtualNodes → trim hashHeader ≠ []

theorem validateUpstream_eq_ok {name : Str} {upstream : UpstreamConfig} :
    validateUpstream name upstream = .ok () ↔ ValidUpstream upstream := by
  unfold validateUpstream
  by_cases hne : upstream.endpoints = []
  · constructor
    · intro h
      simp [hne, throw, throwThe, MonadExceptOf.throw, bind, Except.bind] at h
    · intro h
      exact absurd hne h.endpoints_ne
  simp only [List.isEmpty_iff, hne, ↓reduceIte]
  rw [bind_eq_ok_unit, forM_eq_ok]
  simp only [validateEndpoint_eq_ok]
  constructor
  · rintro ⟨hw, hlb⟩
    refine ⟨hne, hw, ?_⟩
    intro hashHeader virtualNodes heq hempty
    simp [heq, hempty, throw, throwThe, MonadExceptOf.throw] at hlb
  · intro h
    refine ⟨h.weights, ?_⟩
    cases hlb : upstream.loadBalancing with
    | consistentHashing hashHeader virtualNodes =>
        simp [h.hash_header _ _ hlb, pure, Except.pure]
    | _ => rfl

/-- What `validate_routes` and `validate_rate_limit_refs` ask of one route. -/
structure ValidRoute (rx : RegexCrate) (cfg : GatewayConfig) (route : RouteConfig) : Prop where
  id_ne : trim route.id ≠ []
  upstream_known : (cfg.upstreams.lookup route.upstream).isSome
  regex_ok : ∀ pattern, route.match_.path = .regexPath pattern → rx.new pattern = .ok ()
  policy_known : ∀ rl, route.middleware.rateLimit = some rl →
    (cfg.rateLimiting.policies.lookup rl.policy).isSome

theorem validateRoute_eq_ok {rx : RegexCrate} {cfg : GatewayConfig} {route : RouteConfig} :
    validateRoute rx cfg route = .ok () ↔
      trim route.id ≠ [] ∧ (cfg.upstreams.lookup route.upstream).isSome ∧
        ∀ pattern, route.match_.path = .regexPath pattern → rx.new pattern = .ok () := by
  unfold validateRoute
  by_cases hid : trim route.id = []
  · simp [hid, throw, throwThe, MonadExceptOf.throw, bind, Except.bind]
  by_cases hup : (cfg.upstreams.lookup route.upstream).isNone
  · simp_all [throw, throwThe, MonadExceptOf.throw, bind, Except.bind]
  have hsome : (cfg.upstreams.lookup route.upstream).isSome := by
    rw [← Option.not_isNone]; simp [hup]
  simp only [List.isEmpty_iff, hid, hup, hsome, ↓reduceIte, pure, Except.pure, bind, Except.bind]
  cases hpath : route.match_.path with
  | regexPath pattern =>
      cases hnew : rx.new pattern with
      | ok u => simp [hid, hnew]
      | error e => simp [hid, hnew, throw, throwThe, MonadExceptOf.throw]
  | _ => simp [hid]

theorem validateIds_eq_ok {ids : List Str} {routes : List RouteConfig} :
    validateIds ids routes = .ok () ↔
      (routes.map RouteConfig.id).Nodup ∧ ∀ r ∈ routes, r.id ∉ ids := by
  induction routes generalizing ids with
  | nil => simp [validateIds]
  | cons r routes ih =>
      by_cases h : r.id ∈ ids
      · simp [validateIds, h]
      · simp only [validateIds, h, ↓reduceIte, ih, List.map_cons, List.nodup_cons, List.mem_cons,
          not_or, List.mem_map, not_exists, not_and]
        constructor
        · rintro ⟨hnd, hall⟩
          refine ⟨⟨?_, hnd⟩, ?_⟩
          · intro x hx
            exact (hall x hx).1
          · rintro x (rfl | hx)
            · exact h
            · exact (hall x hx).2
        · rintro ⟨⟨hne, hnd⟩, hall⟩
          refine ⟨hnd, ?_⟩
          intro x hx
          exact ⟨hne x hx, hall x (Or.inr hx)⟩

theorem validateRateLimitRef_eq_ok {cfg : GatewayConfig} {route : RouteConfig} :
    validateRateLimitRef cfg route = .ok () ↔
      ∀ rl, route.middleware.rateLimit = some rl →
        (cfg.rateLimiting.policies.lookup rl.policy).isSome := by
  unfold validateRateLimitRef
  cases hrl : route.middleware.rateLimit with
  | none => simp
  | some rl => cases hp : cfg.rateLimiting.policies.lookup rl.policy <;> simp [hp]

/-- What `validate` establishes of a config. -/
structure ValidConfig (rx : RegexCrate) (cfg : GatewayConfig) : Prop where
  upstreams : ∀ name upstream, cfg.upstreams.lookup name = some upstream → ValidUpstream upstream
  routes : ∀ route ∈ cfg.routes, ValidRoute rx cfg route
  ids_nodup : (cfg.routes.map RouteConfig.id).Nodup

/-- **Validation is the conjunction of its checks.** -/
theorem validate_eq_ok_iff {rx : RegexCrate} {cfg : GatewayConfig} :
    validate rx cfg = .ok () ↔ ValidConfig rx cfg := by
  have hentries : (∀ e ∈ cfg.upstreams.entries, ValidUpstream e.2) ↔
      ∀ name upstream, cfg.upstreams.lookup name = some upstream → ValidUpstream upstream :=
    StrMap.forall_entries
  unfold validate validateUpstreams validateRoutes validateRateLimitRefs
  rw [bind_eq_ok_unit, bind_eq_ok_unit, bind_eq_ok_unit, forM_eq_ok, forM_eq_ok, forM_eq_ok]
  simp only [validateUpstream_eq_ok, validateRoute_eq_ok, validateIds_eq_ok,
    validateRateLimitRef_eq_ok, hentries, List.not_mem_nil, not_false_eq_true, implies_true,
    and_true]
  constructor
  · rintro ⟨hup, ⟨hroute, hids⟩, hrl⟩
    refine ⟨hup, ?_, hids⟩
    intro r hr
    rcases hroute r hr with ⟨hid, hknown, hregex⟩
    exact ⟨hid, hknown, hregex, hrl r hr⟩
  · intro h
    refine ⟨h.upstreams, ⟨?_, h.ids_nodup⟩, ?_⟩
    · intro r hr
      exact ⟨(h.routes r hr).id_ne, (h.routes r hr).upstream_known, (h.routes r hr).regex_ok⟩
    · intro r hr
      exact (h.routes r hr).policy_known

end Stateform
