import Stateform.Library.Run
import Stateform.Config.Validation
import Stateform.Core.Panics
import Stateform.Core.Pipeline
import Stateform.Router.Matching

/-!
# The running server

`hot_reload.rs` and `server.rs`: the config watcher, the server built from its
config, and what runs afterwards. A reload reaches the router in two steps. The
watcher validates and announces a config, and the reload task rebuilds the
router from the last announced one. Nothing else of the pipeline is rebuilt.
-/

namespace Stateform

open Library

/-! ## The watcher -/

/-- `ConfigWatcher`: the current config, and the announced one the reload task
has not read yet. -/
structure ConfigWatcher : Type where
  inner : GatewayConfig
  announced : Option GatewayConfig

section
variable (rx : RegexCrate)

/-- `parse_and_validate`, on what reading and parsing the file gives. -/
def parseAndValidate (parsed : Except ConfigError GatewayConfig) :
    Except ConfigError GatewayConfig := do
  let cfg ← parsed
  validate rx cfg
  return cfg

namespace ConfigWatcher

/-- `ConfigWatcher::load`. -/
def load (parsed : Except ConfigError GatewayConfig) : Except ConfigError ConfigWatcher := do
  let cfg ← parseAndValidate rx parsed
  return ⟨cfg, none⟩

/-- `ConfigWatcher::reload`. -/
def reload (watcher : ConfigWatcher) (parsed : Except ConfigError GatewayConfig) :
    Except ConfigError Unit × ConfigWatcher :=
  match parseAndValidate rx parsed with
  | .error e => (.error e, watcher)
  | .ok newCfg => (.ok (), ⟨newCfg, some newCfg⟩)

end ConfigWatcher

/-- `RouterHandle::rebuild`. -/
def Router.rebuild (router : Router) (cfg : GatewayConfig) : Except RouterError Unit × Router :=
  match Router.build rx cfg with
  | .error e => (.error e, router)
  | .ok new => (.ok (), new)

/-! ## The server -/

structure GatewayServer : Type where
  config : ConfigWatcher
  pipeline : Pipeline

namespace GatewayServer

/-- The pipeline `build` puts around a router. -/
def initialPipeline (cfg : GatewayConfig) (router : Router) : Pipeline where
  router := router
  auth := .new cfg.auth
  ratelimit := .new cfg
  cache := .new cfg.cache.l1Capacity
  upstreams := .build cfg

/-- `GatewayServer::build`, with its external systems reachable. -/
def build (config : ConfigWatcher) : Except CoreError GatewayServer :=
  match Router.build rx config.inner with
  | .error e => .error (.config (.validation e.toText))
  | .ok router => .ok ⟨config, initialPipeline config.inner router⟩

/-- One round of the reload task of `run`. -/
def applyReload (server : GatewayServer) : GatewayServer :=
  match server.config.announced with
  | none => server
  | some newCfg =>
      { config := { server.config with announced := none }
        pipeline := { server.pipeline with
          router := (server.pipeline.router.rebuild rx newCfg).2 } }

end GatewayServer

/-- What happens to a running server: a reload of the file, a round of the
reload task, a request. -/
inductive ServerEvent : Type where
  | reload (parsed : Except ConfigError GatewayConfig)
  | applyReload
  | request (env : HandleEnv) (req : Request)

namespace GatewayServer

variable (uc : UriCrate)

/-- One event, with what a request is answered. -/
def step (server : GatewayServer) :
    ServerEvent → Option (Except Panic Handled) × GatewayServer
  | .reload parsed => (none, { server with config := (server.config.reload rx parsed).2 })
  | .applyReload => (none, server.applyReload rx)
  | .request env req =>
      let (answer, pipeline) := server.pipeline.handle rx uc env req
      (some answer, { server with pipeline := pipeline })

/-- The server after a list of events. -/
def run (server : GatewayServer) (events : List ServerEvent) : GatewayServer :=
  after (fun s e => (step rx uc s e).2) server events

end GatewayServer

/-! ## References -/

/-- What the stages of a route find of its references: its upstream, and the
policy it names. -/
structure Resolved (pl : Pipeline) (route : RouteConfig) : Prop where
  upstream : (pl.upstreams.get route.upstream).isSome
  policy : ∀ rl, route.middleware.rateLimit = some rl →
    (pl.ratelimit.policies.lookup rl.policy).isSome

/-- Every route the router can return is resolved. -/
def RoutesResolved (pl : Pipeline) : Prop :=
  ∀ path method headers m, pl.router.matchRequest rx path method headers = .ok m →
    Resolved pl m.route

/-- The request neither met a missing upstream nor an unknown policy. -/
def ReferencesMet (h : Handled) : Prop :=
  h.exit ≠ .upstreamMissing ∧ ∀ policy, h.checked ≠ some (.error (.unknownPolicy policy))

/-- In every state of the run the routes are resolved, and every request of the
run met what it refers to. -/
structure ReferencesHold (uc : UriCrate) (server : GatewayServer) (events : List ServerEvent) :
    Prop where
  resolved : ∀ before, before <+: events →
    RoutesResolved rx (GatewayServer.run rx uc server before).pipeline
  met : ∀ before env req h, before ++ [.request env req] <+: events →
    (GatewayServer.step rx uc (GatewayServer.run rx uc server before) (.request env req)).1 =
      some (.ok h) → ReferencesMet h

/-- Every route of a config that is picked for some request refers to what the
config at startup declares. -/
def KnownAtStartup (startup cfg : GatewayConfig) : Prop :=
  ∀ path method headers m, scanRequest rx cfg.routes path method headers = .ok m →
    (startup.upstreams.lookup m.route.upstream).isSome ∧
      ∀ rl, m.route.middleware.rateLimit = some rl →
        (startup.rateLimiting.policies.lookup rl.policy).isSome

/-- The reload task of the run only meets configs whose references were declared
at startup. -/
def ReloadsKnown (uc : UriCrate) (startup : GatewayConfig) (server : GatewayServer)
    (events : List ServerEvent) : Prop :=
  ∀ before cfg, before ++ [.applyReload] <+: events →
    (GatewayServer.run rx uc server before).config.announced = some cfg →
      KnownAtStartup rx startup cfg

end

section
variable {rx : RegexCrate} {uc : UriCrate}

/-! ## What a request leaves alone -/

section
variable {pl pl' : Pipeline} {env : HandleEnv} {req : Request} {answer : Except Panic Handled}

theorem Pipeline.HandleOutcome.router (h : HandleOutcome rx pl env req answer pl') :
    pl'.router = pl.router := by
  cases h <;> rfl

theorem Pipeline.HandleOutcome.upstreams (h : HandleOutcome rx pl env req answer pl') :
    pl'.upstreams = pl.upstreams := by
  cases h <;> rfl

theorem RateLimiter.check_policies (limiter : RateLimiter) (env : CheckEnv)
    (middlewareRef : Option RateLimitMiddlewareRef) (routeId : Str) (authCtx : Option AuthContext)
    (headers : HeaderMap) (name : Str) :
    ((limiter.check env middlewareRef routeId authCtx headers).2.policies.lookup name).isSome =
      (limiter.policies.lookup name).isSome := by
  unfold RateLimiter.check
  cases middlewareRef with
  | none => rfl
  | some rlRef =>
      simp only
      cases hlook : limiter.policies.lookup rlRef.policy with
      | none => rfl
      | some policy =>
          by_cases hname : name = rlRef.policy
          · subst hname
            simp [hlook]
          · exact congrArg Option.isSome (AList.lookup_insert_ne hname)

/-- Requests move buckets, not policies. -/
theorem Pipeline.HandleOutcome.policies (h : HandleOutcome rx pl env req answer pl') (name : Str) :
    (pl'.ratelimit.policies.lookup name).isSome = (pl.ratelimit.policies.lookup name).isSome := by
  cases h with
  | noRoute => rfl
  | refused => rfl
  | authFailed => rfl
  | _ => exact RateLimiter.check_policies _ _ _ _ _ _ _

/-- A limiter that has the policy knows it. -/
theorem RateLimiter.check_known {limiter : RateLimiter} {env : CheckEnv}
    {middlewareRef : Option RateLimitMiddlewareRef} {routeId : Str} {authCtx : Option AuthContext}
    {headers : HeaderMap}
    (hknown : ∀ rl, middlewareRef = some rl → (limiter.policies.lookup rl.policy).isSome)
    (policy : Str) :
    (limiter.check env middlewareRef routeId authCtx headers).1 ≠
      .error (.unknownPolicy policy) := by
  unfold RateLimiter.check
  cases middlewareRef with
  | none => nofun
  | some rlRef =>
      rcases Option.isSome_iff_exists.mp (hknown rlRef rfl) with ⟨p, hp⟩
      simp [hp]

/-- A request to resolved routes meets what it refers to. -/
theorem referencesMet_of_resolved (hresolved : RoutesResolved rx pl) {h : Handled}
    (hout : Pipeline.HandleOutcome rx pl env req (.ok h) pl') : ReferencesMet h := by
  have hadmitted : ∀ {route : RouteConfig} {ctx : Option AuthContext},
      Pipeline.Admitted pl env req route ctx rx h → Resolved pl route ∧
        ∀ policy, h.checked ≠ some (.error (.unknownPolicy policy)) := by
    intro route ctx hadm
    obtain ⟨m, hm, rfl⟩ := hadm.matched
    have hres := hresolved _ _ _ m hm
    refine ⟨hres, ?_⟩
    intro policy hchecked
    rw [hadm.checked_eq, Option.some.injEq] at hchecked
    exact RateLimiter.check_known hres.policy policy hchecked
  cases hout with
  | noRoute hexit hchecked => exact ⟨by simp [hexit], by simp [hchecked]⟩
  | refused hexit hchecked => exact ⟨by simp [hexit], by simp [hchecked]⟩
  | authFailed hexit hchecked => exact ⟨by simp [hexit], by simp [hchecked]⟩
  | rateLimited hadm hexit => exact ⟨by simp [hexit], (hadmitted hadm).2⟩
  | cacheHit hadm _ hexit _ => exact ⟨by simp [hexit], (hadmitted hadm).2⟩
  | upstreamMissing hadm _ hnone =>
      have hup := (hadmitted hadm).1.upstream
      rw [hnone] at hup
      cases hup
  | upstreamFailed hadm hexit => exact ⟨by simp [hexit], (hadmitted hadm).2⟩
  | forwarded hadm hexit => exact ⟨by simp [hexit], (hadmitted hadm).2⟩

end

/-! ## What a run keeps -/

theorem parseAndValidate_eq_ok {parsed : Except ConfigError GatewayConfig} {cfg : GatewayConfig}
    (h : parseAndValidate rx parsed = .ok cfg) : parsed = .ok cfg ∧ ValidConfig rx cfg := by
  unfold parseAndValidate at h
  cases parsed with
  | error e => simp [bind, Except.bind] at h
  | ok c =>
      cases hval : validate rx c with
      | error e => simp [hval, bind, Except.bind] at h
      | ok u =>
          simp only [hval, bind, Except.bind, pure, Except.pure, Except.ok.injEq] at h
          subst h
          exact ⟨rfl, validate_eq_ok_iff.mp hval⟩

/-- A valid config has a router. -/
theorem ValidConfig.build {cfg : GatewayConfig} (h : ValidConfig rx cfg) :
    ∃ router, Router.build rx cfg = .ok router := by
  apply build_ok
  intro r hr
  exact (h.routes r hr).regex_ok

/-- It is enough to look at the routes one by one. -/
theorem knownAtStartup_of_routes {startup cfg : GatewayConfig}
    (hroutes : ∀ route ∈ cfg.routes, (startup.upstreams.lookup route.upstream).isSome ∧
      ∀ rl, route.middleware.rateLimit = some rl →
        (startup.rateLimiting.policies.lookup rl.policy).isSome) :
    KnownAtStartup rx startup cfg := by
  intro path method headers m hm
  have hout : ScanOutcome rx cfg.routes path method headers (.ok m) := hm ▸ scanRequest_outcome
  exact hroutes m.route hout.route_mem

/-- A valid config knows its own references. -/
theorem ValidConfig.known {cfg : GatewayConfig} (h : ValidConfig rx cfg) :
    KnownAtStartup rx cfg cfg := by
  apply knownAtStartup_of_routes
  intro route hroute
  exact ⟨(h.routes route hroute).upstream_known, (h.routes route hroute).policy_known⟩

/-- What holds of a server started from `startup`, whatever is reloaded: it
still has the upstreams and the policies it started with. -/
structure FromStartup (rx : RegexCrate) (startup : GatewayConfig) (server : GatewayServer) :
    Prop where
  upstreams : server.pipeline.upstreams = .build startup
  policies : ∀ name, (server.pipeline.ratelimit.policies.lookup name).isSome =
    (startup.rateLimiting.policies.lookup name).isSome
  announced : ∀ cfg, server.config.announced = some cfg → ValidConfig rx cfg

section
variable {startup cfg : GatewayConfig} {server : GatewayServer}

variable (uc) in
theorem FromStartup.step (hs : FromStartup rx startup server) (event : ServerEvent) :
    FromStartup rx startup (server.step rx uc event).2 := by
  cases event with
  | reload parsed =>
      refine ⟨hs.upstreams, hs.policies, ?_⟩
      intro cfg hcfg
      simp only [GatewayServer.step, ConfigWatcher.reload] at hcfg
      cases hparsed : parseAndValidate rx parsed with
      | error e => exact hs.announced cfg (by simpa [hparsed] using hcfg)
      | ok newCfg =>
          obtain rfl : newCfg = cfg := by simpa [hparsed] using hcfg
          exact (parseAndValidate_eq_ok hparsed).2
  | applyReload =>
      simp only [GatewayServer.step, GatewayServer.applyReload]
      cases hannounced : server.config.announced with
      | none => exact hs
      | some newCfg => exact ⟨hs.upstreams, hs.policies, nofun⟩
  | request env req =>
      have hout := Pipeline.handle_outcome rx uc server.pipeline env req
      refine ⟨hout.upstreams.trans hs.upstreams, ?_, hs.announced⟩
      intro name
      exact (hout.policies name).trans (hs.policies name)

/-- Being resolved is being known to the config at startup. -/
theorem FromStartup.resolved_iff (hs : FromStartup rx startup server)
    (hbuild : Router.build rx cfg = .ok server.pipeline.router) :
    RoutesResolved rx server.pipeline ↔ KnownAtStartup rx startup cfg := by
  have hroute : ∀ route, Resolved server.pipeline route ↔
      (startup.upstreams.lookup route.upstream).isSome ∧
        ∀ rl, route.middleware.rateLimit = some rl →
          (startup.rateLimiting.policies.lookup rl.policy).isSome := by
    intro route
    constructor
    · intro h
      have hup := h.upstream
      rw [hs.upstreams, UpstreamRegistry.build_get, Option.isSome_map] at hup
      refine ⟨hup, ?_⟩
      intro rl hrl
      rw [← hs.policies]
      exact h.policy rl hrl
    · rintro ⟨hup, hpol⟩
      constructor
      · rw [hs.upstreams, UpstreamRegistry.build_get, Option.isSome_map]
        exact hup
      · intro rl hrl
        rw [hs.policies]
        exact hpol rl hrl
  unfold RoutesResolved KnownAtStartup
  simp only [matchRequest_eq_scan hbuild, hroute]

/-- The invariant of a run whose reloads are known: the router in use was built
from a config whose references were declared at startup. -/
structure RoutesKnown (rx : RegexCrate) (startup : GatewayConfig) (server : GatewayServer) :
    Prop extends FromStartup rx startup server where
  router : ∃ cfg, Router.build rx cfg = .ok server.pipeline.router ∧ KnownAtStartup rx startup cfg

theorem RoutesKnown.resolved (hs : RoutesKnown rx startup server) :
    RoutesResolved rx server.pipeline := by
  obtain ⟨cfg, hbuild, hknown⟩ := hs.router
  exact (hs.toFromStartup.resolved_iff hbuild).mpr hknown

theorem RoutesKnown.step (hs : RoutesKnown rx startup server) (event : ServerEvent)
    (hreload : event = .applyReload → ∀ cfg, server.config.announced = some cfg →
      KnownAtStartup rx startup cfg) :
    RoutesKnown rx startup (server.step rx uc event).2 := by
  refine ⟨hs.toFromStartup.step uc event, ?_⟩
  cases event with
  | reload parsed => exact hs.router
  | applyReload =>
      simp only [GatewayServer.step, GatewayServer.applyReload]
      cases hannounced : server.config.announced with
      | none => exact hs.router
      | some newCfg =>
          rcases (hs.announced newCfg hannounced).build with ⟨router, hbuild⟩
          exact ⟨newCfg, by simp [Router.rebuild, hbuild], hreload rfl newCfg hannounced⟩
  | request env req =>
      obtain ⟨cfg, hbuild, hknown⟩ := hs.router
      refine ⟨cfg, ?_, hknown⟩
      rw [hbuild]
      exact congrArg _ (Pipeline.handle_outcome rx uc server.pipeline env req).router.symm

/-- A server as `build` leaves it. -/
theorem build_routesKnown {config : ConfigWatcher}
    (hload : ConfigWatcher.load rx (.ok startup) = .ok config)
    (hbuild : GatewayServer.build rx config = .ok server) : RoutesKnown rx startup server := by
  unfold ConfigWatcher.load at hload
  cases hparsed : parseAndValidate rx (.ok startup) with
  | error e => simp [hparsed, bind, Except.bind] at hload
  | ok cfg =>
  simp only [hparsed, bind, Except.bind, pure, Except.pure, Except.ok.injEq] at hload
  rcases parseAndValidate_eq_ok hparsed with ⟨heq, hvalid⟩
  obtain rfl : startup = cfg := Except.ok.inj heq
  subst hload
  obtain ⟨router, hrouter⟩ := hvalid.build
  simp only [GatewayServer.build, hrouter, Except.ok.injEq] at hbuild
  subst hbuild
  refine ⟨⟨rfl, ?_, nofun⟩, startup, hrouter, hvalid.known⟩
  intro name
  show ((RateLimiter.new startup).policies.lookup name).isSome = _
  rw [new_lookup, Option.isSome_map]

variable (uc) in
theorem run_fromStartup (hs : FromStartup rx startup server) (events : List ServerEvent) :
    FromStartup rx startup (server.run rx uc events) :=
  history_invariant_all (P := fun _ s => FromStartup rx startup s) hs
    (fun _ event hkept => hkept.step uc event) events

theorem run_append (before : List ServerEvent) (event : ServerEvent) :
    server.run rx uc (before ++ [event]) = ((server.run rx uc before).step rx uc event).2 := by
  simp [GatewayServer.run]

theorem run_routesKnown {events : List ServerEvent} (hs : RoutesKnown rx startup server)
    (hreloads : ReloadsKnown rx uc startup server events) {before : List ServerEvent}
    (hbefore : before <+: events) : RoutesKnown rx startup (server.run rx uc before) := by
  refine history_invariant_all
    (P := fun past s => past <+: events → RoutesKnown rx startup s) (fun _ => hs) ?_ before hbefore
  intro past event hkept hpast
  refine (hkept ((List.prefix_append _ _).trans hpast)).step event ?_
  rintro rfl cfg hannounced
  exact hreloads past cfg hpast hannounced

end

/-- **The references of a running server hold exactly as far as its reloads stay
within what the startup config declared.** -/
theorem referencesHold_iff {startup : GatewayConfig} {config : ConfigWatcher}
    {server : GatewayServer} (hload : ConfigWatcher.load rx (.ok startup) = .ok config)
    (hbuild : GatewayServer.build rx config = .ok server) (events : List ServerEvent) :
    ReferencesHold rx uc server events ↔ ReloadsKnown rx uc startup server events := by
  have hstart := build_routesKnown hload hbuild
  constructor
  · intro hhold before cfg hbefore hannounced
    -- the round of the reload task puts the router of `cfg` in place
    have hkept := run_fromStartup uc hstart.toFromStartup before
    rcases (hkept.announced cfg hannounced).build with ⟨router, hrouter⟩
    have hresolved := hhold.resolved _ hbefore
    have hnext := hkept.step uc .applyReload
    rw [run_append] at hresolved
    refine (hnext.resolved_iff ?_).mp hresolved
    simp [GatewayServer.step, GatewayServer.applyReload, hannounced, Router.rebuild, hrouter]
  · intro hreloads
    constructor
    · intro before hbefore
      exact (run_routesKnown hstart hreloads hbefore).resolved
    · intro before env req h hbefore hanswer
      have hknown := run_routesKnown hstart hreloads ((List.prefix_append _ _).trans hbefore)
      have hout := Pipeline.handle_outcome rx uc (server.run rx uc before).pipeline env req
      simp only [GatewayServer.step, Option.some.injEq] at hanswer
      rw [hanswer] at hout
      exact referencesMet_of_resolved hknown.resolved hout

end

/-- A valid config loads and builds. -/
theorem load_build {rx : RegexCrate} {cfg : GatewayConfig} (h : validate rx cfg = .ok ()) :
    ∃ router, Router.build rx cfg = .ok router ∧
      ConfigWatcher.load rx (.ok cfg) = .ok ⟨cfg, none⟩ ∧
      GatewayServer.build rx ⟨cfg, none⟩ =
        .ok ⟨⟨cfg, none⟩, GatewayServer.initialPipeline cfg router⟩ := by
  rcases (validate_eq_ok_iff.mp h).build with ⟨router, hrouter⟩
  refine ⟨router, hrouter, ?_, ?_⟩
  · simp [ConfigWatcher.load, parseAndValidate, h, bind, Except.bind, pure, Except.pure]
  · rw [GatewayServer.build, hrouter]

/-- A valid config reaches the router, and nothing else. -/
theorem run_reload {rx : RegexCrate} {uc : UriCrate} {server : GatewayServer} {cfg : GatewayConfig}
    {router : Router} (h : validate rx cfg = .ok ()) (hrouter : Router.build rx cfg = .ok router) :
    server.run rx uc [.reload (.ok cfg), .applyReload] =
      ⟨⟨cfg, none⟩, { server.pipeline with router := router }⟩ := by
  simp [GatewayServer.run, GatewayServer.step, ConfigWatcher.reload, parseAndValidate, h, bind,
    Except.bind, pure, Except.pure, GatewayServer.applyReload, Router.rebuild, hrouter]

/-- A request after a valid reload: the route is the new config's, the stages
are the old ones. -/
theorem request_after_reload {rx : RegexCrate} {uc : UriCrate} {server : GatewayServer}
    {cfg : GatewayConfig} {router : Router} {env : HandleEnv} {req : Request} {m : MatchedRoute}
    (h : validate rx cfg = .ok ()) (hrouter : Router.build rx cfg = .ok router)
    (hscan : scanRequest rx cfg.routes req.uri.path req.method req.headers = .ok m) :
    ((server.run rx uc [.reload (.ok cfg), .applyReload]).step rx uc (.request env req)).1 =
      some (Pipeline.handleMatched uc env req (Pipeline.requestIdOf env req)
        { server.pipeline with router := router } m.route).1 := by
  rw [run_reload h hrouter]
  simp only [GatewayServer.step]
  rw [Pipeline.handle_eq_handleMatched hrouter hscan]

/-- The minimal config with its route under another id and path. -/
def movedConfig : GatewayConfig :=
  { minimalConfig with routes := [.onPath "v2".toList (.prefixPath "/v2".toList)] }

theorem moved_referencesHold : ∃ config server,
    ConfigWatcher.load .literal (.ok minimalConfig) = .ok config ∧
      GatewayServer.build .literal config = .ok server ∧
      ReferencesHold .literal .plain server [.reload (.ok movedConfig), .applyReload] := by
  rcases load_build minimalConfig_valid with ⟨router, -, hload, hbuild⟩
  have hmoved : validate .literal movedConfig = .ok () := by decide
  refine ⟨_, _, hload, hbuild, (referencesHold_iff hload hbuild _).mpr ?_⟩
  rintro before cfg ⟨rest, hrest⟩ hannounced
  obtain rfl : before = [.reload (.ok movedConfig)] := by
    rcases before with _ | ⟨e, _ | ⟨e', before⟩⟩ <;> simp_all
  obtain rfl : movedConfig = cfg := by
    simpa [GatewayServer.run, GatewayServer.step, ConfigWatcher.reload, parseAndValidate, hmoved,
      bind, Except.bind, pure, Except.pure] using hannounced
  apply knownAtStartup_of_routes
  intro route hroute
  obtain rfl := List.mem_singleton.mp hroute
  exact ⟨rfl, nofun⟩

/-- The minimal config with a second upstream and a policy, and a route to
each. -/
def grownConfig : GatewayConfig :=
  let api := RouteConfig.onPath "api".toList (.prefixPath "/api".toList)
  let root := RouteConfig.onPath "root".toList (.prefixPath "/".toList)
  { minimalConfig with
    upstreams := minimalConfig.upstreams.insert "api".toList
      (UpstreamConfig.single "127.0.0.1:9100".toList)
    routes := [{ api with upstream := "api".toList },
      { root with middleware :=
          { MiddlewareConfig.default with rateLimit := some ⟨"strict".toList⟩ } }]
    rateLimiting := ⟨AList.singleton "strict".toList ⟨⟨10, 1⟩, .tokenBucket 100 10⟩⟩ }

/-- After a valid reload, one route has no upstream and another goes unlimited. -/
theorem grown_references_missing :
    validate .literal minimalConfig = .ok () ∧ validate .literal grownConfig = .ok () ∧
      ∃ config server, ConfigWatcher.load .literal (.ok minimalConfig) = .ok config ∧
        GatewayServer.build .literal config = .ok server ∧
        (∃ h, ((server.run .literal .plain [.reload (.ok grownConfig), .applyReload]).step .literal
            .plain (.request (.answering ⟨200, .empty, []⟩) (.get "/api/users".toList .empty))).1 =
              some (.ok h) ∧ h.exit = .upstreamMissing ∧ h.response.status = 502) ∧
        (∃ h, ((server.run .literal .plain [.reload (.ok grownConfig), .applyReload]).step .literal
            .plain (.request (.answering ⟨200, .empty, []⟩) (.get "/users".toList .empty))).1 =
              some (.ok h) ∧ h.exit = .forwarded ⟨200, .empty, []⟩ ∧
            h.checked = some (.error (.unknownPolicy "strict".toList))) ∧
        ¬ ReferencesHold .literal .plain server [.reload (.ok grownConfig), .applyReload,
          .request (.answering ⟨200, .empty, []⟩) (.get "/api/users".toList .empty)] := by
  have hgrown : validate .literal grownConfig = .ok () := by decide
  rcases load_build minimalConfig_valid with ⟨router, -, hload, hbuild⟩
  rcases load_build hgrown with ⟨router', hrouter', -⟩
  have hapi : ∃ h, ((GatewayServer.run .literal .plain
      ⟨⟨minimalConfig, none⟩, GatewayServer.initialPipeline minimalConfig router⟩
      [.reload (.ok grownConfig), .applyReload]).step .literal .plain
        (.request (.answering ⟨200, .empty, []⟩) (.get "/api/users".toList .empty))).1 =
          some (.ok h) ∧ h.exit = .upstreamMissing ∧ h.response.status = 502 := by
    rw [request_after_reload hgrown hrouter' rfl]
    exact ⟨_, rfl, rfl, rfl⟩
  refine ⟨minimalConfig_valid, hgrown, _, _, hload, hbuild, hapi, ?_, ?_⟩
  · rw [request_after_reload hgrown hrouter' rfl]
    exact ⟨_, rfl, rfl, rfl⟩
  · intro hhold
    obtain ⟨h, hanswer, hexit, -⟩ := hapi
    exact (hhold.met _ _ _ h (List.prefix_refl _) hanswer).1 hexit

end Stateform
