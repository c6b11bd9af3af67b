import Stateform.Auth.Pipeline
import Stateform.Cache.ResponseCache
import Stateform.Core.Response
import Stateform.RateLimit.Limiter
import Stateform.Router.Matching

/-!
# Handling a request

`pipeline::handle`, stage by stage: routing, the concurrency gate, auth, rate
limiting, the cache, the upstream, and the store. Beside its response a request
leaves a record of the stage it ended in and of what the stages before decided.
-/

namespace Stateform

structure Pipeline : Type where
  router : Router
  auth : AuthPipeline
  ratelimit : RateLimiter
  cache : ResponseCache
  upstreams : UpstreamRegistry

/-- Why `ConcurrencyLimiter::acquire` gives no permit. -/
inductive AcquireRefusal : Type where
  | shuttingDown
  | globalLimit
  | routeLimit
deriving DecidableEq

def AcquireRefusal.message : AcquireRefusal → Str
  | .shuttingDown => "gateway shutting down".toList
  | .globalLimit => "server concurrency limit exceeded".toList
  | .routeLimit => "route concurrency limit exceeded".toList

/-- What `UpstreamPool::send` meets: the states of the pool's endpoints and its
counter (other tasks move both), and what the chosen endpoint answers. -/
structure SendEnv : Type where
  endpoints : List EndpointState
  counter : ℕ
  wire : EndpointState → Request → Except CoreError Response

/-- What one run of `handle` meets. -/
structure HandleEnv : Type where
  uuid : Str
  permit : Except AcquireRefusal Unit
  auth : AuthEnv
  check : CheckEnv
  lookup : CacheEnv
  ageNow : ℕ
  send : SendEnv
  store : CacheEnv

/-- The calls `handle` makes to the metrics recorder, without durations. -/
inductive MetricCall : Type where
  | concurrencyRejected (routeId reason : Str)
  | authFailure (routeId : Str) (e : AuthError)
  | rateLimit (routeId : Str) (outcome : RateLimitOutcome)
  | cacheLookup (routeId : Str) (lookup : CacheLookup)
  | upstream (routeId upstreamName : Str) (status : ℕ)
  | request (routeId method : Str) (status reqSize respSize : ℕ)
deriving DecidableEq

/-- The stage a request ended in. -/
inductive HandleExit : Type where
  | noRoute
  | refused (why : AcquireRefusal)
  | authFailed (e : AuthError)
  | rateLimited
  | cacheHit (entry : CachedResponse)
  | upstreamMissing
  | upstreamFailed (e : CoreError)
  | forwarded (resp : Response)
deriving DecidableEq

/-- What a handled request leaves: the response, and the record of its stages. -/
structure Handled : Type where
  exit : HandleExit
  response : Response
  metrics : List MetricCall
  route : Option RouteConfig
  authCtx : Option AuthContext
  checked : Option (Except RateLimitError RateLimitOutcome)
deriving DecidableEq

/-- `UpstreamPool::send`: the selected endpoint gets the rewritten request. -/
def UpstreamPool.send (uc : UriCrate) (pool : UpstreamPool) (env : SendEnv) (req : Request)
    (hashKey : Option Str) : Except Panic (Except CoreError Response) := do
  let (picked, _) ← selectEndpoint env.endpoints pool.config.loadBalancing hashKey env.counter
  match picked with
  | none => return .error (.noHealthyEndpoints pool.name)
  | some endpoint =>
      let uri ← rewriteUri uc endpoint.address req.uri
      return env.wire endpoint { req with uri := uri }

/-- The key a request is hashed by, where the algorithm hashes. -/
def hashKeyOf (route : RouteConfig) (pool : UpstreamPool) (headers : HeaderMap) : Option Str :=
  match route.loadBalancing.getD pool.config.loadBalancing with
  | .consistentHashing hashHeader _ => headers.getStr hashHeader
  | _ => none

/-- The arguments of the cache calls of a request. -/
def cacheRequest (route : RouteConfig) (req : Request) : CacheRequest where
  middleware := route.middleware.cache
  routeId := route.id
  method := req.method
  path := req.uri.path
  query := req.uri.query
  headers := req.headers

/-- The arguments of `store`. `handle` passes the response's headers for the
request's. -/
def cacheExchange (route : RouteConfig) (req : Request) (resp : Response) : CacheExchange where
  toCacheRequest := { cacheRequest route req with headers := resp.headers }
  status := resp.status
  responseHeaders := resp.headers
  body := resp.body

namespace Pipeline

section
variable (uc : UriCrate) (env : HandleEnv) (req : Request) (requestId : Str)

/-- Stages 5 to 7, after a cache miss. A panic leaves what the stages before
it did. -/
def forward (pipeline : Pipeline) (route : RouteConfig) (sofar : Handled) :
    Except Panic Handled × Pipeline :=
  match pipeline.upstreams.get route.upstream with
  | none =>
      (.ok { sofar with
        exit := .upstreamMissing
        response := errorResponse 502 "upstream not configured".toList requestId }, pipeline)
  | some upstream =>
      match upstream.send uc env.send (applyRequestMutations req route.headers)
        (hashKeyOf route upstream req.headers) with
      | .error p => (.error p, pipeline)
      | .ok (.error e) =>
          let status := match e with
            | .upstreamTimeout _ => 504
            | _ => 502
          (.ok { sofar with
            exit := .upstreamFailed e
            response := errorResponse status e.toText requestId }, pipeline)
      | .ok (.ok upstreamResp) =>
          let cache := pipeline.cache.store env.store (cacheExchange route req upstreamResp)
          let resp := buildUpstreamResponse upstreamResp route.headers
          (.ok { sofar with
            exit := .forwarded upstreamResp
            response := { resp with headers := injectRequestId resp.headers requestId }
            metrics := sofar.metrics ++
              [.upstream route.id route.upstream upstreamResp.status,
                .request route.id req.method upstreamResp.status req.body.length
                  upstreamResp.body.length] }, { pipeline with cache := cache })

/-- Stage 4, for a request that passed the rate limit. -/
def serve (pipeline : Pipeline) (route : RouteConfig) (sofar : Handled) :
    Except Panic Handled × Pipeline :=
  let (found, cache) := pipeline.cache.lookup env.lookup (cacheRequest route req)
  let pipeline := { pipeline with cache := cache }
  let sofar := { sofar with metrics := sofar.metrics ++ [.cacheLookup route.id found] }
  match found with
  | .hit cached =>
      let resp := buildCachedResponse cached env.ageNow
      (.ok { sofar with
        exit := .cacheHit cached
        response := { resp with headers := injectRequestId resp.headers requestId } }, pipeline)
  | _ => forward uc env req requestId pipeline route sofar

/-- The outcome stage 3 goes on with: an error lets the request through. -/
def failOpen : Except RateLimitError RateLimitOutcome → RateLimitOutcome
  | .ok o => o
  | .error _ => ⟨true, 0, 0, 0, none⟩

/-- Stage 3, for a request that passed auth. -/
def limit (pipeline : Pipeline) (route : RouteConfig) (authCtx : Option AuthContext)
    (sofar : Handled) : Except Panic Handled × Pipeline :=
  let (checked, ratelimit) :=
    pipeline.ratelimit.check env.check route.middleware.rateLimit route.id authCtx req.headers
  let pipeline := { pipeline with ratelimit := ratelimit }
  let outcome := failOpen checked
  let sofar := { sofar with
    metrics := sofar.metrics ++ [.rateLimit route.id outcome]
    checked := some checked }
  if !outcome.allowed then
    let resp := errorResponse 429 "rate limit exceeded".toList requestId
    (.ok { sofar with
      exit := .rateLimited
      response := { resp with headers := resp.headers.insertAll outcome.toHeaders } }, pipeline)
  else serve uc env req requestId pipeline route sofar

/-- Stage 2, for a request that holds a permit. -/
def authenticate (pipeline : Pipeline) (route : RouteConfig) (sofar : Handled) :
    Except Panic Handled × Pipeline :=
  let (result, auth) :=
    pipeline.auth.run env.auth route.middleware.auth req.headers req.peerCertificate
  let pipeline := { pipeline with auth := auth }
  match result with
  | .error e =>
      (.ok { sofar with
        exit := .authFailed e
        response := errorResponse e.statusCode e.toText requestId
        metrics := sofar.metrics ++ [.authFailure route.id e] }, pipeline)
  | .ok authCtx =>
      limit uc env req requestId pipeline route authCtx { sofar with authCtx := authCtx }

/-- From the matched route on: the concurrency gate, then the stages. -/
def handleMatched (pipeline : Pipeline) (route : RouteConfig) : Except Panic Handled × Pipeline :=
  let sofar : Handled := ⟨.noRoute, errorResponse 404 "no route matched".toList requestId, [],
    some route, none, none⟩
  match env.permit with
  | .error why =>
      (.ok { sofar with
        exit := .refused why
        response := serviceUnavailable why.message
        metrics := [.concurrencyRejected route.id "limit".toList] }, pipeline)
  | .ok () => authenticate uc env req requestId pipeline route sofar

end

/-- The id a request is answered under. -/
def requestIdOf (env : HandleEnv) (req : Request) : Str :=
  (req.headers.getStr "x-request-id".toList).getD env.uuid

/-- `pipeline::handle`. -/
def handle (rx : RegexCrate) (uc : UriCrate) (pipeline : Pipeline) (env : HandleEnv)
    (req : Request) : Except Panic Handled × Pipeline :=
  match pipeline.router.matchRequest rx req.uri.path req.method req.headers with
  | .error _ =>
      (.ok ⟨.noRoute, errorResponse 404 "no route matched".toList (requestIdOf env req), [], none,
        none, none⟩, pipeline)
  | .ok matched => handleMatched uc env req (requestIdOf env req) pipeline matched.route

/-- On the router of a config, the route is the one the scan of its routes
picks. -/
theorem handle_eq_handleMatched {rx : RegexCrate} {uc : UriCrate} {cfg : GatewayConfig}
    {pl : Pipeline} {env : HandleEnv} {req : Request} {m : MatchedRoute}
    (hbuild : Router.build rx cfg = .ok pl.router)
    (hscan : scanRequest rx cfg.routes req.uri.path req.method req.headers = .ok m) :
    pl.handle rx uc env req = handleMatched uc env req (requestIdOf env req) pl m.route := by
  unfold handle
  rw [matchRequest_eq_scan hbuild, hscan]

/-! ## How a request ends -/

section
variable (pl : Pipeline) (env : HandleEnv) (req : Request) (route : RouteConfig)
  (ctx : Option AuthContext)

/-- The auth stage of a request on a route. -/
def authRun : Except AuthError (Option AuthContext) × AuthPipeline :=
  pl.auth.run env.auth route.middleware.auth req.headers req.peerCertificate

/-- The rate-limit stage of a request on a route, under an identity. -/
def limitRun : Except RateLimitError RateLimitOutcome × RateLimiter :=
  pl.ratelimit.check env.check route.middleware.rateLimit route.id ctx req.headers

/-- The lookup of a request on a route. -/
def lookupRun : CacheLookup × ResponseCache := pl.cache.lookup env.lookup (cacheRequest route req)

def afterAuth : Pipeline := { pl with auth := (authRun pl env req route).2 }

def afterLimit : Pipeline :=
  { afterAuth pl env req route with ratelimit := (limitRun pl env req route ctx).2 }

def afterLookup : Pipeline :=
  { afterLimit pl env req route ctx with cache := (lookupRun pl env req route).2 }

def afterStore (resp : Response) : Pipeline :=
  { afterLookup pl env req route ctx with
    cache := (lookupRun pl env req route).2.store env.store (cacheExchange route req resp) }

/-- The stages up to the rate limit, and what the record of a request says of
them. -/
structure Admitted (rx : RegexCrate) (h : Handled) : Prop where
  matched : ∃ m, pl.router.matchRequest rx req.uri.path req.method req.headers = .ok m ∧
    m.route = route
  permit : env.permit = .ok ()
  auth : (authRun pl env req route).1 = .ok ctx
  route_eq : h.route = some route
  authCtx_eq : h.authCtx = ctx
  checked_eq : h.checked = some (limitRun pl env req route ctx).1

end

/-- The ways a request ends, and the pipeline it leaves. -/
inductive HandleOutcome (rx : RegexCrate) (pl : Pipeline) (env : HandleEnv) (req : Request) :
    Except Panic Handled → Pipeline → Prop where
  | noRoute {h : Handled} : h.exit = .noRoute → h.checked = none →
      HandleOutcome rx pl env req (.ok h) pl
  | refused {h : Handled} {why : AcquireRefusal} : h.exit = .refused why → h.checked = none →
      HandleOutcome rx pl env req (.ok h) pl
  | authFailed {h : Handled} {route : RouteConfig} {e : AuthError} : h.exit = .authFailed e →
      h.checked = none → HandleOutcome rx pl env req (.ok h) (afterAuth pl env req route)
  | rateLimited {h : Handled} {route : RouteConfig} {ctx : Option AuthContext} :
      Admitted pl env req route ctx rx h → h.exit = .rateLimited →
      HandleOutcome rx pl env req (.ok h) (afterLimit pl env req route ctx)
  | cacheHit {h : Handled} {route : RouteConfig} {ctx : Option AuthContext}
      {entry : CachedResponse} : Admitted pl env req route ctx rx h →
      (failOpen (limitRun pl env req route ctx).1).allowed = true → h.exit = .cacheHit entry →
      (lookupRun pl env req route).1 = .hit entry →
      HandleOutcome rx pl env req (.ok h) (afterLookup pl env req route ctx)
  | panicked {h : Handled} {route : RouteConfig} {ctx : Option AuthContext} {p : Panic} :
      Admitted pl env req route ctx rx h →
      HandleOutcome rx pl env req (.error p) (afterLookup pl env req route ctx)
  | upstreamMissing {h : Handled} {route : RouteConfig} {ctx : Option AuthContext} :
      Admitted pl env req route ctx rx h → h.exit = .upstreamMissing →
      pl.upstreams.get route.upstream = none →
      HandleOutcome rx pl env req (.ok h) (afterLookup pl env req route ctx)
  | upstreamFailed {h : Handled} {route : RouteConfig} {ctx : Option AuthContext} {e : CoreError} :
      Admitted pl env req route ctx rx h → h.exit = .upstreamFailed e →
      HandleOutcome rx pl env req (.ok h) (afterLookup pl env req route ctx)
  | forwarded {h : Handled} {route : RouteConfig} {ctx : Option AuthContext} {resp : Response} :
      Admitted pl env req route ctx rx h → h.exit = .forwarded resp →
      HandleOutcome rx pl env req (.ok h) (afterStore pl env req route ctx resp)

section
variable {rx : RegexCrate} {uc : UriCrate} {pl : Pipeline} {env : HandleEnv} {req : Request}
  {requestId : Str} {route : RouteConfig} {ctx : Option AuthContext} {sofar : Handled}

/-- Later stages change only the exit, the response and the metrics. -/
theorem Admitted.record {metrics : List MetricCall} {exit : HandleExit} {response : Response}
    (hsofar : Admitted pl env req route ctx rx sofar) :
    Admitted pl env req route ctx rx
      { sofar with metrics := metrics, exit := exit, response := response } :=
  ⟨hsofar.matched, hsofar.permit, hsofar.auth, hsofar.route_eq, hsofar.authCtx_eq,
    hsofar.checked_eq⟩

theorem forward_outcome (hsofar : Admitted pl env req route ctx rx sofar) :
    HandleOutcome rx pl env req
      (forward uc env req requestId (afterLookup pl env req route ctx) route sofar).1
      (forward uc env req requestId (afterLookup pl env req route ctx) route sofar).2 := by
  have hupstreams : (afterLookup pl env req route ctx).upstreams = pl.upstreams := rfl
  unfold forward
  rw [hupstreams]
  cases hup : pl.upstreams.get route.upstream with
  | none => exact .upstreamMissing hsofar.record rfl hup
  | some upstream =>
      simp only
      cases upstream.send uc env.send (applyRequestMutations req route.headers)
          (hashKeyOf route upstream req.headers) with
      | error p => exact .panicked hsofar
      | ok result =>
          cases result with
          | error e => exact .upstreamFailed hsofar.record rfl
          | ok resp => exact .forwarded hsofar.record rfl

theorem serve_outcome (hsofar : Admitted pl env req route ctx rx sofar)
    (hallowed : (failOpen (limitRun pl env req route ctx).1).allowed = true) :
    HandleOutcome rx pl env req
      (serve uc env req requestId (afterLimit pl env req route ctx) route sofar).1
      (serve uc env req requestId (afterLimit pl env req route ctx) route sofar).2 := by
  have hlookup : (afterLimit pl env req route ctx).cache.lookup env.lookup
      (cacheRequest route req) = lookupRun pl env req route := rfl
  unfold serve
  rw [hlookup]
  cases hfound : (lookupRun pl env req route).1 with
  | hit entry =>
      simp only [hfound]
      exact .cacheHit hsofar.record hallowed rfl hfound
  | miss =>
      simp only [hfound]
      exact forward_outcome hsofar.record
  | bypass =>
      simp only [hfound]
      exact forward_outcome hsofar.record

variable (rx uc pl env req) in
/-- **Every handled request ends in one of the ways.** -/
theorem handle_outcome : HandleOutcome rx pl env req (handle rx uc pl env req).1
    (handle rx uc pl env req).2 := by
  unfold handle
  cases hmatch : pl.router.matchRequest rx req.uri.path req.method req.headers with
  | error e => exact .noRoute rfl rfl
  | ok m =>
  simp only [handleMatched]
  cases hpermit : env.permit with
  | error why => exact .refused rfl rfl
  | ok u =>
  have hrun : pl.auth.run env.auth m.route.middleware.auth req.headers req.peerCertificate =
      authRun pl env req m.route := rfl
  simp only [authenticate, hrun]
  cases hauth : (authRun pl env req m.route).1 with
  | error e => exact @HandleOutcome.authFailed _ _ _ _ _ m.route _ rfl rfl
  | ok ctx =>
  have hcheck : pl.ratelimit.check env.check m.route.middleware.rateLimit m.route.id ctx
      req.headers = limitRun pl env req m.route ctx := rfl
  simp only [limit, hcheck]
  cases hallowed : (failOpen (limitRun pl env req m.route ctx).1).allowed with
  | false =>
      simp only [Bool.not_false, ↓reduceIte]
      exact .rateLimited ⟨⟨m, hmatch, rfl⟩, hpermit, hauth, rfl, rfl, rfl⟩ rfl
  | true =>
      simp only [Bool.not_true, Bool.false_eq_true, ↓reduceIte]
      exact serve_outcome ⟨⟨m, hmatch, rfl⟩, hpermit, hauth, rfl, rfl, rfl⟩ hallowed

end

end Pipeline

/-! ## A request -/

/-- Everything reachable, no credentials known, and an upstream that answers
`resp`. -/
def HandleEnv.answering (resp : Response) : HandleEnv where
  uuid := "00000000-0000-0000-0000-000000000000".toList
  permit := .ok ()
  auth := AuthPipeline.bareEnv
  check := ⟨0, .ok [1, 1, 0]⟩
  lookup := .zero
  ageNow := 0
  send := ⟨[.new "127.0.0.1:9000".toList 1], 0, fun _ _ => .ok resp⟩
  store := .zero

/-- A `GET` without a body. -/
def Request.get (path : Str) (headers : HeaderMap) : Request :=
  ⟨"GET".toList, ⟨some ⟨path, none⟩⟩, headers, [], none⟩

end Stateform
