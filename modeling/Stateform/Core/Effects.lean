import Stateform.Core.Fleet
import Stateform.Core.Stages
import Stateform.RateLimit.Keys

/-!
# What a request changes

`pipeline::handle` once more, over everything its stages own: the permits of the
gate, the key cache of auth, the buckets and the Redis keys of the limiter, both
cache layers, and the endpoints and counters of the pools. A request that a stage
rejects has changed nothing behind that stage, and a response with content of the
cache or of an upstream has passed all of them (`handle_guarded`). With the answers
its stages give, a request does what `Pipeline.handle` does (`handle_refines`).
-/

namespace Stateform

/-! ## A request, over the state of its stages -/

/-- The stages that own state, in the order of `handle`. -/
inductive Stage : Type where
  | route
  | gate
  | auth
  | limit
  | cache
  | upstream
deriving DecidableEq

def Stage.rank : Stage → ℕ
  | .route => 0
  | .gate => 1
  | .auth => 2
  | .limit => 3
  | .cache => 4
  | .upstream => 5

/-- The state of all stages. The keys are those of the Redis the limiter is on. `begun` is a
record: each stage that was begun behind the gate, with the limiter as it was then. -/
structure Gateway : Type where
  pipeline : Pipeline
  concurrency : ConcurrencyLimiter
  rateKeys : RateKeys
  begun : List (Stage × ConcurrencyLimiter)

/-- What one request meets. -/
structure GatewayEnv : Type where
  uuid : Str
  gate : GateEnv
  auth : AuthEnv
  limit : LimitEnv
  lookup : CacheEnv
  ageNow : ℕ
  wire : WireEnv
  store : CacheEnv

namespace Gateway

/-- A stage begins. -/
def enter (g : Gateway) (stage : Stage) : Gateway :=
  { g with begun := g.begun ++ [(stage, g.concurrency)] }

section
variable (uc : UriCrate) (env : GatewayEnv) (req : Request) (requestId : Str)

/-- Stages 5 to 7, after a cache miss. -/
def forward (g : Gateway) (route : RouteConfig) (sofar : Handled) :
    Except Panic Handled × Gateway :=
  match g.pipeline.upstreams.get route.upstream with
  | none =>
      (.ok { sofar with
        exit := .upstreamMissing
        response := errorResponse 502 "upstream not configured".toList requestId }, g)
  | some upstream =>
      let (sent, upstream') := upstream.exchange uc env.wire
        (applyRequestMutations req route.headers) (hashKeyOf route upstream req.headers)
      let g := { g with
        pipeline := { g.pipeline with
          upstreams := ⟨g.pipeline.upstreams.pools.insert route.upstream upstream'⟩ } }
      match sent with
      | .error p => (.error p, g)
      | .ok (.error e) =>
          let status := match e with
            | .upstreamTimeout _ => 504
            | _ => 502
          (.ok { sofar with
            exit := .upstreamFailed e
            response := errorResponse status e.toText requestId }, g)
      | .ok (.ok upstreamResp) =>
          let cache := g.pipeline.cache.store env.store (cacheExchange route req upstreamResp)
          let resp := buildUpstreamResponse upstreamResp route.headers
          (.ok { sofar with
            exit := .forwarded upstreamResp
            response := { resp with headers := injectRequestId resp.headers requestId }
            metrics := sofar.metrics ++
              [.upstream route.id route.upstream upstreamResp.status,
                .request route.id req.method upstreamResp.status req.body.length
                  upstreamResp.body.length] },
            { g.enter .cache with pipeline := { g.pipeline with cache := cache } })

/-- Stage 4. -/
def serve (g : Gateway) (route : RouteConfig) (sofar : Handled) :
    Except Panic Handled × Gateway :=
  let (found, cache) := g.pipeline.cache.lookup env.lookup (cacheRequest route req)
  let g := { g with pipeline := { g.pipeline with cache := cache } }
  let sofar := { sofar with metrics := sofar.metrics ++ [.cacheLookup route.id found] }
  match found with
  | .hit cached =>
      let resp := buildCachedResponse cached env.ageNow
      (.ok { sofar with
        exit := .cacheHit cached
        response := { resp with headers := injectRequestId resp.headers requestId } }, g)
  | _ => forward uc env req requestId (g.enter .upstream) route sofar

/-- Stage 3. -/
def limit (g : Gateway) (route : RouteConfig) (authCtx : Option AuthContext) (sofar : Handled) :
    Except Panic Handled × Gateway :=
  let (checked, ratelimit, rateKeys) :=
    g.pipeline.ratelimit.checkKeys g.rateKeys env.limit route.middleware.rateLimit route.id authCtx
      req.headers
  let g := { g with pipeline := { g.pipeline with ratelimit := ratelimit }, rateKeys := rateKeys }
  let outcome := Pipeline.failOpen checked
  let sofar := { sofar with
    metrics := sofar.metrics ++ [.rateLimit route.id outcome]
    checked := some checked }
  if !outcome.allowed then
    let resp := errorResponse 429 "rate limit exceeded".toList requestId
    (.ok { sofar with
      exit := .rateLimited
      response := { resp with headers := resp.headers.insertAll outcome.toHeaders } }, g)
  else serve uc env req requestId (g.enter .cache) route sofar

/-- Stage 2. -/
def authenticate (g : Gateway) (route : RouteConfig) (sofar : Handled) :
    Except Panic Handled × Gateway :=
  let (result, auth) :=
    g.pipeline.auth.run env.auth route.middleware.auth req.headers req.peerCertificate
  let g := { g with pipeline := { g.pipeline with auth := auth } }
  match result with
  | .error e =>
      (.ok { sofar with
        exit := .authFailed e
        response := errorResponse e.statusCode e.toText requestId
        metrics := sofar.metrics ++ [.authFailure route.id e] }, g)
  | .ok authCtx =>
      limit uc env req requestId (g.enter .limit) route authCtx { sofar with authCtx := authCtx }

/-- The record of a request once its route is known. -/
def started (route : RouteConfig) : Handled :=
  ⟨.noRoute, errorResponse 404 "no route matched".toList requestId, [], some route, none, none⟩

/-- From the matched route on. The permit is dropped when `handle` returns or unwinds. -/
def handleMatched (g : Gateway) (route : RouteConfig) : Except Panic Handled × Gateway :=
  let sofar := started requestId route
  let (acquired, concurrency) := g.concurrency.acquire env.gate route.id
  let g := { g with concurrency := concurrency }
  match acquired with
  | .error why =>
      (.ok { sofar with
        exit := .refused why
        response := serviceUnavailable why.message
        metrics := [.concurrencyRejected route.id "limit".toList] }, g)
  | .ok permit =>
      let (handled, g) := authenticate uc env req requestId (g.enter .auth) route sofar
      (handled, { g with concurrency := g.concurrency.dropPermit route.id permit })

end

/-- The id a request is answered under. -/
def requestIdOf (env : GatewayEnv) (req : Request) : Str :=
  (req.headers.getStr "x-request-id".toList).getD env.uuid

/-- `pipeline::handle`. -/
def handle (rx : RegexCrate) (uc : UriCrate) (g : Gateway) (env : GatewayEnv) (req : Request) :
    Except Panic Handled × Gateway :=
  match g.pipeline.router.matchRequest rx req.uri.path req.method req.headers with
  | .error _ =>
      (.ok ⟨.noRoute, errorResponse 404 "no route matched".toList (requestIdOf env req), [], none,
        none, none⟩, g)
  | .ok matched => handleMatched uc env req (requestIdOf env req) g matched.route

/-! ## Rejected, or let through -/

/-- The state a stage owns is as it was. -/
def Untouched (g g' : Gateway) : Stage → Prop
  | .route => g'.pipeline.router = g.pipeline.router
  | .gate => g'.concurrency = g.concurrency
  | .auth => g'.pipeline.auth = g.pipeline.auth
  | .limit => g'.pipeline.ratelimit = g.pipeline.ratelimit ∧ g'.rateKeys = g.rateKeys
  | .cache => g'.pipeline.cache = g.pipeline.cache
  | .upstream => g'.pipeline.upstreams = g.pipeline.upstreams

/-- Nothing behind a stage has changed. -/
def Frame (stage : Stage) (g g' : Gateway) : Prop :=
  ∀ later : Stage, stage.rank < later.rank → Untouched g g' later

/-- The stage that ended a request, if it was one that rejects. -/
def stageOf : HandleExit → Option Stage
  | .noRoute => some .route
  | .refused _ => some .gate
  | .authFailed _ => some .auth
  | .rateLimited => some .limit
  | _ => none

/-- A response made of a cache entry or of an upstream's response, under a request id. -/
inductive CarriesContent : Response → Prop where
  | cached (entry : CachedResponse) (now : ℕ) (requestId : Str) :
      CarriesContent { buildCachedResponse entry now with
        headers := injectRequestId (buildCachedResponse entry now).headers requestId }
  | upstream (resp : Response) (mutations : HeaderMutations) (requestId : Str) :
      CarriesContent { buildUpstreamResponse resp mutations with
        headers := injectRequestId (buildUpstreamResponse resp mutations).headers requestId }

section
variable (rx : RegexCrate) (g : Gateway) (env : GatewayEnv) (req : Request)

/-- What stage 2 answers a request on a route. -/
def authOf (route : RouteConfig) : Except AuthError (Option AuthContext) :=
  (g.pipeline.auth.run env.auth route.middleware.auth req.headers req.peerCertificate).1

/-- What stage 3 answers a request on a route, under an identity. -/
def checkOf (route : RouteConfig) (ctx : Option AuthContext) :
    Except RateLimitError RateLimitOutcome :=
  (g.pipeline.ratelimit.checkKeys g.rateKeys env.limit route.middleware.rateLimit route.id ctx
    req.headers).1

/-- The state stage 2 leaves, in which stage 3 begins. -/
def afterAuth (route : RouteConfig) : Gateway :=
  let passed := { g with
    pipeline := { g.pipeline with
      auth := (g.pipeline.auth.run env.auth route.middleware.auth req.headers
        req.peerCertificate).2 } }
  passed.enter .limit

/-- The stages that reject have answered a request: it has a route, holds a permit, has
passed auth, and the limiter allows it or fails. -/
structure Passed (m : MatchedRoute) (permit : ConcurrencyPermit) (ctx : Option AuthContext) :
    Prop where
  matched : g.pipeline.router.matchRequest rx req.uri.path req.method req.headers = .ok m
  permit : (g.concurrency.acquire env.gate m.route.id).1 = .ok permit
  auth : authOf g env req m.route = .ok ctx
  limit : ∀ outcome, checkOf g env req m.route ctx = .ok outcome → outcome.allowed = true

/-- A stage answers a request that it is rejected. -/
inductive RejectedAt : Stage → Prop where
  | noRoute (e : RouterError) :
      g.pipeline.router.matchRequest rx req.uri.path req.method req.headers = .error e →
      RejectedAt .route
  | refused (m : MatchedRoute) (why : AcquireRefusal) :
      g.pipeline.router.matchRequest rx req.uri.path req.method req.headers = .ok m →
      (g.concurrency.acquire env.gate m.route.id).1 = .error why → RejectedAt .gate
  | authFailed (m : MatchedRoute) (permit : ConcurrencyPermit) (e : AuthError) :
      g.pipeline.router.matchRequest rx req.uri.path req.method req.headers = .ok m →
      (g.concurrency.acquire env.gate m.route.id).1 = .ok permit →
      authOf g env req m.route = .error e → RejectedAt .auth
  | rateLimited (m : MatchedRoute) (permit : ConcurrencyPermit) (ctx : Option AuthContext)
      (outcome : RateLimitOutcome) :
      g.pipeline.router.matchRequest rx req.uri.path req.method req.headers = .ok m →
      (g.concurrency.acquire env.gate m.route.id).1 = .ok permit →
      authOf g env req m.route = .ok ctx → checkOf g env req m.route ctx = .ok outcome →
      outcome.allowed = false → RejectedAt .limit

end

/-- A rejected request: its response has no content, and nothing behind the stage has
changed. -/
structure Rejects (stage : Stage) (g : Gateway) (result : Except Panic Handled × Gateway) :
    Prop where
  answer : ∃ h, result.1 = .ok h ∧ stageOf h.exit = some stage ∧ ¬ CarriesContent h.response
  frame : Frame stage g result.2

/-- The stages behind the gate ran while a permit was out: auth, the limiter, the cache and all
that followed began with the limiter as `acquire` had left it, and the permit was dropped after
the last of them. -/
structure HeldThroughout (g g' : Gateway) (held : ConcurrencyLimiter) (routeId : Str)
    (permit : ConcurrencyPermit) : Prop where
  lent : g.concurrency.Lent held routeId permit
  begun : ∃ later, g'.begun = g.begun ++ [(.auth, held), (.limit, held), (.cache, held)] ++ later ∧
    ∀ e ∈ later, e.2 = held
  back : g'.concurrency = held.dropPermit routeId permit

/-- A request that no stage rejects. -/
def GetsPast (result : Except Panic Handled) : Prop := ∀ h, result = .ok h → stageOf h.exit = none

/-- How a request ends. -/
inductive Ended (rx : RegexCrate) (g : Gateway) (env : GatewayEnv) (req : Request)
    (result : Except Panic Handled × Gateway) : Prop where
  | rejected (stage : Stage) : RejectedAt rx g env req stage → Rejects stage g result →
      Ended rx g env req result
  | passed (m : MatchedRoute) (permit : ConcurrencyPermit) (ctx : Option AuthContext)
      (held : ConcurrencyLimiter) :
      Passed rx g env req m permit ctx → HeldThroughout g result.2 held m.route.id permit →
        GetsPast result.1 → Ended rx g env req result

/-! ## Responses of the gateway's own -/

section
variable {resp : Response} {requestId : Str}

theorem CarriesContent.has_xCache (h : CarriesContent resp) : resp.headers.Has xCache := by
  have hne : xCache ≠ xRequestId := by decide
  cases h with
  | cached entry now requestId =>
      rw [has_injectRequestId hne]
      apply HeaderMap.has_appendAll.mpr
      left
      rw [HeaderMap.has_append, HeaderMap.has_append]
      exact .inr (.inl rfl)
  | upstream resp mutations requestId =>
      rw [has_injectRequestId hne]
      exact HeaderMap.has_insert.mpr (.inl rfl)

theorem errorResponse_not_has (status : ℕ) (message : Str) :
    ¬ (errorResponse status message requestId).headers.Has xCache := by
  unfold errorResponse
  rw [has_injectRequestId (by decide), HeaderMap.has_append]
  rintro (hname | hempty)
  · exact absurd hname (by decide)
  · exact HeaderMap.has_empty hempty

theorem serviceUnavailable_not_has (msg : Str) :
    ¬ (serviceUnavailable msg).headers.Has xCache := by
  unfold serviceUnavailable
  rw [HeaderMap.has_append, HeaderMap.has_append]
  rintro (hname | hname | hempty)
  · exact absurd hname (by decide)
  · exact absurd hname (by decide)
  · exact HeaderMap.has_empty hempty

/-- The names of a limit's headers. -/
def limitHeaders : List Str :=
  ["X-RateLimit-Limit".toList, "X-RateLimit-Remaining".toList, "Retry-After".toList]

theorem name_of_toHeaders (o : RateLimitOutcome) {p : Str × Str} (hp : p ∈ o.toHeaders) :
    p.1 ∈ limitHeaders := by
  unfold RateLimitOutcome.toHeaders at hp
  simp only [List.mem_append, List.mem_cons, List.not_mem_nil, or_false] at hp
  rcases hp with (rfl | rfl) | hp
  · simp [limitHeaders]
  · simp [limitHeaders]
  · split at hp
    · obtain rfl := List.mem_singleton.mp hp
      simp [limitHeaders]
    · exact absurd hp List.not_mem_nil

/-- A limit's headers have no other name. -/
theorem toHeaders_ne (o : RateLimitOutcome) {name : HeaderName}
    (hne : ∀ limit ∈ limitHeaders, name.text ≠ toAsciiLowercase limit)
    {e : HeaderName × HeaderValue} (he : e ∈ validPairs o.toHeaders) : e.1 ≠ name := by
  intro hname
  obtain ⟨p, hp, htext⟩ := text_of_validPairs he
  rw [hname] at htext
  exact hne p.1 (name_of_toHeaders o hp) htext

theorem rateLimited_not_has (o : RateLimitOutcome) {headers : HeaderMap}
    (h : ¬ headers.Has xCache) : ¬ (headers.insertAll o.toHeaders).Has xCache := by
  rw [HeaderMap.has_insertAll]
  rintro (hhas | ⟨e, he, hname⟩)
  · exact h hhas
  · exact toHeaders_ne o (by decide) he hname

end

/-! ## Under one permit -/

/-- From a state on, every stage began with the limiter of that state, and left it so. -/
structure Under (g g' : Gateway) : Prop where
  same : g'.concurrency = g.concurrency
  begun : ∃ later, g'.begun = g.begun ++ later ∧ ∀ e ∈ later, e.2 = g.concurrency

theorem Under.of_same {g g' : Gateway} (hsame : g'.concurrency = g.concurrency)
    (hbegun : g'.begun = g.begun) : Under g g' :=
  ⟨hsame, [], by rw [hbegun, List.append_nil], by simp⟩

theorem Under.trans {g₁ g₂ g₃ : Gateway} (h : Under g₁ g₂) (h' : Under g₂ g₃) : Under g₁ g₃ := by
  obtain ⟨later, hbegun, hlater⟩ := h.begun
  obtain ⟨later', hbegun', hlater'⟩ := h'.begun
  refine ⟨h'.same.trans h.same, later ++ later', ?_, ?_⟩
  · rw [hbegun', hbegun, List.append_assoc]
  · intro e he
    rcases List.mem_append.mp he with he | he
    · exact hlater e he
    · exact (hlater' e he).trans h.same

theorem under_enter (g : Gateway) (stage : Stage) : Under g (g.enter stage) := by
  refine ⟨rfl, [(stage, g.concurrency)], rfl, ?_⟩
  intro e he
  rw [List.mem_singleton.mp he]

/-! ## Stage by stage -/

section
variable {rx : RegexCrate} {uc : UriCrate} {g : Gateway} {env : GatewayEnv} {req : Request}
  {requestId : Str} {route : RouteConfig} {ctx : Option AuthContext} {sofar : Handled}

theorem forward_getsPast : GetsPast (forward uc env req requestId g route sofar).1 := by
  intro h hrun
  unfold forward at hrun
  cases hup : g.pipeline.upstreams.get route.upstream with
  | none =>
      simp only [hup] at hrun
      cases hrun
      rfl
  | some upstream =>
      simp only [hup] at hrun
      split at hrun
      · cases hrun
      · cases hrun
        rfl
      · cases hrun
        rfl

theorem forward_under : Under g (forward uc env req requestId g route sofar).2 := by
  unfold forward
  cases hup : g.pipeline.upstreams.get route.upstream with
  | none => exact .of_same rfl rfl
  | some upstream =>
      simp only
      split
      · exact .of_same rfl rfl
      · exact .of_same rfl rfl
      · exact (under_enter g .cache).trans (.of_same rfl rfl)

theorem serve_getsPast : GetsPast (serve uc env req requestId g route sofar).1 := by
  intro h hrun
  unfold serve at hrun
  simp only at hrun
  split at hrun
  · cases hrun
    rfl
  · exact forward_getsPast h hrun

theorem serve_under : Under g (serve uc env req requestId g route sofar).2 := by
  unfold serve
  simp only
  split
  · exact .of_same rfl rfl
  · refine Under.trans ?_ ((under_enter _ .upstream).trans forward_under)
    exact .of_same rfl rfl

variable (uc g env req requestId route ctx sofar) in
/-- Stage 3 rejects, or the limiter has allowed the request or failed and stage 4 begins. -/
theorem limit_cases :
    (∃ outcome, checkOf g env req route ctx = .ok outcome ∧ outcome.allowed = false ∧
      Rejects .limit g (limit uc env req requestId g route ctx sofar)) ∨
    (∀ outcome, checkOf g env req route ctx = .ok outcome → outcome.allowed = true) ∧
      GetsPast (limit uc env req requestId g route ctx sofar).1 ∧
        Under (g.enter .cache) (limit uc env req requestId g route ctx sofar).2 := by
  unfold checkOf limit
  cases hcheck : g.pipeline.ratelimit.checkKeys g.rateKeys env.limit route.middleware.rateLimit
    route.id ctx req.headers with
  | mk checked rest =>
  simp only
  cases hallowed : (Pipeline.failOpen checked).allowed with
  | false =>
      left
      -- only an answer of the limiter denies: after an error the request goes on
      cases checked with
      | error e => exact absurd hallowed nofun
      | ok outcome =>
          refine ⟨outcome, rfl, hallowed, ⟨_, rfl, rfl, ?_⟩, ?_⟩
          · intro hcontent
            exact rateLimited_not_has _ (errorResponse_not_has _ _) hcontent.has_xCache
          · intro later hlater
            cases later with
            | cache => rfl
            | upstream => rfl
            | _ => exact absurd hlater (by decide)
  | true =>
      right
      simp only [Bool.not_true, Bool.false_eq_true, ↓reduceIte]
      refine ⟨?_, serve_getsPast, Under.trans ?_ serve_under⟩
      · rintro outcome rfl
        exact hallowed
      · exact .of_same rfl rfl

variable (uc g env req requestId route sofar) in
/-- Stage 2 rejects, or hands its context to stage 3. -/
theorem authenticate_cases :
    (∃ e, authOf g env req route = .error e ∧
      Rejects .auth g (authenticate uc env req requestId g route sofar)) ∨
    ∃ ctx, authOf g env req route = .ok ctx ∧
      authenticate uc env req requestId g route sofar =
        limit uc env req requestId (afterAuth g env req route) route ctx
          { sofar with authCtx := ctx } := by
  unfold authOf afterAuth authenticate
  cases hrun : g.pipeline.auth.run env.auth route.middleware.auth req.headers
    req.peerCertificate with
  | mk result auth =>
  cases result with
  | ok ctx =>
      refine .inr ⟨ctx, rfl, ?_⟩
      simp only
  | error e =>
      left
      refine ⟨e, rfl, ⟨_, rfl, rfl, ?_⟩, ?_⟩
      · intro hcontent
        exact errorResponse_not_has _ _ hcontent.has_xCache
      · intro later hlater
        cases later with
        | limit => exact ⟨rfl, rfl⟩
        | cache => rfl
        | upstream => rfl
        | _ => exact absurd hlater (by decide)

/-- A rejection behind the gate stays one when the permit is dropped, whatever the stages
in front of it have done. -/
theorem Rejects.behind {stage : Stage} {g₀ : Gateway} {result : Except Panic Handled × Gateway}
    (h : Rejects stage g result) (hgate : Stage.gate.rank < stage.rank)
    (hstart : Frame stage g₀ g) (concurrency : ConcurrencyLimiter) :
    Rejects stage g₀ (result.1, { result.2 with concurrency := concurrency }) := by
  refine ⟨h.answer, ?_⟩
  intro later hlater
  have hold := hstart later hlater
  have hnew := h.frame later hlater
  cases later with
  | route => exact hnew.trans hold
  | gate => exact absurd hlater (by omega)
  | auth => exact hnew.trans hold
  | limit => exact ⟨hnew.1.trans hold.1, hnew.2.trans hold.2⟩
  | cache => exact hnew.trans hold
  | upstream => exact hnew.trans hold

variable (rx uc g env req) in
/-- **Every request ends in one of the two ways.** -/
theorem handle_ended : Ended rx g env req (handle rx uc g env req) := by
  unfold handle
  cases hmatch : g.pipeline.router.matchRequest rx req.uri.path req.method req.headers with
  | error e =>
      refine .rejected .route (.noRoute e hmatch) ⟨⟨_, rfl, rfl, ?_⟩, ?_⟩
      · intro hcontent
        exact errorResponse_not_has _ _ hcontent.has_xCache
      · intro later _
        cases later with
        | limit => exact ⟨rfl, rfl⟩
        | _ => rfl
  | ok m =>
  simp only [handleMatched]
  cases hacquire : g.concurrency.acquire env.gate m.route.id with
  | mk acquired concurrency =>
  have hacquired : (g.concurrency.acquire env.gate m.route.id).1 = acquired := by rw [hacquire]
  have hstart : ∀ stage : Stage, Stage.gate.rank < stage.rank →
      Frame stage g ({ g with concurrency := concurrency }.enter .auth) := by
    intro stage hgate later hlater
    cases later with
    | gate => exact absurd hlater (by omega)
    | limit => exact ⟨rfl, rfl⟩
    | _ => rfl
  cases acquired with
  | error why =>
      refine .rejected .gate (.refused m why hmatch hacquired) ⟨⟨_, rfl, rfl, ?_⟩, ?_⟩
      · intro hcontent
        exact serviceUnavailable_not_has _ hcontent.has_xCache
      · intro later hlater
        cases later with
        | route => rfl
        | gate => exact absurd hlater (by decide)
        | limit => exact ⟨rfl, rfl⟩
        | _ => rfl
  | ok permit =>
  let behind : Gateway := { g with concurrency := concurrency }.enter .auth
  rcases authenticate_cases uc behind env req (requestIdOf env req) m.route
    (started (requestIdOf env req) m.route) with ⟨e, hauth, hrejects⟩ | ⟨ctx, hauth, hlimit⟩
  · exact .rejected .auth (.authFailed m permit e hmatch hacquired hauth)
      (hrejects.behind (by decide) (hstart .auth (by decide)) _)
  simp only
  rw [hlimit]
  rcases limit_cases uc (afterAuth behind env req m.route) env req (requestIdOf env req) m.route ctx
    { started (requestIdOf env req) m.route with authCtx := ctx } with
    ⟨outcome, hcheck, hdenied, hrejects⟩ | ⟨hallowed, hpast, hunder⟩
  · refine .rejected .limit ?_ (hrejects.behind (by decide) ?_ _)
    · exact .rateLimited m permit ctx outcome hmatch hacquired hauth hcheck hdenied
    intro later hlater
    cases later with
    | cache => rfl
    | upstream => rfl
    | _ => exact absurd hlater (by decide)
  · refine .passed m permit ctx concurrency ⟨hmatch, hacquired, hauth, hallowed⟩
      ⟨ConcurrencyLimiter.acquire_lent hacquire, ?_, ?_⟩ hpast
    · obtain ⟨later, hbegun, hlater⟩ := hunder.begun
      refine ⟨later, ?_, hlater⟩
      rw [hbegun]
      simp [behind, afterAuth, enter]
    · show (limit _ _ _ _ _ _ _ _).2.concurrency.dropPermit _ _ = _
      rw [hunder.same]
      rfl

theorem RejectedAt.unique {stage stage' : Stage} (h : RejectedAt rx g env req stage)
    (h' : RejectedAt rx g env req stage') : stage = stage' := by
  cases h <;> cases h' <;> grind

theorem RejectedAt.not_passed {stage : Stage} {m : MatchedRoute} {permit : ConcurrencyPermit}
    (h : RejectedAt rx g env req stage) (hpassed : Passed rx g env req m permit ctx) : False := by
  obtain ⟨hmatch, hpermit, hauth, hlimit⟩ := hpassed
  cases h <;> grind

end

/-- **Nothing passes a stage that rejects it, and nothing happens behind that stage.** -/
theorem handle_guarded (rx : RegexCrate) (uc : UriCrate) (g : Gateway) (env : GatewayEnv)
    (req : Request) :
    (∀ h, (g.handle rx uc env req).1 = .ok h → CarriesContent h.response →
      ∃ m permit ctx held, Passed rx g env req m permit ctx ∧
        HeldThroughout g (g.handle rx uc env req).2 held m.route.id permit) ∧
    ∀ stage, RejectedAt rx g env req stage → Rejects stage g (g.handle rx uc env req) := by
  constructor
  · intro h hrun hcontent
    cases handle_ended rx uc g env req with
    | passed m permit ctx held hpassed hheld _ => exact ⟨m, permit, ctx, held, hpassed, hheld⟩
    | rejected stage _ hrejects =>
        obtain ⟨h', hrun', _, hnone⟩ := hrejects.answer
        cases hrun.symm.trans hrun'
        exact absurd hcontent hnone
  · intro stage hstage
    cases handle_ended rx uc g env req with
    | passed m permit ctx held hpassed _ _ => exact (hstage.not_passed hpassed).elim
    | rejected stage' hstage' hrejects =>
        rw [hstage.unique hstage']
        exact hrejects

/-- The profile route behind an API key, one request at a time. -/
def guardedRoute : RouteConfig := { profileRoute with maxConcurrentRequests := some 1 }

def guardedConfig : GatewayConfig :=
  { GatewayConfig.withRoutes [guardedRoute] with listener := ⟨4 * 1024 * 1024, 2, 100⟩ }

/-- Built from that config around a router, before any request. -/
def guardedGateway (router : Router) : Gateway where
  pipeline := GatewayServer.initialPipeline guardedConfig router
  concurrency := .withRoute 2 "profile".toList 1
  rateKeys := ⟨∅⟩
  begun := []

/-- Free permits, two API keys, an empty cache, and an upstream that answers. -/
def guardedEnv : GatewayEnv where
  uuid := "7".toList
  gate := ⟨false, false⟩
  auth := { AuthPipeline.bareEnv with apiKeys := twoKeys }
  limit := ⟨0, 0, "7".toList, true, 0, fun _ => [], []⟩
  lookup := .zero
  ageNow := 0
  wire := ⟨0, fun _ _ _ => .response 200 aliceProfile.headers (.ok aliceProfile.body),
    fun _ => 0, 5⟩
  store := .zero

example : ConcurrencyLimiter.build guardedConfig = .ok (.withRoute 2 "profile".toList 1) := rfl

/-- Alice's profile is fetched under a permit; without a key nothing is asked. -/
theorem handle_guarded_profile : ∃ router, Router.build .literal guardedConfig = .ok router ∧
    (∃ h m permit ctx held,
      ((guardedGateway router).handle .literal .plain guardedEnv (profileRequest "k-alice")).1 =
        .ok h ∧ h.exit = .forwarded aliceProfile ∧
      Passed .literal (guardedGateway router) guardedEnv (profileRequest "k-alice") m permit ctx ∧
      HeldThroughout (guardedGateway router)
        ((guardedGateway router).handle .literal .plain guardedEnv (profileRequest "k-alice")).2
        held m.route.id permit) ∧
    Rejects .auth (guardedGateway router)
      ((guardedGateway router).handle .literal .plain guardedEnv (profileRequest "k-eve")) := by
  have hvalid : validate .literal guardedConfig = .ok () := by decide
  rcases load_build hvalid with ⟨router, hrouter, -, -⟩
  have hmatch : ∀ key, (guardedGateway router).pipeline.router.matchRequest .literal
      (profileRequest key).uri.path (profileRequest key).method (profileRequest key).headers =
        .ok ⟨guardedRoute, []⟩ := by
    intro key
    exact (matchRequest_eq_scan hrouter _ _ _).trans rfl
  refine ⟨router, hrouter, ?_, ?_⟩
  · have hrun : ∃ h, ((guardedGateway router).handle .literal .plain guardedEnv
        (profileRequest "k-alice")).1 = .ok h ∧ h.exit = .forwarded aliceProfile ∧
          CarriesContent h.response := by
      unfold handle
      rw [hmatch]
      exact ⟨_, rfl, rfl, .upstream aliceProfile guardedRoute.headers "7".toList⟩
    obtain ⟨h, hrun, hexit, hcontent⟩ := hrun
    obtain ⟨m, permit, ctx, held, hpassed, hheld⟩ :=
      (handle_guarded .literal .plain (guardedGateway router) guardedEnv
        (profileRequest "k-alice")).1 h hrun hcontent
    exact ⟨h, m, permit, ctx, held, hrun, hexit, hpassed, hheld⟩
  · refine (handle_guarded .literal .plain (guardedGateway router) guardedEnv
      (profileRequest "k-eve")).2 .auth ?_
    exact .authFailed _ _ _ (hmatch "k-eve") rfl rfl

/-! ## The same request, for the answers it gets -/

/-- What `Pipeline.handle` is told of a pool. -/
def sendEnvOf (env : WireEnv) (pool : UpstreamPool) : SendEnv where
  endpoints := pool.endpoints
  counter := pool.rrCounter
  wire endpoint req :=
    match (pool.sendWithRetry .checked env endpoint req pool.maxAttempts 0).2 with
    | .ok result => result
    | .error _ => .error (.noHealthyEndpoints pool.name)

theorem exchange_send {uc : UriCrate} {pool : UpstreamPool} {env : WireEnv} {req : Request}
    {hashKey : Option Str} {result : Except CoreError Response}
    (h : (pool.exchange uc env req hashKey).1 = .ok result) :
    pool.send uc (sendEnvOf env pool) req hashKey = .ok result := by
  unfold UpstreamPool.exchange at h
  unfold UpstreamPool.send sendEnvOf
  simp only
  cases hselect : selectEndpoint pool.endpoints pool.config.loadBalancing hashKey
    pool.rrCounter with
  | error p =>
      rw [hselect] at h
      cases h
  | ok selected =>
  obtain ⟨picked, counter⟩ := selected
  cases picked with
  | none =>
      rw [hselect] at h
      cases h
      rfl
  | some picked =>
  simp only [hselect] at h
  cases huri : rewriteUri uc picked.address req.uri with
  | error p =>
      simp only [huri] at h
      cases h
  | ok uri =>
  simp only [huri] at h
  cases hsent : (pool.sendWithRetry .checked env picked { req with uri := uri }
    pool.maxAttempts 0).2 with
  | error p =>
      simp only [hsent] at h
      cases h
  | ok sent =>
  simp only [hsent] at h
  cases hdone : (picked.acquire.release env.elapsed).1 with
  | error p =>
      rw [hdone] at h
      cases h
  | ok u =>
      rw [hdone] at h
      cases h
      simp [huri, hsent, bind, Except.bind, pure, Except.pure]

/-- A request that does not panic has the same record in both models, and leaves the same
pipeline up to the pools. -/
def Simulates (result : Except Panic Handled × Gateway)
    (plain : Except Panic Handled × Pipeline) : Prop :=
  ∀ h, result.1 = .ok h → plain.1 = .ok h ∧
    { plain.2 with upstreams := result.2.pipeline.upstreams } = result.2.pipeline

section
variable {uc : UriCrate} {g : Gateway} {env : GatewayEnv} {plainEnv : HandleEnv} {req : Request}
  {requestId : Str} {route : RouteConfig} {ctx : Option AuthContext} {sofar : Handled}

/-- The pool of a route is met as it is. -/
def SendSeen (g : Gateway) (env : GatewayEnv) (plainEnv : HandleEnv) (route : RouteConfig) : Prop :=
  ∀ pool, g.pipeline.upstreams.get route.upstream = some pool →
    plainEnv.send = sendEnvOf env.wire pool

theorem forward_simulates (hsend : SendSeen g env plainEnv route)
    (hstore : plainEnv.store = env.store) :
    Simulates (forward uc env req requestId g route sofar)
      (Pipeline.forward uc plainEnv req requestId g.pipeline route sofar) := by
  intro h hrun
  unfold forward at hrun ⊢
  unfold Pipeline.forward
  cases hup : g.pipeline.upstreams.get route.upstream with
  | none =>
      simp only [hup] at hrun ⊢
      exact ⟨hrun, trivial⟩
  | some upstream =>
  simp only [hup, hsend upstream hup, hstore] at hrun ⊢
  cases hsent : (upstream.exchange uc env.wire (applyRequestMutations req route.headers)
      (hashKeyOf route upstream req.headers)).1 with
  | error p =>
      simp only [hsent] at hrun
      cases hrun
  | ok result =>
  simp only [hsent, exchange_send hsent] at hrun ⊢
  cases result with
  | error e => exact ⟨hrun, rfl⟩
  | ok resp => exact ⟨hrun, rfl⟩

theorem serve_simulates (hsend : SendSeen g env plainEnv route)
    (hstore : plainEnv.store = env.store) (hlookup : plainEnv.lookup = env.lookup)
    (hage : plainEnv.ageNow = env.ageNow) :
    Simulates (serve uc env req requestId g route sofar)
      (Pipeline.serve uc plainEnv req requestId g.pipeline route sofar) := by
  unfold serve Pipeline.serve
  rw [hlookup, hage]
  cases g.pipeline.cache.lookup env.lookup (cacheRequest route req) with
  | mk found cache =>
  cases found with
  | hit cached =>
      intro h hrun
      exact ⟨hrun, rfl⟩
  | miss => exact forward_simulates hsend hstore
  | bypass => exact forward_simulates hsend hstore

theorem limit_simulates (hsend : SendSeen g env plainEnv route)
    (hstore : plainEnv.store = env.store) (hlookup : plainEnv.lookup = env.lookup)
    (hage : plainEnv.ageNow = env.ageNow)
    (hcheck : plainEnv.check = ⟨env.limit.now, g.pipeline.ratelimit.replyOf g.rateKeys env.limit
      route.middleware.rateLimit route.id ctx req.headers⟩) :
    Simulates (limit uc env req requestId g route ctx sofar)
      (Pipeline.limit uc plainEnv req requestId g.pipeline route ctx sofar) := by
  unfold limit Pipeline.limit
  rw [hcheck, g.pipeline.ratelimit.checkKeys_check]
  simp only
  split
  · intro h hrun
    exact ⟨hrun, rfl⟩
  · exact serve_simulates hsend hstore hlookup hage

/-- The answers the stages give a request on a route. -/
def seen (g : Gateway) (env : GatewayEnv) (req : Request) (route : RouteConfig) : HandleEnv where
  uuid := env.uuid
  permit := (g.concurrency.acquire env.gate route.id).1.map fun _ => ()
  auth := env.auth
  check := ⟨env.limit.now, g.pipeline.ratelimit.replyOf g.rateKeys env.limit
    route.middleware.rateLimit route.id (authOf g env req route).toOption.join req.headers⟩
  lookup := env.lookup
  ageNow := env.ageNow
  send := match g.pipeline.upstreams.get route.upstream with
    | some pool => sendEnvOf env.wire pool
    | none => ⟨[], 0, fun _ _ => .error (.noHealthyEndpoints route.upstream)⟩
  store := env.store

variable (g env req route) in
theorem seen_send : SendSeen g env (seen g env req route) route := by
  intro pool hpool
  simp [seen, hpool]

variable (uc g env req requestId route sofar) in
theorem authenticate_simulates (concurrency : ConcurrencyLimiter) :
    Simulates (authenticate uc env req requestId ({ g with concurrency := concurrency }.enter .auth)
      route sofar)
      (Pipeline.authenticate uc (seen g env req route) req requestId g.pipeline route sofar) := by
  have hauth : (seen g env req route).auth = env.auth := rfl
  unfold authenticate Pipeline.authenticate enter
  rw [hauth]
  cases hrun : g.pipeline.auth.run env.auth route.middleware.auth req.headers
    req.peerCertificate with
  | mk result auth =>
  simp only
  cases result with
  | error e =>
      intro h hended
      exact ⟨hended, rfl⟩
  | ok ctx =>
      have hctx : (authOf g env req route).toOption.join = ctx := by
        simp [authOf, hrun, Except.toOption]
      refine limit_simulates ?_ rfl rfl rfl ?_
      · exact seen_send g env req route
      · show (seen g env req route).check = _
        simp only [seen, hctx]

end

/-- **The same request.** Told what its stages answer, `Pipeline.handle` makes the same
record of a request, and leaves the same pipeline up to the pools. -/
theorem handle_refines (rx : RegexCrate) (uc : UriCrate) (g : Gateway) (env : GatewayEnv)
    (req : Request) :
    ∃ plainEnv, Simulates (g.handle rx uc env req) (g.pipeline.handle rx uc plainEnv req) := by
  cases hmatch : g.pipeline.router.matchRequest rx req.uri.path req.method req.headers with
  | error e =>
      -- no stage is asked, and only the id matters
      refine ⟨⟨env.uuid, .ok (), env.auth, ⟨env.limit.now, .ok []⟩, env.lookup, env.ageNow,
        ⟨[], 0, fun _ _ => .error (.noHealthyEndpoints [])⟩, env.store⟩, ?_⟩
      unfold handle Pipeline.handle
      rw [hmatch]
      intro h hrun
      exact ⟨hrun, rfl⟩
  | ok m =>
  refine ⟨seen g env req m.route, ?_⟩
  unfold handle Pipeline.handle
  rw [hmatch]
  simp only [handleMatched, Pipeline.handleMatched]
  cases hacquire : g.concurrency.acquire env.gate m.route.id with
  | mk acquired concurrency =>
  cases acquired with
  | error why =>
      have hpermit : (seen g env req m.route).permit = .error why := by
        simp [seen, hacquire, Except.map]
      rw [hpermit]
      intro h hrun
      exact ⟨hrun, rfl⟩
  | ok permit =>
      have hpermit : (seen g env req m.route).permit = .ok () := by
        simp [seen, hacquire, Except.map]
      rw [hpermit]
      have hsim := authenticate_simulates uc g env req (requestIdOf env req) m.route
        (started (requestIdOf env req) m.route) concurrency
      cases hended : authenticate uc env req (requestIdOf env req)
        ({ g with concurrency := concurrency }.enter .auth) m.route
        (started (requestIdOf env req) m.route) with
      | mk handled g' =>
      rw [hended] at hsim
      -- the drop of the permit is no part of the pipeline
      intro h hrun
      exact hsim h hrun

end Gateway

end Stateform
