import Stateform.Http.Header

/-!
# The configuration schema

The records of `schema.rs`, as far as a modelled function reads them. A
`HashMap<String, _>` is an association list without repeated keys (`StrMap`),
its list order standing for the iteration order. Durations the schema reads as
whole seconds are numbers of seconds. Fields that only name an external system
(addresses to bind, Redis and JWKS URLs, certificate paths) are left out.
-/

namespace Stateform

abbrev StrMap (V : Type) : Type := AList fun _ : Str => V

/-- The same keys, with values made from them and the old ones. -/
def StrMap.mapValues {V W : Type} (f : Str → V → W) (m : StrMap V) : StrMap W where
  entries := m.entries.map fun e => ⟨e.1, f e.1 e.2⟩
  nodupKeys := by
    have h := m.nodupKeys
    unfold List.NodupKeys List.keys at h ⊢
    simpa [Function.comp_def] using h

@[simp] theorem StrMap.lookup_mapValues {V W : Type} (f : Str → V → W) (m : StrMap V) (k : Str) :
    (StrMap.mapValues f m).lookup k = (m.lookup k).map (f k) := by
  ext w
  rw [← Option.mem_def, AList.mem_lookup_iff]
  simp only [StrMap.mapValues, List.mem_map, Option.map_eq_some_iff]
  constructor
  · rintro ⟨⟨k', v⟩, hmem, heq⟩
    obtain ⟨rfl, rfl⟩ : k' = k ∧ f k' v = w := by simpa using heq
    exact ⟨v, AList.mem_lookup_iff.mpr hmem, rfl⟩
  · rintro ⟨v, hv, rfl⟩
    exact ⟨⟨k, v⟩, AList.mem_lookup_iff.mp hv, rfl⟩

theorem StrMap.forall_entries {V : Type} {m : StrMap V} {P : V → Prop} :
    (∀ e ∈ m.entries, P e.2) ↔ ∀ k v, m.lookup k = some v → P v := by
  constructor
  · intro h k v hlook
    exact h ⟨k, v⟩ (AList.mem_lookup_iff.mp hlook)
  · rintro h ⟨k, v⟩ hmem
    exact h k v (AList.mem_lookup_iff.mpr hmem)

/-! ## Upstreams -/

structure EndpointConfig : Type where
  address : Str
  weight : ℕ
  active : Bool
deriving DecidableEq

/-- `LoadBalancingConfig`, without the EWMA factor no selection reads. -/
inductive LoadBalancingConfig : Type where
  | weightedRoundRobin
  | leastConnections
  | consistentHashing (hashHeader : Str) (virtualNodes : ℕ)
deriving DecidableEq

structure HealthCheckConfig : Type where
  path : Str
  interval : ℕ
  timeout : ℕ
  healthyThreshold : ℕ
  unhealthyThreshold : ℕ
deriving DecidableEq

/-- `TimeoutConfig`, the request timeout only. -/
structure TimeoutConfig : Type where
  request : ℕ
deriving DecidableEq

structure RetryConfig : Type where
  maxAttempts : ℕ
  baseBackoff : ℕ
  onStatuses : List ℕ
deriving DecidableEq

structure UpstreamConfig : Type where
  endpoints : List EndpointConfig
  loadBalancing : LoadBalancingConfig
  healthCheck : Option HealthCheckConfig
  timeouts : TimeoutConfig
  retry : Option RetryConfig
deriving DecidableEq

/-! ## Routes -/

inductive PathMatch : Type where
  | prefixPath (value : Str)
  | exactPath (value : Str)
  | regexPath (pattern : Str)
deriving DecidableEq

structure RouteMatch : Type where
  path : PathMatch
  method : Option Str
  headers : StrMap Str
deriving DecidableEq

structure AuthMiddlewareConfig : Type where
  jwt : Bool
  apiKey : Bool
  mtls : Bool
deriving DecidableEq

structure RateLimitMiddlewareRef : Type where
  policy : Str
deriving DecidableEq

structure CacheMiddlewareConfig : Type where
  ttl : ℕ
  readOnly : Bool
deriving DecidableEq

structure MiddlewareConfig : Type where
  auth : Option AuthMiddlewareConfig
  rateLimit : Option RateLimitMiddlewareRef
  cache : Option CacheMiddlewareConfig
deriving DecidableEq

/-- `MiddlewareConfig::default`. -/
def MiddlewareConfig.default : MiddlewareConfig := ⟨none, none, none⟩

structure HeaderMutations : Type where
  requestSet : StrMap Str
  requestRemove : List Str
  responseSet : StrMap Str
deriving DecidableEq

/-- `HeaderMutations::default`. -/
def HeaderMutations.default : HeaderMutations := ⟨∅, [], ∅⟩

structure RouteConfig : Type where
  id : Str
  match_ : RouteMatch
  upstream : Str
  loadBalancing : Option LoadBalancingConfig
  middleware : MiddlewareConfig
  headers : HeaderMutations
  maxConcurrentRequests : Option ℕ
deriving DecidableEq

/-! ## Rate limiting, cache, auth and the whole -/

structure TokenBucketConfig : Type where
  capacity : ℕ
  refillRate : ℕ
deriving DecidableEq

inductive DistributedRateLimitConfig : Type where
  | tokenBucket (capacity refillRate : ℕ)
  | slidingWindow (maxRequests window : ℕ)
deriving DecidableEq

/-- A policy: the in-process bucket and the limit Redis enforces. -/
structure RateLimitPolicy : Type where
  localBucket : TokenBucketConfig
  distributed : DistributedRateLimitConfig
deriving DecidableEq

structure RateLimitConfig : Type where
  policies : StrMap RateLimitPolicy
deriving DecidableEq

structure CacheConfig : Type where
  l1Capacity : ℕ
deriving DecidableEq

structure JwtConfig : Type where
  audience : List Str
  issuers : List Str
  jwksCacheTtl : ℕ
deriving DecidableEq

structure ApiKeyConfig : Type where
  redisKeyPrefix : Str
deriving DecidableEq

structure MtlsConfig : Type where
  required : Bool
deriving DecidableEq

structure AuthConfig : Type where
  jwt : JwtConfig
  apiKeys : ApiKeyConfig
  mtls : MtlsConfig
deriving DecidableEq

structure ListenerConfig : Type where
  maxBodyBytes : ℕ
  maxConcurrentRequests : ℕ
  concurrencyAcquireTimeoutMs : ℕ
deriving DecidableEq

structure GatewayConfig : Type where
  listener : ListenerConfig
  upstreams : StrMap UpstreamConfig
  routes : List RouteConfig
  rateLimiting : RateLimitConfig
  cache : CacheConfig
  auth : AuthConfig
deriving DecidableEq

/-! ## A small config

The values the configs of the source's tests are made of. -/

def EndpointConfig.at (address : Str) : EndpointConfig := ⟨address, 1, true⟩

def UpstreamConfig.single (address : Str) : UpstreamConfig where
  endpoints := [EndpointConfig.at address]
  loadBalancing := .weightedRoundRobin
  healthCheck := none
  timeouts := ⟨30⟩
  retry := none

/-- A route on a path alone, to the upstream `backend`. -/
def RouteConfig.onPath (id : Str) (path : PathMatch) : RouteConfig where
  id := id
  match_ := ⟨path, none, ∅⟩
  upstream := "backend".toList
  loadBalancing := none
  middleware := .default
  headers := .default
  maxConcurrentRequests := none

/-- A config with one upstream, `backend`, and the given routes. -/
def GatewayConfig.withRoutes (routes : List RouteConfig) : GatewayConfig where
  listener := ⟨4 * 1024 * 1024, 10000, 500⟩
  upstreams := AList.singleton "backend".toList (UpstreamConfig.single "127.0.0.1:9000".toList)
  routes := routes
  rateLimiting := ⟨∅⟩
  cache := ⟨1000⟩
  auth := ⟨⟨["stateform".toList], ["https://example.com".toList], 300⟩,
    ⟨"stateform:apikey:".toList⟩, ⟨false⟩⟩

end Stateform
