import Mathlib.Data.List.MinMax
import Stateform.Config.Schema

/-!
# Upstream pools

`upstream.rs`: endpoint states, the three selection algorithms, and the
rewriting of a request's URI. What would panic (an overflow, a remainder by
zero, an unwrapped failure) is an explicit `Panic`. Unless a definition takes a
`Profile`, arithmetic is that of a build with overflow checks.
-/

namespace Stateform

inductive Panic : Type where
  | overflow
  | remainderByZero
  | unwrapFailed
  | zeroPeriod
deriving DecidableEq

inductive Health : Type where
  | unhealthy
  | healthy
  | degraded
deriving DecidableEq

/-- `EndpointState`, as selection reads it. -/
structure EndpointState : Type where
  address : Str
  weight : ℕ
  health : Health
  activeConns : ℕ
  ewmaLatency : ℕ
deriving DecidableEq

namespace EndpointState

/-- `EndpointState::new`. -/
def new (address : Str) (weight : ℕ) : EndpointState := ⟨address, weight, .healthy, 0, 0⟩

def isAvailable (e : EndpointState) : Bool := e.health ≠ .unhealthy

/-- The weight a round gives to an endpoint. -/
def effectiveWeight (e : EndpointState) : ℕ :=
  match e.health with
  | .healthy => e.weight
  | .degraded => max (e.weight / 2) 1
  | .unhealthy => 0

/-- `u64::saturating_mul`. -/
def saturatingMul (a b : ℕ) : ℕ := min (a * b) (2 ^ 64 - 1)

/-- The score least-connections minimises. -/
def score (e : EndpointState) : ℕ :=
  let penalty := if e.health = .degraded then 2 else 1
  let base := if e.ewmaLatency = 0 then e.activeConns
    else saturatingMul e.activeConns e.ewmaLatency
  saturatingMul base penalty

end EndpointState

/-! ## Machine arithmetic -/

/-- How a build treats an overflow: with overflow checks it panics, as the tests are built;
without them it wraps, as the release build of the README. -/
inductive Profile : Type where
  | checked
  | wrapping
deriving DecidableEq

/-- `a + b`, with overflow checks. -/
def addU32 (a b : ℕ) : Except Panic ℕ := if a + b < 2 ^ 32 then .ok (a + b) else .error .overflow

/-- `a * b`, with overflow checks. -/
def mulUsize (a b : ℕ) : Except Panic ℕ := if a * b < 2 ^ 64 then .ok (a * b) else .error .overflow

/-- `a % b`, which panics at zero in every build. -/
def remUsize (a b : ℕ) : Except Panic ℕ :=
  if b = 0 then .error .remainderByZero else .ok (a % b)

theorem addU32_of_lt {a b : ℕ} (h : a + b < 2 ^ 32) : addU32 a b = .ok (a + b) := if_pos h

theorem addU32_of_ge {a b : ℕ} (h : ¬ a + b < 2 ^ 32) : addU32 a b = .error .overflow := if_neg h

theorem mulUsize_of_lt {a b : ℕ} (h : a * b < 2 ^ 64) : mulUsize a b = .ok (a * b) := if_pos h

theorem mulUsize_of_ge {a b : ℕ} (h : ¬ a * b < 2 ^ 64) : mulUsize a b = .error .overflow :=
  if_neg h

theorem remUsize_of_ne {a b : ℕ} (h : b ≠ 0) : remUsize a b = .ok (a % b) := if_neg h

@[simp] theorem remUsize_zero (a : ℕ) : remUsize a 0 = .error .remainderByZero := rfl

/-- The UTF-8 bytes of a text. -/
def utf8 (s : Str) : List UInt8 := s.flatMap String.utf8EncodeChar

/-- `fnv1a_64`. -/
def fnv1a64 (data : List UInt8) : UInt64 :=
  data.foldl (fun hash b => (hash ^^^ b.toUInt64) * 1099511628211) 14695981039346656037

/-! ## Selection -/

/-- `sum::<u32>()`, from an accumulator. -/
def sumU32 : ℕ → List ℕ → Except Panic ℕ
  | acc, [] => .ok acc
  | acc, w :: rest => do sumU32 (← addU32 acc w) rest

/-- The loop of weighted round robin. -/
def pickWeighted (pos : ℕ) : ℕ → List EndpointState → Except Panic (Option EndpointState)
  | _, [] => .ok none
  | acc, ep :: rest => do
      let acc ← addU32 acc ep.effectiveWeight
      if pos < acc then return some ep else pickWeighted pos acc rest

/-- `select_endpoint`, with the value of the counter and the one it leaves. -/
def selectEndpoint (endpoints : List EndpointState) (algorithm : LoadBalancingConfig)
    (hashKey : Option Str) (counter : ℕ) : Except Panic (Option EndpointState × ℕ) :=
  match endpoints.filter EndpointState.isAvailable with
  | [] => .ok (none, counter)
  | first :: rest =>
      let available := first :: rest
      match algorithm with
      | .weightedRoundRobin => do
          let totalWeight ← sumU32 0 (available.map EndpointState.effectiveWeight)
          if totalWeight = 0 then return (some first, counter)
          let pos := counter % 2 ^ 32 % totalWeight
          let picked ← pickWeighted pos 0 available
          return (picked.or (some first), (counter + 1) % 2 ^ 64)
      | .leastConnections => .ok (available.argmin EndpointState.score, counter)
      | .consistentHashing _ virtualNodes => do
          let hash := fnv1a64 (utf8 (hashKey.getD "default".toList))
          let ringSize ← mulUsize available.length virtualNodes
          let idx := (← remUsize hash.toNat ringSize) / virtualNodes
          return (available[idx % available.length]?, counter)

/-! ## Pools -/

structure UpstreamPool : Type where
  name : Str
  config : UpstreamConfig
  endpoints : List EndpointState
  rrCounter : ℕ
deriving DecidableEq

/-- `UpstreamPool::new`: the active endpoints, healthy. -/
def UpstreamPool.new (name : Str) (config : UpstreamConfig) : UpstreamPool where
  name := name
  config := config
  endpoints := (config.endpoints.filter EndpointConfig.active).map fun e => .new e.address e.weight
  rrCounter := 0

structure UpstreamRegistry : Type where
  pools : StrMap UpstreamPool

/-- `UpstreamRegistry::build`. -/
def UpstreamRegistry.build (cfg : GatewayConfig) : UpstreamRegistry :=
  ⟨StrMap.mapValues UpstreamPool.new cfg.upstreams⟩

def UpstreamRegistry.get (registry : UpstreamRegistry) (name : Str) : Option UpstreamPool :=
  registry.pools.lookup name

theorem UpstreamRegistry.build_get (cfg : GatewayConfig) (name : Str) :
    (build cfg).get name = (cfg.upstreams.lookup name).map (UpstreamPool.new name) := by
  simp [build, get]

/-! ## URIs -/

/-- The URI parser of the `http` crate. -/
structure UriCrate : Type where
  parse : Str → Option Uri

/-- The text `rewrite_uri` falls back on. -/
def rootUri (upstreamAddr : Str) : Str := "http://".toList ++ upstreamAddr ++ "/".toList

/-- `rewrite_uri`. -/
def rewriteUri (uc : UriCrate) (upstreamAddr : Str) (original : Uri) : Except Panic Uri :=
  let pathQuery := (original.pathAndQuery.map PathAndQuery.asStr).getD "/".toList
  match uc.parse ("http://".toList ++ upstreamAddr ++ pathQuery) with
  | some uri => .ok uri
  | none =>
      match uc.parse (rootUri upstreamAddr) with
      | some uri => .ok uri
      | none => .error .unwrapFailed

/-- The path of a request without one is the one of the fallback. -/
theorem rewriteUri_pathless {uc : UriCrate} {upstreamAddr : Str} {uri : Uri}
    (h : rewriteUri uc upstreamAddr ⟨none⟩ = .ok uri) :
    uc.parse (rootUri upstreamAddr) = some uri := by
  unfold rewriteUri at h
  have hpath : "http://".toList ++ upstreamAddr ++
      ((none : Option PathAndQuery).map PathAndQuery.asStr).getD "/".toList =
        rootUri upstreamAddr := rfl
  simp only [hpath] at h
  cases hp : uc.parse (rootUri upstreamAddr) with
  | none => simp [hp] at h
  | some u => simpa [hp] using h

/-! ## Health checks -/

/-- The start of `health_check_loop`: `tokio::time::interval`. -/
def healthCheckInterval (cfg : HealthCheckConfig) : Except Panic ℕ :=
  if cfg.interval = 0 then .error .zeroPeriod else .ok cfg.interval

/-- The endpoints `spawn_health_checks` starts a loop for, with its config. -/
def UpstreamPool.healthChecks (pool : UpstreamPool) : List (EndpointState × HealthCheckConfig) :=
  match pool.config.healthCheck with
  | none => []
  | some hc => pool.endpoints.map fun e => (e, hc)

end Stateform
