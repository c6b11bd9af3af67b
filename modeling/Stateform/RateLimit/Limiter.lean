import Stateform.Library.TokenBucket
import Stateform.Config.Schema
import Stateform.RateLimit.Key

/-!
# The rate limiter

`l1_local.rs` and `limiter.rs`, and the reading of a script's reply in
`l2_redis.rs`. Tokens and times (in seconds) are exact rationals. What Redis
answers is left open: any reply, or a failure.
-/

namespace Stateform

open Library

/-! ## L1: token buckets -/

structure Bucket : Type where
  tokens : ℚ
  capacity : ℚ
  refillRate : ℚ
  lastRefill : ℚ

namespace Bucket

/-- `Bucket::new`: start full. -/
def new (cfg : TokenBucketConfig) (now : ℚ) : Bucket :=
  ⟨cfg.capacity, cfg.capacity, cfg.refillRate, now⟩

/-- `Bucket::consume`. An earlier `now` counts as no time passed. -/
def consume (b : Bucket) (now : ℚ) : Bool × Bucket :=
  let elapsed := max 0 (now - b.lastRefill)
  let tokens := refill b.capacity b.refillRate b.tokens elapsed
  if 1 ≤ tokens then (true, { b with tokens := tokens - 1, lastRefill := now })
  else (false, { b with tokens := tokens, lastRefill := now })

/-- `Bucket::available`. -/
def available (b : Bucket) (now : ℚ) : ℕ :=
  (refill b.capacity b.refillRate b.tokens (max 0 (now - b.lastRefill))).floor.toNat

end Bucket

structure L1LocalLimiter : Type where
  buckets : StrMap Bucket
  config : TokenBucketConfig

namespace L1LocalLimiter

def new (config : TokenBucketConfig) : L1LocalLimiter := ⟨∅, config⟩

/-- The bucket of a key: created on first use. -/
def bucket (l : L1LocalLimiter) (now : ℚ) (key : Str) : Bucket :=
  (l.buckets.lookup key).getD (.new l.config now)

/-- `L1LocalLimiter::check`. -/
def check (l : L1LocalLimiter) (now : ℚ) (key : Str) : Bool × L1LocalLimiter :=
  let (allowed, bucket) := (l.bucket now key).consume now
  (allowed, { l with buckets := l.buckets.insert key bucket })

/-- `L1LocalLimiter::remaining`. -/
def remaining (l : L1LocalLimiter) (now : ℚ) (key : Str) : ℕ :=
  match l.buckets.lookup key with
  | some b => b.available now
  | none => l.config.capacity

end L1LocalLimiter

/-! ## L2: what a script's reply means -/

inductive RateLimitError : Type where
  | exceeded
  | redis (message : Str)
  | script (message : Str)
  | unknownPolicy (policy : Str)
  | config (message : Str)
deriving DecidableEq

structure L2Outcome : Type where
  allowed : Bool
  remaining : ℕ
  retryAfterMs : ℕ
deriving DecidableEq

/-- `L2RedisLimiter::check`: a reply is read entry by entry, a failure lets
the request through. -/
def l2Check (reply : Except RateLimitError (List ℤ)) : L2Outcome :=
  match reply with
  | .ok result =>
      ⟨(result[0]?).getD 1 = 1, ((result[1]?).getD 0).toNat, ((result[2]?).getD 0).toNat⟩
  | .error _ => ⟨true, 0, 0⟩

/-! ## The limiter -/

inductive DeniedBy : Type where
  | l1Local
  | l2Distributed
deriving DecidableEq

structure RateLimitOutcome : Type where
  allowed : Bool
  remaining : ℕ
  limit : ℕ
  retryAfterMs : ℕ
  deniedBy : Option DeniedBy
deriving DecidableEq

/-- `RateLimitOutcome::to_headers`. -/
def RateLimitOutcome.toHeaders (o : RateLimitOutcome) : List (Str × Str) :=
  [("X-RateLimit-Limit".toList, decimal o.limit),
    ("X-RateLimit-Remaining".toList, decimal o.remaining)] ++
  if !o.allowed then [("Retry-After".toList, decimal (o.retryAfterMs / 1000))] else []

def estimateRefillMs (_capacity : ℕ) : ℕ := 1000

/-- `u64::MAX`. -/
def u64Max : ℕ := 2 ^ 64 - 1

structure Policy : Type where
  l1 : L1LocalLimiter
  l2 : DistributedRateLimitConfig

structure RateLimiter : Type where
  policies : StrMap Policy

/-- One call of `check`: when it runs, and what Redis answers it. -/
structure CheckEnv : Type where
  now : ℚ
  reply : Except RateLimitError (List ℤ)

namespace RateLimiter

/-- `RateLimiter::new`, with Redis reachable. -/
def new (cfg : GatewayConfig) : RateLimiter :=
  ⟨StrMap.mapValues (fun _ p => ⟨.new p.localBucket, p.distributed⟩) cfg.rateLimiting.policies⟩

/-- The answer of `check` once a policy is found, from the L1 decision on. -/
def outcome (env : CheckEnv) (allowed : Bool) (l1 : L1LocalLimiter) (key : Str) :
    RateLimitOutcome :=
  let limit := l1.config.capacity
  if !allowed then ⟨false, 0, limit, estimateRefillMs limit, some .l1Local⟩
  else
    let l2 := l2Check env.reply
    if !l2.allowed then ⟨false, 0, limit, l2.retryAfterMs, some .l2Distributed⟩
    else ⟨true, min (l1.remaining env.now key) l2.remaining, limit, 0, none⟩

/-- `RateLimiter::check`. -/
def check (limiter : RateLimiter) (env : CheckEnv) (middlewareRef : Option RateLimitMiddlewareRef)
    (routeId : Str) (authCtx : Option AuthContext) (headers : HeaderMap) :
    Except RateLimitError RateLimitOutcome × RateLimiter :=
  match middlewareRef with
  | none => (.ok ⟨true, u64Max, u64Max, 0, none⟩, limiter)
  | some rlRef =>
      match limiter.policies.lookup rlRef.policy with
      | none => (.error (.unknownPolicy rlRef.policy), limiter)
      | some policy =>
          let key := deriveKey routeId authCtx headers
          let (l1Allowed, l1) := policy.l1.check env.now key
          (.ok (outcome env l1Allowed l1 key),
            ⟨limiter.policies.insert rlRef.policy { policy with l1 := l1 }⟩)

end RateLimiter

/-! ## Spec lemmas -/

theorem new_lookup (cfg : GatewayConfig) (policy : Str) :
    (RateLimiter.new cfg).policies.lookup policy =
      (cfg.rateLimiting.policies.lookup policy).map
        fun p => ⟨.new p.localBucket, p.distributed⟩ := by
  simp [RateLimiter.new]

namespace L1LocalLimiter

@[simp] theorem check_config (l : L1LocalLimiter) (now : ℚ) (key : Str) :
    (l.check now key).2.config = l.config := rfl

theorem check_lookup_self (l : L1LocalLimiter) (now : ℚ) (key : Str) :
    (l.check now key).2.buckets.lookup key = some ((l.bucket now key).consume now).2 := by
  simp [check]

theorem check_lookup_ne (l : L1LocalLimiter) (now : ℚ) {key k : Str} (h : k ≠ key) :
    (l.check now key).2.buckets.lookup k = l.buckets.lookup k := by
  simp [check, AList.lookup_insert_ne h]

end L1LocalLimiter

/-- A request is allowed only if its bucket gave a token. -/
theorem outcome_allowed {env : CheckEnv} {allowed : Bool} {l1 : L1LocalLimiter} {key : Str}
    (h : (RateLimiter.outcome env allowed l1 key).allowed = true) : allowed = true := by
  cases allowed with
  | true => rfl
  | false => simp [RateLimiter.outcome] at h

end Stateform
