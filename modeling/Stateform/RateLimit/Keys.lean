import Stateform.RateLimit.Scripts

/-!
# The keys of the distributed limiter

`limiter.rs` over both of its layers: the buckets in the process, and the keys the
scripts leave in Redis. A script runs only when the bucket gave a token. A call
answers what `RateLimiter.check` answers for the reply it gets from Redis
(`checkKeys_check`).
-/

namespace Stateform

open Library

/-- What a key of the limiter holds in Redis. -/
inductive RateValue : Type where
  | bucket (hash : TokenHash)
  | window (members : SortedSet Str ℚ)

structure RateKey : Type where
  value : RateValue
  expiresAt : Option ℤ

structure RateKeys : Type where
  keys : StrMap RateKey

/-- One call of `check`: the clock of the bucket, the reading and the request id a script
is sent, whether Redis runs the script, and its own time then. -/
structure LimitEnv : Type where
  now : ℚ
  unixNow : ℚ
  reqId : Str
  up : Bool
  redisNow : ℤ
  text : ScriptError → Str
  failure : Str

namespace RateKeys

/-- A key that has not expired. -/
def live (keys : RateKeys) (now : ℤ) (key : Str) : Option RateKey :=
  (keys.keys.lookup key).filter fun k => k.expiresAt.all fun t => now < t

def set (keys : RateKeys) (key : Str) (value : RateValue) (expiresAt : Option ℤ) : RateKeys :=
  ⟨keys.keys.insert key ⟨value, expiresAt⟩⟩

/-- The token bucket script on a key. An error leaves the key without a new expiry. -/
def invokeTokenBucket (keys : RateKeys) (env : LimitEnv) (capacity refillRate : ℕ) (key : Str)
    (data : Option TokenHash) (expiresAt : Option ℤ) :
    Except RateLimitError (List ℤ) × RateKeys :=
  let (reply, hash) := tokenBucketScript capacity refillRate env.unixNow data
  let expiresAt := match reply with
    | .ok r => some (env.redisNow + r.ttl)
    | .error _ => expiresAt
  (scriptResult env.text reply, keys.set key (.bucket hash) expiresAt)

/-- The sliding window script on a key. A set without members is no key. -/
def invokeSlidingWindow (keys : RateKeys) (env : LimitEnv) (maxRequests window : ℕ) (key : Str)
    (members : SortedSet Str ℚ) : Except RateLimitError (List ℤ) × RateKeys :=
  let (reply, members) := slidingWindowScript maxRequests window env.unixNow env.reqId members
  let keys := if members.zcard = 0 then ⟨keys.keys.erase key⟩
    else keys.set key (.window members) (some (env.redisNow + reply.ttl))
  (scriptResult env.text (.ok reply), keys)

/-- `check_inner`, up to the reading of the reply. A key of the other script's kind is an
error. -/
def invoke (keys : RateKeys) (env : LimitEnv) (config : DistributedRateLimitConfig) (key : Str) :
    Except RateLimitError (List ℤ) × RateKeys :=
  if !env.up then (.error (.script env.failure), keys)
  else
    match config, keys.live env.redisNow key with
    | .tokenBucket capacity refillRate, none =>
        keys.invokeTokenBucket env capacity refillRate key none none
    | .tokenBucket capacity refillRate, some ⟨.bucket hash, expiresAt⟩ =>
        keys.invokeTokenBucket env capacity refillRate key (some hash) expiresAt
    | .slidingWindow maxRequests window, none =>
        keys.invokeSlidingWindow env maxRequests window key ∅
    | .slidingWindow maxRequests window, some ⟨.window members, _⟩ =>
        keys.invokeSlidingWindow env maxRequests window key members
    | _, _ => (.error (.script env.failure), keys)

end RateKeys

namespace RateLimiter

/-- `RateLimiter::check`, with the keys in Redis. -/
def checkKeys (limiter : RateLimiter) (keys : RateKeys) (env : LimitEnv)
    (middlewareRef : Option RateLimitMiddlewareRef) (routeId : Str) (authCtx : Option AuthContext)
    (headers : HeaderMap) : Except RateLimitError RateLimitOutcome × RateLimiter × RateKeys :=
  match middlewareRef with
  | none => (.ok ⟨true, u64Max, u64Max, 0, none⟩, limiter, keys)
  | some rlRef =>
      match limiter.policies.lookup rlRef.policy with
      | none => (.error (.unknownPolicy rlRef.policy), limiter, keys)
      | some policy =>
          let key := deriveKey routeId authCtx headers
          let (l1Allowed, l1) := policy.l1.check env.now key
          let limiter : RateLimiter :=
            ⟨limiter.policies.insert rlRef.policy { policy with l1 := l1 }⟩
          if !l1Allowed then
            -- denied before the script is sent
            (.ok ⟨false, 0, l1.config.capacity, estimateRefillMs l1.config.capacity,
              some .l1Local⟩, limiter, keys)
          else
            let (reply, keys) := keys.invoke env policy.l2 key
            let l2 := l2Check reply
            if !l2.allowed then
              (.ok ⟨false, 0, l1.config.capacity, l2.retryAfterMs, some .l2Distributed⟩, limiter,
                keys)
            else
              (.ok ⟨true, min (l1.remaining env.now key) l2.remaining, l1.config.capacity, 0, none⟩,
                limiter, keys)

section
variable (limiter : RateLimiter) (keys : RateKeys) (env : LimitEnv)
  (middlewareRef : Option RateLimitMiddlewareRef) (routeId : Str) (authCtx : Option AuthContext)
  (headers : HeaderMap)

/-- What Redis would reply to the script of a call. -/
def replyOf : Except RateLimitError (List ℤ) :=
  match middlewareRef.bind fun rlRef => limiter.policies.lookup rlRef.policy with
  | none => .ok []
  | some policy => (keys.invoke env policy.l2 (deriveKey routeId authCtx headers)).1

/-- **The keys are what the reply comes from.** -/
theorem checkKeys_check :
    let result := limiter.checkKeys keys env middlewareRef routeId authCtx headers
    limiter.check ⟨env.now, limiter.replyOf keys env middlewareRef routeId authCtx headers⟩
      middlewareRef routeId authCtx headers = (result.1, result.2.1) := by
  cases middlewareRef with
  | none => rfl
  | some rlRef =>
  cases hpolicy : limiter.policies.lookup rlRef.policy with
  | none => simp [checkKeys, check, hpolicy]
  | some policy =>
  have hreply : limiter.replyOf keys env (some rlRef) routeId authCtx headers =
      (keys.invoke env policy.l2 (deriveKey routeId authCtx headers)).1 := by
    simp [replyOf, hpolicy]
  simp only [checkKeys, check, hpolicy, hreply, outcome]
  cases (policy.l1.check env.now (deriveKey routeId authCtx headers)).1 with
  | false => rfl
  | true =>
      cases (l2Check (keys.invoke env policy.l2 (deriveKey routeId authCtx headers)).1).allowed
      · simp
      · simp

end

end RateLimiter

end Stateform
