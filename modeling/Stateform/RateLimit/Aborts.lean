import Stateform.RateLimit.Expiry
import Stateform.Router.Predicate

/-!
# Scripts that abort

The policy numbers reach `EXPIRE` unchecked. A token bucket without a refill rate divides by
zero, and each of its executions ends in an error, after it has written; the limiter takes
that for a failure of Redis and lets every request through (`keepsLimiting_iff`).
-/

namespace Stateform

open Library

/-! ## Executions -/

/-- Which integers a Redis server takes for a time to live, in seconds. -/
structure RedisServer : Type where
  expire : ℤ → Bool

/-- The end of both scripts: a time to live that is out of range is an error too. -/
def RedisServer.reply (redis : RedisServer) :
    Except ScriptError ScriptReply → Except ScriptError ScriptReply
  | .ok r => if redis.expire r.ttl then .ok r else .error .notAnInteger
  | .error e => .error e

/-- An execution at a time of the server, with the reading and the id it is sent. -/
abbrev Execution : Type := ℚ × ℚ × Str

def tokenBucketAt (redis : RedisServer) (capacity refillRate : ℕ) :
    Call TokenHash (ℚ × Str) (Except ScriptError ScriptReply) ℚ :=
  fun data _ sent =>
    let (reply, hash) := tokenBucketScript capacity refillRate sent.1 data
    (redis.reply reply, hash)

def slidingWindowAt (redis : RedisServer) (maxRequests window : ℕ) :
    Call (SortedSet Str ℚ) (ℚ × Str) (Except ScriptError ScriptReply) ℚ :=
  fun key _ sent =>
    let (reply, key) := slidingWindowScript maxRequests window sent.1 sent.2 (key.getD ∅)
    (redis.reply (.ok reply), key)

/-- The executions of a policy's script on one key, which expires as the server has it. -/
def enforced (redis : RedisServer) (early : Bool) (config : DistributedRateLimitConfig)
    (calls : List Execution) : List (Execution × Except ScriptError ScriptReply) :=
  match config with
  | .tokenBucket capacity refillRate =>
      transcript (expiringCall (tokenBucketAt redis capacity refillRate) expireArg early) none calls
  | .slidingWindow maxRequests window =>
      transcript (expiringCall (slidingWindowAt redis maxRequests window) expireArg early) none
        calls

/-- The script came to its end. -/
def EndsWell (reply : Except ScriptError ScriptReply) : Prop := ∃ r, reply = .ok r

/-- No execution of a run aborts, and a bucket that is not refilled gives its capacity and
no more. -/
structure KeepsLimiting (redis : RedisServer) (config : DistributedRateLimitConfig) : Prop where
  runs : ∀ early calls, ∀ e ∈ enforced redis early config calls, EndsWell e.2
  denies : ∀ capacity, config = .tokenBucket capacity 0 → ∀ text early calls,
    (enforced redis early config calls).countP
      (fun e => (l2Check (scriptResult text e.2)).allowed) ≤ capacity

/-- The time to live that the numbers of a policy come to is one, and in range. -/
def ExpiryFits (redis : RedisServer) : DistributedRateLimitConfig → Prop
  | .tokenBucket capacity refillRate =>
      0 < refillRate ∧ redis.expire (⌈(capacity : ℚ) / refillRate⌉ + 10) = true
  | .slidingWindow _ window => redis.expire (window + 5) = true

/-! ## When nothing aborts -/

section
variable {redis : RedisServer}

theorem RedisServer.reply_ok_iff {r : ScriptReply} :
    EndsWell (redis.reply (.ok r)) ↔ redis.expire r.ttl = true := by
  rw [RedisServer.reply]
  by_cases hexpire : redis.expire r.ttl = true
  · rw [if_pos hexpire]
    exact ⟨fun _ => hexpire, fun _ => ⟨r, rfl⟩⟩
  · rw [if_neg hexpire]
    refine ⟨?_, fun h => absurd h hexpire⟩
    rintro ⟨r', ⟨⟩⟩

/-- Whether the script ends well is decided by the numbers of the policy. -/
theorem tokenBucketAt_ok_iff {capacity refillRate : ℕ} (data : Option TokenHash) (time : ℚ)
    (sent : ℚ × Str) :
    EndsWell (tokenBucketAt redis capacity refillRate data time sent).1 ↔
      ExpiryFits redis (.tokenBucket capacity refillRate) := by
  have hreply : (tokenBucketAt redis capacity refillRate data time sent).1 =
      redis.reply (tokenBucketScript capacity refillRate sent.1 data).1 := rfl
  rw [hreply]
  by_cases hrate : refillRate = 0
  · subst hrate
    rw [tokenBucketScript_rate_zero]
    simp [RedisServer.reply, ExpiryFits, EndsWell]
  · have hne : (refillRate : ℚ) ≠ 0 := Nat.cast_ne_zero.mpr hrate
    rw [tokenBucketScript_eq]
    simp only [luaDiv, if_neg hne]
    rw [RedisServer.reply_ok_iff, ExpiryFits, and_iff_right (Nat.pos_of_ne_zero hrate)]

theorem slidingWindowAt_ok_iff {maxRequests window : ℕ} (key : Option (SortedSet Str ℚ)) (time : ℚ)
    (sent : ℚ × Str) :
    EndsWell (slidingWindowAt redis maxRequests window key time sent).1 ↔
      ExpiryFits redis (.slidingWindow maxRequests window) :=
  RedisServer.reply_ok_iff

/-- What every call replies with, every call of a run does. -/
theorem forall_mem_expiring {σ α β : Type*} {f : Call σ α β ℚ} {ttl : β → Option ℚ}
    {early : Bool} {P : β → Prop} (h : ∀ s now a, P (f s now a).1) (s : Option (σ × Option ℚ))
    (calls : List (ℚ × α)) : ∀ e ∈ transcript (expiringCall f ttl early) s calls, P e.2 := by
  induction calls generalizing s with
  | nil => exact fun e he => absurd he List.not_mem_nil
  | cons call calls ih =>
      intro e he
      rcases List.mem_cons.mp he with rfl | he
      · exact h _ _ _
      · exact ih _ e he

/-- One execution is enough to see it. -/
theorem expiryFits_of_runs {config : DistributedRateLimitConfig}
    (h : KeepsLimiting redis config) : ExpiryFits redis config := by
  cases config with
  | tokenBucket capacity refillRate =>
      have hfirst : EndsWell (tokenBucketAt redis capacity refillRate none 0 (0, [])).1 :=
        h.runs true [(0, 0, [])] _ List.mem_cons_self
      exact (tokenBucketAt_ok_iff none 0 (0, [])).mp hfirst
  | slidingWindow maxRequests window =>
      have hfirst : EndsWell (slidingWindowAt redis maxRequests window none 0 (0, [])).1 :=
        h.runs true [(0, 0, [])] _ List.mem_cons_self
      exact (slidingWindowAt_ok_iff none 0 (0, [])).mp hfirst

/-- **When a policy keeps limiting.** Exactly if `EXPIRE` takes what its numbers come to. -/
theorem keepsLimiting_iff (redis : RedisServer) (config : DistributedRateLimitConfig) :
    KeepsLimiting redis config ↔ ExpiryFits redis config := by
  refine ⟨expiryFits_of_runs, ?_⟩
  intro hfits
  cases config with
  | tokenBucket capacity refillRate =>
      refine ⟨?_, ?_⟩
      · intro early calls
        exact forall_mem_expiring (P := EndsWell)
          (fun data time sent => (tokenBucketAt_ok_iff data time sent).mpr hfits) none calls
      · rintro capacity' ⟨⟩
        exact absurd hfits.1 (Nat.lt_irrefl 0)
  | slidingWindow maxRequests window =>
      refine ⟨?_, nofun⟩
      intro early calls
      exact forall_mem_expiring (P := EndsWell)
        (fun key time sent => (slidingWindowAt_ok_iff key time sent).mpr hfits) none calls

end

/-- A server that counts in milliseconds of 64 bits. -/
def RedisServer.milliseconds : RedisServer := ⟨fun ttl => decide (ttl * 1000 < 2 ^ 63)⟩

/-- A quota of one request that is never refilled. -/
def quotaPolicy : RateLimitPolicy := ⟨⟨2, 1⟩, .tokenBucket 1 0⟩

def quotaConfig : GatewayConfig :=
  { GatewayConfig.withRoutes [] with
    rateLimiting := ⟨AList.singleton "quota".toList quotaPolicy⟩ }

/-- Validation accepts it, and every request is let through. -/
theorem quota_never_denies :
    validate .literal quotaConfig = .ok () ∧
      (enforced .milliseconds true (.tokenBucket 1 0) [(0, 0, []), (1, 1, []), (2, 2, [])]).map
        (fun e => (l2Check (scriptResult (fun _ => []) e.2)).allowed) = [true, true, true] ∧
      ¬ ∀ (rx : RegexCrate) (cfg : GatewayConfig), validate rx cfg = .ok () →
        ∀ name policy, cfg.rateLimiting.policies.lookup name = some policy →
          KeepsLimiting .milliseconds policy.distributed := by
  have hvalid : validate .literal quotaConfig = .ok () := by decide
  have hpolicy : quotaConfig.rateLimiting.policies.lookup "quota".toList = some quotaPolicy := rfl
  refine ⟨hvalid, by decide +kernel, ?_⟩
  intro h
  exact absurd (expiryFits_of_runs (h .literal quotaConfig hvalid _ _ hpolicy)).1
    (Nat.lt_irrefl 0)

/-- A bucket may also be so large that its time to live is out of range. -/
example : ¬ KeepsLimiting .milliseconds (.tokenBucket (10 ^ 19) 1) :=
  fun h => absurd (expiryFits_of_runs h).2 (by decide +kernel)

end Stateform
