import Stateform.RateLimit.Remaining

/-!
# One bucket for all instances

`TOKEN_BUCKET_SCRIPT` and `Bucket::consume` are two texts of one algorithm. Where the clocks
of the instances keep within five seconds of Redis, what they share through Redis answers as
one in-process limiter that every call comes to (`shared_bucket`), although its keys expire
and it runs on as many clocks as there are instances.
-/

namespace Stateform

open Library

/-! ## Both limiters on the same calls -/

/-- A call of `L2RedisLimiter::check`: its key, and what it reads. -/
structure ScriptCall : Type where
  key : Str
  env : LimitEnv

/-- What a caller of either layer gets to see. -/
structure Verdict : Type where
  allowed : Bool
  remaining : ℕ
deriving DecidableEq

/-- `L2RedisLimiter::check` on the keys in Redis. -/
def RateKeys.check (config : DistributedRateLimitConfig) (keys : RateKeys) (c : ScriptCall) :
    Verdict × RateKeys :=
  let (reply, keys) := keys.invoke c.env config c.key
  let outcome := l2Check reply
  (⟨outcome.allowed, outcome.remaining⟩, keys)

/-- One limiter in a process in the place of Redis: a call that does not reach it is let
through. -/
def L1LocalLimiter.inPlaceOfRedis (l : L1LocalLimiter) (c : ScriptCall) :
    Verdict × L1LocalLimiter :=
  if c.env.up then
    let (allowed, l) := l.check c.env.unixNow c.key
    (⟨allowed, l.remaining c.env.unixNow c.key⟩, l)
  else (⟨true, 0⟩, l)

/-- The clocks of the instance and of Redis are five seconds apart at most. Two instances may then
be ten apart, and that much longer than a refill takes is what the script lets its key live. -/
def ScriptCall.ClocksClose (c : ScriptCall) : Prop := |c.env.unixNow - c.env.redisNow| ≤ 5

instance (c : ScriptCall) : Decidable c.ClocksClose :=
  inferInstanceAs (Decidable (|c.env.unixNow - c.env.redisNow| ≤ 5))

/-! ## A hash and its bucket -/

/-- The bucket with the tokens of a hash. -/
def TokenHash.bucket (cfg : TokenBucketConfig) (h : TokenHash) : Bucket :=
  ⟨h.tokens, cfg.capacity, cfg.refillRate, h.lastRefill⟩

/-- The script of a bucket's configuration. -/
def TokenBucketConfig.script (cfg : TokenBucketConfig) : DistributedRateLimitConfig :=
  .tokenBucket cfg.capacity cfg.refillRate

/-- What is under a key of Redis, and the bucket that has it in the process. -/
inductive Mirrors (cfg : TokenBucketConfig) : Option RateKey → Option Bucket → Prop where
  | unused : Mirrors cfg none none
  | used (hash : TokenHash) (redisThen : ℤ) (hnonneg : 0 ≤ hash.tokens)
      (hclose : |hash.lastRefill - redisThen| ≤ 5) :
      Mirrors cfg (some ⟨.bucket hash, some (redisThen + scriptTtl cfg.script)⟩)
        (some (hash.bucket cfg))

/-- Redis and the process hold the same under every key. -/
structure MirrorsAll (cfg : TokenBucketConfig) (keys : RateKeys) (l : L1LocalLimiter) : Prop where
  config : l.config = cfg
  keys : ∀ key, Mirrors cfg (keys.keys.lookup key) (l.buckets.lookup key)

/-- A script that runs for a call finds `data`, and the bucket of the key holds as much. -/
structure FindsAlike (cfg : TokenBucketConfig) (keys : RateKeys) (l : L1LocalLimiter)
    (c : ScriptCall) (data : Option TokenHash) (expiresAt : Option ℤ) : Prop where
  invoke : keys.invoke c.env cfg.script c.key =
    keys.invokeTokenBucket c.env cfg.capacity cfg.refillRate c.key data expiresAt
  nonneg : ∀ hash ∈ data, 0 ≤ hash.tokens
  sized : (l.bucket c.env.unixNow c.key).Sized cfg
  level : (l.bucket c.env.unixNow c.key).level c.env.unixNow =
    refilled cfg.capacity cfg.refillRate c.env.unixNow data

section
variable {cfg : TokenBucketConfig} {keys : RateKeys} {l : L1LocalLimiter} {c : ScriptCall}
  {b : Bucket} {now : ℚ} {hash : TokenHash} {data : Option TokenHash} {expiresAt : Option ℤ}

/-- A consume of a bucket that holds what the script finds does what the script does. -/
theorem consume_script (hsized : b.Sized cfg)
    (hlevel : b.level now = refilled cfg.capacity cfg.refillRate now data) :
    b.consume now = (decide (1 ≤ refilled cfg.capacity cfg.refillRate now data),
      (tokenBucketScript cfg.capacity cfg.refillRate now data).2.bucket cfg) := by
  rw [Bucket.consume_eq, hlevel, tokenBucketScript_snd, hsized.capacity, hsized.refillRate]
  by_cases hone : 1 ≤ refilled cfg.capacity cfg.refillRate now data
  · rw [if_pos hone, if_pos hone]
    rfl
  · rw [if_neg hone, if_neg hone, sub_zero]
    rfl

theorem TokenHash.sized_bucket (h : 0 ≤ hash.tokens) : (hash.bucket cfg).Sized cfg :=
  ⟨rfl, rfl, h⟩

/-- A bucket is full once a refill from empty is over. -/
theorem refilled_rested (hrate : 0 < cfg.refillRate) (hnonneg : 0 ≤ hash.tokens)
    (hrested : hash.lastRefill + (cfg.capacity : ℚ) / cfg.refillRate ≤ now) :
    refilled cfg.capacity cfg.refillRate now (some hash) = cfg.capacity := by
  have hrate' : (0 : ℚ) < cfg.refillRate := Nat.cast_pos.mpr hrate
  have helapsed : (cfg.capacity : ℚ) / cfg.refillRate ≤ max 0 (now - hash.lastRefill) :=
    le_max_of_le_right (le_sub_iff_add_le'.mpr hrested)
  have hgain : (cfg.capacity : ℚ) ≤ max 0 (now - hash.lastRefill) * cfg.refillRate :=
    (div_le_iff₀ hrate').mp helapsed
  apply min_eq_right
  exact hgain.trans (le_add_of_nonneg_left hnonneg)

/-- A key that has expired, by the clock of Redis, is of a bucket that is full, by the clocks of
the instances. -/
theorem refilled_expired {redisThen : ℤ} (hrate : 0 < cfg.refillRate) (hnonneg : 0 ≤ hash.tokens)
    (hthen : |hash.lastRefill - redisThen| ≤ 5) (hclose : c.ClocksClose)
    (hgone : redisThen + scriptTtl cfg.script ≤ c.env.redisNow) :
    refilled cfg.capacity cfg.refillRate c.env.unixNow (some hash) = cfg.capacity := by
  have hceil : (cfg.capacity : ℚ) / cfg.refillRate ≤ ⌈(cfg.capacity : ℚ) / cfg.refillRate⌉ :=
    Int.le_ceil _
  have hpassed : ((redisThen + scriptTtl cfg.script : ℤ) : ℚ) ≤ c.env.redisNow :=
    Int.cast_le.mpr hgone
  rw [TokenBucketConfig.script, scriptTtl] at hpassed
  push_cast at hpassed
  -- both clocks were five seconds off at most, and the key was given ten more
  have hahead : hash.lastRefill - redisThen ≤ 5 := (abs_le.mp hthen).2
  have hbehind : -5 ≤ c.env.unixNow - c.env.redisNow := (abs_le.mp hclose).1
  apply refilled_rested hrate hnonneg
  linarith

theorem Mirrors.findsAlike (hrate : 0 < cfg.refillRate) (hup : c.env.up = true)
    (hclose : c.ClocksClose) (hconfig : l.config = cfg)
    (h : Mirrors cfg (keys.keys.lookup c.key) (l.buckets.lookup c.key)) :
    ∃ data expiresAt, FindsAlike cfg keys l c data expiresAt := by
  have hmissing : keys.live c.env.redisNow c.key = none →
      keys.invoke c.env cfg.script c.key =
        keys.invokeTokenBucket c.env cfg.capacity cfg.refillRate c.key none none := by
    intro hlive
    simp [RateKeys.invoke, TokenBucketConfig.script, hup, hlive]
  generalize hkey : keys.keys.lookup c.key = stored at h
  generalize hbucket : l.buckets.lookup c.key = kept at h
  cases h with
  | unused =>
      have hnew : l.bucket c.env.unixNow c.key = .new cfg c.env.unixNow := by
        rw [L1LocalLimiter.bucket, hbucket, hconfig, Option.getD_none]
      have hlive : keys.live c.env.redisNow c.key = none := by
        rw [RateKeys.live, hkey]
        rfl
      refine ⟨none, none, hmissing hlive, by rintro _ ⟨⟩, ?_, ?_⟩
      · rw [hnew]
        exact Bucket.sized_new
      · rw [hnew, Bucket.level_new, refilled_none]
  | used hash redisThen hnonneg hthen =>
      have hused : l.bucket c.env.unixNow c.key = hash.bucket cfg := by
        rw [L1LocalLimiter.bucket, hbucket, Option.getD_some]
      have hsized : (l.bucket c.env.unixNow c.key).Sized cfg := by
        rw [hused]
        exact TokenHash.sized_bucket hnonneg
      have hlevel : (l.bucket c.env.unixNow c.key).level c.env.unixNow =
          refilled cfg.capacity cfg.refillRate c.env.unixNow (some hash) := by
        rw [hused]
        rfl
      have hlive : keys.live c.env.redisNow c.key =
          if c.env.redisNow < redisThen + scriptTtl cfg.script
          then some ⟨.bucket hash, some (redisThen + scriptTtl cfg.script)⟩ else none :=
        RateKeys.live_stored hkey
      by_cases hlt : c.env.redisNow < redisThen + scriptTtl cfg.script
      · rw [if_pos hlt] at hlive
        refine ⟨some hash, _, RateKeys.invoke_bucket hup hlive, ?_, hsized, hlevel⟩
        rintro _ ⟨rfl⟩
        exact hnonneg
      · rw [if_neg hlt] at hlive
        refine ⟨none, none, hmissing hlive, by rintro _ ⟨⟩, hsized, ?_⟩
        rw [hlevel, refilled_none]
        exact refilled_expired hrate hnonneg hthen hclose (not_lt.mp hlt)

namespace FindsAlike

/-- What Redis does. -/
theorem keys_check (h : FindsAlike cfg keys l c data expiresAt) (hrate : 0 < cfg.refillRate) :
    keys.check cfg.script c =
      (⟨decide (1 ≤ refilled cfg.capacity cfg.refillRate c.env.unixNow data),
        (tokenBucketScript cfg.capacity cfg.refillRate c.env.unixNow data).2.tokens.floor.toNat⟩,
      keys.set c.key
        (.bucket (tokenBucketScript cfg.capacity cfg.refillRate c.env.unixNow data).2)
        (some (c.env.redisNow + scriptTtl cfg.script))) := by
  have hne : (cfg.refillRate : ℚ) ≠ 0 := Nat.cast_ne_zero.mpr hrate.ne'
  rw [RateKeys.check, h.invoke, RateKeys.invokeTokenBucket, tokenBucketScript_eq]
  dsimp only [luaDiv]
  rw [if_neg hne]
  by_cases hone : 1 ≤ refilled cfg.capacity cfg.refillRate c.env.unixNow data
  · simp only [hone, if_true, decide_true]
    rfl
  · simp only [hone, if_false, decide_false]
    rfl

/-- What the process does in its place. -/
theorem process_check (h : FindsAlike cfg keys l c data expiresAt) (hup : c.env.up = true) :
    (l.inPlaceOfRedis c).1 =
        ⟨decide (1 ≤ refilled cfg.capacity cfg.refillRate c.env.unixNow data),
        (tokenBucketScript cfg.capacity cfg.refillRate c.env.unixNow data).2.tokens.floor.toNat⟩ ∧
      (l.inPlaceOfRedis c).2 = (l.check c.env.unixNow c.key).2 ∧
      (l.check c.env.unixNow c.key).2.buckets.lookup c.key =
        some ((tokenBucketScript cfg.capacity cfg.refillRate c.env.unixNow data).2.bucket cfg) := by
  have hconsume := consume_script h.sized h.level
  have hkept : (l.check c.env.unixNow c.key).2.buckets.lookup c.key =
      some ((tokenBucketScript cfg.capacity cfg.refillRate c.env.unixNow data).2.bucket cfg) := by
    rw [L1LocalLimiter.check_lookup_self, hconsume]
  have hallowed : (l.check c.env.unixNow c.key).1 =
      decide (1 ≤ refilled cfg.capacity cfg.refillRate c.env.unixNow data) := by
    rw [L1LocalLimiter.check, hconsume]
  -- nothing is refilled between the consume and the reading of what remains
  have hremaining : (l.check c.env.unixNow c.key).2.remaining c.env.unixNow c.key =
      (tokenBucketScript cfg.capacity cfg.refillRate
        c.env.unixNow data).2.tokens.floor.toNat := by
    have hnow := (l.lookedAt_check c.env.unixNow c.key).level hkept
    rw [L1LocalLimiter.remaining_eq, L1LocalLimiter.level, L1LocalLimiter.bucket, hkept,
      Option.getD_some, hnow]
    rfl
  rw [L1LocalLimiter.inPlaceOfRedis, if_pos hup]
  dsimp only
  rw [hallowed, hremaining]
  exact ⟨rfl, rfl, hkept⟩

end FindsAlike

/-- A call that reaches Redis is answered as by the process, and leaves the same there. -/
theorem MirrorsAll.check (hrate : 0 < cfg.refillRate) (hup : c.env.up = true)
    (hclose : c.ClocksClose) (h : MirrorsAll cfg keys l) :
    (keys.check cfg.script c).1 = (l.inPlaceOfRedis c).1 ∧
      MirrorsAll cfg (keys.check cfg.script c).2 (l.inPlaceOfRedis c).2 := by
  obtain ⟨data, expiresAt, hfinds⟩ := (h.keys c.key).findsAlike hrate hup hclose h.config
  obtain ⟨hverdict, hafter, hkept⟩ := hfinds.process_check hup
  have hleft : LeftAt c.env.unixNow
      (tokenBucketScript cfg.capacity cfg.refillRate c.env.unixNow data).2 :=
    leftAt_script hfinds.nonneg
  rw [hfinds.keys_check hrate, hverdict, hafter]
  refine ⟨rfl, h.config, ?_⟩
  intro key
  by_cases hkey : key = c.key
  · subst hkey
    rw [RateKeys.set_lookup_self, hkept]
    refine .used _ _ hleft.nonneg ?_
    rw [hleft.lastRefill]
    exact hclose
  · rw [RateKeys.set_lookup_ne hkey, l.check_lookup_ne _ hkey]
    exact h.keys key

/-- A call that does not is let through, and leaves nothing. -/
theorem MirrorsAll.down (hup : c.env.up = false) (h : MirrorsAll cfg keys l) :
    (keys.check cfg.script c).1 = (l.inPlaceOfRedis c).1 ∧
      MirrorsAll cfg (keys.check cfg.script c).2 (l.inPlaceOfRedis c).2 := by
  have hchecked : keys.check cfg.script c = (⟨true, 0⟩, keys) := by
    simp [RateKeys.check, RateKeys.invoke, hup, l2Check]
  have hstand : l.inPlaceOfRedis c = (⟨true, 0⟩, l) := by
    simp [L1LocalLimiter.inPlaceOfRedis, hup]
  rw [hchecked, hstand]
  exact ⟨rfl, h⟩

end

/-! ## Runs -/

/-- A call at the time of an instance, and of Redis. -/
def clockedCall (unixNow : ℚ) (redisNow : ℤ) : ScriptCall :=
  ⟨[], ⟨0, unixNow, [], true, redisNow, fun _ => [], []⟩⟩

end Stateform
