import Stateform.Library.Quota
import Stateform.RateLimit.Isolation

/-!
# What `X-RateLimit-Remaining` promises

A request that is let through is told the smaller of what its bucket and its script have
left. At the same instant that is exact: of the requests that follow on the key, that many
are let through, and no more (`remaining_exact`).
-/

namespace Stateform

open Library

/-! ## What the bucket has left -/

section
variable {l : L1LocalLimiter} {b : Bucket} {now : ℚ} {key : Str}

theorem one_le_iff_floor {tokens : ℚ} : 1 ≤ tokens ↔ 0 < tokens.floor.toNat := by
  have hfloor : 1 ≤ tokens ↔ 1 ≤ tokens.floor := by
    rw [Rat.le_floor_iff]
    norm_cast
  rw [hfloor]
  omega

theorem floor_sub_one (tokens : ℚ) : (tokens - 1).floor.toNat = tokens.floor.toNat - 1 := by
  have hfloor : (tokens - 1).floor = tokens.floor - 1 := Int.floor_sub_one tokens
  omega

/-- The bucket of the key was looked at just now. -/
def L1LocalLimiter.LookedAt (l : L1LocalLimiter) (now : ℚ) (key : Str) : Prop :=
  ∃ b, l.buckets.lookup key = some b ∧ b.lastRefill = now ∧ b.tokens ≤ b.capacity

theorem L1LocalLimiter.lookedAt_check (l : L1LocalLimiter) (now : ℚ) (key : Str) :
    (l.check now key).2.LookedAt now key := by
  refine ⟨_, l.check_lookup_self now key, ?_, ?_⟩
  · rw [Bucket.consume_eq]
  · rw [Bucket.consume_eq]
    have hlevel : (l.bucket now key).level now ≤ (l.bucket now key).capacity := min_le_right _ _
    dsimp only
    split <;> linarith

/-- No time has passed, and nothing is refilled. -/
theorem L1LocalLimiter.LookedAt.level (h : l.LookedAt now key)
    (hb : l.buckets.lookup key = some b) : b.level now = b.tokens := by
  obtain ⟨b', hb', rfl, hle⟩ := h
  obtain rfl := Option.some.inj (hb.symm.trans hb')
  rw [Bucket.level, sub_self, max_self, refill, zero_mul, add_zero, min_eq_left hle]

/-- The bucket gives a token exactly if some remain, and then one less does. -/
theorem L1LocalLimiter.LookedAt.check (h : l.LookedAt now key) :
    (l.check now key).1 = decide (0 < l.remaining now key) ∧
      (l.check now key).2.remaining now key = l.remaining now key - 1 := by
  obtain ⟨b, hb, -⟩ := h
  have hbucket : l.bucket now key = b := by rw [L1LocalLimiter.bucket, hb, Option.getD_some]
  have hlevel : l.level now key = b.level now := by rw [L1LocalLimiter.level, hbucket]
  have hchecked := l.check_lookup_self now key
  rw [hbucket] at hchecked
  have hafter : (l.check now key).2.level now key = (b.consume now).2.tokens := by
    rw [level_check_self, hbucket]
    exact (l.lookedAt_check now key).level hchecked
  have hgives : (l.check now key).1 = (b.consume now).1 := by
    show ((l.bucket now key).consume now).1 = _
    rw [hbucket]
  rw [hgives, remaining_eq, remaining_eq, hafter, hlevel, Bucket.consume_eq]
  refine ⟨decide_eq_decide.mpr one_le_iff_floor, ?_⟩
  dsimp only
  by_cases hone : 1 ≤ b.level now
  · rw [if_pos hone, floor_sub_one]
  · rw [if_neg hone, sub_zero]
    have hnone := mt one_le_iff_floor.mpr hone
    omega

end

/-! ## What the script has left -/

/-- How many requests a script still lets through at the instant of what it left. -/
def scriptLeft : DistributedRateLimitConfig → RateValue → ℕ
  | .tokenBucket _ _, .bucket hash => hash.tokens.floor.toNat
  | .slidingWindow maxRequests _, .window members => maxRequests - members.zcard
  | _, _ => 0

/-- A value that the script left at the instant, without any of the ids in it. -/
def LeftNow (unixNow : ℚ) (ids : List Str) : DistributedRateLimitConfig → RateValue → Prop
  | .tokenBucket capacity _, .bucket hash => hash.lastRefill = unixNow ∧ hash.tokens ≤ capacity
  | .slidingWindow _ window, .window members =>
      members.zcard ≤ members.countAbove (unixNow - window) ∧ ∀ id ∈ ids, id ∉ members
  | _, _ => False

/-- None of the ids is in the window under the key. -/
def RateKeys.Unused (keys : RateKeys) (key : Str) (ids : List Str) : Prop :=
  ∀ members expiresAt, keys.keys.lookup key = some ⟨.window members, expiresAt⟩ →
    ∀ id ∈ ids, id ∉ members

/-- What a script that is run leaves under its key and tells of it. -/
structure Left (env : LimitEnv) (ids : List Str) (config : DistributedRateLimitConfig) (key : Str)
    (left : RateValue) (result : Except RateLimitError (List ℤ) × RateKeys) : Prop where
  stored : result.2.keys.lookup key = some ⟨left, some (env.redisNow + scriptTtl config)⟩
  leftNow : LeftNow env.unixNow ids config left
  told : (l2Check result.1).allowed = true → (l2Check result.1).remaining = scriptLeft config left

section
variable {keys : RateKeys} {env : LimitEnv} {config : DistributedRateLimitConfig} {key : Str}
  {ids : List Str} {capacity refillRate maxRequests window : ℕ} {data : Option TokenHash}
  {expiresAt : Option ℤ} {members : SortedSet Str ℚ}

theorem left_bucket (hrate : 0 < refillRate) :
    Left env ids (.tokenBucket capacity refillRate) key
      (.bucket (tokenBucketScript capacity refillRate env.unixNow data).2)
      (keys.invokeTokenBucket env capacity refillRate key data expiresAt) := by
  have hne : (refillRate : ℚ) ≠ 0 := Nat.cast_ne_zero.mpr hrate.ne'
  have hle : refilled capacity refillRate env.unixNow data ≤ capacity := min_le_right _ _
  refine ⟨?_, ?_, ?_⟩
  · obtain ⟨remaining, hinvoke⟩ := keys.invokeTokenBucket_ok env capacity key data expiresAt hrate
    rw [hinvoke]
    exact RateKeys.set_lookup_self
  · rw [tokenBucketScript_snd]
    split
    · exact ⟨rfl, by dsimp only; linarith⟩
    · exact ⟨rfl, hle⟩
  · intro _
    dsimp only [RateKeys.invokeTokenBucket]
    rw [tokenBucketScript_eq]
    dsimp only [luaDiv]
    rw [if_neg hne]
    rfl

/-- A request that is let in is one more in the window. -/
theorem zcard_script {now : ℚ} {reqId : Str} (hnew : reqId ∉ members) :
    (slidingWindowScript maxRequests window now reqId members).2.zcard =
      members.countAbove (now - window) +
        if members.countAbove (now - window) < maxRequests then 1 else 0 := by
  have hpruned : (members.zremrangebyscore (now - window)).zcard =
      members.countAbove (now - window) := SortedSet.zcard_zremrangebyscore
  have hgone : reqId ∉ members.zremrangebyscore (now - window) :=
    fun hmem => hnew (SortedSet.mem_of_mem_zremrangebyscore hmem)
  by_cases hroom : members.countAbove (now - window) < maxRequests
  · rw [(slidingWindowScript_admits hroom).2, SortedSet.zcard_zadd hgone, hpruned, if_pos hroom]
  · rw [(slidingWindowScript_deny hroom).2, hpruned, if_neg hroom, Nat.add_zero]

theorem leftNow_window {now : ℚ} {reqId : Str} (hwindow : 0 < window)
    (hnew : ∀ id ∈ reqId :: ids, id ∉ members) (hdistinct : reqId ∉ ids) :
    LeftNow now ids (.slidingWindow maxRequests window)
      (.window (slidingWindowScript maxRequests window now reqId members).2) := by
  have hkept : (members.zremrangebyscore (now - window)).countAbove (now - window) =
      members.countAbove (now - window) := SortedSet.countAbove_zremrangebyscore le_rfl
  have hgone : ∀ id ∈ reqId :: ids, id ∉ members.zremrangebyscore (now - window) :=
    fun id hid hmem => hnew id hid (SortedSet.mem_of_mem_zremrangebyscore hmem)
  have hself := hgone reqId List.mem_cons_self
  refine ⟨?_, ?_⟩
  · rw [zcard_script (hnew reqId List.mem_cons_self)]
    by_cases hroom : members.countAbove (now - window) < maxRequests
    · have hinside : now - window < now := sub_lt_self _ (Nat.cast_pos.mpr hwindow)
      rw [(slidingWindowScript_admits hroom).2, SortedSet.countAbove_zadd hself, hkept,
        if_pos hroom, if_pos hinside]
    · rw [(slidingWindowScript_deny hroom).2, hkept, if_neg hroom, Nat.add_zero]
  · intro id hid
    have hrest := hgone id (List.mem_cons_of_mem _ hid)
    by_cases hroom : members.countAbove (now - window) < maxRequests
    · rw [(slidingWindowScript_admits hroom).2, SortedSet.mem_zadd]
      rintro (rfl | hmem)
      · exact hdistinct hid
      · exact hrest hmem
    · rw [(slidingWindowScript_deny hroom).2]
      exact hrest

theorem left_window (hlimit : 1 ≤ maxRequests) (hwindow : 0 < window)
    (hnew : ∀ id ∈ env.reqId :: ids, id ∉ members) (hdistinct : env.reqId ∉ ids) :
    Left env ids (.slidingWindow maxRequests window) key
      (.window (slidingWindowScript maxRequests window env.unixNow env.reqId members).2)
      (keys.invokeSlidingWindow env maxRequests window key members) := by
  have hcard : (slidingWindowScript maxRequests window env.unixNow env.reqId members).2.zcard = _ :=
    zcard_script (hnew _ List.mem_cons_self)
  refine ⟨?_, leftNow_window hwindow hnew hdistinct, ?_⟩
  · have hsome : (slidingWindowScript maxRequests window env.unixNow env.reqId
        members).2.zcard ≠ 0 := by
      rw [hcard]
      split <;> omega
    dsimp only [RateKeys.invokeSlidingWindow]
    rw [if_neg hsome]
    exact RateKeys.set_lookup_self
  · intro hallowed
    have hroom := allowed_invokeSlidingWindow.mp hallowed
    have hpruned : (members.zremrangebyscore (env.unixNow - window)).zcard =
        members.countAbove (env.unixNow - window) := SortedSet.zcard_zremrangebyscore
    rw [scriptLeft, hcard, if_pos hroom]
    rw [← hpruned] at hroom
    dsimp only [RateKeys.invokeSlidingWindow, slidingWindowScript, l2Check, scriptResult]
    rw [if_pos hroom, hpruned]
    show (max 0 ((maxRequests : ℤ) - _ - 1)).toNat = _
    omega

/-- What is left says whether the next request is let through, and goes down by one. -/
theorem left_takes (hlimits : LimitsPositive config) {value : RateValue} (hup : env.up = true)
    (hlive : keys.live env.redisNow key = some ⟨value, expiresAt⟩)
    (hvalue : LeftNow env.unixNow (env.reqId :: ids) config value) (hdistinct : env.reqId ∉ ids) :
    keys.allows env config key = decide (0 < scriptLeft config value) ∧
      ∃ left, Left env ids config key left (keys.invoke env config key) ∧
        scriptLeft config left = scriptLeft config value - 1 := by
  unfold RateKeys.allows
  cases config with
  | tokenBucket capacity refillRate =>
      cases value with
      | window members => exact hvalue.elim
      | bucket hash =>
          obtain ⟨hlast, hle⟩ := hvalue
          have hrefilled : refilled capacity refillRate env.unixNow (some hash) = hash.tokens := by
            rw [refilled, storedBucket, hlast, sub_self, max_self, refill, zero_mul, add_zero,
              min_eq_left hle]
          have hallows := @allowed_invokeTokenBucket keys env key capacity refillRate (some hash)
            expiresAt hlimits.2
          rw [RateKeys.invoke_bucket hup hlive]
          rw [hrefilled, one_le_iff_floor] at hallows
          refine ⟨Bool.eq_iff_iff.mpr (hallows.trans decide_eq_true_iff.symm), _,
            left_bucket hlimits.2, ?_⟩
          rw [tokenBucketScript_snd, hrefilled]
          split
          · exact floor_sub_one hash.tokens
          · next hlow =>
              have := mt one_le_iff_floor.mpr hlow
              dsimp only [scriptLeft]
              omega
  | slidingWindow maxRequests window =>
      cases value with
      | bucket hash => exact hvalue.elim
      | window members =>
          obtain ⟨habove, hnew⟩ := hvalue
          have hcount : members.countAbove (env.unixNow - window) = members.zcard :=
            le_antisymm SortedSet.countAbove_le_zcard habove
          have hallows := @allowed_invokeSlidingWindow keys env key maxRequests window members
          rw [RateKeys.invoke_window hup hlive]
          refine ⟨Bool.eq_iff_iff.mpr (hallows.trans ?_), _,
            left_window hlimits.1 hlimits.2 hnew hdistinct, ?_⟩
          · rw [hcount, decide_eq_true_iff, scriptLeft]
            omega
          · rw [scriptLeft, scriptLeft, zcard_script (hnew _ List.mem_cons_self), hcount]
            split <;> omega

/-- The first time, whatever is under the key and whenever it was left there. -/
theorem left_of_reply (hlimits : LimitsPositive config) {values : List ℤ}
    (hreply : (keys.invoke env config key).1 = .ok values)
    (hunused : keys.Unused key (env.reqId :: ids)) (hdistinct : env.reqId ∉ ids) :
    ∃ left, Left env ids config key left (keys.invoke env config key) := by
  cases hup : env.up with
  | false => simp [RateKeys.invoke, hup] at hreply
  | true =>
  cases hlive : keys.live env.redisNow key with
  | none =>
      cases config with
      | tokenBucket capacity refillRate =>
          have hinvoke : keys.invoke env (.tokenBucket capacity refillRate) key =
              keys.invokeTokenBucket env capacity refillRate key none none := by
            simp [RateKeys.invoke, hup, hlive]
          rw [hinvoke]
          exact ⟨_, left_bucket hlimits.2⟩
      | slidingWindow maxRequests window =>
          have hinvoke : keys.invoke env (.slidingWindow maxRequests window) key =
              keys.invokeSlidingWindow env maxRequests window key ∅ := by
            simp [RateKeys.invoke, hup, hlive]
          rw [hinvoke]
          exact ⟨_, left_window hlimits.1 hlimits.2 (fun id _ => AList.notMem_empty id) hdistinct⟩
  | some k =>
  obtain ⟨value, expiresAt⟩ := k
  cases config with
  | tokenBucket capacity refillRate =>
      cases value with
      | bucket hash =>
          rw [RateKeys.invoke_bucket hup hlive]
          exact ⟨_, left_bucket hlimits.2⟩
      | window members => simp [RateKeys.invoke, hup, hlive] at hreply
  | slidingWindow maxRequests window =>
      cases value with
      | bucket hash => simp [RateKeys.invoke, hup, hlive] at hreply
      | window members =>
          have hstored : keys.keys.lookup key = some ⟨.window members, expiresAt⟩ :=
            (Option.filter_eq_some_iff.mp hlive).1
          rw [RateKeys.invoke_window hup hlive]
          exact ⟨_, left_window hlimits.1 hlimits.2 (hunused members expiresAt hstored) hdistinct⟩

/-- A key that a script has just left is there. -/
theorem live_of_left (hlimits : LimitsPositive config) {value : RateValue}
    (hstored : keys.keys.lookup key = some ⟨value, some (env.redisNow + scriptTtl config)⟩) :
    keys.live env.redisNow key = some ⟨value, some (env.redisNow + scriptTtl config)⟩ := by
  have hpos : 0 < scriptTtl config := by
    cases config with
    | tokenBucket capacity refillRate =>
        have hfull : (0 : ℤ) ≤ ⌈(capacity : ℚ) / refillRate⌉ := Int.ceil_nonneg (by positivity)
        show 0 < ⌈(capacity : ℚ) / refillRate⌉ + 10
        omega
    | slidingWindow maxRequests window =>
        show (0 : ℤ) < window + 5
        omega
  rw [RateKeys.live_stored hstored, if_pos (by omega)]

end

/-! ## The same request again -/

/-- The same request again, at the same instant by all clocks, with Redis still there. -/
structure LimitCall.Repeats (c b : LimitCall) : Prop where
  middlewareRef : b.middlewareRef = c.middlewareRef
  key : b.key = c.key
  now : b.env.now = c.env.now
  unixNow : b.env.unixNow = c.env.unixNow
  redisNow : b.env.redisNow = c.env.redisNow
  up : b.env.up = true

/-- What both layers have left for a request. -/
def LimitState.leftFor (c : LimitCall) (s : LimitState) : ℕ :=
  match s.policyOf c, s.keys.keys.lookup c.key with
  | some pol, some k => min (pol.l1.remaining c.env.now c.key) (scriptLeft pol.l2 k.value)
  | _, _ => 0

/-- Both layers were asked at the instant of the call, and the same request will come again. -/
structure Drawn (c : LimitCall) (pol : Policy) (value : RateValue) (again : List LimitCall)
    (s : LimitState) : Prop where
  policy : s.policyOf c = some pol
  limits : LimitsPositive pol.l2
  lookedAt : pol.l1.LookedAt c.env.now c.key
  stored : s.keys.keys.lookup c.key = some ⟨value, some (c.env.redisNow + scriptTtl pol.l2)⟩
  leftNow : LeftNow c.env.unixNow (again.map fun b => b.env.reqId) pol.l2 value
  repeats : ∀ b ∈ again, c.Repeats b
  distinct : (again.map fun b => b.env.reqId).Nodup

section
variable {s : LimitState} {b c : LimitCall} {pol : Policy} {value : RateValue}
  {again : List LimitCall} {rlRef : RateLimitMiddlewareRef}

theorem LimitState.policyOf_eq_some (h : s.policyOf c = some pol) :
    ∃ rlRef, c.middlewareRef = some rlRef ∧
      s.limiter.policies.lookup rlRef.policy = some pol :=
  Option.bind_eq_some_iff.mp h

/-- Both layers have to let a request through. -/
theorem isAllowed_answer (href : c.middlewareRef = some rlRef)
    (hpol : s.limiter.policies.lookup rlRef.policy = some pol) :
    isAllowed (s.answer c).1 =
      ((pol.l1.check c.env.now c.key).1 && s.keys.allows c.env pol.l2 c.key) := by
  rw [LimitState.answer_outcome href hpol, RateKeys.allows]
  simp only [isAllowed, RateLimiter.outcome]
  cases (pol.l1.check c.env.now c.key).1 with
  | false => rfl
  | true =>
      cases (l2Check (s.keys.invoke c.env pol.l2 c.key).1).allowed <;> simp

theorem Drawn.leftFor (h : Drawn c pol value again s) :
    s.leftFor c = min (pol.l1.remaining c.env.now c.key) (scriptLeft pol.l2 value) := by
  rw [LimitState.leftFor, h.policy, h.stored]

theorem LeftNow.tail {unixNow : ℚ} {id : Str} {ids : List Str}
    {config : DistributedRateLimitConfig} (h : LeftNow unixNow (id :: ids) config value) :
    LeftNow unixNow ids config value := by
  cases config with
  | tokenBucket capacity refillRate =>
      cases value with
      | bucket hash => exact h
      | window members => exact h
  | slidingWindow maxRequests window =>
      cases value with
      | bucket hash => exact h
      | window members => exact ⟨h.1, fun other hother => h.2 other (List.mem_cons_of_mem _ hother)⟩

theorem policyOf_checked (href : c.middlewareRef = some rlRef) (keys : RateKeys) :
    (⟨s.checked b rlRef.policy pol, keys⟩ : LimitState).policyOf c =
      some { pol with l1 := (pol.l1.check b.env.now b.key).2 } := by
  rw [LimitState.policyOf, href]
  exact AList.lookup_insert s.limiter.policies

/-- The step lemma. -/
theorem Drawn.step (h : Drawn c pol value (b :: again) s) :
    isAllowed (s.answer b).1 = decide (0 < s.leftFor c) ∧
      ∃ pol' value', Drawn c pol' value' again (s.step b) ∧
        (s.step b).leftFor c = s.leftFor c - 1 := by
  have hb := h.repeats b List.mem_cons_self
  have hrest : ∀ b ∈ again, c.Repeats b := fun b' hb' => h.repeats b' (List.mem_cons_of_mem _ hb')
  have hdistinct := List.nodup_cons.mp h.distinct
  obtain ⟨rlRef, href, hpol⟩ := LimitState.policyOf_eq_some h.policy
  have hrefb : b.middlewareRef = some rlRef := hb.middlewareRef.trans href
  -- the bucket
  obtain ⟨hl1, hremaining⟩ := h.lookedAt.check
  have hlooked := pol.l1.lookedAt_check c.env.now c.key
  rw [← hb.now, ← hb.key] at hl1
  -- the script, if it is run
  have hstored : s.keys.keys.lookup b.key =
      some ⟨value, some (b.env.redisNow + scriptTtl pol.l2)⟩ := by
    rw [hb.key, hb.redisNow]
    exact h.stored
  have hleftNow : LeftNow b.env.unixNow (b.env.reqId :: again.map fun b => b.env.reqId) pol.l2
      value := by
    rw [hb.unixNow]
    exact h.leftNow
  obtain ⟨hl2, left, hleft, htakes⟩ :=
    left_takes h.limits hb.up (live_of_left h.limits hstored) hleftNow hdistinct.1
  refine ⟨?_, { pol with l1 := (pol.l1.check b.env.now b.key).2 }, ?_⟩
  · rw [isAllowed_answer hrefb hpol, hl1, hl2, h.leftFor, hb.now, hb.key, ← Bool.decide_and]
    exact decide_eq_decide.mpr lt_min_iff.symm
  rw [LimitState.step_checked hrefb hpol, hl1]
  by_cases hgives : 0 < pol.l1.remaining b.env.now b.key
  · rw [if_pos (decide_eq_true hgives)]
    have hdrawn : Drawn c { pol with l1 := (pol.l1.check b.env.now b.key).2 } left again
        ⟨s.checked b rlRef.policy pol, (s.keys.invoke b.env pol.l2 b.key).2⟩ := by
      refine ⟨policyOf_checked href _, h.limits, ?_, ?_, ?_, hrest, hdistinct.2⟩
      · rw [hb.now, hb.key]
        exact hlooked
      · rw [← hb.key, ← hb.redisNow]
        exact hleft.stored
      · rw [← hb.unixNow]
        exact hleft.leftNow
    refine ⟨left, hdrawn, ?_⟩
    rw [hdrawn.leftFor, h.leftFor, hb.now, hb.key, hremaining, htakes]
    omega
  · rw [if_neg (by simpa using hgives)]
    have hdrawn : Drawn c { pol with l1 := (pol.l1.check b.env.now b.key).2 } value again
        ⟨s.checked b rlRef.policy pol, s.keys⟩ := by
      refine ⟨policyOf_checked href _, h.limits, ?_, h.stored, h.leftNow.tail, hrest, hdistinct.2⟩
      rw [hb.now, hb.key]
      exact hlooked
    refine ⟨value, hdrawn, ?_⟩
    rw [hb.now, hb.key] at hgives
    rw [hdrawn.leftFor, h.leftFor, hb.now, hb.key, hremaining]
    omega

/-- Each repeat takes one of what is left. -/
theorem quota (c : LimitCall) :
    Quota LimitState.answer isAllowed (fun again s => ∃ pol value, Drawn c pol value again s)
      (LimitState.leftFor c) where
  grants_iff := by
    rintro b again s ⟨pol, value, h⟩
    exact h.step.1
  takes := by
    rintro b again s ⟨pol, value, h⟩
    obtain ⟨_, _, _, _, htakes⟩ := h.step
    exact htakes
  keeps := by
    rintro b again s ⟨pol, value, h⟩
    obtain ⟨_, pol', value', h', _⟩ := h.step
    exact ⟨pol', value', h'⟩

/-- A request that is let through leaves what it is told. -/
theorem drawn_of_allowed {o : RateLimitOutcome} {values : List ℤ}
    (hpol : s.policyOf c = some pol) (hlimits : LimitsPositive pol.l2)
    (hreply : (s.keys.invoke c.env pol.l2 c.key).1 = .ok values)
    (hanswer : (s.answer c).1 = .ok o) (hallowed : o.allowed = true)
    (hrepeats : ∀ b ∈ again, c.Repeats b)
    (hdistinct : ((c :: again).map fun b => b.env.reqId).Nodup)
    (hunused : s.keys.Unused c.key ((c :: again).map fun b => b.env.reqId)) :
    ∃ pol' value, Drawn c pol' value again (s.step c) ∧ (s.step c).leftFor c = o.remaining := by
  obtain ⟨rlRef, href, hlookup⟩ := LimitState.policyOf_eq_some hpol
  have hdistinct' := List.nodup_cons.mp hdistinct
  have hboth : (pol.l1.check c.env.now c.key).1 = true ∧
      s.keys.allows c.env pol.l2 c.key = true := by
    rw [← Bool.and_eq_true, ← isAllowed_answer href hlookup, hanswer]
    exact hallowed
  obtain ⟨hl1, hl2⟩ := hboth
  obtain ⟨left, hleft⟩ := left_of_reply hlimits hreply hunused hdistinct'.1
  have hremaining : o.remaining = min ((pol.l1.check c.env.now c.key).2.remaining c.env.now c.key)
      (scriptLeft pol.l2 left) := by
    rw [LimitState.answer_outcome href hlookup, hl1] at hanswer
    rw [RateKeys.allows] at hl2
    rw [← Except.ok.inj hanswer, ← hleft.told hl2]
    simp [RateLimiter.outcome, hl2]
  have hdrawn : Drawn c { pol with l1 := (pol.l1.check c.env.now c.key).2 } left again
      ⟨s.checked c rlRef.policy pol, (s.keys.invoke c.env pol.l2 c.key).2⟩ :=
    ⟨policyOf_checked href _, hlimits, pol.l1.lookedAt_check _ _, hleft.stored, hleft.leftNow,
      hrepeats, hdistinct'.2⟩
  rw [LimitState.step_checked href hlookup, hl1, if_pos rfl]
  exact ⟨_, left, hdrawn, hdrawn.leftFor.trans hremaining.symm⟩

end

/-! ## In a fleet -/

section
variable {Gateway : Type}

def FleetCall.reqId (c : FleetCall Gateway) : Str := c.call.env.reqId

/-- Those of some calls that are on the key of this one. -/
def FleetCall.onSameKey (c : FleetCall Gateway) (calls : List (FleetCall Gateway)) :
    List (FleetCall Gateway) := calls.filter fun b => b.call.key = c.call.key

end

namespace LimitFleet

variable {Gateway : Type} [DecidableEq Gateway]

/-- The calls on one instance are those of its limiter over Redis. -/
theorem transcript_view {g : Gateway} (calls : List (FleetCall Gateway))
    (hall : ∀ c ∈ calls, c.gateway = g) (f : LimitFleet Gateway) :
    (transcript answer f calls).map Prod.snd =
      (transcript LimitState.answer (f.view g) (calls.map FleetCall.call)).map Prod.snd := by
  induction calls generalizing f with
  | nil => rfl
  | cons c calls ih =>
      obtain rfl := hall c List.mem_cons_self
      have hrest := ih (fun c' hc' => hall c' (List.mem_cons_of_mem _ hc')) (f.step c)
      rw [view_step, if_pos rfl] at hrest
      exact congrArg₂ List.cons rfl hrest

/-- **What remains is exact.** Where the limits of the second layer and its refill rate or window
are positive and Redis answers, a request that both layers let through is told how many of its
repeats at the same instant will be: where each of them comes through the same instance under
an id of its own, the first so many are let through and no other one is, whatever else is
asked for on other keys. -/
theorem remaining_exact {Gateway : Type} [DecidableEq Gateway] (f : LimitFleet Gateway)
    (c : FleetCall Gateway) (later : List (FleetCall Gateway)) (pol : Policy) (o : RateLimitOutcome)
    (values : List ℤ) (hpol : (f.view c.gateway).policyOf c.call = some pol)
    (hlimits : LimitsPositive pol.l2)
    (hreply : (f.keys.invoke c.call.env pol.l2 c.call.key).1 = .ok values)
    (hanswer : (f.answer c).1 = .ok o) (hallowed : o.allowed = true)
    (hrepeats : ∀ b ∈ c.onSameKey later, b.gateway = c.gateway ∧ c.call.Repeats b.call)
    (hdistinct : ((c :: c.onSameKey later).map FleetCall.reqId).Nodup)
    (hunused : f.keys.Unused c.call.key ((c :: c.onSameKey later).map FleetCall.reqId)) :
    ((transcript answer (f.step c) later).filter fun e => e.1.call.key = c.call.key).map
        (fun e => isAllowed e.2) =
      (List.range (c.onSameKey later).length).map fun i => decide (i < o.remaining) := by
  have hids : (c :: c.onSameKey later).map FleetCall.reqId =
      (c.call :: (c.onSameKey later).map FleetCall.call).map fun b => b.env.reqId := by
    rw [List.map_cons, List.map_cons, List.map_map]
    rfl
  rw [hids] at hdistinct hunused
  obtain ⟨pol', value, hdrawn, hleft⟩ := drawn_of_allowed hpol hlimits hreply hanswer hallowed
    (List.forall_mem_map.mpr fun b hb => (hrepeats b hb).2) hdistinct hunused
  have hgrants := (quota c.call).grants _ ⟨pol', value, hdrawn⟩
  have hview : (f.step c).view c.gateway = (f.view c.gateway).step c.call := by
    rw [view_step, if_pos rfl]
  have hsame := transcript_view (c.onSameKey later) (fun b hb => (hrepeats b hb).1) (f.step c)
  rw [hview] at hsame
  rw [keys_isolated]
  calc (transcript answer (f.step c) (c.onSameKey later)).map (fun e => isAllowed e.2)
      = ((transcript answer (f.step c) (c.onSameKey later)).map Prod.snd).map isAllowed := by
        rw [List.map_map]
        rfl
    _ = (transcript LimitState.answer ((f.view c.gateway).step c.call)
          ((c.onSameKey later).map FleetCall.call)).map fun e => isAllowed e.2 := by
        rw [hsame, List.map_map]
        rfl
    _ = _ := by rw [hgrants, List.length_map, hleft]

/-- One instance, with a script that lets two requests through. -/
def limitedFleet : LimitFleet Unit :=
  ⟨fun _ => .new (limitedBy (.slidingWindow 2 10)), ⟨∅⟩⟩

/-- The same request, under an id. -/
def limitedRepeat (reqId : Str) : FleetCall Unit :=
  ⟨(), { limitedCall 0 with env := { (limitedCall 0).env with reqId := reqId } }⟩

/-- One more is let through, and the next is not. -/
theorem remaining_exact_two :
    ((transcript answer (limitedFleet.step (limitedRepeat "a".toList))
        [limitedRepeat "b".toList, limitedRepeat "c".toList]).filter fun e =>
          e.1.call.key = (limitedRepeat "a".toList).call.key).map (fun e => isAllowed e.2) =
      (List.range 2).map fun i => decide (i < 1) := by
  refine remaining_exact limitedFleet (limitedRepeat "a".toList)
    [limitedRepeat "b".toList, limitedRepeat "c".toList] ⟨.new ⟨10, 10⟩, .slidingWindow 2 10⟩
    ⟨true, 1, 10, 0, none⟩ [1, 1, 0] rfl ⟨by decide, by decide⟩ (by decide +kernel)
    (by decide +kernel) rfl ?_ (by decide) nofun
  intro b hb
  rcases List.mem_cons.mp hb with rfl | hb
  · exact ⟨rfl, rfl, rfl, rfl, rfl, rfl, rfl⟩
  · rcases List.mem_cons.mp hb with rfl | hb
    · exact ⟨rfl, rfl, rfl, rfl, rfl, rfl, rfl⟩
    · cases hb

end LimitFleet

end Stateform
