import Stateform.RateLimit.Keys
import Stateform.RateLimit.Retry

/-!
# What a denial leaves

The scripts on the keys in Redis. One that is run on a key that is there lets a request through
exactly if it finds room (`RateKeys.allows_iff`), and one that does not says for how long, and
leaves a key in which there is room when there would have been (`RateKeys.exists_denial`).
-/

namespace Stateform

open Library

/-! ## What a script denies -/

/-- The script denies on the value of a key, for a delay. -/
def DeniedFor (unixNow delay : ℚ) : DistributedRateLimitConfig → RateValue → Prop
  | .tokenBucket capacity refillRate, .bucket hash =>
      ¬ 1 ≤ refilled capacity refillRate unixNow (some hash) ∧
        delay = (1 - refilled capacity refillRate unixNow (some hash)) / refillRate
  | .slidingWindow maxRequests window, .window members =>
      maxRequests ≤ members.countAbove (unixNow - window) ∧
        ∃ oldest, (members.zremrangebyscore (unixNow - window)).lowestScore = some oldest ∧
          delay = oldest + window - unixNow
  | _, _ => False

/-- There is room again some time later, if nothing is let through before. -/
def RoomAfter (unixNow seconds : ℚ) : DistributedRateLimitConfig → RateValue → Prop
  | .tokenBucket capacity refillRate, .bucket hash =>
      1 ≤ refilled capacity refillRate unixNow (some hash) + seconds * refillRate
  | .slidingWindow maxRequests window, .window members =>
      members.countAbove (unixNow + seconds - window) < maxRequests
  | _, _ => True

/-- The seconds a script gives its key. -/
def scriptTtl : DistributedRateLimitConfig → ℤ
  | .tokenBucket capacity refillRate => ⌈(capacity : ℚ) / refillRate⌉ + 10
  | .slidingWindow _ window => window + 5

/-- The script lets a request on the key through, or is not run. -/
def RateKeys.allows (keys : RateKeys) (env : LimitEnv) (config : DistributedRateLimitConfig)
    (key : Str) : Bool := (l2Check (keys.invoke env config key).1).allowed

/-! ## One script on one key -/

section
variable {keys : RateKeys} {env : LimitEnv} {config : DistributedRateLimitConfig}
  {key other : Str} {k : RateKey}

theorem RateKeys.set_lookup_self {value : RateValue} {expiresAt : Option ℤ} :
    (keys.set key value expiresAt).keys.lookup key = some ⟨value, expiresAt⟩ :=
  AList.lookup_insert _

theorem RateKeys.set_lookup_ne {value : RateValue} {expiresAt : Option ℤ} (h : other ≠ key) :
    (keys.set key value expiresAt).keys.lookup other = keys.keys.lookup other :=
  AList.lookup_insert_ne h

/-- A script leaves the other keys alone. -/
theorem RateKeys.invoke_lookup_ne (h : other ≠ key) :
    (keys.invoke env config key).2.keys.lookup other = keys.keys.lookup other := by
  have hbucket : ∀ capacity refillRate data expiresAt,
      (keys.invokeTokenBucket env capacity refillRate key data expiresAt).2.keys.lookup other =
        keys.keys.lookup other := by
    intro capacity refillRate data expiresAt
    exact set_lookup_ne h
  have hwindow : ∀ maxRequests window members,
      (keys.invokeSlidingWindow env maxRequests window key members).2.keys.lookup other =
        keys.keys.lookup other := by
    intro maxRequests window members
    dsimp only [invokeSlidingWindow]
    split
    · exact AList.lookup_erase_ne h
    · exact set_lookup_ne h
  unfold invoke
  split
  · rfl
  split
  · exact hbucket _ _ _ _
  · exact hbucket _ _ _ _
  · exact hwindow _ _ _
  · exact hwindow _ _ _
  · rfl

theorem RateKeys.live_stored {now expiry : ℤ} {value : RateValue}
    (h : keys.keys.lookup key = some ⟨value, some expiry⟩) :
    keys.live now key = if now < expiry then some ⟨value, some expiry⟩ else none := by
  rw [live, h]
  by_cases hlt : now < expiry
  · simp [Option.filter, hlt]
  · simp [Option.filter, hlt]

/-- A script that does not run lets everything through. -/
theorem RateKeys.allows_of_down (h : env.up = false) : keys.allows env config key = true := by
  unfold allows invoke
  rw [h]
  rfl

/-- Room does not go away. -/
theorem RoomAfter.mono {unixNow t t' : ℚ} {value : RateValue}
    (h : RoomAfter unixNow t config value) (hle : t ≤ t') : RoomAfter unixNow t' config value := by
  cases config with
  | tokenBucket capacity refillRate =>
      cases value with
      | bucket hash =>
          have hgain : t * refillRate ≤ t' * refillRate :=
            mul_le_mul_of_nonneg_right hle (Nat.cast_nonneg _)
          exact le_trans h (add_le_add_right hgain _)
      | window members => trivial
  | slidingWindow maxRequests window =>
      cases value with
      | bucket hash => trivial
      | window members =>
          have hbound : unixNow + t - window ≤ unixNow + t' - window := by linarith
          exact lt_of_le_of_lt (SortedSet.countAbove_anti hbound) h

/-- A denial is for one delay. -/
theorem DeniedFor.unique {unixNow delay delay' : ℚ} {value : RateValue}
    (h : DeniedFor unixNow delay config value) (h' : DeniedFor unixNow delay' config value) :
    delay = delay' := by
  cases config with
  | tokenBucket capacity refillRate =>
      cases value with
      | bucket hash => exact h.2.trans h'.2.symm
      | window members => cases h
  | slidingWindow maxRequests window =>
      cases value with
      | bucket hash => cases h
      | window members =>
          obtain ⟨-, oldest, holdest, rfl⟩ := h
          obtain ⟨-, oldest', holdest', rfl⟩ := h'
          rw [Option.some.inj (holdest.symm.trans holdest')]

theorem DeniedFor.no_room {unixNow delay : ℚ} {value : RateValue}
    (h : DeniedFor unixNow delay config value) : ¬ RoomAfter unixNow 0 config value := by
  cases config with
  | tokenBucket capacity refillRate =>
      cases value with
      | bucket hash =>
          rw [RoomAfter, zero_mul, add_zero]
          exact h.1
      | window members => cases h
  | slidingWindow maxRequests window =>
      cases value with
      | bucket hash => cases h
      | window members =>
          rw [RoomAfter, add_zero]
          exact not_lt.mpr h.1

/-! ### What the scripts say, and leave -/

section
variable {capacity refillRate maxRequests window : ℕ} {hash : TokenHash}
  {members : SortedSet Str ℚ} {data : Option TokenHash} {expiresAt : Option ℤ} {delay : ℚ}

/-- The token bucket script with a refill rate ends, and gives its key a new expiry. -/
theorem RateKeys.invokeTokenBucket_ok (keys : RateKeys) (env : LimitEnv) (capacity : ℕ)
    (key : Str) (data : Option TokenHash) (expiresAt : Option ℤ) (hrate : 0 < refillRate) :
    ∃ remaining : ℤ, keys.invokeTokenBucket env capacity refillRate key data expiresAt =
      (.ok [if 1 ≤ refilled capacity refillRate env.unixNow data then 1 else 0, remaining,
          if 1 ≤ refilled capacity refillRate env.unixNow data then 0
          else ⌈(1 - refilled capacity refillRate env.unixNow data) / refillRate * 1000⌉],
        keys.set key (.bucket (tokenBucketScript capacity refillRate env.unixNow data).2)
          (some (env.redisNow + scriptTtl (.tokenBucket capacity refillRate)))) := by
  have hne : (refillRate : ℚ) ≠ 0 := Nat.cast_ne_zero.mpr hrate.ne'
  unfold invokeTokenBucket
  rw [tokenBucketScript_eq]
  dsimp only [luaDiv]
  rw [if_neg hne]
  exact ⟨_, rfl⟩

theorem RateKeys.invoke_bucket (hup : env.up = true)
    (hlive : keys.live env.redisNow key = some ⟨.bucket hash, expiresAt⟩) :
    keys.invoke env (.tokenBucket capacity refillRate) key =
      keys.invokeTokenBucket env capacity refillRate key (some hash) expiresAt := by
  simp [invoke, hup, hlive]

theorem RateKeys.invoke_window (hup : env.up = true)
    (hlive : keys.live env.redisNow key = some ⟨.window members, expiresAt⟩) :
    keys.invoke env (.slidingWindow maxRequests window) key =
      keys.invokeSlidingWindow env maxRequests window key members := by
  simp [invoke, hup, hlive]

theorem allowed_invokeTokenBucket (hrate : 0 < refillRate) :
    (l2Check (keys.invokeTokenBucket env capacity refillRate key data expiresAt).1).allowed =
        true ↔ 1 ≤ refilled capacity refillRate env.unixNow data := by
  obtain ⟨remaining, hinvoke⟩ :=
    keys.invokeTokenBucket_ok env capacity key data expiresAt hrate
  rw [hinvoke]
  by_cases hone : 1 ≤ refilled capacity refillRate env.unixNow data
  · simp [l2Check, hone]
  · simp [l2Check, hone]

theorem allowed_invokeSlidingWindow :
    (l2Check (keys.invokeSlidingWindow env maxRequests window key members).1).allowed = true ↔
      members.countAbove (env.unixNow - window) < maxRequests := by
  dsimp only [RateKeys.invokeSlidingWindow]
  rw [l2Check_script _ _ (List.cons_ne_nil _ _), slidingWindow_allowed_iff]

/-- **What lets a request through**: a script that is run on a key that is there has to find
room. -/
theorem RateKeys.allows_iff (hlimits : LimitsPositive config) :
    keys.allows env config key = true ↔
      ∀ k, env.up = true → keys.live env.redisNow key = some k →
        RoomAfter env.unixNow 0 config k.value := by
  cases hup : env.up with
  | false => exact iff_of_true (allows_of_down hup) nofun
  | true =>
  cases hlive : keys.live env.redisNow key with
  | none =>
      -- a key that is not there is a full bucket, or an empty window
      refine iff_of_true ?_ nofun
      unfold allows
      cases config with
      | tokenBucket capacity refillRate =>
          have hinvoke : keys.invoke env (.tokenBucket capacity refillRate) key =
              keys.invokeTokenBucket env capacity refillRate key none none := by
            simp [invoke, hup, hlive]
          rw [hinvoke, allowed_invokeTokenBucket hlimits.2, refilled_none]
          exact Nat.one_le_cast.mpr hlimits.1
      | slidingWindow maxRequests window =>
          have hinvoke : keys.invoke env (.slidingWindow maxRequests window) key =
              keys.invokeSlidingWindow env maxRequests window key ∅ := by
            simp [invoke, hup, hlive]
          rw [hinvoke, allowed_invokeSlidingWindow, SortedSet.countAbove_empty]
          exact hlimits.1
  | some k =>
  obtain ⟨value, expiresAt⟩ := k
  suffices hroom : keys.allows env config key = true ↔ RoomAfter env.unixNow 0 config value by
    rw [hroom]
    constructor
    · rintro h k - hk
      obtain rfl := Option.some.inj hk
      exact h
    · intro h
      exact h _ rfl rfl
  unfold allows
  cases config with
  | tokenBucket capacity refillRate =>
      cases value with
      | bucket hash =>
          rw [invoke_bucket hup hlive, allowed_invokeTokenBucket hlimits.2, RoomAfter, zero_mul,
            add_zero]
      | window members =>
          -- a key of the other script's kind is an error, and errors fail open
          simp [invoke, hup, hlive, l2Check, RoomAfter]
  | slidingWindow maxRequests window =>
      cases value with
      | bucket hash => simp [invoke, hup, hlive, l2Check, RoomAfter]
      | window members =>
          rw [invoke_window hup hlive, allowed_invokeSlidingWindow, RoomAfter, add_zero]

/-- A denial for a delay: what it says in milliseconds, what it leaves under the key, and that
there is room in that exactly when there would have been. -/
structure Denial (env : LimitEnv) (config : DistributedRateLimitConfig) (key : Str)
    (value : RateValue) (delay : ℚ) (left : RateValue)
    (result : Except RateLimitError (List ℤ) × RateKeys) : Prop where
  deniedFor : DeniedFor env.unixNow delay config value
  positive : 0 < delay
  retryAfterMs : (l2Check result.1).retryAfterMs = ⌈delay * 1000⌉.toNat
  stored : result.2.keys.lookup key = some ⟨left, some (env.redisNow + scriptTtl config)⟩
  room : ∀ t, 0 ≤ t →
    (RoomAfter (env.unixNow + t) 0 config left ↔ RoomAfter env.unixNow t config value)

theorem denial_bucket (hcapacity : 1 ≤ capacity) (hrate : 0 < refillRate)
    (hno : ¬ 1 ≤ refilled capacity refillRate env.unixNow (some hash)) :
    ∃ delay left, Denial env (.tokenBucket capacity refillRate) key (.bucket hash) delay left
      (keys.invokeTokenBucket env capacity refillRate key (some hash) expiresAt) := by
  obtain ⟨remaining, hinvoke⟩ :=
    keys.invokeTokenBucket_ok env capacity key (some hash) expiresAt hrate
  have hcap : (1 : ℚ) ≤ capacity := Nat.one_le_cast.mpr hcapacity
  have hrate' : (0 : ℚ) < refillRate := Nat.cast_pos.mpr hrate
  have hleft : (tokenBucketScript capacity refillRate env.unixNow (some hash)).2 =
      ⟨refilled capacity refillRate env.unixNow (some hash), env.unixNow⟩ := by
    rw [tokenBucketScript_snd, if_neg hno]
  rw [hinvoke, hleft, if_neg hno, if_neg hno]
  refine ⟨_, _, ⟨hno, rfl⟩, div_pos (sub_pos.mpr (not_le.mp hno)) hrate', rfl,
    RateKeys.set_lookup_self, ?_⟩
  intro t ht
  have hfills : FillsSince refillRate (refilled capacity refillRate env.unixNow (some hash))
      env.unixNow env.unixNow
      ⟨refilled capacity refillRate env.unixNow (some hash), env.unixNow⟩ :=
    ⟨rfl, by rw [sub_self, zero_mul, add_zero]⟩
  dsimp only [RoomAfter]
  rw [hfills.refilled_eq (le_add_of_nonneg_right ht), add_sub_cancel_left, zero_mul, add_zero,
    le_min_iff, and_iff_left hcap]

theorem denial_window (hlimit : 1 ≤ maxRequests)
    (hno : ¬ members.countAbove (env.unixNow - window) < maxRequests) :
    ∃ delay left, Denial env (.slidingWindow maxRequests window) key (.window members) delay left
      (keys.invokeSlidingWindow env maxRequests window key members) := by
  have hcard : (members.zremrangebyscore (env.unixNow - window)).zcard ≠ 0 := by
    rw [SortedSet.zcard_zremrangebyscore]
    omega
  obtain ⟨oldest, holdest⟩ := SortedSet.exists_lowestScore (Nat.pos_of_ne_zero hcard)
  have hlow : env.unixNow - window < oldest := SortedSet.lt_lowestScore holdest
  refine ⟨oldest + window - env.unixNow,
    .window (members.zremrangebyscore (env.unixNow - window)),
    ⟨not_lt.mp hno, oldest, holdest, rfl⟩, by linarith, ?_, ?_, ?_⟩
  · have hdelay : (slidingWindowScript maxRequests window env.unixNow env.reqId
        members).1.values[2]? = some ⌈(oldest + window - env.unixNow) * 1000⌉ :=
      slidingWindow_delay hno holdest
    dsimp only [RateKeys.invokeSlidingWindow, scriptResult, l2Check]
    rw [hdelay]
    rfl
  · dsimp only [RateKeys.invokeSlidingWindow]
    rw [(slidingWindowScript_deny hno).2, if_neg hcard]
    exact RateKeys.set_lookup_self
  · intro t ht
    have hbound : env.unixNow - window ≤ env.unixNow + t - window := by linarith
    dsimp only [RoomAfter]
    rw [add_zero, SortedSet.countAbove_zremrangebyscore hbound]

/-- A script that is run and finds no room denies, for a delay. -/
theorem RateKeys.exists_denial (hlimits : LimitsPositive config) (hup : env.up = true)
    (hlive : keys.live env.redisNow key = some k)
    (hno : ¬ RoomAfter env.unixNow 0 config k.value) :
    ∃ delay left, Denial env config key k.value delay left (keys.invoke env config key) := by
  obtain ⟨value, expiresAt⟩ := k
  cases config with
  | tokenBucket capacity refillRate =>
      cases value with
      | bucket hash =>
          rw [RoomAfter, zero_mul, add_zero] at hno
          rw [invoke_bucket hup hlive]
          exact denial_bucket hlimits.1 hlimits.2 hno
      | window members => exact absurd trivial hno
  | slidingWindow maxRequests window =>
      cases value with
      | bucket hash => exact absurd trivial hno
      | window members =>
          rw [RoomAfter, add_zero] at hno
          rw [invoke_window hup hlive]
          exact denial_window hlimits.1 hno

end

end

end Stateform
