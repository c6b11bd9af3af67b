import Stateform.Library.Expiry
import Stateform.RateLimit.Scripts

/-!
# Keys that expire

Both scripts give their key a time to live. It is long enough: a bucket left idle for it
has filled up, and a window has emptied, so a forgotten key answers as a kept one
(`expiry_unseen`).
-/

namespace Stateform

open Library

/-! ## The scripts as calls on a key -/

/-- `TOKEN_BUCKET_SCRIPT` on a key. It takes no request id. -/
def tokenBucketOn (capacity refillRate : ℕ) :
    Call TokenHash Str (Except ScriptError ScriptReply) ℚ :=
  fun data now _ => tokenBucketScript capacity refillRate now data

/-- `SLIDING_WINDOW_SCRIPT` on a key: a set that is missing is empty. -/
def slidingWindowOn (maxRequests window : ℕ) :
    Call (SortedSet Str ℚ) Str (Except ScriptError ScriptReply) ℚ :=
  fun key now reqId =>
    let (reply, key) := slidingWindowScript maxRequests window now reqId (key.getD ∅)
    (.ok reply, key)

/-- What an execution gave to `EXPIRE`, if it came to it. -/
def expireArg : Except ScriptError ScriptReply → Option ℚ
  | .ok r => some r.ttl
  | .error _ => none

/-- The executions of a run on one key that never expires, with their replies. -/
def neverExpiring (config : DistributedRateLimitConfig) (calls : List (ℚ × Str)) :
    List ((ℚ × Str) × Except ScriptError ScriptReply) :=
  match config with
  | .tokenBucket capacity refillRate =>
      transcript (keptCall (tokenBucketOn capacity refillRate)) none calls
  | .slidingWindow maxRequests window =>
      transcript (keptCall (slidingWindowOn maxRequests window)) none calls

/-- The same, of a key that vanishes when its time to live runs out. -/
def expiring (early : Bool) (config : DistributedRateLimitConfig) (calls : List (ℚ × Str)) :
    List ((ℚ × Str) × Except ScriptError ScriptReply) :=
  match config with
  | .tokenBucket capacity refillRate =>
      transcript (expiringCall (tokenBucketOn capacity refillRate) expireArg early) none calls
  | .slidingWindow maxRequests window =>
      transcript (expiringCall (slidingWindowOn maxRequests window) expireArg early) none calls

/-! ## Buckets that fill up -/

/-- A bucket as an execution leaves it. -/
structure LeftAt (last : ℚ) (hash : TokenHash) : Prop where
  nonneg : 0 ≤ hash.tokens
  lastRefill : hash.lastRefill = last

section
variable {capacity refillRate : ℕ} {last now : ℚ} {hash : TokenHash}

theorem refilled_nonneg {data : Option TokenHash} (h : ∀ hash ∈ data, 0 ≤ hash.tokens) :
    0 ≤ refilled capacity refillRate now data := by
  have htokens : 0 ≤ (storedBucket capacity now data).tokens := by
    cases data with
    | none => exact Nat.cast_nonneg capacity
    | some hash => exact h hash rfl
  have hgain : 0 ≤ max 0 (now - (storedBucket capacity now data).last) * (refillRate : ℚ) :=
    mul_nonneg (le_max_left _ _) (Nat.cast_nonneg refillRate)
  exact le_min (add_nonneg htokens hgain) (Nat.cast_nonneg capacity)

theorem leftAt_script {data : Option TokenHash} (h : ∀ hash ∈ data, 0 ≤ hash.tokens) :
    LeftAt now (tokenBucketScript capacity refillRate now data).2 := by
  have hnonneg : 0 ≤ refilled capacity refillRate now data := refilled_nonneg h
  rw [tokenBucketScript_snd]
  by_cases hone : 1 ≤ refilled capacity refillRate now data
  · rw [if_pos hone]
    exact ⟨sub_nonneg.mpr hone, rfl⟩
  · rw [if_neg hone]
    exact ⟨hnonneg, rfl⟩

/-- A missing bucket is full. -/
theorem refilled_none : refilled capacity refillRate now none = capacity := by
  have helapsed : max 0 (now - now) = 0 := by rw [sub_self, max_self]
  show refill (capacity : ℚ) refillRate capacity (max 0 (now - now)) = capacity
  rw [helapsed, refill, zero_mul, add_zero, min_self]

/-- An idle one is too: the time to live is that of a refill from empty, rounded up. -/
theorem refilled_idle (hrate : 0 < refillRate) (h : LeftAt last hash)
    (hidle : last + ((⌈(capacity : ℚ) / refillRate⌉ + 10 : ℤ) : ℚ) ≤ now) :
    refilled capacity refillRate now (some hash) = capacity := by
  have hceil : (capacity : ℚ) / refillRate ≤ ⌈(capacity : ℚ) / refillRate⌉ := Int.le_ceil _
  have hrate' : (0 : ℚ) < refillRate := Nat.cast_pos.mpr hrate
  push_cast at hidle
  have helapsed : (capacity : ℚ) / refillRate ≤ max 0 (now - hash.lastRefill) := by
    apply le_trans _ (le_max_right _ _)
    rw [h.lastRefill]
    linarith
  have hfull : (capacity : ℚ) ≤ max 0 (now - hash.lastRefill) * refillRate :=
    (div_le_iff₀ hrate').mp helapsed
  apply min_eq_right
  show (capacity : ℚ) ≤ hash.tokens + max 0 (now - hash.lastRefill) * refillRate
  linarith [h.nonneg]

/-- With the same tokens the script does the same. -/
theorem tokenBucketScript_congr {data data' : Option TokenHash}
    (h : refilled capacity refillRate now data = refilled capacity refillRate now data') :
    tokenBucketScript capacity refillRate now data =
      tokenBucketScript capacity refillRate now data' := by
  rw [tokenBucketScript_eq, tokenBucketScript_eq, h]

theorem tokenBucket_forgettable (capacity : ℕ) (hrate : 0 < refillRate) :
    Forgettable (tokenBucketOn capacity refillRate) expireArg
      ((⌈(capacity : ℚ) / refillRate⌉ + 10 : ℤ) : ℚ) LeftAt where
  fresh := fun _ _ => leftAt_script (by rintro hash ⟨⟩)
  kept := by
    intro last hash now _ h _
    apply leftAt_script
    rintro hash' ⟨rfl⟩
    exact h.nonneg
  lives := by
    intro data now _
    have hne : (refillRate : ℚ) ≠ 0 := Nat.cast_ne_zero.mpr hrate.ne'
    refine ⟨_, ?_, le_refl _⟩
    rw [tokenBucketOn, tokenBucketScript_eq]
    simp only [luaDiv, if_neg hne]
    rfl
  unseen := by
    intro last hash now _ h hidle
    apply tokenBucketScript_congr
    rw [refilled_idle hrate h hidle, refilled_none]

end

/-! ## Windows that empty -/

/-- No request in the window is later than its last execution. -/
def NoneAfter (last : ℚ) (key : SortedSet Str ℚ) : Prop := ∀ e ∈ key.entries, e.2 ≤ last

section
variable {maxRequests window : ℕ} {last now : ℚ} {reqId : Str} {key : SortedSet Str ℚ}

theorem noneAfter_script (h : NoneAfter now key) :
    NoneAfter now (slidingWindowScript maxRequests window now reqId key).2 := by
  have hpruned : NoneAfter now (key.zremrangebyscore (now - window)) :=
    fun e he => h e (List.mem_of_mem_filter he)
  by_cases hroom : key.countAbove (now - window) < maxRequests
  · rw [(slidingWindowScript_admits hroom).2]
    intro e he
    rcases SortedSet.mem_entries_zadd he with rfl | he
    · exact le_refl now
    · exact hpruned e he
  · rw [(slidingWindowScript_deny hroom).2]
    exact hpruned

theorem slidingWindow_forgettable (maxRequests window : ℕ) :
    Forgettable (slidingWindowOn maxRequests window) expireArg (((window : ℤ) + 5 : ℤ) : ℚ)
      NoneAfter where
  fresh := by
    intro now reqId
    apply noneAfter_script
    intro e he
    exact absurd he List.not_mem_nil
  kept := by
    intro last key now reqId h hle
    apply noneAfter_script
    intro e he
    exact le_trans (h e he) hle
  lives := fun _ _ _ => ⟨_, rfl, le_refl _⟩
  unseen := by
    intro last key now reqId h hidle
    push_cast at hidle
    have hold : key.zremrangebyscore (now - window) = ∅ := by
      apply SortedSet.zremrangebyscore_eq_empty
      intro e he
      have hlast := h e he
      linarith
    have hnone : (∅ : SortedSet Str ℚ).zremrangebyscore (now - window) = ∅ := rfl
    simp only [slidingWindowOn, Option.getD_some, Option.getD_none, slidingWindowScript, hold,
      hnone]

end

/-! ## Runs -/

/-- **Expiry is not seen.** On one key, at times that never fall, the scripts reply the same
whether keys expire or not. -/
theorem expiry_unseen (early : Bool) (config : DistributedRateLimitConfig)
    (calls : List (ℚ × Str))
    (hrate : ∀ capacity refillRate, config = .tokenBucket capacity refillRate → 0 < refillRate)
    (hsorted : (calls.map Prod.fst).Pairwise (· ≤ ·)) :
    expiring early config calls = neverExpiring config calls := by
  cases config with
  | tokenBucket capacity refillRate =>
      have hpositive : 0 < refillRate := hrate capacity refillRate rfl
      exact (tokenBucket_forgettable capacity hpositive).expiring_eq_kept early calls hsorted
  | slidingWindow maxRequests window =>
      exact (slidingWindow_forgettable maxRequests window).expiring_eq_kept early calls hsorted

/-- A bucket of one token, asked again after its eleven seconds. -/
theorem expiry_unseen_bucket :
    expiring true (.tokenBucket 1 1) [(0, []), (11, [])] =
      neverExpiring (.tokenBucket 1 1) [(0, []), (11, [])] := by
  apply expiry_unseen true (.tokenBucket 1 1) [(0, []), (11, [])]
  · rintro capacity refillRate ⟨⟩
    exact Nat.one_pos
  · simp

end Stateform
