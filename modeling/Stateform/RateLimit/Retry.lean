import Stateform.Library.Waiting
import Stateform.RateLimit.Distributed
import Stateform.RateLimit.Expiry

/-!
# The delay of a denial

A script that denies a request returns the milliseconds until one would be allowed. Denied
requests in between do not put that off: the refill goes on as before, and the window only
loses what has left it. So the delay is exact, up to its rounding to a millisecond
(`retryAfterMs_exact`).
-/

namespace Stateform

open Library

/-- Limits that let something through. -/
def LimitsPositive : DistributedRateLimitConfig → Prop
  | .tokenBucket capacity refillRate => 1 ≤ capacity ∧ 0 < refillRate
  | .slidingWindow maxRequests window => 1 ≤ maxRequests ∧ 0 < window

/-- The delay a script returns, in milliseconds. -/
def ScriptReply.retryAfterMs (r : ScriptReply) : Option ℤ := r.values[2]?

/-! ## Token bucket -/

/-- When a bucket with less than a token has one. -/
def bucketReady (refillRate : ℕ) (tokens now : ℚ) : ℚ := now + (1 - tokens) / refillRate

/-- The bucket fills since a denial, whatever has been denied since. -/
structure FillsSince (refillRate : ℕ) (tokens now : ℚ) (last : ℚ) (hash : TokenHash) : Prop where
  lastRefill : hash.lastRefill = last
  tokens_eq : hash.tokens = tokens + (last - now) * refillRate

section
variable {capacity refillRate : ℕ} {tokens now last time : ℚ} {hash : TokenHash}
  {data : Option TokenHash}

/-- With no more than the capacity there is nothing to cap. -/
theorem FillsSince.refilled_eq (h : FillsSince refillRate tokens now last hash)
    (hle : last ≤ time) :
    refilled capacity refillRate time (some hash) =
      min (tokens + (time - now) * refillRate) capacity := by
  have helapsed : max 0 (time - hash.lastRefill) = time - last := by
    rw [h.lastRefill]
    exact max_eq_right (sub_nonneg.mpr hle)
  show refill (capacity : ℚ) refillRate hash.tokens (max 0 (time - hash.lastRefill)) = _
  rw [helapsed, refill, h.tokens_eq]
  congr 1
  ring

theorem returnsAllowed_tokenBucket (hrate : 0 < refillRate) :
    returnsAllowed (tokenBucketScript capacity refillRate now data).1 = true ↔
      1 ≤ refilled capacity refillRate now data := by
  have hattempt : (attempt (capacity : ℚ) refillRate (storedBucket capacity now data) now).1 =
      decide (1 ≤ refilled capacity refillRate now data) := by
    dsimp only [attempt]
    rw [← refilled]
    by_cases hone : 1 ≤ refilled capacity refillRate now data
    · rw [if_pos hone, decide_eq_true hone]
    · rw [if_neg hone, decide_eq_false hone]
  rw [returnsAllowed_script hrate, hattempt, decide_eq_true_eq]

theorem one_le_iff_ready (hrate : 0 < refillRate) :
    1 ≤ tokens + (time - now) * refillRate ↔ bucketReady refillRate tokens now ≤ time := by
  have hrate' : (0 : ℚ) < refillRate := Nat.cast_pos.mpr hrate
  rw [bucketReady, ← le_sub_iff_add_le', div_le_iff₀ hrate', sub_le_iff_le_add']

/-- A bucket that denied is one to wait for. -/
theorem tokenBucket_refusedUntil (hcapacity : 1 ≤ capacity) (hrate : 0 < refillRate) :
    RefusedUntil (tokenBucketOn capacity refillRate) returnsAllowed
      (bucketReady refillRate tokens now) (FillsSince refillRate tokens now) := by
  have hcap : (1 : ℚ) ≤ capacity := Nat.one_le_cast.mpr hcapacity
  have haccepts : ∀ last hash time, FillsSince refillRate tokens now last hash → last ≤ time →
      (returnsAllowed (tokenBucketScript capacity refillRate time (some hash)).1 = true ↔
        1 ≤ tokens + (time - now) * refillRate) := by
    intro last hash time hinv hle
    rw [returnsAllowed_tokenBucket hrate, hinv.refilled_eq hle, le_min_iff, and_iff_left hcap]
  constructor
  · intro last hash time _ hinv hle
    rw [← one_le_iff_ready hrate]
    exact haccepts last hash time hinv hle
  · intro last hash time _ hinv hle hrefused
    have hlow : ¬ 1 ≤ tokens + (time - now) * refillRate := by
      intro hone
      have hallowed := (haccepts last hash time hinv hle).mpr hone
      exact Bool.false_ne_true (hrefused.symm.trans hallowed)
    have hrefilled : refilled capacity refillRate time (some hash) =
        tokens + (time - now) * refillRate := by
      rw [hinv.refilled_eq hle]
      exact min_eq_left (le_trans (le_of_not_ge hlow) hcap)
    have hleft : (tokenBucketScript capacity refillRate time (some hash)).2 =
        ⟨tokens + (time - now) * refillRate, time⟩ := by
      rw [tokenBucketScript_snd, hrefilled, if_neg hlow]
    show FillsSince refillRate tokens now time
      (tokenBucketScript capacity refillRate time (some hash)).2
    rw [hleft]
    exact ⟨rfl, rfl⟩

/-- What a denial leaves and returns. -/
theorem tokenBucket_denied (hrate : 0 < refillRate) {r : ScriptReply}
    (hreply : (tokenBucketScript capacity refillRate now data).1 = .ok r)
    (hdenied : r.allowed = false) :
    FillsSince refillRate (refilled capacity refillRate now data) now now
        (tokenBucketScript capacity refillRate now data).2 ∧
      r.retryAfterMs = some
        ⌈(bucketReady refillRate (refilled capacity refillRate now data) now - now) * 1000⌉ := by
  have hlow : ¬ 1 ≤ refilled capacity refillRate now data := by
    intro hone
    have hallowed := (returnsAllowed_tokenBucket hrate).mpr hone
    rw [hreply, returnsAllowed, hdenied] at hallowed
    cases hallowed
  constructor
  · rw [tokenBucketScript_snd, if_neg hlow]
    exact ⟨rfl, by rw [sub_self, zero_mul, add_zero]⟩
  · have hne : (refillRate : ℚ) ≠ 0 := Nat.cast_ne_zero.mpr hrate.ne'
    rw [tokenBucketScript_eq] at hreply
    simp only [luaDiv, if_neg hne, if_neg hlow] at hreply
    cases hreply
    rw [bucketReady, add_sub_cancel_left]
    rfl

end

/-! ## Sliding window -/

/-- The window that was full at a denial stays as it is. -/
def StaysFull (full : SortedSet Str ℚ) (_last : ℚ) (key : SortedSet Str ℚ) : Prop := key = full

section
variable {maxRequests window : ℕ} {now oldest : ℚ} {reqId : Str} {key full : SortedSet Str ℚ}

theorem slidingWindow_allowed_iff :
    (slidingWindowScript maxRequests window now reqId key).1.allowed = true ↔
      key.countAbove (now - window) < maxRequests := by
  by_cases hroom : key.countAbove (now - window) < maxRequests
  · rw [(slidingWindowScript_admits hroom).1]
    exact ⟨fun _ => hroom, fun _ => rfl⟩
  · rw [(slidingWindowScript_deny hroom).1]
    exact ⟨nofun, fun h => absurd h hroom⟩

/-- A denial found the window full. -/
theorem slidingWindow_full
    (h : (slidingWindowScript maxRequests window now reqId key).1.allowed = false) :
    ¬ key.countAbove (now - window) < maxRequests := by
  intro hroom
  rw [(slidingWindowScript_admits hroom).1] at h
  cases h

/-- A window never holds more than the limit. -/
theorem zcard_script_le (h : key.zcard ≤ maxRequests) :
    (slidingWindowScript maxRequests window now reqId key).2.zcard ≤ maxRequests := by
  have hpruned : (key.zremrangebyscore (now - window)).zcard = key.countAbove (now - window) :=
    SortedSet.zcard_zremrangebyscore
  by_cases hroom : key.countAbove (now - window) < maxRequests
  · rw [(slidingWindowScript_admits hroom).2]
    have hadded : ((key.zremrangebyscore (now - window)).zadd now reqId).zcard ≤
        (key.zremrangebyscore (now - window)).zcard + 1 := SortedSet.zcard_zadd_le
    omega
  · rw [(slidingWindowScript_deny hroom).2, hpruned]
    exact le_trans SortedSet.countAbove_le_zcard h

/-- A window that is full is one to wait for, until its oldest request leaves it. -/
theorem slidingWindow_refusedUntil (hfull : full.zcard = maxRequests)
    (holdest : full.lowestScore = some oldest) :
    RefusedUntil (slidingWindowOn maxRequests window) returnsAllowed (oldest + window)
      (StaysFull full) := by
  constructor
  · rintro last key time reqId rfl -
    show (slidingWindowScript maxRequests window time reqId key).1.allowed = true ↔ _
    rw [slidingWindow_allowed_iff, ← hfull, SortedSet.countAbove_lt_zcard_iff holdest,
      le_sub_iff_add_le]
  · rintro last key time reqId rfl - hrefused
    have hno : ¬ key.countAbove (time - window) < maxRequests := slidingWindow_full hrefused
    show (slidingWindowScript maxRequests window time reqId key).2 = key
    rw [(slidingWindowScript_deny hno).2]
    exact SortedSet.zremrangebyscore_eq_self (hfull ▸ Nat.not_lt.mp hno)

/-- A denial returns when the oldest request left in the window leaves it. -/
theorem slidingWindow_delay (hno : ¬ key.countAbove (now - window) < maxRequests)
    (holdest : (key.zremrangebyscore (now - window)).lowestScore = some oldest) :
    (slidingWindowScript maxRequests window now reqId key).1.retryAfterMs =
      some ⌈(oldest + window - now) * 1000⌉ := by
  rw [← SortedSet.zcard_zremrangebyscore] at hno
  dsimp only [slidingWindowScript]
  rw [if_neg hno, holdest]
  rfl

/-- What a denial leaves and returns. -/
theorem slidingWindow_denied (hlimit : 1 ≤ maxRequests) (hcard : key.zcard ≤ maxRequests)
    (hdenied : (slidingWindowScript maxRequests window now reqId key).1.allowed = false) :
    ∃ oldest, (slidingWindowScript maxRequests window now reqId key).2.zcard = maxRequests ∧
      (slidingWindowScript maxRequests window now reqId key).2.lowestScore = some oldest ∧
      (slidingWindowScript maxRequests window now reqId key).1.retryAfterMs =
        some ⌈(oldest + window - now) * 1000⌉ := by
  have hno : ¬ key.countAbove (now - window) < maxRequests := slidingWindow_full hdenied
  have hpruned : (key.zremrangebyscore (now - window)).zcard = maxRequests := by
    have habove := SortedSet.countAbove_le_zcard (z := key) (s := now - window)
    rw [SortedSet.zcard_zremrangebyscore]
    omega
  obtain ⟨oldest, holdest⟩ := SortedSet.exists_lowestScore (by omega : 0 <
    (key.zremrangebyscore (now - window)).zcard)
  rw [(slidingWindowScript_deny hno).2]
  exact ⟨oldest, hpruned, holdest, slidingWindow_delay hno holdest⟩

end

/-! ## Runs -/

/-- A delay rounded up to a millisecond reaches the time, and a millisecond less does not. -/
theorem ready_of_ceil {ready now : ℚ} {d : ℤ} (now' : ℚ) (hd : d = ⌈(ready - now) * 1000⌉) :
    (now + d / 1000 ≤ now' → ready ≤ now') ∧ (now' ≤ now + (d - 1) / 1000 → now' < ready) := by
  have hle : (ready - now) * 1000 ≤ d := hd ▸ Int.le_ceil _
  have hlt : (d : ℚ) < (ready - now) * 1000 + 1 := hd ▸ Int.ceil_lt_add_one _
  constructor
  · intro h
    linarith
  · intro h
    linarith

/-- In a run on one key a window never holds more than the limit. -/
theorem zcard_after_le (maxRequests window : ℕ) (calls : List (ℚ × Str)) :
    ((after (fun s call => (keptCall (slidingWindowOn maxRequests window) s call).2) none
      calls).getD ∅).zcard ≤ maxRequests := by
  refine history_invariant_all
    (P := fun _ (s : Option (SortedSet Str ℚ)) => (s.getD ∅).zcard ≤ maxRequests)
    (Nat.zero_le _) ?_ calls
  intro as call ih
  exact zcard_script_le ih

/-- **The delay is exact.** After a denial that returns a delay, and denials since, the next
request is allowed if it comes no sooner than the delay, and denied if it comes a millisecond
sooner or more. -/
theorem retryAfterMs_exact (early : Bool) (config : DistributedRateLimitConfig)
    (calls : List (ℚ × Str))
    (before between rest : List ((ℚ × Str) × Except ScriptError ScriptReply)) (now now' : ℚ)
    (id id' : Str) (r : ScriptReply) (reply : Except ScriptError ScriptReply) (d : ℤ)
    (hlimits : LimitsPositive config) (hsorted : (calls.map Prod.fst).Pairwise (· ≤ ·))
    (hrun : expiring early config calls =
      before ++ ((now, id), .ok r) :: (between ++ ((now', id'), reply) :: rest))
    (hdenied : r.allowed = false) (hbetween : ∀ e ∈ between, returnsAllowed e.2 = false)
    (hdelay : r.retryAfterMs = some d) :
    (now + d / 1000 ≤ now' → returnsAllowed reply = true) ∧
      (now' ≤ now + (d - 1) / 1000 → returnsAllowed reply = false) := by
  suffices hready : ∃ ready, d = ⌈(ready - now) * 1000⌉ ∧
      (returnsAllowed reply = true ↔ ready ≤ now') by
    obtain ⟨ready, hd, hiff⟩ := hready
    obtain ⟨hreach, hshort⟩ := ready_of_ceil now' hd
    refine ⟨fun h => hiff.mpr (hreach h), fun h => ?_⟩
    rw [← Bool.not_eq_true, hiff]
    exact not_le.mpr (hshort h)
  cases config with
  | tokenBucket capacity refillRate =>
      obtain ⟨hcapacity, hrate⟩ := hlimits
      have hkept : expiring early (.tokenBucket capacity refillRate) calls =
          transcript (keptCall (tokenBucketOn capacity refillRate)) none calls :=
        (tokenBucket_forgettable capacity hrate).expiring_eq_kept early calls hsorted
      rw [hkept] at hrun
      obtain ⟨earlier, hreply, hnext⟩ := next_of_transcript hsorted hrun
      obtain ⟨hfills, hms⟩ := tokenBucket_denied hrate hreply.symm hdenied
      refine ⟨_, Option.some.inj (hdelay.symm.trans hms), ?_⟩
      exact hnext (tokenBucket_refusedUntil hcapacity hrate) hfills hbetween
  | slidingWindow maxRequests window =>
      obtain ⟨hlimit, hwindow⟩ := hlimits
      have hkept : expiring early (.slidingWindow maxRequests window) calls =
          transcript (keptCall (slidingWindowOn maxRequests window)) none calls :=
        (slidingWindow_forgettable maxRequests window).expiring_eq_kept early calls hsorted
      rw [hkept] at hrun
      obtain ⟨earlier, hreply, hnext⟩ := next_of_transcript hsorted hrun
      obtain rfl := Except.ok.inj hreply
      obtain ⟨oldest, hfull, holdest, hms⟩ :=
        slidingWindow_denied hlimit (zcard_after_le maxRequests window earlier) hdenied
      refine ⟨_, Option.some.inj (hdelay.symm.trans hms), ?_⟩
      exact hnext (slidingWindow_refusedUntil hfull holdest) rfl hbetween

/-- A window of one request: denied after one second of ten, and again after five. -/
def windowCalls : List (ℚ × Str) :=
  [(0, "a".toList), (1, "b".toList), (5, "c".toList), (10, "d".toList)]

theorem retryAfterMs_exact_window :
    expiring true (.slidingWindow 1 10) windowCalls =
      [((0, "a".toList), .ok ⟨[1, 0, 0], 15⟩)] ++ ((1, "b".toList), .ok ⟨[0, 0, 9000], 15⟩) ::
        ([((5, "c".toList), .ok ⟨[0, 0, 5000], 15⟩)] ++
          [((10, "d".toList), .ok ⟨[1, 0, 0], 15⟩)]) ∧
      ((1 : ℚ) + (9000 : ℤ) / 1000 ≤ 10 → returnsAllowed (.ok ⟨[1, 0, 0], 15⟩) = true) ∧
      ((10 : ℚ) ≤ 1 + ((9000 : ℤ) - 1) / 1000 → returnsAllowed (.ok ⟨[1, 0, 0], 15⟩) = false) := by
  have hrun : expiring true (.slidingWindow 1 10) windowCalls =
      [((0, "a".toList), .ok ⟨[1, 0, 0], 15⟩)] ++ ((1, "b".toList), .ok ⟨[0, 0, 9000], 15⟩) ::
        ([((5, "c".toList), .ok ⟨[0, 0, 5000], 15⟩)] ++
          [((10, "d".toList), .ok ⟨[1, 0, 0], 15⟩)]) := by decide +kernel
  have hsorted : (windowCalls.map Prod.fst).Pairwise (· ≤ ·) := by
    simp only [windowCalls, List.map_cons, List.map_nil, List.pairwise_cons, List.mem_cons,
      List.not_mem_nil]
    norm_num
  have hbetween : ∀ e ∈ [(((5, "c".toList) : ℚ × Str),
      Except.ok (ε := ScriptError) (⟨[0, 0, 5000], 15⟩ : ScriptReply))],
        returnsAllowed e.2 = false := by
    intro e he
    rw [List.mem_singleton.mp he]
    rfl
  exact ⟨hrun, retryAfterMs_exact true (.slidingWindow 1 10) windowCalls _ _ [] 1 10 _ _ _ _ 9000
    ⟨by decide, by decide⟩ hsorted hrun rfl hbetween rfl⟩

end Stateform
