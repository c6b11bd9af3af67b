import Stateform.RateLimit.Scripts

/-!
# What the distributed limiter lets through

Runs of each script on one key. The token bucket overwrites the time of its last
refill with whatever reading an instance sends, an earlier one too, so the next
reading refills the same stretch again: a run gets the capacity and what its
readings rise by (`tokenBucketScript_bounded_iff`). The sliding window, on
readings that never fall, lets through what the window has room for, at every
position of the window (`slidingWindowScript_exact`).
-/

namespace Stateform

open Library

/-! ## Token bucket, at any readings -/

/-- One execution on a key that is never expired. -/
def tokenBucketCall (capacity refillRate : ℕ) (data : Option TokenHash) (now : ℚ) :
    Except ScriptError ScriptReply × Option TokenHash :=
  let (reply, hash) := tokenBucketScript capacity refillRate now data
  (reply, some hash)

/-- The execution returned `allowed = 1`. -/
def returnsAllowed : Except ScriptError ScriptReply → Bool
  | .ok r => r.allowed
  | .error _ => false

/-- The executions of a run that return `allowed = 1`. -/
def allowedCount (capacity refillRate : ℕ) (data : Option TokenHash) (nows : List ℚ) : ℕ :=
  (transcript (tokenBucketCall capacity refillRate) data nows).countP fun e => returnsAllowed e.2

/-- The run on a fresh key stays within the capacity and the refill of the time
its readings span. -/
def Bounded (capacity refillRate : ℕ) (nows : List ℚ) : Prop :=
  (allowedCount capacity refillRate none nows : ℚ) ≤ capacity + refillRate * spread nows

section
variable {capacity refillRate : ℕ} {data : Option TokenHash} {now : ℚ}

theorem allowedCount_cons (nows : List ℚ) :
    allowedCount capacity refillRate data (now :: nows) =
      allowedCount capacity refillRate (some (tokenBucketScript capacity refillRate now data).2)
          nows +
        if returnsAllowed (tokenBucketScript capacity refillRate now data).1 then 1 else 0 := by
  simp [allowedCount, transcript, tokenBucketCall, List.countP_cons]

theorem returnsAllowed_script (hrate : 0 < refillRate) :
    returnsAllowed (tokenBucketScript capacity refillRate now data).1 =
      (attempt (capacity : ℚ) refillRate (storedBucket capacity now data) now).1 := by
  obtain ⟨r, hr, hallowed⟩ : ∃ r, (tokenBucketScript capacity refillRate now data).1 = .ok r ∧ _ :=
    tokenBucketScript_ok hrate
  rw [hr, ← hallowed]
  rfl

/-- A run of the script is a run of attempts. -/
theorem allowedCount_stored (hrate : 0 < refillRate) (hash : TokenHash) (nows : List ℚ) :
    allowedCount capacity refillRate (some hash) nows =
      taken (capacity : ℚ) refillRate hash.stock nows := by
  induction nows generalizing hash with
  | nil => rfl
  | cons now nows ih =>
      rw [allowedCount_cons, ih, tokenBucketScript_stock, returnsAllowed_script hrate, taken_cons]
      rfl

theorem allowedCount_fresh (hrate : 0 < refillRate) (now : ℚ) (nows : List ℚ) :
    allowedCount capacity refillRate none (now :: nows) =
      taken (capacity : ℚ) refillRate ⟨capacity, now⟩ (now :: nows) := by
  rw [allowedCount_cons, allowedCount_stored hrate, tokenBucketScript_stock,
    returnsAllowed_script hrate, taken_cons]
  rfl

end

/-- A run gets no more than the capacity and what its readings rise by. -/
theorem allowedCount_le_rise (capacity : ℕ) {refillRate : ℕ} (hrate : 0 < refillRate)
    (nows : List ℚ) :
    (allowedCount capacity refillRate none nows : ℚ) ≤ capacity + refillRate * rise nows := by
  cases nows with
  | nil =>
      show ((0 : ℕ) : ℚ) ≤ capacity + refillRate * 0
      rw [Nat.cast_zero, mul_zero, add_zero]
      positivity
  | cons now nows =>
      have hcap : (0 : ℚ) ≤ capacity := Nat.cast_nonneg capacity
      have hrate' : (0 : ℚ) ≤ refillRate := Nat.cast_nonneg refillRate
      have hle := taken_add_tokens_le (capacity : ℚ) refillRate ⟨capacity, now⟩ (now :: nows)
      have hleft := after_attempted_nonneg ⟨(capacity : ℚ), now⟩ hcap hrate' hcap (now :: nows)
      rw [riseFrom_self] at hle
      rw [allowedCount_fresh hrate]
      linarith

theorem bounded_of_rise_le (capacity : ℕ) {refillRate : ℕ} (hrate : 0 < refillRate)
    {nows : List ℚ} (h : rise nows ≤ spread nows) : Bounded capacity refillRate nows := by
  have hle := allowedCount_le_rise capacity hrate nows
  have hmul : (refillRate : ℚ) * rise nows ≤ refillRate * spread nows :=
    mul_le_mul_of_nonneg_left h (Nat.cast_nonneg refillRate)
  rw [Bounded]
  linarith

/-- Readings that rise further than they spread over are a bucket and a burst
away from breaking the bound. -/
theorem exists_not_bounded {nows : List ℚ} (h : spread nows < rise nows) :
    ∃ capacity refillRate n, 0 < refillRate ∧ 0 < n ∧
      ¬ Bounded capacity refillRate (bursts n nows) := by
  cases nows with
  | nil =>
      rw [rise, spread, List.max?_nil, List.min?_nil, sub_self] at h
      exact absurd h (lt_irrefl 0)
  | cons now nows =>
      have hgap : 0 < rise (now :: nows) - spread (now :: nows) := sub_pos.mpr h
      obtain ⟨rate, hrate⟩ := exists_nat_gt (1 / (rise (now :: nows) - spread (now :: nows)))
      obtain ⟨capacity, hcap⟩ := exists_nat_gt (1 + rate * riseFrom now nows)
      have hrate0 : (0 : ℚ) < rate := lt_trans (one_div_pos.mpr hgap) hrate
      have hcredit : 1 < rate * (rise (now :: nows) - spread (now :: nows)) := by
        rw [div_lt_iff₀ hgap] at hrate
        linarith
      have hpos : 0 < rate := by exact_mod_cast hrate0
      refine ⟨capacity, rate, capacity + 1, hpos, Nat.succ_pos _, ?_⟩
      intro hbounded
      have hburst : (capacity : ℚ) < ((capacity + 1 : ℕ) : ℚ) := by
        exact_mod_cast Nat.lt_succ_self _
      have htaken := lt_taken_bursts hrate0.le nows hcap.le hburst
      have hfresh : allowedCount capacity rate none (bursts (capacity + 1) (now :: nows)) =
          taken (capacity : ℚ) rate ⟨capacity, now⟩ (bursts (capacity + 1) (now :: nows)) := by
        show allowedCount capacity rate none (now :: (List.replicate capacity now ++ _)) = _
        exact allowedCount_fresh hpos now _
      rw [Bounded, hfresh, spread_bursts (Nat.succ_pos _)] at hbounded
      rw [rise_cons] at hcredit
      linarith

/-- **Credited once, or twice.** Executions at some readings, in bursts of any
size, stay within the capacity and the refill of the time the readings span, for
every capacity and refill rate, exactly if the readings rise by no more than
they span. -/
theorem tokenBucketScript_bounded_iff (nows : List ℚ) :
    (∀ capacity refillRate n, 0 < refillRate → 0 < n →
      Bounded capacity refillRate (bursts n nows)) ↔ rise nows ≤ spread nows := by
  constructor
  · intro hall
    by_contra hlt
    obtain ⟨capacity, rate, n, hrate, hn, hnot⟩ := exists_not_bounded (not_le.mp hlt)
    exact hnot (hall capacity rate n hrate hn)
  · intro hrise capacity rate n hrate hn
    apply bounded_of_rise_le capacity hrate
    rw [rise_bursts hn, spread_bursts hn]
    exact hrise

/-- An instance whose clock is one second behind makes the bucket refill the
same second twice: three requests pass where two may. -/
theorem tokenBucketScript_credits_twice :
    ¬ ∀ (capacity refillRate : ℕ) (nows : List ℚ), 0 < refillRate →
      Bounded capacity refillRate nows := by
  intro hall
  have hthree : allowedCount 1 1 none [1, 0, 1, 0, 1] = 3 := by decide +kernel
  have hbound := hall 1 1 [1, 0, 1, 0, 1] Nat.one_pos
  have hspread : spread ([1, 0, 1, 0, 1] : List ℚ) = 1 := by decide +kernel
  rw [Bounded, hthree, hspread] at hbound
  norm_num at hbound

/-! ## Sliding window, at readings that never fall -/

/-- One execution of the sliding window. `expired` says that `EXPIRE` has removed
the key since the last one. -/
structure WindowCall : Type where
  now : ℚ
  reqId : Str
  expired : Bool

/-- A later call: not at an earlier reading, under another id, and on an expired
key only when its time to live has passed. -/
def WindowCall.Before (window : ℕ) (a b : WindowCall) : Prop :=
  a.now ≤ b.now ∧ a.reqId ≠ b.reqId ∧ (b.expired = true → a.now + (window + 5) ≤ b.now)

/-- The key an execution finds. -/
def WindowCall.found (c : WindowCall) (key : SortedSet Str ℚ) : SortedSet Str ℚ :=
  if c.expired then ∅ else key

def windowCall (maxRequests window : ℕ) (key : SortedSet Str ℚ) (c : WindowCall) :
    ScriptReply × SortedSet Str ℚ :=
  slidingWindowScript maxRequests window c.now c.reqId (c.found key)

abbrev windowAfter (maxRequests window : ℕ) (calls : List WindowCall) : SortedSet Str ℚ :=
  after (fun key c => (windowCall maxRequests window key c).2) ∅ calls

/-- The requests of a run that were admitted in `(s, t]`. -/
def admittedIn (maxRequests window : ℕ) (calls : List WindowCall) (s t : ℚ) : ℕ :=
  (transcript (windowCall maxRequests window) ∅ calls).countP fun e =>
    e.2.allowed && decide (s < e.1.now) && decide (e.1.now ≤ t)

section
variable {maxRequests window : ℕ} {calls : List WindowCall} {c : WindowCall}
  {key : SortedSet Str ℚ} {s t : ℚ}

theorem admittedIn_snoc :
    admittedIn maxRequests window (calls ++ [c]) s t =
      admittedIn maxRequests window calls s t +
        if (windowCall maxRequests window (windowAfter maxRequests window calls) c).1.allowed &&
            decide (s < c.now) && decide (c.now ≤ t) then 1 else 0 := by
  simp [admittedIn, transcript_append, transcript, List.countP_append, List.countP_singleton]

/-- A window that lies inside of another, as far as the calls reach, holds no more. -/
theorem admittedIn_mono {s' t' : ℚ}
    (h : ∀ c ∈ calls, s < c.now → c.now ≤ t → s' < c.now ∧ c.now ≤ t') :
    admittedIn maxRequests window calls s t ≤ admittedIn maxRequests window calls s' t' := by
  apply List.countP_mono_left
  intro e he hin
  simp only [Bool.and_eq_true, decide_eq_true_eq] at hin ⊢
  obtain ⟨hs, ht⟩ := h e.1 (mem_transcript he) hin.1.2 hin.2
  exact ⟨⟨hin.1.1, hs⟩, ht⟩

/-- What holds of the key after some calls: its members are their ids, it counts
the admitted ones that may still be in the window, and no window had too many. -/
structure WindowLog (maxRequests window : ℕ) (calls : List WindowCall)
    (key : SortedSet Str ℚ) : Prop where
  members : ∀ m ∈ key, ∃ c ∈ calls, c.reqId = m
  counts : ∀ s t, (∀ c ∈ calls, c.now - window ≤ s ∧ c.now ≤ t) →
    key.countAbove s = admittedIn maxRequests window calls s t
  bounded : ∀ t, admittedIn maxRequests window calls (t - window) t ≤ maxRequests

theorem WindowLog.initial : WindowLog maxRequests window [] ∅ where
  members := by
    intro m hm
    exact absurd hm (AList.notMem_empty m)
  counts := by
    intro s t _
    rfl
  bounded := by
    intro t
    exact Nat.zero_le _

/-- What the key counts at the next call is what was admitted in its window. -/
theorem WindowLog.found_counts (h : WindowLog maxRequests window calls key)
    (hbefore : ∀ a ∈ calls, a.Before window c) (hs : c.now - window ≤ s) (ht : c.now ≤ t) :
    (c.found key).countAbove s = admittedIn maxRequests window calls s t := by
  unfold WindowCall.found
  split
  · next hexpired =>
      -- all that was admitted is out of the window by now
      rw [SortedSet.countAbove_empty]
      symm
      apply List.countP_eq_zero.mpr
      intro e he hin
      simp only [Bool.and_eq_true, decide_eq_true_eq] at hin
      have hlate := (hbefore e.1 (mem_transcript he)).2.2 hexpired
      linarith [hin.1.2]
  · next hlive =>
      apply h.counts
      intro a ha
      have hle := (hbefore a ha).1
      exact ⟨by linarith, by linarith⟩

/-- **A call admits when its window has room.** -/
theorem WindowLog.admits_iff (h : WindowLog maxRequests window calls key)
    (hbefore : ∀ a ∈ calls, a.Before window c) :
    (windowCall maxRequests window key c).1.allowed = true ↔
      admittedIn maxRequests window calls (c.now - window) c.now < maxRequests := by
  rw [← h.found_counts hbefore le_rfl le_rfl]
  unfold windowCall
  by_cases hroom : (c.found key).countAbove (c.now - window) < maxRequests
  · rw [(slidingWindowScript_admits hroom).1]
    exact ⟨fun _ => hroom, fun _ => rfl⟩
  · rw [(slidingWindowScript_deny hroom).1]
    exact ⟨nofun, fun hlt => absurd hlt hroom⟩

theorem WindowLog.found_members (h : WindowLog maxRequests window calls key) {m : Str}
    (hm : m ∈ c.found key) : ∃ a ∈ calls, a.reqId = m := by
  unfold WindowCall.found at hm
  split at hm
  · exact absurd hm (AList.notMem_empty m)
  · exact h.members m hm

/-- The step lemma: a later call keeps the log. -/
theorem WindowLog.step (h : WindowLog maxRequests window calls key)
    (hkey : key = windowAfter maxRequests window calls)
    (hbefore : ∀ a ∈ calls, a.Before window c) :
    WindowLog maxRequests window (calls ++ [c]) (windowCall maxRequests window key c).2 := by
  have hadmits := h.admits_iff hbefore
  -- the id is new, so an admitted call is one more member
  have hnew : c.reqId ∉ (c.found key).zremrangebyscore (c.now - window) := by
    intro hmem
    obtain ⟨a, ha, hid⟩ := h.found_members (SortedSet.mem_of_mem_zremrangebyscore hmem)
    exact (hbefore a ha).2.1 hid
  have hcase : (windowCall maxRequests window key c).1.allowed = true ∧
        (windowCall maxRequests window key c).2 =
          ((c.found key).zremrangebyscore (c.now - window)).zadd c.now c.reqId ∨
      (windowCall maxRequests window key c).1.allowed = false ∧
        (windowCall maxRequests window key c).2 =
          (c.found key).zremrangebyscore (c.now - window) := by
    by_cases hroom : (c.found key).countAbove (c.now - window) < maxRequests
    · exact .inl (slidingWindowScript_admits hroom)
    · exact .inr (slidingWindowScript_deny hroom)
  refine ⟨?_, ?_, ?_⟩
  · intro m hm
    have hm' : m = c.reqId ∨ m ∈ c.found key := by
      rcases hcase with ⟨_, hkey'⟩ | ⟨_, hkey'⟩
      · rw [hkey', SortedSet.mem_zadd] at hm
        rcases hm with rfl | hm
        · exact .inl rfl
        · exact .inr (SortedSet.mem_of_mem_zremrangebyscore hm)
      · rw [hkey'] at hm
        exact .inr (SortedSet.mem_of_mem_zremrangebyscore hm)
    rcases hm' with rfl | hm'
    · exact ⟨c, by simp, rfl⟩
    · obtain ⟨a, ha, hid⟩ := h.found_members hm'
      exact ⟨a, by simp [ha], hid⟩
  · intro s t hst
    have hc := hst c (by simp)
    rw [admittedIn_snoc, ← hkey, ← h.found_counts hbefore hc.1 hc.2]
    rcases hcase with ⟨hallowed, hkey'⟩ | ⟨hallowed, hkey'⟩
    · rw [hkey', SortedSet.countAbove_zadd hnew,
        SortedSet.countAbove_zremrangebyscore hc.1, hallowed]
      simp [hc.2]
    · rw [hkey', SortedSet.countAbove_zremrangebyscore hc.1, hallowed]
      simp
  · intro t
    have hold := h.bounded t
    rw [admittedIn_snoc, ← hkey]
    split
    · next hin =>
        simp only [Bool.and_eq_true, decide_eq_true_eq] at hin
        have hroom := hadmits.mp hin.1.1
        have hmono : admittedIn maxRequests window calls (t - window) t ≤
            admittedIn maxRequests window calls (c.now - window) c.now := by
          apply admittedIn_mono
          intro a ha hs _
          exact ⟨by linarith [hin.2], (hbefore a ha).1⟩
        omega
    · exact hold

/-- The run lemma. -/
theorem windowLog_after (calls : List WindowCall) (h : calls.Pairwise (WindowCall.Before window)) :
    WindowLog maxRequests window calls (windowAfter maxRequests window calls) := by
  revert h
  apply history_invariant_all
    (P := fun calls key => calls.Pairwise (WindowCall.Before window) →
      WindowLog maxRequests window calls key)
  · intro _
    exact WindowLog.initial
  · intro calls c ih h
    rw [List.pairwise_append] at h
    apply (ih h.1).step rfl
    intro a ha
    exact h.2.2 a ha c List.mem_cons_self

/-- **The window is exact.** Executions at readings that never fall, under ids
that never repeat: no window position holds more admitted requests than the
limit, and an execution is denied only when its window holds just as many. -/
theorem slidingWindowScript_exact (maxRequests window : ℕ) (calls : List WindowCall)
    (h : calls.Pairwise (WindowCall.Before window)) :
    (∀ t : ℚ, admittedIn maxRequests window calls (t - window) t ≤ maxRequests) ∧
      ∀ past c future, calls = past ++ c :: future →
        (windowCall maxRequests window (windowAfter maxRequests window past) c).1.allowed = false →
        admittedIn maxRequests window past (c.now - window) c.now = maxRequests := by
  refine ⟨(windowLog_after calls h).bounded, ?_⟩
  rintro past c future rfl hdenied
  rw [List.pairwise_append] at h
  have hlog : WindowLog maxRequests window past _ := windowLog_after past h.1
  have hbefore : ∀ a ∈ past, a.Before window c := by
    intro a ha
    exact h.2.2 a ha c List.mem_cons_self
  have hfull : ¬ admittedIn maxRequests window past (c.now - window) c.now < maxRequests := by
    intro hroom
    rw [(hlog.admits_iff hbefore).mpr hroom] at hdenied
    exact absurd hdenied nofun
  have hbound := hlog.bounded c.now
  omega

/-- Two calls in one window, one that has just left it, and one on an expired key. -/
def fourCalls : List WindowCall :=
  [⟨0, "a".toList, false⟩, ⟨5, "b".toList, false⟩, ⟨10, "c".toList, false⟩, ⟨30, "d".toList, true⟩]

theorem slidingWindowScript_exact_four :
    admittedIn 1 10 fourCalls (10 - (10 : ℕ)) 10 ≤ 1 ∧
      admittedIn 1 10 (fourCalls.take 1) (5 - (10 : ℕ)) 5 = 1 := by
  have hpairwise : fourCalls.Pairwise (WindowCall.Before 10) := by
    unfold fourCalls
    simp only [List.pairwise_cons, List.mem_cons, List.not_mem_nil, or_false, forall_eq_or_imp,
      forall_eq, WindowCall.Before]
    norm_num
    decide
  obtain ⟨hbound, hdenied⟩ := slidingWindowScript_exact 1 10 fourCalls hpairwise
  refine ⟨hbound 10, ?_⟩
  exact hdenied _ ⟨5, "b".toList, false⟩ (fourCalls.drop 2) rfl (by decide +kernel)

end

end Stateform
