import Stateform.RateLimit.Limiter

/-!
# Lazy refill

A bucket is refilled when it is looked at, in steps that are capped one by one. It holds what
a bucket refilled all the time would: calls that are denied and readings of what remains can
come and go without changing any other answer (`refill_unseen`).
-/

namespace Stateform

open Library

/-! ## Calls on a limiter -/

/-- A call on a key at a time. -/
inductive L1Op : Type where
  | check (now : ℚ) (key : Str)
  | remaining (now : ℚ) (key : Str)

inductive L1Answer : Type where
  | checked (allowed : Bool)
  | left (tokens : ℕ)

def L1Op.now : L1Op → ℚ
  | .check now _ => now
  | .remaining now _ => now

/-- The bucket gave nothing away. -/
def L1Answer.TookNothing : L1Answer → Prop
  | .checked allowed => allowed = false
  | .left _ => True

instance : DecidablePred L1Answer.TookNothing
  | .checked allowed => inferInstanceAs (Decidable (allowed = false))
  | .left _ => .isTrue trivial

/-- The call of a run, with a mark on those that stay. -/
def L1LocalLimiter.answer (l : L1LocalLimiter) (op : L1Op × Bool) : L1Answer × L1LocalLimiter :=
  match op.1 with
  | .check now key =>
      let (allowed, l) := l.check now key
      (.checked allowed, l)
  | .remaining now key => (.left (l.remaining now key), l)

/-! ## Buckets of a configuration -/

/-- A bucket with the numbers of the configuration, and no debt. -/
structure Bucket.Sized (cfg : TokenBucketConfig) (b : Bucket) : Prop where
  capacity : b.capacity = cfg.capacity
  refillRate : b.refillRate = cfg.refillRate
  nonneg : 0 ≤ b.tokens

/-- What a bucket holds at a time. -/
def Bucket.level (b : Bucket) (now : ℚ) : ℚ :=
  refill b.capacity b.refillRate b.tokens (max 0 (now - b.lastRefill))

section
variable {cfg : TokenBucketConfig} {b : Bucket} {now time : ℚ}

theorem Bucket.sized_new : (Bucket.new cfg now).Sized cfg := ⟨rfl, rfl, Nat.cast_nonneg _⟩

theorem Bucket.Sized.level_nonneg (h : b.Sized cfg) : 0 ≤ b.level now := by
  have hgain : 0 ≤ max 0 (now - b.lastRefill) * b.refillRate := by
    rw [h.refillRate]
    exact mul_nonneg (le_max_left _ _) (Nat.cast_nonneg _)
  have hcapacity : 0 ≤ b.capacity := by
    rw [h.capacity]
    exact Nat.cast_nonneg _
  exact le_min (add_nonneg h.nonneg hgain) hcapacity

/-- A consume takes one from the level, or nothing. -/
theorem Bucket.consume_eq (b : Bucket) (now : ℚ) :
    b.consume now = (decide (1 ≤ b.level now), { b with
      tokens := b.level now - (if 1 ≤ b.level now then 1 else 0)
      lastRefill := now }) := by
  dsimp only [Bucket.consume]
  rw [← Bucket.level]
  by_cases hone : 1 ≤ b.level now
  · rw [if_pos hone, if_pos hone, decide_eq_true hone]
  · rw [if_neg hone, if_neg hone, decide_eq_false hone, sub_zero]

theorem Bucket.Sized.consume (h : b.Sized cfg) : (b.consume now).2.Sized cfg := by
  rw [Bucket.consume_eq]
  refine ⟨h.capacity, h.refillRate, ?_⟩
  have hlevel : 0 ≤ b.level now := h.level_nonneg
  show 0 ≤ b.level now - (if 1 ≤ b.level now then 1 else 0)
  split
  · next hone => exact sub_nonneg.mpr hone
  · rwa [sub_zero]

theorem Bucket.level_new : (Bucket.new cfg now).level time = cfg.capacity :=
  refill_full (Nat.cast_nonneg _) (le_max_left _ _)

/-- What a consume leaves, of buckets of one configuration, only depends on the level. -/
theorem Bucket.Sized.consume_congr {b' : Bucket} (h : b.Sized cfg) (h' : b'.Sized cfg)
    (hlevel : b'.level now = b.level now) : b'.consume now = b.consume now := by
  rw [Bucket.consume_eq, Bucket.consume_eq, hlevel, h.capacity, h.refillRate, h'.capacity,
    h'.refillRate]

/-- A denied consume changes no later level. -/
theorem Bucket.Sized.level_denied (h : b.Sized cfg) (hlast : b.lastRefill ≤ now)
    (hle : now ≤ time) (hdenied : (b.consume now).1 = false) :
    (b.consume now).2.level time = b.level time := by
  rw [Bucket.consume_eq] at hdenied ⊢
  have hlow : ¬ 1 ≤ b.level now := of_decide_eq_false hdenied
  have hrate : 0 ≤ b.refillRate := by
    rw [h.refillRate]
    exact Nat.cast_nonneg _
  rw [if_neg hlow, sub_zero]
  show refill b.capacity b.refillRate (refill b.capacity b.refillRate b.tokens
    (max 0 (now - b.lastRefill))) (max 0 (time - now)) = _
  rw [refill_refill hrate (le_max_left _ _), Bucket.level, max_eq_right (sub_nonneg.mpr hlast),
    max_eq_right (sub_nonneg.mpr hle), max_eq_right (sub_nonneg.mpr (hlast.trans hle))]
  congr 1
  ring

end

/-! ## Limiters that answer the same -/

namespace L1LocalLimiter

/-- What a key's bucket holds at a time: one that was never used is full. -/
def level (l : L1LocalLimiter) (now : ℚ) (key : Str) : ℚ := (l.bucket now key).level now

/-- Every bucket is one of the configuration, used until now. -/
def SizedBy (l : L1LocalLimiter) (now : ℚ) : Prop :=
  ∀ key b, l.buckets.lookup key = some b → b.Sized l.config ∧ b.lastRefill ≤ now

/-- From a time on, two limiters hold the same for every key. -/
structure SameFrom (now : ℚ) (l l' : L1LocalLimiter) : Prop where
  sized : l.SizedBy now
  sized' : l'.SizedBy now
  config : l'.config = l.config
  level : ∀ time key, now ≤ time → l'.level time key = l.level time key

section
variable {l l' : L1LocalLimiter} {now time : ℚ} {key other : Str}

theorem level_eq_bucket :
    l.level time key = (l.bucket now key).level time := by
  unfold level bucket
  cases l.buckets.lookup key with
  | none =>
      show (Bucket.new l.config time).level time = (Bucket.new l.config now).level time
      rw [Bucket.level_new, Bucket.level_new]
  | some b => rfl

theorem SizedBy.bucket (h : l.SizedBy now) (hle : now ≤ time) (key : Str) :
    (l.bucket time key).Sized l.config ∧ (l.bucket time key).lastRefill ≤ time := by
  unfold L1LocalLimiter.bucket
  cases hb : l.buckets.lookup key with
  | none => exact ⟨Bucket.sized_new, le_refl time⟩
  | some b =>
      obtain ⟨hsized, hlast⟩ := h key b hb
      exact ⟨hsized, hlast.trans hle⟩

theorem SizedBy.check (h : l.SizedBy now) (hle : now ≤ time) (key : Str) :
    (l.check time key).2.SizedBy time := by
  intro k b hb
  by_cases hk : k = key
  · subst hk
    rw [check_lookup_self] at hb
    obtain rfl := Option.some.inj hb
    refine ⟨(h.bucket hle k).1.consume, ?_⟩
    rw [Bucket.consume_eq]
  · rw [check_lookup_ne l time hk] at hb
    obtain ⟨hsized, hlast⟩ := h k b hb
    exact ⟨hsized, hlast.trans hle⟩

/-- The level of a key after a call on it, and after one on another. -/
theorem level_check_self :
    (l.check now key).2.level time key = ((l.bucket now key).consume now).2.level time := by
  have hbucket : (l.check now key).2.bucket time key = ((l.bucket now key).consume now).2 := by
    rw [bucket, check_lookup_self, Option.getD_some]
  rw [level, hbucket]

theorem level_check_ne (hne : other ≠ key) :
    (l.check now key).2.level time other = l.level time other := by
  rw [level, level, bucket, bucket, check_lookup_ne l now hne, check_config]

/-- What remains is the level, in whole tokens. -/
theorem remaining_eq (l : L1LocalLimiter) (now : ℚ) (key : Str) :
    l.remaining now key = (l.level now key).floor.toNat := by
  unfold remaining level bucket
  cases l.buckets.lookup key with
  | none =>
      show l.config.capacity = ((Bucket.new l.config now).level now).floor.toNat
      rw [Bucket.level_new, ← Int.cast_natCast, Rat.floor_intCast, Int.toNat_natCast]
  | some b => rfl

theorem SameFrom.later (h : SameFrom now l l') (hle : now ≤ time) : SameFrom time l l' where
  sized := by
    intro key b hb
    exact ⟨(h.sized key b hb).1, (h.sized key b hb).2.trans hle⟩
  sized' := by
    intro key b hb
    exact ⟨(h.sized' key b hb).1, (h.sized' key b hb).2.trans hle⟩
  config := h.config
  level := fun t key ht => h.level t key (hle.trans ht)

/-- A call that both take is answered the same, and leaves them the same. -/
theorem SameFrom.check (h : SameFrom now l l') (hle : now ≤ time) (key : Str) :
    (l'.check time key).1 = (l.check time key).1 ∧
      SameFrom time (l.check time key).2 (l'.check time key).2 := by
  obtain ⟨hsized, -⟩ := h.sized.bucket hle key
  obtain ⟨hsized', -⟩ := h.sized'.bucket hle key
  rw [h.config] at hsized'
  have hconsume : (l'.bucket time key).consume time = (l.bucket time key).consume time :=
    hsized.consume_congr hsized' (h.level time key hle)
  refine ⟨?_, h.sized.check hle key, h.sized'.check hle key, h.config, ?_⟩
  · show ((l'.bucket time key).consume time).1 = ((l.bucket time key).consume time).1
    rw [hconsume]
  intro t k ht
  by_cases hk : k = key
  · subst hk
    rw [level_check_self, level_check_self, hconsume]
  · rw [level_check_ne hk, level_check_ne hk]
    exact h.level t k (hle.trans ht)

/-- A denied call that only one of them takes leaves them the same. -/
theorem SameFrom.denied (h : SameFrom now l l') (hle : now ≤ time)
    (hdenied : (l.check time key).1 = false) : SameFrom time (l.check time key).2 l' := by
  obtain ⟨hsized, hlast⟩ := h.sized.bucket hle key
  refine ⟨h.sized.check hle key, (h.later hle).sized', h.config, ?_⟩
  intro t k ht
  rw [h.level t k (hle.trans ht)]
  by_cases hk : k = key
  · subst hk
    rw [level_check_self, hsized.level_denied hlast ht hdenied, ← level_eq_bucket]
  · rw [level_check_ne hk]

/-- A new limiter holds what it holds. -/
theorem sameFrom_new (cfg : TokenBucketConfig) (now : ℚ) : SameFrom now (.new cfg) (.new cfg) := by
  have hsized : (L1LocalLimiter.new cfg).SizedBy now := by
    intro key b hb
    cases hb
  exact ⟨hsized, hsized, rfl, fun _ _ _ => rfl⟩

end

end L1LocalLimiter

/-! ## Runs -/

/-- The limiters agree from a time that no call of the rest of the run precedes. -/
def AgreeFor (ops : List (L1Op × Bool)) (l l' : L1LocalLimiter) : Prop :=
  (ops.map fun op => op.1.now).Pairwise (· ≤ ·) ∧
    ∃ now, (∀ op ∈ ops, now ≤ op.1.now) ∧ L1LocalLimiter.SameFrom now l l'

section
variable {ops : List (L1Op × Bool)} {op : L1Op × Bool} {l l' : L1LocalLimiter}

/-- What is the same at the time of the first call is the same for the calls after it. -/
theorem agreeFor_tail (h : ((op :: ops).map fun op => op.1.now).Pairwise (· ≤ ·))
    (hsame : L1LocalLimiter.SameFrom op.1.now l l') : AgreeFor ops l l' := by
  rw [List.map_cons, List.pairwise_cons] at h
  exact ⟨h.2, op.1.now, fun op' hop' => h.1 _ (List.mem_map_of_mem hop'), hsame⟩

theorem AgreeFor.shared (h : AgreeFor (op :: ops) l l') :
    (l.answer op).1 = (l'.answer op).1 ∧ AgreeFor ops (l.answer op).2 (l'.answer op).2 := by
  obtain ⟨hsorted, now, hnow, hsame⟩ := h
  have hle : now ≤ op.1.now := hnow op List.mem_cons_self
  obtain ⟨call, mark⟩ := op
  cases call with
  | check time key =>
      obtain ⟨hanswer, hnext⟩ := hsame.check hle key
      exact ⟨congrArg L1Answer.checked hanswer.symm, agreeFor_tail hsorted hnext⟩
  | remaining time key =>
      refine ⟨?_, agreeFor_tail hsorted (hsame.later hle)⟩
      show L1Answer.left (l.remaining time key) = L1Answer.left (l'.remaining time key)
      rw [L1LocalLimiter.remaining_eq, L1LocalLimiter.remaining_eq, hsame.level time key hle]

theorem AgreeFor.left (h : AgreeFor (op :: ops) l l') (hnothing : (l.answer op).1.TookNothing) :
    AgreeFor ops (l.answer op).2 l' := by
  obtain ⟨hsorted, now, hnow, hsame⟩ := h
  have hle : now ≤ op.1.now := hnow op List.mem_cons_self
  obtain ⟨call, mark⟩ := op
  cases call with
  | check time key => exact agreeFor_tail hsorted (hsame.denied hle hnothing)
  | remaining time key => exact agreeFor_tail hsorted (hsame.later hle)

end

/-- **Lazy refill is not seen.** Of a run at times that never fall, leave out calls that took
nothing: all others are answered the same. -/
theorem refill_unseen (cfg : TokenBucketConfig) (ops : List (L1Op × Bool))
    (hsorted : (ops.map fun op => op.1.now).Pairwise (· ≤ ·))
    (hnothing : ∀ e ∈ transcript L1LocalLimiter.answer (.new cfg) ops, e.1.2 = false →
      e.2.TookNothing) :
    transcript L1LocalLimiter.answer (.new cfg) (ops.filter Prod.snd) =
      (transcript L1LocalLimiter.answer (.new cfg) ops).filter fun e => e.1.2 := by
  have hagree : AgreeFor ops (.new cfg) (.new cfg) := by
    refine ⟨hsorted, ?_⟩
    cases ops with
    | nil => exact ⟨0, fun op hop => absurd hop List.not_mem_nil, L1LocalLimiter.sameFrom_new cfg 0⟩
    | cons op ops =>
        rw [List.map_cons, List.pairwise_cons] at hsorted
        refine ⟨op.1.now, ?_, L1LocalLimiter.sameFrom_new cfg _⟩
        intro op' hop'
        rcases List.mem_cons.mp hop' with rfl | hop'
        · exact le_refl _
        · exact hsorted.1 _ (List.mem_map_of_mem hop')
  exact transcript_filter (R := AgreeFor) (fun op ops l l' h _ => h.shared)
    (fun op ops l l' h _ hnothing => h.left hnothing) ops hagree hnothing

/-- A bucket of one token, with a denied call and a reading between two that are allowed. -/
def oneTokenOps : List (L1Op × Bool) :=
  [(.check 0 "k".toList, true), (.check (1 / 2) "k".toList, false),
    (.remaining (3 / 4) "k".toList, false), (.check 1 "k".toList, true)]

theorem refill_unseen_one :
    transcript L1LocalLimiter.answer (.new ⟨1, 1⟩) (oneTokenOps.filter Prod.snd) =
      (transcript L1LocalLimiter.answer (.new ⟨1, 1⟩) oneTokenOps).filter fun e => e.1.2 := by
  apply refill_unseen ⟨1, 1⟩ oneTokenOps
  · simp only [oneTokenOps, List.map_cons, List.map_nil, L1Op.now, List.pairwise_cons,
      List.mem_cons, List.not_mem_nil]
    norm_num
  · decide +kernel

end Stateform
