import Stateform.Library.Run
import Stateform.RateLimit.Limiter

/-!
# What a window of time lets through

Runs of `check` calls at non-decreasing times, with any reply of Redis to each
of them. Whatever Redis says, a key gets at most the capacity and the refill of
the window out of its local bucket (`allowed_le_window`): the bucket keeps the
budget of the window, and every allowed request took a token.
-/

namespace Stateform

open Library

/-- One call of `check` with what it meets. -/
structure CheckCall : Type where
  env : CheckEnv
  middlewareRef : Option RateLimitMiddlewareRef
  routeId : Str
  authCtx : Option AuthContext
  headers : HeaderMap

/-- The call is checked against the policy under the key. -/
def CheckCall.onKey (c : CheckCall) (policy key : Str) : Bool :=
  decide (c.middlewareRef = some ⟨policy⟩) &&
    decide (deriveKey c.routeId c.authCtx c.headers = key)

namespace RateLimiter

def answer (limiter : RateLimiter) (c : CheckCall) :
    Except RateLimitError RateLimitOutcome × RateLimiter :=
  limiter.check c.env c.middlewareRef c.routeId c.authCtx c.headers

abbrev step (limiter : RateLimiter) (c : CheckCall) : RateLimiter := (limiter.answer c).2

end RateLimiter

def isAllowed : Except RateLimitError RateLimitOutcome → Bool
  | .ok o => o.allowed
  | .error _ => false

/-- An answered call that lets a request on the key through between `s` and `t`. -/
def countsIn (policy key : Str) (s t : ℚ)
    (e : CheckCall × Except RateLimitError RateLimitOutcome) : Bool :=
  e.1.onKey policy key && decide (s ≤ e.1.env.now) && decide (e.1.env.now ≤ t) && isAllowed e.2

/-- The requests on the key that a run lets through between `s` and `t`. -/
def allowedIn (limiter : RateLimiter) (calls : List CheckCall) (policy key : Str) (s t : ℚ) : ℕ :=
  (transcript RateLimiter.answer limiter calls).countP (countsIn policy key s t)

theorem allowedIn_snoc (limiter : RateLimiter) (calls : List CheckCall) (c : CheckCall)
    (policy key : Str) (s t : ℚ) :
    allowedIn limiter (calls ++ [c]) policy key s t =
      allowedIn limiter calls policy key s t +
        if countsIn policy key s t (c, ((after RateLimiter.step limiter calls).answer c).1) then 1
        else 0 := by
  simp [allowedIn, transcript_append, transcript, List.countP_append, List.countP_singleton]

/-! ## The budget of one bucket -/

section
variable {cfg : TokenBucketConfig} {s t : ℚ} {n : ℕ} {b : Bucket} {now : ℚ}

/-- A bucket of the configured size that keeps the budget of the window. -/
structure Bucket.Within (cfg : TokenBucketConfig) (s t : ℚ) (n : ℕ) (b : Bucket) : Prop where
  capacity : b.capacity = cfg.capacity
  refillRate : b.refillRate = cfg.refillRate
  budget : Budget (cfg.capacity : ℚ) cfg.refillRate s t n b.tokens b.lastRefill

theorem Bucket.within_new (hst : s ≤ t) : (Bucket.new cfg now).Within cfg s t 0 :=
  ⟨rfl, rfl, Budget.full (by positivity) (by positivity) hst⟩

/-- The step lemma: a consume keeps the budget, and a token that it gives
inside of the window may be counted. -/
theorem Bucket.Within.consume (h : b.Within cfg s t n) (hle : b.lastRefill ≤ now) :
    (b.consume now).2.Within cfg s t n ∧
      ((b.consume now).1 = true → s ≤ now → now ≤ t →
        (b.consume now).2.Within cfg s t (n + 1)) := by
  have hrate : (0 : ℚ) ≤ cfg.refillRate := by positivity
  have hrefilled := h.budget.refilled hrate hle
  have helapsed : max 0 (now - b.lastRefill) = now - b.lastRefill :=
    max_eq_right (by linarith)
  unfold Bucket.consume
  simp only [helapsed, h.capacity, h.refillRate]
  by_cases hone : 1 ≤ Library.refill (cfg.capacity : ℚ) cfg.refillRate b.tokens (now - b.lastRefill)
  · rw [if_pos hone]
    refine ⟨⟨rfl, rfl, hrefilled.drop hone⟩, ?_⟩
    intro _ hs ht
    exact ⟨rfl, rfl, hrefilled.take hrate hone hs ht⟩
  · rw [if_neg hone]
    exact ⟨⟨rfl, rfl, hrefilled⟩, nofun⟩

theorem Bucket.consume_lastRefill : (b.consume now).2.lastRefill = now := by
  dsimp only [Bucket.consume]
  split <;> rfl

end

/-! ## The budget of a key along a run -/

/-- The policy is there with its configuration, and the key's bucket, if it was
ever used, was last touched by a call of the run and keeps the budget. -/
structure KeyBudget (cfg : TokenBucketConfig) (policy key : Str) (s t : ℚ)
    (calls : List CheckCall) (n : ℕ) (limiter : RateLimiter) : Prop where
  known : ∃ pol, limiter.policies.lookup policy = some pol ∧ pol.l1.config = cfg ∧
    (pol.l1.buckets.lookup key = none → n = 0) ∧
    ∀ b, pol.l1.buckets.lookup key = some b →
      b.Within cfg s t n ∧ ∃ c ∈ calls, b.lastRefill = c.env.now

section
variable {cfg : TokenBucketConfig} {policy key : Str} {s t : ℚ} {calls : List CheckCall} {n : ℕ}
  {limiter : RateLimiter} {c : CheckCall}

theorem KeyBudget.snoc (h : KeyBudget cfg policy key s t calls n limiter) (c : CheckCall) :
    KeyBudget cfg policy key s t (calls ++ [c]) n limiter := by
  obtain ⟨pol, hpol, hcfg, hnone, hsome⟩ := h.known
  refine ⟨pol, hpol, hcfg, hnone, ?_⟩
  intro b hb
  rcases hsome b hb with ⟨hwithin, c', hmem, hlast⟩
  exact ⟨hwithin, c', List.mem_append_left _ hmem, hlast⟩

/-- A call on another policy or key leaves the bucket alone. -/
theorem KeyBudget.other (h : KeyBudget cfg policy key s t calls n limiter)
    (hc : c.onKey policy key = false) :
    KeyBudget cfg policy key s t (calls ++ [c]) n (limiter.step c) := by
  rcases (h.snoc c).known with ⟨pol, hpol, hcfg, hbucket⟩
  unfold RateLimiter.step RateLimiter.answer RateLimiter.check
  cases href : c.middlewareRef with
  | none => exact h.snoc c
  | some rlRef =>
  cases hlook : limiter.policies.lookup rlRef.policy with
  | none => simpa [hlook] using h.snoc c
  | some used =>
  simp only [hlook]
  by_cases hsame : policy = rlRef.policy
  · subst hsame
    obtain rfl : pol = used := by
      rw [hlook] at hpol
      exact (Option.some.inj hpol).symm
    have hkey : key ≠ deriveKey c.routeId c.authCtx c.headers := by
      intro hk
      simp [CheckCall.onKey, href, hk] at hc
    refine ⟨_, AList.lookup_insert _, by simpa using hcfg, ?_⟩
    simpa only [L1LocalLimiter.check_lookup_ne _ _ hkey] using hbucket
  · exact ⟨pol, by rwa [AList.lookup_insert_ne hsame], hcfg, hbucket⟩

/-- A call on the key, at a time no earlier than the run so far. -/
theorem KeyBudget.consume (h : KeyBudget cfg policy key s t calls n limiter) (hst : s ≤ t)
    (htime : ∀ c' ∈ calls, c'.env.now ≤ c.env.now) (hc : c.onKey policy key = true) :
    KeyBudget cfg policy key s t (calls ++ [c])
      (n + if countsIn policy key s t (c, (limiter.answer c).1) then 1 else 0)
      (limiter.step c) := by
  obtain ⟨pol, hpol, hcfg, hnone, hsome⟩ := h.known
  obtain ⟨href, hkey⟩ : c.middlewareRef = some ⟨policy⟩ ∧
      deriveKey c.routeId c.authCtx c.headers = key := by
    simpa [CheckCall.onKey] using hc
  have hanswer : limiter.answer c =
      (.ok (RateLimiter.outcome c.env (pol.l1.check c.env.now key).1
          (pol.l1.check c.env.now key).2 key),
        ⟨limiter.policies.insert policy { pol with l1 := (pol.l1.check c.env.now key).2 }⟩) := by
    simp [RateLimiter.answer, RateLimiter.check, href, hpol, hkey]
  -- the bucket the call meets, new or not
  have hmet : (pol.l1.bucket c.env.now key).Within cfg s t n ∧
      (pol.l1.bucket c.env.now key).lastRefill ≤ c.env.now := by
    unfold L1LocalLimiter.bucket
    cases hb : pol.l1.buckets.lookup key with
    | none =>
        rw [hnone hb, hcfg]
        exact ⟨Bucket.within_new hst, le_rfl⟩
    | some b =>
        rcases hsome b hb with ⟨hwithin, c', hmem, hlast⟩
        exact ⟨hwithin, hlast ▸ htime c' hmem⟩
  rcases hmet.1.consume hmet.2 with ⟨hkeep, hcount⟩
  rw [RateLimiter.step, hanswer]
  refine ⟨_, AList.lookup_insert _, by simpa using hcfg, ?_, ?_⟩
  · intro hb
    simp [L1LocalLimiter.check_lookup_self] at hb
  · intro b hb
    rw [L1LocalLimiter.check_lookup_self] at hb
    obtain rfl := Option.some.inj hb
    refine ⟨?_, c, by simp, Bucket.consume_lastRefill⟩
    split
    · rename_i hcounts
      simp only [countsIn, Bool.and_eq_true, decide_eq_true_eq] at hcounts
      obtain ⟨⟨⟨-, hs⟩, ht⟩, hallowed⟩ := hcounts
      exact hcount (outcome_allowed hallowed) hs ht
    · exact hkeep

theorem keyBudget_new {cfg : GatewayConfig} {p : RateLimitPolicy}
    (hp : cfg.rateLimiting.policies.lookup policy = some p) :
    KeyBudget p.localBucket policy key s t [] 0 (.new cfg) := by
  constructor
  rw [new_lookup, hp]
  refine ⟨_, rfl, rfl, fun _ => rfl, ?_⟩
  intro b hb
  simp [L1LocalLimiter.new] at hb

variable (key) in
/-- Along every run at non-decreasing times, the key keeps the budget of what
the run let through in the window. -/
theorem keyBudget_after {cfg : GatewayConfig} {p : RateLimitPolicy}
    (hp : cfg.rateLimiting.policies.lookup policy = some p) (hst : s ≤ t)
    (calls : List CheckCall) (htimes : calls.Pairwise fun a b => a.env.now ≤ b.env.now) :
    KeyBudget p.localBucket policy key s t calls
      (allowedIn (.new cfg) calls policy key s t)
      (after RateLimiter.step (.new cfg) calls) := by
  revert htimes
  refine history_invariant_all
    (P := fun calls limiter => (calls.Pairwise fun a b => a.env.now ≤ b.env.now) →
      KeyBudget p.localBucket policy key s t calls
        (allowedIn (.new cfg) calls policy key s t) limiter)
    (fun _ => keyBudget_new hp) ?_ calls
  intro calls c ih htimes
  rcases List.pairwise_append.mp htimes with ⟨hpre, -, hlast⟩
  have hbudget := ih hpre
  rw [allowedIn_snoc]
  cases hc : c.onKey policy key with
  | true =>
      apply hbudget.consume hst _ hc
      intro c' hc'
      exact hlast c' hc' c (by simp)
  | false => simpa [countsIn, hc] using hbudget.other hc

end

/-- **A key gets at most the capacity and the refill of any window**, and its
bucket always holds between nothing and the capacity, whatever Redis answers. -/
theorem allowed_le_window {cfg : GatewayConfig} {policy : Str} {p : RateLimitPolicy}
    (hp : cfg.rateLimiting.policies.lookup policy = some p) (key : Str) (calls : List CheckCall)
    (htimes : calls.Pairwise fun a b => a.env.now ≤ b.env.now) :
    (∀ s t, s ≤ t → (allowedIn (.new cfg) calls policy key s t : ℚ) ≤
      p.localBucket.capacity + p.localBucket.refillRate * (t - s)) ∧
    ∀ pol b, (after RateLimiter.step (.new cfg) calls).policies.lookup policy = some pol →
      pol.l1.buckets.lookup key = some b → 0 ≤ b.tokens ∧ b.tokens ≤ p.localBucket.capacity := by
  constructor
  · intro s t hst
    rcases (keyBudget_after key hp hst calls htimes).known with ⟨pol, hpol, -, hnone, hsome⟩
    cases hb : pol.l1.buckets.lookup key with
    | none =>
        rw [hnone hb]
        have hgain : (0 : ℚ) ≤ p.localBucket.refillRate * (t - s) :=
          mul_nonneg (by positivity) (by linarith)
        have hcap : (0 : ℚ) ≤ p.localBucket.capacity := by positivity
        rw [Nat.cast_zero]
        linarith
    | some b => exact (hsome b hb).1.budget.window
  · intro pol b hpol hb
    obtain ⟨pol', hpol', -, -, hsome⟩ :=
      (keyBudget_after key hp (le_refl (0 : ℚ)) calls htimes).known
    obtain rfl : pol' = pol := by
      rw [hpol'] at hpol
      exact Option.some.inj hpol
    exact ⟨(hsome b hb).1.budget.nonneg, (hsome b hb).1.budget.le_capacity⟩

/-- One policy: two tokens, one more each second. -/
def burstConfig : GatewayConfig :=
  { GatewayConfig.withRoutes [] with
    rateLimiting := ⟨AList.singleton "burst".toList ⟨⟨2, 1⟩, .tokenBucket 100 100⟩⟩ }

def burstCall (now : ℚ) : CheckCall where
  env := ⟨now, .error (.redis "connection refused".toList)⟩
  middlewareRef := some ⟨"burst".toList⟩
  routeId := "api".toList
  authCtx := none
  headers := .empty

/-- Three requests within a second, with Redis down. -/
theorem burst_le_window :
    (allowedIn (.new burstConfig) [burstCall 0, burstCall 0, burstCall 1] "burst".toList
      "stateform:rl:api:anonymous".toList 0 1 : ℚ) ≤ 2 + 1 * (1 - 0) := by
  have hp : burstConfig.rateLimiting.policies.lookup "burst".toList =
      some ⟨⟨2, 1⟩, .tokenBucket 100 100⟩ := rfl
  have h := (allowed_le_window hp "stateform:rl:api:anonymous".toList
    [burstCall 0, burstCall 0, burstCall 1] (by simp [burstCall])).1 0 1 (by norm_num)
  exact_mod_cast h

end Stateform
