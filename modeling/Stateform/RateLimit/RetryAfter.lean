import Stateform.RateLimit.Denials
import Stateform.RateLimit.Refill
import Stateform.RateLimit.Window

/-!
# The `Retry-After` header

A denial is sent with the whole seconds of its delay. The bucket in the process says one
second, which is always enough. A script says milliseconds, rounded up, and the header rounds
them down: a client that waits as long as it is told is let through exactly if the delay ends
within a millisecond before a whole second, or the key expires first (`retryAllowed_iff`).
-/

namespace Stateform

open Library

/-! ## Calls and retries -/

/-- One call of `check` on the limiter and the keys in Redis. -/
structure LimitCall : Type where
  env : LimitEnv
  middlewareRef : Option RateLimitMiddlewareRef
  routeId : Str
  authCtx : Option AuthContext
  headers : HeaderMap

structure LimitState : Type where
  limiter : RateLimiter
  keys : RateKeys

/-- The key of the call, in the process and in Redis. -/
def LimitCall.key (c : LimitCall) : Str := deriveKey c.routeId c.authCtx c.headers

namespace LimitState

def answer (s : LimitState) (c : LimitCall) :
    Except RateLimitError RateLimitOutcome × LimitState :=
  let (answer, limiter, keys) :=
    s.limiter.checkKeys s.keys c.env c.middlewareRef c.routeId c.authCtx c.headers
  (answer, ⟨limiter, keys⟩)

abbrev step (s : LimitState) (c : LimitCall) : LimitState := (s.answer c).2

def policyOf (s : LimitState) (c : LimitCall) : Option Policy :=
  c.middlewareRef.bind fun rlRef => s.limiter.policies.lookup rlRef.policy

/-- A layer on its own lets the call through. -/
def layerAllows (s : LimitState) (c : LimitCall) : DeniedBy → Bool
  | .l1Local => (s.policyOf c).any fun pol => (pol.l1.check c.env.now c.key).1
  | .l2Distributed => (s.policyOf c).any fun pol => s.keys.allows c.env pol.l2 c.key

end LimitState

/-- The request comes again, no sooner than some seconds later by any clock. -/
structure LimitCall.RetriedBy (c c' : LimitCall) (seconds : ℕ) : Prop where
  middlewareRef : c'.middlewareRef = c.middlewareRef
  key : c'.key = c.key
  now : c.env.now + seconds ≤ c'.env.now
  unixNow : c.env.unixNow + seconds ≤ c'.env.unixNow
  redisNow : c.env.redisNow + seconds ≤ c'.env.redisNow

/-- If the call is denied, the layer that denied it lets a retry through that waits for the
seconds in the header, whatever was asked for on other keys. -/
def RetryAllowed (s : LimitState) (c : LimitCall) : Prop :=
  ∀ (o : RateLimitOutcome) (layer : DeniedBy) (seconds : ℕ) (between : List LimitCall)
    (c' : LimitCall), (s.answer c).1 = .ok o → o.deniedBy = some layer →
    ("Retry-After".toList, decimal seconds) ∈ o.toHeaders → (∀ b ∈ between, b.key ≠ c.key) →
    c.RetriedBy c' seconds →
    (after LimitState.step (s.step c) between).layerAllows c' layer = true

/-- Some whole seconds, less than a millisecond over the delay, are enough: there is room
again, or the key has expired. -/
def SecondsSuffice (unixNow : ℚ) (config : DistributedRateLimitConfig) (value : RateValue) :
    Prop :=
  ∀ delay, DeniedFor unixNow delay config value →
    ∃ seconds : ℕ, (seconds : ℚ) < delay + 1 / 1000 ∧
      (RoomAfter unixNow seconds config value ∨ scriptTtl config ≤ seconds)

/-! ## The header -/

theorem decimal_injective {m n : ℕ} (h : decimal m = decimal n) : m = n := by
  have hread := congrArg (fun s => Nat.ofDigitChars 10 s 0) h
  simpa only [decimal, Nat.ofDigitChars_ten_toDigits] using hread

/-- The header is there on a denial, with the seconds of its delay. -/
theorem mem_toHeaders_retryAfter {o : RateLimitOutcome} {seconds : ℕ} :
    ("Retry-After".toList, decimal seconds) ∈ o.toHeaders ↔
      o.allowed = false ∧ seconds = o.retryAfterMs / 1000 := by
  unfold RateLimitOutcome.toHeaders
  have hothers : ("Retry-After".toList, decimal seconds) ∉
      [("X-RateLimit-Limit".toList, decimal o.limit),
        ("X-RateLimit-Remaining".toList, decimal o.remaining)] := by
    have hlimit : "Retry-After".toList ≠ "X-RateLimit-Limit".toList := by decide
    have hremaining : "Retry-After".toList ≠ "X-RateLimit-Remaining".toList := by decide
    intro hmem
    rcases List.mem_pair.mp hmem with h | h
    · exact hlimit (congrArg Prod.fst h)
    · exact hremaining (congrArg Prod.fst h)
  rw [List.mem_append, or_iff_right hothers]
  cases o.allowed with
  | true => exact ⟨nofun, nofun⟩
  | false =>
      show _ ∈ [_] ↔ _
      rw [List.mem_singleton, Prod.mk.injEq, eq_self, true_and, eq_self, true_and]
      exact ⟨decimal_injective, congrArg decimal⟩

/-- Milliseconds rounded up, and then down to seconds: the most that are less than a millisecond
over. -/
theorem le_seconds_iff {delay : ℚ} {n : ℕ} (hdelay : 0 < delay) :
    n ≤ ⌈delay * 1000⌉.toNat / 1000 ↔ (n : ℚ) < delay + 1 / 1000 := by
  have hpos : 0 ≤ ⌈delay * 1000⌉ := Int.ceil_nonneg (by positivity)
  rw [Nat.le_div_iff_mul_le (by norm_num), Int.le_toNat hpos, Int.le_ceil_iff]
  push_cast
  constructor
  · intro h
    linarith
  · intro h
    linarith

/-- What only gets easier with time holds after the seconds of the header exactly if it holds
after some seconds that are less than a millisecond over. -/
theorem holds_after_seconds_iff {delay : ℚ} {P : ℕ → Prop} (hdelay : 0 < delay)
    (hmono : ∀ m n, m ≤ n → P m → P n) :
    P (⌈delay * 1000⌉.toNat / 1000) ↔ ∃ n : ℕ, (n : ℚ) < delay + 1 / 1000 ∧ P n := by
  constructor
  · intro h
    exact ⟨_, (le_seconds_iff hdelay).mp (le_refl _), h⟩
  · rintro ⟨n, hn, h⟩
    exact hmono n _ ((le_seconds_iff hdelay).mpr hn) h

/-! ## One key -/

section
variable {keys' : RateKeys} {env env' : LimitEnv} {config : DistributedRateLimitConfig} {key : Str}
  {value left : RateValue} {delay : ℚ} {seconds : ℕ}
  {result : Except RateLimitError (List ℤ) × RateKeys}

/-- A retry that finds what the denial left is let through if there is room by then, or the key
has expired. -/
theorem Denial.retry_allowed (h : Denial env config key value delay left result)
    (hlimits : LimitsPositive config)
    (henough : RoomAfter env.unixNow seconds config value ∨ scriptTtl config ≤ seconds)
    (hkey : keys'.keys.lookup key = result.2.keys.lookup key)
    (hunix : env.unixNow + seconds ≤ env'.unixNow)
    (hredis : env.redisNow + seconds ≤ env'.redisNow) :
    keys'.allows env' config key = true := by
  rw [RateKeys.allows_iff hlimits]
  intro k _ hlive
  rw [RateKeys.live_stored (hkey.trans h.stored)] at hlive
  split at hlive
  · next hlt =>
      obtain rfl := Option.some.inj hlive
      have hroom : RoomAfter env.unixNow seconds config value := by
        rcases henough with hroom | hexpired
        · exact hroom
        · omega
      have hwait : (seconds : ℚ) ≤ env'.unixNow - env.unixNow := le_sub_iff_add_le'.mpr hunix
      have hnonneg : 0 ≤ env'.unixNow - env.unixNow := le_trans (Nat.cast_nonneg _) hwait
      have hleft := (h.room _ hnonneg).mpr (hroom.mono hwait)
      rwa [add_sub_cancel] at hleft
  · cases hlive

/-- A retry at just that time is not let through otherwise. -/
theorem Denial.enough_of_allowed (h : Denial env config key value delay left result)
    (hlimits : LimitsPositive config) (hup : env'.up = true)
    (hunix : env'.unixNow = env.unixNow + seconds)
    (hredis : env'.redisNow = env.redisNow + seconds)
    (hallowed : result.2.allows env' config key = true) :
    RoomAfter env.unixNow seconds config value ∨ scriptTtl config ≤ seconds := by
  by_cases hexpired : scriptTtl config ≤ seconds
  · exact .inr hexpired
  -- the key is still there, as the denial left it
  have hlive : result.2.live env'.redisNow key =
      some ⟨left, some (env.redisNow + scriptTtl config)⟩ := by
    rw [RateKeys.live_stored h.stored, if_pos (by omega)]
  have hroom := (RateKeys.allows_iff hlimits).mp hallowed _ hup hlive
  rw [hunix] at hroom
  exact .inl ((h.room seconds (Nat.cast_nonneg _)).mp hroom)

/-- The seconds of the header are enough exactly if some are that are less than a millisecond
over the delay. -/
theorem Denial.seconds_iff (h : Denial env config key value delay left result) :
    (RoomAfter env.unixNow ((⌈delay * 1000⌉.toNat / 1000 : ℕ) : ℚ) config value ∨
        scriptTtl config ≤ (⌈delay * 1000⌉.toNat / 1000 : ℕ)) ↔
      SecondsSuffice env.unixNow config value := by
  have hmono : ∀ m n : ℕ, m ≤ n →
      (RoomAfter env.unixNow m config value ∨ scriptTtl config ≤ m) →
      RoomAfter env.unixNow n config value ∨ scriptTtl config ≤ n := by
    rintro m n hle (hroom | hexpired)
    · exact .inl (hroom.mono (Nat.cast_le.mpr hle))
    · exact .inr (hexpired.trans (Int.ofNat_le.mpr hle))
  rw [holds_after_seconds_iff (P := fun n : ℕ => RoomAfter env.unixNow n config value ∨
    scriptTtl config ≤ n) h.positive hmono]
  constructor
  · intro hseconds delay' hdelay'
    obtain rfl := h.deniedFor.unique hdelay'
    exact hseconds
  · intro hsuffice
    exact hsuffice delay h.deniedFor

end

/-! ## What other keys do -/

/-- A policy and Redis hold the same for a key. -/
structure SameOnKey (policy key : Str) (s s' : LimitState) : Prop where
  stored : s'.keys.keys.lookup key = s.keys.keys.lookup key
  policy : ∀ pol, s.limiter.policies.lookup policy = some pol →
    ∃ pol', s'.limiter.policies.lookup policy = some pol' ∧ pol'.l2 = pol.l2 ∧
      pol'.l1.config = pol.l1.config ∧ pol'.l1.buckets.lookup key = pol.l1.buckets.lookup key

section
variable {s s' s'' : LimitState} {c : LimitCall} {pol : Policy} {rlRef : RateLimitMiddlewareRef}
  {policy key : Str}

/-- The limiter after a call that a policy checked. -/
def LimitState.checked (s : LimitState) (c : LimitCall) (policy : Str) (pol : Policy) :
    RateLimiter :=
  ⟨s.limiter.policies.insert policy { pol with l1 := (pol.l1.check c.env.now c.key).2 }⟩

theorem LimitState.answer_unchecked (h : s.policyOf c = none) :
    s.step c = s ∧ ∀ o, (s.answer c).1 = .ok o → o.deniedBy = none := by
  unfold step answer RateLimiter.checkKeys
  cases href : c.middlewareRef with
  | none =>
      refine ⟨rfl, ?_⟩
      intro o ho
      cases ho
      rfl
  | some rlRef =>
      have hpolicy : s.limiter.policies.lookup rlRef.policy = none := by
        rw [policyOf, href] at h
        exact h
      simp only [hpolicy]
      exact ⟨trivial, nofun⟩

theorem LimitState.answer_deniedLocal (href : c.middlewareRef = some rlRef)
    (hpol : s.limiter.policies.lookup rlRef.policy = some pol)
    (hl1 : (pol.l1.check c.env.now c.key).1 = false) :
    s.answer c = (.ok ⟨false, 0, pol.l1.config.capacity, 1000, some .l1Local⟩,
      ⟨s.checked c rlRef.policy pol, s.keys⟩) := by
  rw [LimitCall.key] at hl1
  simp [answer, RateLimiter.checkKeys, href, hpol, hl1, estimateRefillMs, checked, LimitCall.key]

theorem LimitState.answer_deniedDistributed (href : c.middlewareRef = some rlRef)
    (hpol : s.limiter.policies.lookup rlRef.policy = some pol)
    (hl1 : (pol.l1.check c.env.now c.key).1 = true)
    (hl2 : s.keys.allows c.env pol.l2 c.key = false) :
    s.answer c = (.ok ⟨false, 0, pol.l1.config.capacity,
        (l2Check (s.keys.invoke c.env pol.l2 c.key).1).retryAfterMs, some .l2Distributed⟩,
      ⟨s.checked c rlRef.policy pol, (s.keys.invoke c.env pol.l2 c.key).2⟩) := by
  rw [LimitCall.key] at hl1
  rw [RateKeys.allows, LimitCall.key] at hl2
  simp [answer, RateLimiter.checkKeys, href, hpol, hl1, hl2, checked, LimitCall.key]

theorem LimitState.answer_allowed (href : c.middlewareRef = some rlRef)
    (hpol : s.limiter.policies.lookup rlRef.policy = some pol)
    (hl1 : (pol.l1.check c.env.now c.key).1 = true)
    (hl2 : s.keys.allows c.env pol.l2 c.key = true) :
    ∃ remaining, s.answer c = (.ok ⟨true, remaining, pol.l1.config.capacity, 0, none⟩,
      ⟨s.checked c rlRef.policy pol, (s.keys.invoke c.env pol.l2 c.key).2⟩) := by
  rw [LimitCall.key] at hl1
  rw [RateKeys.allows, LimitCall.key] at hl2
  refine ⟨min ((pol.l1.check c.env.now c.key).2.remaining c.env.now c.key)
    (l2Check (s.keys.invoke c.env pol.l2 c.key).1).remaining, ?_⟩
  simp [answer, RateLimiter.checkKeys, href, hpol, hl1, hl2, checked, LimitCall.key]

/-- What a call does to the state: nothing, or a check of its policy's bucket, and the script
or not. -/
theorem LimitState.step_cases (s : LimitState) (c : LimitCall) :
    s.step c = s ∨ ∃ rlRef pol, c.middlewareRef = some rlRef ∧
      s.limiter.policies.lookup rlRef.policy = some pol ∧
      (s.step c).limiter = s.checked c rlRef.policy pol ∧
      ((s.step c).keys = s.keys ∨ (s.step c).keys = (s.keys.invoke c.env pol.l2 c.key).2) := by
  cases href : c.middlewareRef with
  | none =>
      have hnone : s.policyOf c = none := by rw [policyOf, href]; rfl
      exact .inl (answer_unchecked hnone).1
  | some rlRef =>
  cases hpol : s.limiter.policies.lookup rlRef.policy with
  | none =>
      have hnone : s.policyOf c = none := by rw [policyOf, href]; exact hpol
      exact .inl (answer_unchecked hnone).1
  | some pol =>
  refine .inr ⟨rlRef, pol, rfl, hpol, ?_⟩
  cases hl1 : (pol.l1.check c.env.now c.key).1 with
  | false =>
      rw [step, answer_deniedLocal href hpol hl1]
      exact ⟨rfl, .inl rfl⟩
  | true =>
  cases hl2 : s.keys.allows c.env pol.l2 c.key with
  | false =>
      rw [step, answer_deniedDistributed href hpol hl1 hl2]
      exact ⟨rfl, .inr rfl⟩
  | true =>
      obtain ⟨remaining, hanswer⟩ := answer_allowed href hpol hl1 hl2
      rw [step, hanswer]
      exact ⟨rfl, .inr rfl⟩

theorem SameOnKey.refl (policy key : Str) (s : LimitState) : SameOnKey policy key s s :=
  ⟨rfl, fun pol hpol => ⟨pol, hpol, rfl, rfl, rfl⟩⟩

theorem SameOnKey.trans (h : SameOnKey policy key s s') (h' : SameOnKey policy key s' s'') :
    SameOnKey policy key s s'' := by
  refine ⟨h'.stored.trans h.stored, ?_⟩
  intro pol hpol
  obtain ⟨pol', hpol', hl2, hconfig, hbucket⟩ := h.policy pol hpol
  obtain ⟨pol'', hpol'', hl2', hconfig', hbucket'⟩ := h'.policy pol' hpol'
  exact ⟨pol'', hpol'', hl2'.trans hl2, hconfig'.trans hconfig, hbucket'.trans hbucket⟩

/-- A call on another key leaves what a key holds. -/
theorem sameOnKey_step (policy : Str) (hne : c.key ≠ key) : SameOnKey policy key s (s.step c) := by
  rcases s.step_cases c with hsame | ⟨rlRef, used, href, hused, hlimiter, hkeys⟩
  · rw [hsame]
    exact SameOnKey.refl policy key s
  refine ⟨?_, ?_⟩
  · rcases hkeys with hkeys | hkeys
    · rw [hkeys]
    · rw [hkeys, RateKeys.invoke_lookup_ne hne.symm]
  · intro pol hpol
    rw [hlimiter]
    by_cases hpolicy : policy = rlRef.policy
    · subst hpolicy
      obtain rfl : used = pol := Option.some.inj (hused.symm.trans hpol)
      refine ⟨_, AList.lookup_insert _, rfl, rfl, ?_⟩
      exact L1LocalLimiter.check_lookup_ne _ _ hne.symm
    · refine ⟨pol, ?_, rfl, rfl, rfl⟩
      rw [LimitState.checked, AList.lookup_insert_ne hpolicy]
      exact hpol

theorem sameOnKey_after (policy : Str) {between : List LimitCall}
    (hne : ∀ b ∈ between, b.key ≠ key) :
    SameOnKey policy key s (after LimitState.step s between) := by
  induction between generalizing s with
  | nil => exact SameOnKey.refl policy key s
  | cons b between ih =>
      have hfirst : SameOnKey policy key s (s.step b) :=
        sameOnKey_step policy (hne b List.mem_cons_self)
      exact hfirst.trans (ih fun b' hb' => hne b' (List.mem_cons_of_mem _ hb'))

end

/-! ## The bucket in the process -/

/-- The layers of a policy are those of its configuration. -/
structure Policy.Of (p : RateLimitPolicy) (pol : Policy) : Prop where
  distributed : pol.l2 = p.distributed
  config : pol.l1.config = p.localBucket
  sized : ∀ key b, pol.l1.buckets.lookup key = some b → b.Sized p.localBucket

/-- Limits of at least one, and a positive rate or window, in both layers. -/
structure RateLimitPolicy.Positive (p : RateLimitPolicy) : Prop where
  capacity : 1 ≤ p.localBucket.capacity
  refillRate : 0 < p.localBucket.refillRate
  distributed : LimitsPositive p.distributed

section
variable {p : RateLimitPolicy} {pol pol' : Policy} {b : Bucket} {cfg : TokenBucketConfig}
  {now time : ℚ} {key : Str}

theorem Policy.Of.bucket (h : pol.Of p) : (pol.l1.bucket now key).Sized p.localBucket := by
  unfold L1LocalLimiter.bucket
  cases hb : pol.l1.buckets.lookup key with
  | none =>
      rw [h.config]
      exact Bucket.sized_new
  | some b => exact h.sized key b hb

theorem Policy.Of.check (h : pol.Of p) :
    Policy.Of p { pol with l1 := (pol.l1.check now key).2 } := by
  refine ⟨h.distributed, h.config, ?_⟩
  intro other b hb
  by_cases hother : other = key
  · subst hother
    rw [L1LocalLimiter.check_lookup_self] at hb
    obtain rfl := Option.some.inj hb
    exact h.bucket.consume
  · rw [L1LocalLimiter.check_lookup_ne _ _ hother] at hb
    exact h.sized other b hb

/-- The policies of a limiter are those of a configuration. -/
def PoliciesOf (cfg : GatewayConfig) (limiter : RateLimiter) : Prop :=
  ∀ name pol, limiter.policies.lookup name = some pol →
    ∃ p, cfg.rateLimiting.policies.lookup name = some p ∧ pol.Of p

theorem policiesOf_new (cfg : GatewayConfig) : PoliciesOf cfg (.new cfg) := by
  intro name pol hpol
  rw [new_lookup, Option.map_eq_some_iff] at hpol
  obtain ⟨p, hp, rfl⟩ := hpol
  refine ⟨p, hp, rfl, rfl, ?_⟩
  intro key b hb
  cases hb

theorem PoliciesOf.step {cfg : GatewayConfig} {limiter : RateLimiter} (h : PoliciesOf cfg limiter)
    (c : CheckCall) : PoliciesOf cfg (limiter.step c) := by
  unfold RateLimiter.step RateLimiter.answer RateLimiter.check
  cases c.middlewareRef with
  | none => exact h
  | some rlRef =>
  cases hused : limiter.policies.lookup rlRef.policy with
  | none => simpa only [hused] using h
  | some used =>
  simp only [hused]
  intro name pol hpol
  by_cases hname : name = rlRef.policy
  · subst hname
    rw [AList.lookup_insert] at hpol
    obtain rfl := Option.some.inj hpol
    obtain ⟨p, hp, hof⟩ := h rlRef.policy used hused
    exact ⟨p, hp, hof.check⟩
  · rw [AList.lookup_insert_ne hname] at hpol
    exact h name pol hpol

theorem policiesOf_after (cfg : GatewayConfig) (calls : List CheckCall) :
    PoliciesOf cfg (after RateLimiter.step (.new cfg) calls) :=
  history_invariant_all (P := fun _ => PoliciesOf cfg) (policiesOf_new cfg)
    (fun _ c h => h.step c) calls

/-- A second refills a token. -/
theorem Bucket.Sized.one_le_level (h : b.Sized cfg) (hcapacity : 1 ≤ cfg.capacity)
    (hrate : 0 < cfg.refillRate) (hlast : b.lastRefill + 1 ≤ now) : 1 ≤ b.level now := by
  have hcap : (1 : ℚ) ≤ b.capacity := by
    rw [h.capacity]
    exact Nat.one_le_cast.mpr hcapacity
  have hrate' : (1 : ℚ) ≤ b.refillRate := by
    rw [h.refillRate]
    exact Nat.one_le_cast.mpr hrate
  have helapsed : 1 ≤ max 0 (now - b.lastRefill) :=
    le_max_of_le_right (le_sub_iff_add_le'.mpr hlast)
  have hgain : 1 ≤ max 0 (now - b.lastRefill) * b.refillRate :=
    one_le_mul_of_one_le_of_one_le helapsed hrate'
  exact le_min (hgain.trans (le_add_of_nonneg_left h.nonneg)) hcap

theorem check_iff_level {l : L1LocalLimiter} :
    (l.check now key).1 = true ↔ 1 ≤ l.level now key := by
  show ((l.bucket now key).consume now).1 = true ↔ _
  rw [Bucket.consume_eq, decide_eq_true_eq]
  rfl

/-- The bucket of a policy that denied gives a token a second later. -/
theorem Policy.Of.check_again (h : pol.Of p) (hpositive : p.Positive)
    (hbucket : pol'.l1.buckets.lookup key = (pol.l1.check now key).2.buckets.lookup key)
    (hle : now + 1 ≤ time) : (pol'.l1.check time key).1 = true := by
  have hmet : pol'.l1.bucket time key = ((pol.l1.bucket now key).consume now).2 := by
    rw [L1LocalLimiter.bucket, hbucket, L1LocalLimiter.check_lookup_self, Option.getD_some]
  rw [check_iff_level, L1LocalLimiter.level, hmet]
  apply h.bucket.consume.one_le_level hpositive.capacity hpositive.refillRate
  rw [Bucket.consume_lastRefill]
  exact hle

end

/-! ## The whole limiter -/

/-- Where the script denies the request of a call, the seconds of the header are enough. -/
def LimitState.HeaderSuffices (s : LimitState) (c : LimitCall) : Prop :=
  ∀ pol k, s.policyOf c = some pol → 1 ≤ pol.l1.level c.env.now c.key → c.env.up = true →
    s.keys.live c.env.redisNow c.key = some k → SecondsSuffice c.env.unixNow pol.l2 k.value

/-- The same call as soon as the seconds have passed, with Redis up. -/
def LimitCall.retry (c : LimitCall) (seconds : ℕ) : LimitCall :=
  { c with env := { c.env with
      now := c.env.now + seconds
      unixNow := c.env.unixNow + seconds
      redisNow := c.env.redisNow + seconds
      up := true } }

theorem LimitCall.retriedBy_retry (c : LimitCall) (seconds : ℕ) :
    c.RetriedBy (c.retry seconds) seconds :=
  ⟨rfl, rfl, le_refl _, le_refl _, le_refl _⟩

section
variable {s s' : LimitState} {c c' : LimitCall} {p : RateLimitPolicy} {pol : Policy}
  {rlRef : RateLimitMiddlewareRef} {seconds : ℕ}

theorem policyOf_eq (href : c.middlewareRef = some rlRef) :
    s.policyOf c = s.limiter.policies.lookup rlRef.policy := by
  rw [LimitState.policyOf, href]
  rfl

/-- What the policy of a call holds for its key after the call, and calls on other keys. -/
theorem policyOf_after (href : c.middlewareRef = some rlRef)
    (hlimiter : s'.limiter = s.checked c rlRef.policy pol) {between : List LimitCall}
    (hother : ∀ b ∈ between, b.key ≠ c.key) :
    ∃ pol', (after LimitState.step s' between).policyOf c = some pol' ∧ pol'.l2 = pol.l2 ∧
      pol'.l1.config = pol.l1.config ∧
      pol'.l1.buckets.lookup c.key = (pol.l1.check c.env.now c.key).2.buckets.lookup c.key := by
  rw [policyOf_eq href]
  refine (sameOnKey_after rlRef.policy hother).policy
    { pol with l1 := (pol.l1.check c.env.now c.key).2 } ?_
  rw [hlimiter]
  exact AList.lookup_insert _

theorem retryAllowed_of_not_denied (h : ∀ o, (s.answer c).1 = .ok o → o.deniedBy = none) :
    RetryAllowed s c := by
  intro o layer seconds between c' ho hlayer
  rw [h o ho] at hlayer
  cases hlayer

/-- A denial by the bucket says one second, and a second is enough. -/
theorem retryAllowed_local (hof : pol.Of p) (hpositive : p.Positive)
    (href : c.middlewareRef = some rlRef)
    (hpol : s.limiter.policies.lookup rlRef.policy = some pol)
    (hl1 : (pol.l1.check c.env.now c.key).1 = false) : RetryAllowed s c := by
  have hanswer := LimitState.answer_deniedLocal href hpol hl1
  intro o layer seconds between c' ho hlayer hheader hother hretry
  rw [hanswer] at ho
  cases ho
  cases hlayer
  obtain ⟨-, rfl⟩ := mem_toHeaders_retryAfter.mp hheader
  have hlimiter : (s.step c).limiter = s.checked c rlRef.policy pol := by
    rw [LimitState.step, hanswer]
  obtain ⟨pol', hpol', -, -, hbucket⟩ := policyOf_after href hlimiter hother
  have hle : c.env.now + 1 ≤ c'.env.now := by
    have hnow := hretry.now
    norm_num at hnow
    exact hnow
  have hsame : (after LimitState.step (s.step c) between).policyOf c' = some pol' := by
    rw [policyOf_eq (hretry.middlewareRef.trans href), ← policyOf_eq href]
    exact hpol'
  rw [LimitState.layerAllows, hsame, hretry.key]
  exact hof.check_again hpositive hbucket hle

/-- A denial by the script is one to wait for as long as it is told, exactly if the seconds are
enough. -/
theorem retryAllowed_distributed (hlimits : LimitsPositive pol.l2)
    (href : c.middlewareRef = some rlRef)
    (hpol : s.limiter.policies.lookup rlRef.policy = some pol)
    (hl1 : (pol.l1.check c.env.now c.key).1 = true)
    (hl2 : s.keys.allows c.env pol.l2 c.key = false) {k : RateKey} {delay : ℚ} {left : RateValue}
    (hdenial : Denial c.env pol.l2 c.key k.value delay left
      (s.keys.invoke c.env pol.l2 c.key)) :
    RetryAllowed s c ↔ SecondsSuffice c.env.unixNow pol.l2 k.value := by
  have hanswer := LimitState.answer_deniedDistributed href hpol hl1 hl2
  have hlimiter : (s.step c).limiter = s.checked c rlRef.policy pol := by
    rw [LimitState.step, hanswer]
  have hkeys : (s.step c).keys = (s.keys.invoke c.env pol.l2 c.key).2 := by
    rw [LimitState.step, hanswer]
  rw [← hdenial.seconds_iff]
  constructor
  · intro hallowed
    -- the retry that comes as soon as it may
    have hretry := hallowed _ .l2Distributed (⌈delay * 1000⌉.toNat / 1000) [] _
      (congrArg Prod.fst hanswer) rfl
      (mem_toHeaders_retryAfter.mpr ⟨rfl, congrArg (· / 1000) hdenial.retryAfterMs.symm⟩)
      nofun (c.retriedBy_retry _)
    have hnone : ∀ b ∈ ([] : List LimitCall), b.key ≠ c.key := nofun
    obtain ⟨pol', hpol', hl2', -⟩ := policyOf_after href hlimiter hnone
    have hsame : (s.step c).policyOf (c.retry (⌈delay * 1000⌉.toNat / 1000)) = some pol' := hpol'
    rw [after_nil, LimitState.layerAllows, hsame, hkeys, Option.any_some, hl2'] at hretry
    exact hdenial.enough_of_allowed hlimits rfl rfl (by simp [LimitCall.retry]) hretry
  · intro henough o layer seconds between c' ho hlayer hheader hother hretry
    rw [hanswer] at ho
    cases ho
    cases hlayer
    obtain ⟨-, rfl⟩ := mem_toHeaders_retryAfter.mp hheader
    obtain ⟨pol', hpol', hl2', -⟩ := policyOf_after href hlimiter hother
    have hsame : (after LimitState.step (s.step c) between).policyOf c' = some pol' := by
      rw [policyOf_eq (hretry.middlewareRef.trans href), ← policyOf_eq href]
      exact hpol'
    have hstored := (sameOnKey_after (s := s.step c) rlRef.policy hother).stored
    rw [hkeys] at hstored
    have hunix := hretry.unixNow
    have hredis := hretry.redisNow
    dsimp only at hunix hredis
    rw [hdenial.retryAfterMs] at hunix hredis
    rw [LimitState.layerAllows, hsame, hretry.key, Option.any_some, hl2']
    exact hdenial.retry_allowed hlimits henough hstored hunix hredis

/-- Past the bucket it is up to the script. -/
theorem retryAllowed_script (hlimits : LimitsPositive pol.l2)
    (href : c.middlewareRef = some rlRef)
    (hpol : s.limiter.policies.lookup rlRef.policy = some pol)
    (hl1 : (pol.l1.check c.env.now c.key).1 = true) :
    RetryAllowed s c ↔ ∀ k, c.env.up = true → s.keys.live c.env.redisNow c.key = some k →
      SecondsSuffice c.env.unixNow pol.l2 k.value := by
  cases hl2 : s.keys.allows c.env pol.l2 c.key with
  | true =>
      refine iff_of_true ?_ ?_
      · obtain ⟨remaining, hanswer⟩ := LimitState.answer_allowed href hpol hl1 hl2
        apply retryAllowed_of_not_denied
        intro o ho
        rw [hanswer] at ho
        cases ho
        rfl
      · intro k hup hlive delay hdenied
        exact absurd ((RateKeys.allows_iff hlimits).mp hl2 k hup hlive) hdenied.no_room
  | false =>
      have hdenied : ∃ k, c.env.up = true ∧ s.keys.live c.env.redisNow c.key = some k ∧
          ¬ RoomAfter c.env.unixNow 0 pol.l2 k.value := by
        have hnot : ¬ s.keys.allows c.env pol.l2 c.key = true := Bool.eq_false_iff.mp hl2
        rw [RateKeys.allows_iff hlimits] at hnot
        push Not at hnot
        exact hnot
      obtain ⟨k, hup, hlive, hno⟩ := hdenied
      obtain ⟨delay, left, hdenial⟩ := RateKeys.exists_denial hlimits hup hlive hno
      rw [retryAllowed_distributed hlimits href hpol hl1 hl2 hdenial]
      constructor
      · intro h k' _ hlive'
        obtain rfl := Option.some.inj (hlive.symm.trans hlive')
        exact h
      · intro h
        exact h k hup hlive

end

/-- **The header keeps its word in part.** After a denial, a client that waits for the seconds
it was told, while nobody else uses its key, is let through by the layer that denied it exactly
if those seconds are enough for the script. -/
theorem retryAllowed_iff (cfg : GatewayConfig) (calls : List CheckCall) (keys : RateKeys)
    (c : LimitCall)
    (hpositive : ∀ rlRef p, c.middlewareRef = some rlRef →
      cfg.rateLimiting.policies.lookup rlRef.policy = some p → p.Positive) :
    RetryAllowed ⟨after RateLimiter.step (.new cfg) calls, keys⟩ c ↔
      LimitState.HeaderSuffices ⟨after RateLimiter.step (.new cfg) calls, keys⟩ c := by
  generalize hs : (⟨after RateLimiter.step (.new cfg) calls, keys⟩ : LimitState) = s
  cases hpolicy : s.policyOf c with
  | none =>
      refine iff_of_true (retryAllowed_of_not_denied (LimitState.answer_unchecked hpolicy).2) ?_
      intro pol k hpol
      rw [hpolicy] at hpol
      cases hpol
  | some pol =>
  obtain ⟨rlRef, href, hpol⟩ := Option.bind_eq_some_iff.mp hpolicy
  obtain ⟨p, hp, hof⟩ : ∃ p, cfg.rateLimiting.policies.lookup rlRef.policy = some p ∧
      pol.Of p := by
    subst hs
    exact policiesOf_after cfg calls rlRef.policy pol hpol
  have hpositive' : p.Positive := hpositive rlRef p href hp
  cases hl1 : (pol.l1.check c.env.now c.key).1 with
  | false =>
      refine iff_of_true (retryAllowed_local hof hpositive' href hpol hl1) ?_
      intro pol' k hpol' hlevel
      obtain rfl := Option.some.inj (hpolicy.symm.trans hpol')
      rw [check_iff_level.mpr hlevel] at hl1
      cases hl1
  | true =>
  rw [retryAllowed_script (hof.distributed ▸ hpositive'.distributed) href hpol hl1]
  constructor
  · intro h pol' k hpol' _ hup hlive
    obtain rfl := Option.some.inj (hpolicy.symm.trans hpol')
    exact h k hup hlive
  · intro h k hup hlive
    exact h pol k hpolicy (check_iff_level.mp hl1) hup hlive

/-- One policy over a bucket that is never empty here. -/
def limitedBy (distributed : DistributedRateLimitConfig) : GatewayConfig :=
  { GatewayConfig.withRoutes [] with
    rateLimiting := ⟨AList.singleton "limit".toList ⟨⟨10, 10⟩, distributed⟩⟩ }

def limitedCall (now : ℚ) : LimitCall where
  env := ⟨now, now, "req".toList, true, ⌊now⌋, fun _ => [], []⟩
  middlewareRef := some ⟨"limit".toList⟩
  routeId := "api".toList
  authCtx := none
  headers := .empty

/-- A token is a second away, and the header says so. -/
theorem retryAllowed_whole_second :
    RetryAllowed ⟨.new (limitedBy (.tokenBucket 1 1)),
      ⟨AList.singleton "stateform:rl:api:anonymous".toList ⟨.bucket ⟨0, 0⟩, some 11⟩⟩⟩
      (limitedCall 0) := by
  refine (retryAllowed_iff (limitedBy (.tokenBucket 1 1)) [] _ (limitedCall 0) ?_).mpr ?_
  · rintro rlRef p href hp
    cases href
    cases hp
    exact ⟨by decide, by decide, by decide, by decide⟩
  · intro pol k hpol _ _ hlive
    cases hpol
    cases hlive
    rintro delay ⟨-, rfl⟩
    have hempty : refilled 1 1 0 (some ⟨0, 0⟩) = 0 := by decide +kernel
    refine ⟨1, ?_, .inl ?_⟩
    · show ((1 : ℕ) : ℚ) < (1 - refilled 1 1 0 (some ⟨0, 0⟩)) / (1 : ℕ) + 1 / 1000
      rw [hempty]
      norm_num
    · show 1 ≤ refilled 1 1 0 (some ⟨0, 0⟩) + (1 : ℕ) * (1 : ℕ)
      rw [hempty]
      norm_num

/-- One request in ten seconds: half a second after it the next is told to wait for nine, and
denied again when it has. -/
theorem told_to_wait_too_little :
    (⟨⟨10, 10⟩, .slidingWindow 1 10⟩ : RateLimitPolicy).Positive ∧
      ¬ RetryAllowed (LimitState.step ⟨.new (limitedBy (.slidingWindow 1 10)), ⟨∅⟩⟩
        (limitedCall 0)) (limitedCall (1 / 2)) := by
  refine ⟨⟨by decide, by decide, by decide, by decide⟩, ?_⟩
  intro hallowed
  have hretry := hallowed ⟨false, 0, 10, 9500, some .l2Distributed⟩ .l2Distributed 9 []
    ((limitedCall (1 / 2)).retry 9) (by decide +kernel) rfl (by decide) nofun
    (LimitCall.retriedBy_retry _ 9)
  revert hretry
  decide +kernel

end Stateform
