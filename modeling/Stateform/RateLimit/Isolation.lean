import Stateform.RateLimit.RetryAfter

/-!
# Clients do not spend each other's limits

Gateway instances that share one Redis, each with buckets of its own. Whatever is asked for on
other keys, on whichever instance, a key is answered as if nobody else were there
(`keys_isolated`).
-/

namespace Stateform

open Library

/-! ## A fleet of limiters -/

/-- Gateway instances over one Redis. -/
structure LimitFleet (Gateway : Type) : Type where
  limiters : Gateway → RateLimiter
  keys : RateKeys

/-- A call of `check` on one of the instances. -/
structure FleetCall (Gateway : Type) : Type where
  gateway : Gateway
  call : LimitCall

namespace LimitFleet

variable {Gateway : Type} [DecidableEq Gateway]

/-- What an instance sees. -/
def view (f : LimitFleet Gateway) (g : Gateway) : LimitState := ⟨f.limiters g, f.keys⟩

def answer (f : LimitFleet Gateway) (c : FleetCall Gateway) :
    Except RateLimitError RateLimitOutcome × LimitFleet Gateway :=
  let (answer, s) := (f.view c.gateway).answer c.call
  (answer, ⟨Function.update f.limiters c.gateway s.limiter, s.keys⟩)

abbrev step (f : LimitFleet Gateway) (c : FleetCall Gateway) : LimitFleet Gateway := (f.answer c).2

end LimitFleet

/-! ## What a key is answered from -/

/-- What a policy holds for a key, and what it is configured to. -/
def RateLimiter.onKey (limiter : RateLimiter) (policy key : Str) :
    Option (DistributedRateLimitConfig × TokenBucketConfig × Option Bucket) :=
  (limiter.policies.lookup policy).map fun pol =>
    (pol.l2, pol.l1.config, pol.l1.buckets.lookup key)

/-- Two limiters, and Redis behind them, hold the same for a key. -/
structure LimitState.AgreeOn (key : Str) (s t : LimitState) : Prop where
  keys : s.keys.keys.lookup key = t.keys.keys.lookup key
  policies : ∀ policy, s.limiter.onKey policy key = t.limiter.onKey policy key

section
variable {s t : LimitState} {c : LimitCall} {pol pol' : Policy} {rlRef : RateLimitMiddlewareRef}
  {key policy : Str}

/-- A script reads its own key and nothing else. -/
theorem RateKeys.invoke_congr {keys keys' : RateKeys} (env : LimitEnv)
    (config : DistributedRateLimitConfig) (h : keys.keys.lookup key = keys'.keys.lookup key) :
    (keys.invoke env config key).1 = (keys'.invoke env config key).1 ∧
      (keys.invoke env config key).2.keys.lookup key =
        (keys'.invoke env config key).2.keys.lookup key := by
  have hlive : keys.live env.redisNow key = keys'.live env.redisNow key := by
    rw [live, live, h]
  have hbucket : ∀ capacity refillRate data expiresAt,
      (keys.invokeTokenBucket env capacity refillRate key data expiresAt).1 =
          (keys'.invokeTokenBucket env capacity refillRate key data expiresAt).1 ∧
        (keys.invokeTokenBucket env capacity refillRate key data expiresAt).2.keys.lookup key =
          (keys'.invokeTokenBucket env capacity refillRate key data expiresAt).2.keys.lookup
            key := by
    intro capacity refillRate data expiresAt
    exact ⟨rfl, set_lookup_self.trans set_lookup_self.symm⟩
  have hwindow : ∀ maxRequests window members,
      (keys.invokeSlidingWindow env maxRequests window key members).1 =
          (keys'.invokeSlidingWindow env maxRequests window key members).1 ∧
        (keys.invokeSlidingWindow env maxRequests window key members).2.keys.lookup key =
          (keys'.invokeSlidingWindow env maxRequests window key members).2.keys.lookup key := by
    intro maxRequests window members
    refine ⟨rfl, ?_⟩
    dsimp only [invokeSlidingWindow]
    have herased : ∀ keys : RateKeys, (keys.keys.erase key).lookup key = none :=
      fun keys => AList.lookup_erase key keys.keys
    split
    · exact (herased keys).trans (herased keys').symm
    · exact set_lookup_self.trans set_lookup_self.symm
  unfold invoke
  rw [hlive]
  split
  · exact ⟨rfl, h⟩
  split
  · exact hbucket _ _ _ _
  · exact hbucket _ _ _ _
  · exact hwindow _ _ _
  · exact hwindow _ _ _
  · exact ⟨rfl, h⟩

theorem RateLimiter.onKey_eq_some {limiter : RateLimiter}
    (h : limiter.policies.lookup policy = some pol) :
    limiter.onKey policy key = some (pol.l2, pol.l1.config, pol.l1.buckets.lookup key) := by
  rw [onKey, h]
  rfl

theorem LimitState.checked_onKey_self : (s.checked c policy pol).onKey policy key =
    some (pol.l2, pol.l1.config, (pol.l1.check c.env.now c.key).2.buckets.lookup key) :=
  RateLimiter.onKey_eq_some (AList.lookup_insert s.limiter.policies)

theorem LimitState.checked_onKey_ne {other : Str} (hne : other ≠ policy) :
    (s.checked c policy pol).onKey other key = s.limiter.onKey other key := by
  rw [RateLimiter.onKey, RateLimiter.onKey, checked, AList.lookup_insert_ne hne]

/-- The answer of a call that a policy checks, from its two layers. -/
theorem LimitState.answer_outcome (href : c.middlewareRef = some rlRef)
    (hpol : s.limiter.policies.lookup rlRef.policy = some pol) :
    (s.answer c).1 = .ok (RateLimiter.outcome
      ⟨c.env.now, (s.keys.invoke c.env pol.l2 c.key).1⟩ (pol.l1.check c.env.now c.key).1
      (pol.l1.check c.env.now c.key).2 c.key) := by
  have hcheck := s.limiter.checkKeys_check s.keys c.env c.middlewareRef c.routeId c.authCtx
    c.headers
  have hanswer := congrArg Prod.fst hcheck
  have hreply : s.limiter.replyOf s.keys c.env (some rlRef) c.routeId c.authCtx c.headers =
      (s.keys.invoke c.env pol.l2 c.key).1 := by
    simp [RateLimiter.replyOf, hpol, LimitCall.key]
  rw [href, hreply] at hanswer
  show (s.limiter.checkKeys s.keys c.env c.middlewareRef c.routeId c.authCtx c.headers).1 = _
  rw [href, ← hanswer]
  simp [RateLimiter.check, hpol, LimitCall.key]

/-- What a call that a policy checks leaves: the script runs if the bucket gave a token. -/
theorem LimitState.step_checked (href : c.middlewareRef = some rlRef)
    (hpol : s.limiter.policies.lookup rlRef.policy = some pol) :
    s.step c = ⟨s.checked c rlRef.policy pol,
      if (pol.l1.check c.env.now c.key).1 then (s.keys.invoke c.env pol.l2 c.key).2
      else s.keys⟩ := by
  cases hl1 : (pol.l1.check c.env.now c.key).1 with
  | false => rw [step, answer_deniedLocal href hpol hl1, if_neg Bool.false_ne_true]
  | true =>
  rw [if_pos rfl]
  cases hl2 : s.keys.allows c.env pol.l2 c.key with
  | false => rw [step, answer_deniedDistributed href hpol hl1 hl2]
  | true =>
      obtain ⟨remaining, hanswer⟩ := answer_allowed href hpol hl1 hl2
      rw [step, hanswer]

/-- A bucket and what remains of it come from the configuration and what is stored. -/
theorem L1LocalLimiter.check_congr {l l' : L1LocalLimiter} (now : ℚ)
    (hconfig : l.config = l'.config)
    (hbucket : l.buckets.lookup key = l'.buckets.lookup key) :
    (l.check now key).1 = (l'.check now key).1 ∧
      (l.check now key).2.buckets.lookup key = (l'.check now key).2.buckets.lookup key ∧
      (l.check now key).2.remaining now key = (l'.check now key).2.remaining now key := by
  have hsame : l.bucket now key = l'.bucket now key := by
    rw [bucket, bucket, hconfig, hbucket]
  have hstored : (l.check now key).2.buckets.lookup key =
      (l'.check now key).2.buckets.lookup key := by
    rw [check_lookup_self, check_lookup_self, hsame]
  refine ⟨?_, hstored, ?_⟩
  · show ((l.bucket now key).consume now).1 = ((l'.bucket now key).consume now).1
    rw [hsame]
  · rw [remaining, remaining, hstored, check_config, check_config, hconfig]

namespace LimitState.AgreeOn

theorem refl (key : Str) (s : LimitState) : s.AgreeOn key s := ⟨rfl, fun _ => rfl⟩

/-- **What agrees answers alike**, and agrees after. -/
theorem answer (h : s.AgreeOn c.key t) :
    (s.answer c).1 = (t.answer c).1 ∧ (s.step c).AgreeOn c.key (t.step c) := by
  cases href : c.middlewareRef with
  | none =>
      have hs : s.policyOf c = none := by rw [policyOf, href]; rfl
      have ht : t.policyOf c = none := by rw [policyOf, href]; rfl
      rw [(answer_unchecked hs).1, (answer_unchecked ht).1]
      refine ⟨?_, h⟩
      simp [LimitState.answer, RateLimiter.checkKeys, href]
  | some rlRef =>
  have hpolicy := h.policies rlRef.policy
  cases hs : s.limiter.policies.lookup rlRef.policy with
  | none =>
      have ht : t.limiter.policies.lookup rlRef.policy = none := by
        rw [RateLimiter.onKey, hs] at hpolicy
        exact Option.map_eq_none_iff.mp hpolicy.symm
      have hs' : s.policyOf c = none := by rw [policyOf, href]; exact hs
      have ht' : t.policyOf c = none := by rw [policyOf, href]; exact ht
      rw [(answer_unchecked hs').1, (answer_unchecked ht').1]
      refine ⟨?_, h⟩
      simp [LimitState.answer, RateLimiter.checkKeys, href, hs, ht]
  | some pol =>
  obtain ⟨pol', ht, hsame⟩ : ∃ pol', t.limiter.policies.lookup rlRef.policy = some pol' ∧
      (pol'.l2, pol'.l1.config, pol'.l1.buckets.lookup c.key) =
        (pol.l2, pol.l1.config, pol.l1.buckets.lookup c.key) := by
    rw [RateLimiter.onKey_eq_some hs] at hpolicy
    exact Option.map_eq_some_iff.mp hpolicy.symm
  simp only [Prod.mk.injEq] at hsame
  obtain ⟨hl2, hconfig, hbucket⟩ := hsame
  obtain ⟨hallowed, hstored, hremaining⟩ :=
    L1LocalLimiter.check_congr c.env.now hconfig.symm hbucket.symm
  obtain ⟨hreply, hleft⟩ := RateKeys.invoke_congr c.env pol.l2 h.keys
  refine ⟨?_, ?_⟩
  · rw [answer_outcome href hs, answer_outcome href ht, hl2, ← hreply, ← hallowed]
    simp only [RateLimiter.outcome, L1LocalLimiter.check_config, hremaining, hconfig]
  · rw [step_checked href hs, step_checked href ht, hl2, ← hallowed]
    refine ⟨?_, ?_⟩
    · dsimp only
      split
      · exact hleft
      · exact h.keys
    · intro policy
      by_cases hsame : policy = rlRef.policy
      · subst hsame
        rw [checked_onKey_self, checked_onKey_self, hl2, hconfig, hstored]
      · rw [checked_onKey_ne hsame, checked_onKey_ne hsame]
        exact h.policies policy

/-- A call on another key does not matter. -/
theorem skip (h : s.AgreeOn key t) (hne : c.key ≠ key) : (s.step c).AgreeOn key t := by
  refine ⟨?_, ?_⟩
  · rw [(sameOnKey_step [] hne).stored]
    exact h.keys
  · intro policy
    rw [← h.policies policy]
    cases hpol : s.limiter.policies.lookup policy with
    | some pol =>
        obtain ⟨pol', hpol', hl2, hconfig, hbucket⟩ := (sameOnKey_step policy hne).policy pol hpol
        rw [RateLimiter.onKey_eq_some hpol', RateLimiter.onKey_eq_some hpol, hl2, hconfig, hbucket]
    | none =>
        rcases s.step_cases c with hsame | ⟨rlRef, used, _, hused, hlimiter, _⟩
        · rw [hsame]
        · have hother : policy ≠ rlRef.policy := by
            rintro rfl
            cases hpol.symm.trans hused
          rw [hlimiter, checked_onKey_ne hother]

end LimitState.AgreeOn

end

/-! ## Runs of a fleet -/

namespace LimitFleet

variable {Gateway : Type} [DecidableEq Gateway] {f f' : LimitFleet Gateway}
  {c : FleetCall Gateway} {key : Str}

/-- All instances hold the same for a key. -/
def AgreeOn (key : Str) (f f' : LimitFleet Gateway) : Prop :=
  ∀ g, (f.view g).AgreeOn key (f'.view g)

/-- The instances that were not asked see what the script left. -/
theorem view_step (f : LimitFleet Gateway) (c : FleetCall Gateway) (g : Gateway) :
    (f.step c).view g = if g = c.gateway then (f.view c.gateway).step c.call
      else ⟨f.limiters g, ((f.view c.gateway).step c.call).keys⟩ := by
  have hview : (f.step c).view g = ⟨Function.update f.limiters c.gateway
      ((f.view c.gateway).step c.call).limiter g, ((f.view c.gateway).step c.call).keys⟩ := rfl
  rw [hview]
  by_cases hg : g = c.gateway
  · subst hg
    rw [Function.update_self, if_pos rfl]
  · rw [Function.update_of_ne hg, if_neg hg]

theorem AgreeOn.answer (h : f.AgreeOn c.call.key f') :
    (f.answer c).1 = (f'.answer c).1 ∧ (f.step c).AgreeOn c.call.key (f'.step c) := by
  obtain ⟨hanswer, hnext⟩ := (h c.gateway).answer
  refine ⟨hanswer, ?_⟩
  intro g
  rw [view_step, view_step]
  split
  · exact hnext
  · exact ⟨hnext.keys, (h g).policies⟩

theorem AgreeOn.skip (h : f.AgreeOn key f') (hne : c.call.key ≠ key) :
    (f.step c).AgreeOn key f' := by
  have hnext := (h c.gateway).skip hne
  intro g
  rw [view_step]
  split
  · next hg => exact hg ▸ hnext
  · exact ⟨hnext.keys, (h g).policies⟩

/-- **Keys are isolated.** In any run of a fleet, the calls on a key are answered as they
would be in a run of these calls alone: no number of calls on other keys, through any
instance, takes anything from the key or gives it anything. -/
theorem keys_isolated {Gateway : Type} [DecidableEq Gateway] (f : LimitFleet Gateway)
    (calls : List (FleetCall Gateway)) (key : Str) :
    (transcript answer f calls).filter (fun e => e.1.call.key = key) =
      transcript answer f (calls.filter fun c => c.call.key = key) := by
  have hself : AgreeOn key f f := fun g => .refl key (f.view g)
  refine (@transcript_filter _ _ _ answer (fun c => c.call.key = key) (fun _ => True)
    (fun _ f f' => AgreeOn key f f') ?_ ?_ calls f f hself fun _ _ _ => trivial).symm
  · intro c calls f f' hagree hkey
    obtain rfl := of_decide_eq_true hkey
    exact hagree.answer
  · intro c calls f f' hagree hkey _
    exact hagree.skip (of_decide_eq_false hkey)

end LimitFleet

end Stateform
