import Stateform.Auth.KeyCache
import Stateform.Library.Spacing

/-!
# Requests to the JWKS endpoint

`get_key` looks at the cache again once it holds the write lock, so that of the calls that
found the keys expired only the first one fetches. A fetch that succeeds is the last one for
`jwks_cache_ttl`, however many calls there are; one that fails leaves the next call to try
again (`fetches_in_span`).
-/

namespace Stateform

open Library

/-- Time goes on while a call holds the write lock. -/
def KeyEvent.Forward : KeyEvent → Prop
  | .refresh _ env => env.lockedAt ≤ env.fetchedAt
  | _ => True

def Fetch.succeeded (f : Fetch) : Bool := f.outcome.isOk

/-- The fetch ended in this span of time. -/
def Fetch.endedIn (start width : ℕ) (f : Fetch) : Bool :=
  start ≤ f.storedAt && f.storedAt ≤ start + width

def KeyCall.isAnswered : KeyCall → Bool
  | .answered _ _ => true
  | _ => false

/-- The time a key set is used for, in nanoseconds. -/
def JwtConfig.freshFor (cfg : JwtConfig) : ℕ := cfg.jwksCacheTtl * 10 ^ 9

/-- Every fetch after one that succeeded came when its keys had expired. -/
structure FetchesSpaced (cfg : JwtConfig) (s : KeyCalls) : Prop where
  spaced : s.fetches.Pairwise fun f g =>
    f.succeeded = true → f.storedAt + cfg.freshFor < g.storedAt
  stored : ∀ f ∈ s.fetches, f.succeeded = true →
    ∃ set, s.cache = some set ∧ f.storedAt ≤ set.fetchedAt
  ttl : ∀ set, s.cache = some set → set.ttl = cfg.jwksCacheTtl
  answered : s.fetches.length ≤ s.calls.countP KeyCall.isAnswered

namespace FetchesSpaced

section
variable {cfg : JwtConfig} {s s' : KeyCalls} {event : KeyEvent}

theorem initial : FetchesSpaced cfg .init where
  spaced := .nil
  stored := by
    intro f hf
    cases hf
  ttl := by
    intro set hset
    cases hset
  answered := Nat.zero_le _

/-- A call fetches at most once, when it is answered. -/
theorem fetch_answered (h : s.step cfg event = some s') :
    s'.fetches.length + s.calls.countP KeyCall.isAnswered ≤
      s.fetches.length + s'.calls.countP KeyCall.isAnswered := by
  unfold KeyCalls.step at h
  cases event with
  | ask kid =>
      cases h
      simp [KeyCall.isAnswered]
  | check k now =>
      simp only at h
      split at h
      · next kid hcall =>
          split at h
          · next answer _ =>
              cases h
              have hcount : (s.calls.set k (.answered kid answer)).countP KeyCall.isAnswered =
                  s.calls.countP KeyCall.isAnswered + 1 := countP_replaced_one hcall rfl rfl
              simp only [hcount]
              omega
          · cases h
            have hcount : (s.calls.set k (.waiting kid)).countP KeyCall.isAnswered =
                s.calls.countP KeyCall.isAnswered := countP_replaced_same hcall rfl
            simp only [hcount]
            omega
      · cases h
  | refresh k env =>
      simp only at h
      split at h
      · next kid hcall =>
          cases h
          have hcount : (s.calls.set k (.answered kid (refreshKey cfg env s.cache kid).1)).countP
              KeyCall.isAnswered = s.calls.countP KeyCall.isAnswered + 1 :=
            countP_replaced_one hcall rfl rfl
          simp only [hcount, List.length_append]
          split
          · rw [List.length_nil]
            omega
          · rw [List.length_singleton]
            omega
      · cases h
  | drop k =>
      have hdropped : ∀ call, s.calls[k]? = some call → call.isAnswered = false →
          (s.calls.set k .dropped).countP KeyCall.isAnswered =
            s.calls.countP KeyCall.isAnswered := by
        intro call hcall hunanswered
        exact countP_replaced_same hcall hunanswered.symm
      simp only at h
      split at h
      · next kid hcall =>
          cases h
          exact Nat.le_of_eq (congrArg _ (hdropped _ hcall rfl).symm)
      · next kid hcall =>
          cases h
          exact Nat.le_of_eq (congrArg _ (hdropped _ hcall rfl).symm)
      · cases h

/-- After a fetch the cache holds what it got, or the set it held before. -/
theorem refreshKey_cache {env : KeyEnv} {kid : Option Str}
    (hnone : cachedKey s.cache env.lockedAt kid = none) :
    (∃ keys, (refreshKey cfg env s.cache kid).2 =
      some ⟨keys, env.fetchedAt, cfg.jwksCacheTtl⟩) ∨
    (∃ e, env.fetched = .error e) ∧ (refreshKey cfg env s.cache kid).2 = s.cache := by
  rw [refreshKey, hnone]
  cases hfetched : env.fetched with
  | ok keys => exact .inl ⟨keys, rfl⟩
  | error e =>
      refine .inr ⟨⟨e, rfl⟩, ?_⟩
      cases s.cache <;> rfl

theorem step (h : FetchesSpaced cfg s) (hforward : event.Forward)
    (hstep : s.step cfg event = some s') : FetchesSpaced cfg s' := by
  have hanswered : s'.fetches.length ≤ s'.calls.countP KeyCall.isAnswered := by
    have hmore := fetch_answered hstep
    have hbefore := h.answered
    omega
  rcases step_cache hstep with ⟨hcache, hfetches⟩ | ⟨k, env, kid, rfl, hnone, hcache, hfetches⟩
  · refine ⟨?_, ?_, ?_, hanswered⟩
    · rw [hfetches]
      exact h.spaced
    · rw [hfetches, hcache]
      exact h.stored
    · rw [hcache]
      exact h.ttl
  -- the set of every fetch that succeeded had expired
  have hlater : ∀ f ∈ s.fetches, f.succeeded = true →
      f.storedAt + cfg.freshFor < env.fetchedAt := by
    intro f hf hok
    obtain ⟨set, hset, hle⟩ := h.stored f hf hok
    have hexpired := cachedKey_eq_none.mp hnone set hset
    rw [KeyCache.isExpired, decide_eq_true_eq, h.ttl set hset] at hexpired
    have hforward : env.lockedAt ≤ env.fetchedAt := hforward
    rw [JwtConfig.freshFor]
    omega
  have hspaced : s'.fetches.Pairwise fun f g =>
      f.succeeded = true → f.storedAt + cfg.freshFor < g.storedAt := by
    rw [hfetches, List.pairwise_append]
    refine ⟨h.spaced, List.pairwise_singleton _ _, ?_⟩
    intro f hf g hg hok
    rw [List.mem_singleton] at hg
    subst hg
    exact hlater f hf hok
  have hkept : (∃ keys, s'.cache = some ⟨keys, env.fetchedAt, cfg.jwksCacheTtl⟩) ∨
      (∃ e, env.fetched = .error e) ∧ s'.cache = s.cache := by
    rw [hcache]
    exact refreshKey_cache hnone
  refine ⟨hspaced, ?_, ?_, hanswered⟩
  · intro f hf hok
    rw [hfetches] at hf
    rcases hkept with ⟨keys, hset⟩ | ⟨⟨e, he⟩, hset⟩
    · refine ⟨_, hset, ?_⟩
      rcases List.mem_append.mp hf with hf | hf
      · exact Nat.le_of_lt (Nat.lt_of_le_of_lt (Nat.le_add_right _ _) (hlater f hf hok))
      · rw [List.mem_singleton] at hf
        rw [hf]
    · rw [hset]
      rcases List.mem_append.mp hf with hf | hf
      · exact h.stored f hf hok
      · rw [List.mem_singleton] at hf
        rw [hf, Fetch.succeeded, he] at hok
        cases hok
  · intro set hsome
    rcases hkept with ⟨keys, hset⟩ | ⟨-, hset⟩
    · cases hset.symm.trans hsome
      rfl
    · exact h.ttl set (hset.symm.trans hsome)

theorem run {events : List KeyEvent} (hforward : ∀ event ∈ events, event.Forward)
    (hrun : follow (KeyCalls.step cfg) .init events = some s) : FetchesSpaced cfg s := by
  have hall := follow_invariant
    (P := fun as t => (∀ event ∈ as, event.Forward) → FetchesSpaced cfg t)
    (fun _ => initial) ?_ events s hrun
  · exact hall hforward
  · intro as event t t' _ ht hstep hevents
    refine (ht fun e he => hevents e (List.mem_append_left _ he)).step ?_ hstep
    exact hevents event (List.mem_append_right _ (List.mem_singleton.mpr rfl))

end

end FetchesSpaced

/-- **No thundering herd.** However many calls run at once and however they interleave, the
fetches that end in a span of time are one for each `jwks_cache_ttl` of it and one more, and
those that failed; and no call makes more than one. -/
theorem fetches_in_span {cfg : JwtConfig} {events : List KeyEvent} {s : KeyCalls}
    (hrun : follow (KeyCalls.step cfg) .init events = some s)
    (hforward : ∀ event ∈ events, event.Forward) (start width : ℕ) :
    (s.fetches.filter (Fetch.endedIn start width)).length ≤
        width / (cfg.freshFor + 1) + 1 +
          ((s.fetches.filter (Fetch.endedIn start width)).filter fun f => !f.succeeded).length ∧
      s.fetches.length ≤ s.calls.countP KeyCall.isAnswered := by
  have h := FetchesSpaced.run hforward hrun
  refine ⟨?_, h.answered⟩
  -- the times at which the successful ones ended
  have hspaced : (((s.fetches.filter (Fetch.endedIn start width)).filter Fetch.succeeded).map
      Fetch.storedAt).Pairwise fun a b => a + cfg.freshFor < b := by
    rw [List.pairwise_map]
    refine ((h.spaced.filter _).filter _).imp_of_mem ?_
    intro f g hf _ hgap
    exact hgap (List.mem_filter.mp hf).2
  have hspan : ∀ u ∈ ((s.fetches.filter (Fetch.endedIn start width)).filter
      Fetch.succeeded).map Fetch.storedAt, start ≤ u ∧ u ≤ start + width := by
    intro u hu
    obtain ⟨f, hf, rfl⟩ := List.mem_map.mp hu
    have hended := (List.mem_filter.mp (List.mem_filter.mp hf).1).2
    simpa [Fetch.endedIn] using hended
  have hfew := length_spaced_le hspaced hspan
  rw [List.length_map] at hfew
  rw [List.length_eq_length_filter_add Fetch.succeeded]
  exact Nat.add_le_add_right hfew _

/-- Two calls find nothing and wait for the write lock; the first of them fetches. -/
def herdCalls : List KeyEvent :=
  [.ask (some "main".toList), .ask (some "main".toList), .check 0 0, .check 1 0,
    .refresh 0 mainKeyEnv, .refresh 1 { mainKeyEnv with lockedAt := 1, fetchedAt := 1 }]

theorem fetches_in_span_herd :
    ∃ s, follow (KeyCalls.step (GatewayConfig.withRoutes []).auth.jwt) .init herdCalls = some s ∧
      (s.fetches.filter (Fetch.endedIn 0 (300 * 10 ^ 9))).length ≤
        300 * 10 ^ 9 / ((GatewayConfig.withRoutes []).auth.jwt.freshFor + 1) + 1 +
          ((s.fetches.filter (Fetch.endedIn 0 (300 * 10 ^ 9))).filter
            fun f => !f.succeeded).length ∧
      s.fetches.length ≤ s.calls.countP KeyCall.isAnswered := by
  obtain ⟨s, hrun⟩ : ∃ s, follow (KeyCalls.step (GatewayConfig.withRoutes []).auth.jwt) .init
      herdCalls = some s := ⟨_, rfl⟩
  refine ⟨s, hrun, fetches_in_span hrun ?_ 0 (300 * 10 ^ 9)⟩
  intro event hevent
  simp only [herdCalls, List.mem_cons, List.not_mem_nil, or_false] at hevent
  rcases hevent with rfl | rfl | rfl | rfl | rfl | rfl
  · trivial
  · trivial
  · trivial
  · trivial
  · exact Nat.le_refl 0
  · exact Nat.le_refl 1

end Stateform
