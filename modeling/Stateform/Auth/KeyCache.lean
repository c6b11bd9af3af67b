import Stateform.Auth.Jwt
import Stateform.Library.Numbered
import Stateform.Library.Run

/-!
# The key cache over time

`get_key` as concurrent calls run it: a check under the read lock, and for a call that finds
nothing the write-locked half, with its fetch. The calls should answer from the key set that
was fetched last (`followsLatest_iff`); the call that fetches looks its key up in its own way.
-/

namespace Stateform

open Library

/-! ## Calls -/

/-- A fetch that was made: its outcome, and the time a key set of it was stored at. -/
structure Fetch : Type where
  outcome : Except Str (List Jwk)
  storedAt : ℕ

/-- How far a call has come. -/
inductive KeyCall : Type where
  | asked (kid : Option Str)
  | waiting (kid : Option Str)
  | answered (kid : Option Str) (answer : Except AuthError Jwk)
  | dropped

/-- The cache with its calls, and the fetches that were made for them. -/
structure KeyCalls : Type where
  cache : Option KeyCache
  calls : List KeyCall
  fetches : List Fetch

/-- What can happen: a call begins, takes the read lock, takes the write lock and holds it
until it answers, or is dropped with its request. -/
inductive KeyEvent : Type where
  | ask (kid : Option Str)
  | check (k now : ℕ)
  | refresh (k : ℕ) (env : KeyEnv)
  | drop (k : ℕ)

namespace KeyCalls

def init : KeyCalls := ⟨none, [], []⟩

def step (cfg : JwtConfig) (s : KeyCalls) : KeyEvent → Option KeyCalls
  | .ask kid => some { s with calls := s.calls ++ [.asked kid] }
  | .check k now =>
      match s.calls[k]? with
      | some (.asked kid) =>
          match cachedKey s.cache now kid with
          | some answer => some { s with calls := s.calls.set k (.answered kid answer) }
          | none => some { s with calls := s.calls.set k (.waiting kid) }
      | _ => none
  | .refresh k env =>
      match s.calls[k]? with
      | some (.waiting kid) =>
          let (answer, cache) := refreshKey cfg env s.cache kid
          some {
            cache := cache
            calls := s.calls.set k (.answered kid answer)
            fetches := s.fetches ++
              if (cachedKey s.cache env.lockedAt kid).isSome then []
              else [⟨env.fetched, env.fetchedAt⟩] }
      | _ => none
  | .drop k =>
      match s.calls[k]? with
      | some (.asked _) => some { s with calls := s.calls.set k .dropped }
      | some (.waiting _) => some { s with calls := s.calls.set k .dropped }
      | _ => none

end KeyCalls

/-! ## The set fetched last -/

/-- The key set of a fetch, if it succeeded. -/
def Fetch.keySet (cfg : JwtConfig) (f : Fetch) : Option KeyCache :=
  match f.outcome with
  | .ok keys => some ⟨keys, f.storedAt, cfg.jwksCacheTtl⟩
  | .error _ => none

/-- The key set that was fetched last. -/
def latest (cfg : JwtConfig) (fetches : List Fetch) : Option KeyCache :=
  lastOf (Fetch.keySet cfg) fetches

/-- A call answers from the set fetched last, after a fetch of its own where that had
expired at the time it looked. -/
structure AnswersByLatest (cfg : JwtConfig) (before after : List Fetch) (now : ℕ)
    (kid : Option Str) (answer : Except AuthError Jwk) : Prop where
  refetched : ((∃ set, latest cfg before = some set ∧ set.isExpired now = false) ∧
      after = before) ∨
    (∀ set, latest cfg before = some set → set.isExpired now = true) ∧
      ∃ f, after = before ++ [f]
  found : ∀ set, latest cfg after = some set → answer = keyOrUnknown kid (set.findKey kid)
  failed : (∃ e, answer = .error (.jwksFetch e)) ↔ latest cfg after = none

/-- The call an event may answer, and the time it looks at. -/
def KeyEvent.looks : KeyEvent → Option (ℕ × ℕ)
  | .check k now => some (k, now)
  | .refresh k env => some (k, env.lockedAt)
  | _ => none

/-- Whatever an event answers is the answer of the set fetched last. -/
def LooksRight (cfg : JwtConfig) (s : KeyCalls) (event : KeyEvent) : Prop :=
  ∀ s' k now kid answer, s.step cfg event = some s' → event.looks = some (k, now) →
    s'.calls[k]? = some (.answered kid answer) →
      AnswersByLatest cfg s.fetches s'.fetches now kid answer

/-- Every call of a run is answered so. -/
def FollowsLatest (cfg : JwtConfig) (events : List KeyEvent) : Prop :=
  ∀ before event rest s, events = before ++ event :: rest →
    follow (KeyCalls.step cfg) .init before = some s → LooksRight cfg s event

/-- A set that is fetched for a call without a key id does not begin with a key that has
one. -/
def NamelessFirst (s : KeyCalls) : KeyEvent → Prop
  | .refresh k env => s.calls[k]? = some (.waiting none) →
      (∀ set, s.cache = some set → set.isExpired env.lockedAt = true) →
        ∀ keys first, env.fetched = .ok keys → keys.head? = some first → first.keyId = none
  | _ => True

section
variable {cfg : JwtConfig} {cache : Option KeyCache} {now : ℕ} {kid : Option Str}
  {answer : Except AuthError Jwk} {s s' : KeyCalls} {fetches : List Fetch} {f : Fetch}

/-- A fetch that fails leaves the set fetched last. -/
theorem latest_concat : latest cfg (fetches ++ [f]) = (f.keySet cfg).or (latest cfg fetches) := by
  unfold latest
  cases hset : f.keySet cfg with
  | none => exact lastOf_snoc_none hset
  | some set => exact lastOf_snoc_some hset

theorem keyOrUnknown_inj {a b : Option Jwk} : keyOrUnknown kid a = keyOrUnknown kid b ↔ a = b := by
  unfold keyOrUnknown
  cases a with
  | none => cases b <;> simp
  | some jwk => cases b <;> simp

theorem keyOrUnknown_ne_jwksFetch (found : Option Jwk) (e : Str) :
    keyOrUnknown kid found ≠ .error (.jwksFetch e) := by
  cases found <;> simp [keyOrUnknown]

theorem cachedKey_eq_some : cachedKey cache now kid = some answer ↔
    ∃ set, cache = some set ∧ set.isExpired now = false ∧
      answer = keyOrUnknown kid (set.findKey kid) := by
  unfold cachedKey
  cases cache with
  | none => simp
  | some set =>
      cases hexpired : set.isExpired now with
      | true => simp [hexpired]
      | false => simp [hexpired, eq_comm (a := answer)]

theorem cachedKey_eq_none : cachedKey cache now kid = none ↔
    ∀ set, cache = some set → set.isExpired now = true := by
  unfold cachedKey
  cases cache with
  | none => simp
  | some set => cases hexpired : set.isExpired now <;> simp [hexpired]

/-- The lookup of the call that fetches is the cache's, unless it looks for a key without an
id and the first has one. -/
theorem find?_eq_findKey_iff {keys : List Jwk} {storedAt ttl : ℕ} :
    keys.find? (fun k => k.keyId = kid) = (⟨keys, storedAt, ttl⟩ : KeyCache).findKey kid ↔
      (kid = none → ∀ first, keys.head? = some first → first.keyId = none) := by
  cases kid with
  | some kid => simp [KeyCache.findKey]
  | none =>
      cases keys with
      | nil => simp [KeyCache.findKey]
      | cons first rest =>
          simp only [KeyCache.findKey, List.head?_cons, Option.some.injEq, forall_eq', true_implies]
          constructor
          · intro h
            simpa using List.find?_some h
          · intro h
            exact List.find?_cons_of_pos (by simpa using h)

/-- Where there is a set, a key looked up is the right answer exactly if the set finds it. -/
theorem answersByLatest_iff_of_set {before : List Fetch} {set : KeyCache} {found : Option Jwk}
    (hrefetched : ((∃ set, latest cfg before = some set ∧ set.isExpired now = false) ∧
        fetches = before) ∨
      (∀ set, latest cfg before = some set → set.isExpired now = true) ∧
        ∃ f, fetches = before ++ [f])
    (hset : latest cfg fetches = some set) :
    AnswersByLatest cfg before fetches now kid (keyOrUnknown kid found) ↔
      keyOrUnknown kid found = keyOrUnknown kid (set.findKey kid) := by
  constructor
  · intro h
    exact h.found set hset
  · intro h
    refine ⟨hrefetched, ?_, ?_, ?_⟩
    · intro set' hset'
      obtain rfl := Option.some.inj (hset.symm.trans hset')
      exact h
    · rintro ⟨e, he⟩
      exact absurd he (keyOrUnknown_ne_jwksFetch _ e)
    · intro hnone
      rw [hset] at hnone
      cases hnone

/-- The answer of a set that has not expired. -/
theorem answersByLatest_cached (h : cachedKey (latest cfg fetches) now kid = some answer) :
    AnswersByLatest cfg fetches fetches now kid answer := by
  obtain ⟨set, hset, hfresh, rfl⟩ := cachedKey_eq_some.mp h
  exact (answersByLatest_iff_of_set (.inl ⟨⟨set, hset, hfresh⟩, rfl⟩) hset).mpr rfl

/-- What a fetch leaves in the cache is the set fetched last. -/
theorem refreshKey_fetched {env : KeyEnv} (hcache : cache = latest cfg fetches)
    (hnone : cachedKey cache env.lockedAt kid = none) :
    (refreshKey cfg env cache kid).2 = latest cfg (fetches ++ [⟨env.fetched, env.fetchedAt⟩]) := by
  rw [refreshKey, hnone, latest_concat, ← hcache]
  cases hfetched : env.fetched with
  | ok keys => simp [Fetch.keySet]
  | error e => cases cache <;> simp [Fetch.keySet]

/-- The answer after a fetch is that of the set fetched last, unless the call has no key id
and a set that was fetched begins with a key that has one. -/
theorem answersByLatest_fetched_iff {env : KeyEnv} (hcache : cache = latest cfg fetches)
    (hnone : cachedKey cache env.lockedAt kid = none) :
    AnswersByLatest cfg fetches (fetches ++ [⟨env.fetched, env.fetchedAt⟩]) env.lockedAt kid
        (refreshKey cfg env cache kid).1 ↔
      (kid = none → ∀ keys first, env.fetched = .ok keys → keys.head? = some first →
        first.keyId = none) := by
  have hrefetched : ((∃ set, latest cfg fetches = some set ∧
      set.isExpired env.lockedAt = false) ∧ fetches ++ [⟨env.fetched, env.fetchedAt⟩] = fetches) ∨
    (∀ set, latest cfg fetches = some set → set.isExpired env.lockedAt = true) ∧
      ∃ f, fetches ++ [⟨env.fetched, env.fetchedAt⟩] = fetches ++ [f] := by
    rw [hcache] at hnone
    exact .inr ⟨cachedKey_eq_none.mp hnone, _, rfl⟩
  have hlatest : latest cfg (fetches ++ [⟨env.fetched, env.fetchedAt⟩]) =
      (Fetch.keySet cfg ⟨env.fetched, env.fetchedAt⟩).or cache := by rw [latest_concat, hcache]
  cases hfetched : env.fetched with
  | ok keys =>
      rw [hfetched] at hrefetched hlatest
      rw [refreshKey, hnone, hfetched]
      dsimp only
      rw [answersByLatest_iff_of_set hrefetched hlatest, keyOrUnknown_inj, find?_eq_findKey_iff]
      constructor
      · rintro h hkid _ first ⟨⟩
        exact h hkid first
      · intro h hkid first
        exact h hkid keys first rfl
  | error e =>
      -- nothing new: the answer is that of the stale set, or there is none at all
      rw [hfetched] at hrefetched hlatest
      have hanswer : AnswersByLatest cfg fetches (fetches ++ [⟨.error e, env.fetchedAt⟩])
          env.lockedAt kid (refreshKey cfg env cache kid).1 := by
        rw [refreshKey, hnone, hfetched]
        cases hstale : cache with
        | none =>
            rw [hstale] at hlatest
            refine ⟨hrefetched, ?_, fun _ => hlatest, fun _ => ⟨e, rfl⟩⟩
            intro set hset
            rw [hlatest] at hset
            cases hset
        | some stale =>
            rw [hstale] at hlatest
            exact (answersByLatest_iff_of_set hrefetched hlatest).mpr rfl
      simp only [hanswer, true_iff]
      rintro - keys first ⟨⟩

/-- What a step does to the cache and the fetches. -/
theorem step_cache {event : KeyEvent} (h : s.step cfg event = some s') :
    s'.cache = s.cache ∧ s'.fetches = s.fetches ∨
    ∃ k env kid, event = .refresh k env ∧ cachedKey s.cache env.lockedAt kid = none ∧
      s'.cache = (refreshKey cfg env s.cache kid).2 ∧
      s'.fetches = s.fetches ++ [⟨env.fetched, env.fetchedAt⟩] := by
  unfold KeyCalls.step at h
  cases event with
  | ask kid =>
      cases h
      exact .inl ⟨rfl, rfl⟩
  | check k now =>
      simp only at h
      split at h
      · split at h <;> · cases h; exact .inl ⟨rfl, rfl⟩
      · cases h
  | refresh k env =>
      simp only at h
      split at h
      · next kid hcall =>
        cases h
        cases hcached : cachedKey s.cache env.lockedAt kid with
        | none => exact .inr ⟨k, env, kid, rfl, hcached, rfl, rfl⟩
        | some answer =>
            left
            simp [refreshKey, hcached]
      · cases h
  | drop k =>
      simp only at h
      split at h
      · cases h
        exact .inl ⟨rfl, rfl⟩
      · cases h
        exact .inl ⟨rfl, rfl⟩
      · cases h

theorem step_refresh {k : ℕ} (cfg : JwtConfig) (env : KeyEnv)
    (h : s.calls[k]? = some (.waiting kid)) :
    s.step cfg (.refresh k env) = some {
      cache := (refreshKey cfg env s.cache kid).2
      calls := s.calls.set k (.answered kid (refreshKey cfg env s.cache kid).1)
      fetches := s.fetches ++ if (cachedKey s.cache env.lockedAt kid).isSome then []
        else [⟨env.fetched, env.fetchedAt⟩] } := by
  rw [KeyCalls.step, h]

/-- The cache is always the set fetched last. -/
theorem cache_latest {events : List KeyEvent}
    (h : follow (KeyCalls.step cfg) .init events = some s) : s.cache = latest cfg s.fetches := by
  have hinit : (KeyCalls.init).cache = latest cfg KeyCalls.init.fetches := rfl
  refine follow_invariant (P := fun _ s => s.cache = latest cfg s.fetches) hinit ?_ events s h
  intro as event t t' _ ht hstep
  rcases step_cache hstep with ⟨hcache, hfetches⟩ | ⟨k, env, kid, -, hnone, hcache, hfetches⟩
  · rw [hcache, hfetches, ht]
  · rw [hcache, hfetches]
    exact refreshKey_fetched ht hnone

/-- A call that finds a set under the read lock answers by it. -/
theorem looksRight_check (hcache : s.cache = latest cfg s.fetches) (k now : ℕ) :
    LooksRight cfg s (.check k now) := by
  rintro s' k' now' kid answer hstep ⟨⟩ hcall
  rw [KeyCalls.step] at hstep
  split at hstep
  · next kid' hasked =>
    cases hcached : cachedKey s.cache now kid' with
    | none =>
        rw [hcached] at hstep
        cases hstep
        rw [getElem?_replaced_self hasked] at hcall
        cases hcall
    | some found =>
        rw [hcached] at hstep
        cases hstep
        rw [getElem?_replaced_self hasked] at hcall
        cases hcall
        rw [hcache] at hcached
        exact answersByLatest_cached hcached
  · cases hstep

/-- A call under the write lock answers, by a set that is fresh or by a fetch. -/
theorem looksRight_refresh_iff {k : ℕ} {env : KeyEnv}
    (hwaiting : s.calls[k]? = some (.waiting kid)) :
    LooksRight cfg s (.refresh k env) ↔
      AnswersByLatest cfg s.fetches
        (s.fetches ++ if (cachedKey s.cache env.lockedAt kid).isSome then []
          else [⟨env.fetched, env.fetchedAt⟩])
        env.lockedAt kid (refreshKey cfg env s.cache kid).1 := by
  have hstep := step_refresh cfg env hwaiting
  have hcall := getElem?_replaced_self hwaiting (.answered kid (refreshKey cfg env s.cache kid).1)
  constructor
  · intro h
    exact h _ k env.lockedAt kid _ hstep rfl hcall
  · rintro h s' k' now kid' answer hstep' ⟨⟩ hanswered
    rw [hstep] at hstep'
    cases hstep'
    rw [hcall] at hanswered
    cases hanswered
    exact h

/-- An event answers as the set fetched last does exactly if its set begins well. -/
theorem looksRight_iff (hcache : s.cache = latest cfg s.fetches) (event : KeyEvent) :
    LooksRight cfg s event ↔ NamelessFirst s event := by
  cases event with
  | ask kid => exact ⟨fun _ => trivial, fun _ s' k now kid answer _ hlooks => nomatch hlooks⟩
  | drop k => exact ⟨fun _ => trivial, fun _ s' k now kid answer _ hlooks => nomatch hlooks⟩
  | check k now => exact iff_of_true (looksRight_check hcache k now) trivial
  | refresh k env =>
      by_cases hwaiting : ∃ kid, s.calls[k]? = some (.waiting kid)
      · obtain ⟨kid, hwaiting⟩ := hwaiting
        rw [looksRight_refresh_iff hwaiting, NamelessFirst, hwaiting]
        cases hcached : cachedKey s.cache env.lockedAt kid with
        | some answer =>
            have hanswer : (refreshKey cfg env s.cache kid).1 = answer := by
              rw [refreshKey, hcached]
            rw [hanswer, Option.isSome_some, if_pos rfl, List.append_nil]
            refine ⟨?_, fun _ => answersByLatest_cached (hcache ▸ hcached)⟩
            rintro - ⟨⟩ hexpired
            rw [cachedKey_eq_none.mpr hexpired] at hcached
            cases hcached
        | none =>
            rw [Option.isSome_none, if_neg Bool.false_ne_true,
              answersByLatest_fetched_iff hcache hcached]
            have hexpired := cachedKey_eq_none.mp hcached
            constructor
            · rintro h ⟨⟩ -
              exact h rfl
            · rintro h rfl
              exact h rfl hexpired
      · -- without a waiting call nothing is answered
        have hnot : ∀ kid, s.calls[k]? ≠ some (.waiting kid) := fun kid h => hwaiting ⟨kid, h⟩
        refine ⟨fun _ h => absurd h (hnot none), ?_⟩
        intro _ s' k' now kid answer hstep
        rw [KeyCalls.step] at hstep
        split at hstep
        · next kid' hcall => exact absurd hcall (hnot kid')
        · cases hstep

end

/-- **When calls answer from the set fetched last.** In a run every call does, exactly if no
set that is fetched for a call without a key id begins with a key that has one. -/
theorem followsLatest_iff (cfg : JwtConfig) (events : List KeyEvent) :
    FollowsLatest cfg events ↔ Meets (KeyCalls.step cfg) NamelessFirst .init events := by
  rw [meets_iff_history]
  constructor
  · intro h before event rest s hevents hs
    exact (looksRight_iff (cache_latest hs) event).mp (h before event rest s hevents hs)
  · intro h before event rest s hevents hs
    exact (looksRight_iff (cache_latest hs) event).mpr (h before event rest s hevents hs)

/-- The only key of a provider, which gives it an id. -/
def mainKey : Jwk :=
  ⟨some "main".toList, "RSA".toList, some "n".toList, some "AQAB".toList, none, none⟩

def mainKeyEnv : KeyEnv := ⟨0, 0, .ok [mainKey], 0⟩

/-- Two calls for a token without a key id: the first fetches the set. -/
def namelessCalls : List KeyEvent :=
  [.ask none, .check 0 0, .refresh 0 mainKeyEnv, .ask none, .check 1 1]

/-- The one that fetches knows no key, and the next one answers with the only key. -/
theorem nameless_calls_disagree :
    (follow (KeyCalls.step (GatewayConfig.withRoutes []).auth.jwt) .init namelessCalls).map
        KeyCalls.calls =
      some [.answered none (.error (.unknownKid "(none)".toList)),
        .answered none (.ok mainKey)] ∧
      ¬ ∀ (cfg : JwtConfig) (events : List KeyEvent), FollowsLatest cfg events := by
  have hrun : (follow (KeyCalls.step (GatewayConfig.withRoutes []).auth.jwt) .init
      namelessCalls).map KeyCalls.calls =
      some [.answered none (.error (.unknownKid "(none)".toList)),
        .answered none (.ok mainKey)] := rfl
  refine ⟨hrun, ?_⟩
  intro h
  have hanswer := h (GatewayConfig.withRoutes []).auth.jwt namelessCalls [.ask none, .check 0 0]
    (.refresh 0 mainKeyEnv) [.ask none, .check 1 1] _ rfl rfl _ 0 0 none _ rfl rfl rfl
  cases hanswer.found _ rfl

end Stateform
