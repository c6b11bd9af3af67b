import Stateform.Cache.Control
import Stateform.Cache.Layers

/-!
# The response cache

`cache.rs`: `lookup`, `store` and `invalidate` over the two layers, and what
each of them can do to a cache. `LookupOutcome` lists the ways a lookup ends;
the results about whole runs stand on it and on `written`, the entry a store
writes. The puts into L1 are those that return: one into a full cache does not
(`L1Cache.put_eq`), and what is said of every run is said of the runs without one.
-/

namespace Stateform

inductive CacheLookup : Type where
  | hit (entry : CachedResponse)
  | miss
  | bypass
deriving DecidableEq

structure ResponseCache : Type where
  l1 : L1Cache
  l2 : L2Cache

def ResponseCache.new (capacity : ℕ) : ResponseCache := ⟨.new capacity, .empty⟩

/-- What one call meets: the gateway's clock, the entry an eviction takes, and
the Redis commands of the call in their order. -/
structure CacheEnv : Type where
  now : ℕ
  pick : ℕ
  redis : ℕ → RedisCommand

/-- Second zero, with Redis reachable. -/
def CacheEnv.zero : CacheEnv := ⟨0, 0, fun _ => ⟨true, 0⟩⟩

/-- The arguments of `lookup`; `store` has them too. -/
structure CacheRequest : Type where
  middleware : Option CacheMiddlewareConfig
  routeId : Str
  method : Str
  path : Str
  query : Option Str
  headers : HeaderMap
deriving DecidableEq

/-- The arguments of `store`. -/
structure CacheExchange : Type extends CacheRequest where
  status : ℕ
  responseHeaders : HeaderMap
  body : List UInt8
deriving DecidableEq

def CacheRequest.baseKey (rq : CacheRequest) : CacheKey :=
  .new rq.method rq.routeId rq.path rq.query

/-- The conditions under which `lookup` answers `Bypass`. -/
def CacheRequest.bypasses (rq : CacheRequest) : Bool :=
  if rq.middleware.isNone then true
  else if ((CacheControl.fromHeaders rq.headers).map CacheControl.isUncacheable).getD false then true
  else !(toAsciiUppercase rq.method = "GET".toList || toAsciiUppercase rq.method = "HEAD".toList)

/-- What a store writes, and where. -/
structure Written : Type where
  key : CacheKey
  entry : CachedResponse
  isPrivate : Bool
deriving DecidableEq

/-- `store`, up to the writing. -/
def CacheExchange.written (x : CacheExchange) (now : ℕ) : Option Written :=
  match x.middleware with
  | none => none
  | some cfg =>
      if cfg.readOnly then none
      else if !(200 ≤ x.status && x.status < 300) then none
      else
        let responseCc := CacheControl.fromHeaders x.responseHeaders
        match resolveTtl responseCc cfg.ttl with
        | none => none
        | some ttl =>
            match parseVary x.responseHeaders with
            | none => none
            | some varyHeaders =>
                some {
                  key := x.baseKey.withVary varyHeaders x.headers
                  entry := .new now x.status (storableHeaders x.responseHeaders) x.body ttl
                    varyHeaders
                  isPrivate := (responseCc.map CacheControl.private_).getD false }

namespace ResponseCache

section
variable (cache : ResponseCache) (env : CacheEnv)

/-- `ResponseCache::store`: L1 always, L2 unless the response is private. -/
def store (x : CacheExchange) : ResponseCache :=
  match x.written env.now with
  | none => cache
  | some w =>
      { l1 := cache.l1.putThrough env.pick w.key w.entry
        l2 := if !w.isPrivate then cache.l2.put (env.redis 0) w.key w.entry w.entry.ttlSecs
          else cache.l2 }

/-- The L2 half of `lookup`. -/
def lookupL2 (rq : CacheRequest) : CacheLookup × ResponseCache :=
  match cache.l2.get (env.redis 0) rq.baseKey with
  | none => (.miss, cache)
  | some entry =>
      let fullKey := rq.baseKey.withVary entry.varyHeaders rq.headers
      -- without an entry under the full key, the base entry is served
      let finalEntry :=
        if fullKey ≠ rq.baseKey then (cache.l2.get (env.redis 1) fullKey).getD entry else entry
      (.hit finalEntry, { cache with l1 := cache.l1.putThrough env.pick fullKey finalEntry })

/-- `ResponseCache::lookup`. -/
def lookup (rq : CacheRequest) : CacheLookup × ResponseCache :=
  if rq.bypasses then (.bypass, cache)
  else
    match cache.l1.get env.now rq.baseKey with
    | (none, l1) => lookupL2 { cache with l1 := l1 } env rq
    | (some entry, l1) =>
        match l1.get env.now (rq.baseKey.withVary entry.varyHeaders rq.headers) with
        | (none, l1) => lookupL2 { cache with l1 := l1 } env rq
        | (some varyEntry, l1) => (.hit varyEntry, { cache with l1 := l1 })

/-- `ResponseCache::invalidate`: the base key only. -/
def invalidate (routeId method path : Str) (query : Option Str) : ResponseCache :=
  let key := CacheKey.new method routeId path query
  { l1 := cache.l1.invalidate key
    l2 := cache.l2.invalidate (env.redis 0) key }

end

end ResponseCache

/-! ## What a store writes -/

/-- The gates of `store`, and the entry behind them. -/
theorem written_eq_some {x : CacheExchange} {now : ℕ} {w : Written} :
    x.written now = some w ↔
      ∃ cfg ttl names, x.middleware = some cfg ∧ cfg.readOnly = false ∧
        200 ≤ x.status ∧ x.status < 300 ∧
        resolveTtl (CacheControl.fromHeaders x.responseHeaders) cfg.ttl = some ttl ∧
        parseVary x.responseHeaders = some names ∧
        w = ⟨x.baseKey.withVary names x.headers,
          .new now x.status (storableHeaders x.responseHeaders) x.body ttl names,
          ((CacheControl.fromHeaders x.responseHeaders).map CacheControl.private_).getD false⟩ := by
  unfold CacheExchange.written
  cases x.middleware with
  | none => simp
  | some cfg =>
      simp only [Option.some.injEq, exists_eq_left', exists_and_left]
      cases cfg.readOnly with
      | true => simp
      | false =>
          by_cases hstatus : 200 ≤ x.status ∧ x.status < 300
          · cases resolveTtl (CacheControl.fromHeaders x.responseHeaders) cfg.ttl with
            | none => simp
            | some ttl =>
                cases parseVary x.responseHeaders with
                | none => simp
                | some names => simp [hstatus.1, hstatus.2, eq_comm]
          · have hgate : (200 ≤ x.status && x.status < 300) = false := by simpa using hstatus
            simp only [hgate, Bool.not_false, ↓reduceIte, reduceCtorEq, false_iff]
            rintro ⟨-, hlo, hhi, -⟩
            exact hstatus ⟨hlo, hhi⟩

/-- The time of a store is the time in its entry, and nothing else of what it
writes depends on it. -/
theorem written_at {x : CacheExchange} {now : ℕ} {w : Written} (h : x.written now = some w)
    (now' : ℕ) : x.written now' = some { w with entry := { w.entry with storedAtSecs := now' } } := by
  rcases written_eq_some.mp h with ⟨cfg, ttl, names, hcfg, hro, hlo, hhi, httl, hvary, rfl⟩
  exact written_eq_some.mpr ⟨cfg, ttl, names, hcfg, hro, hlo, hhi, httl, hvary, rfl⟩

theorem written_key {x : CacheExchange} {now : ℕ} {w : Written} (h : x.written now = some w) :
    w.key = x.baseKey.withVary w.entry.varyHeaders x.headers := by
  rcases written_eq_some.mp h with ⟨cfg, ttl, names, -, -, -, -, -, -, rfl⟩
  rfl

theorem written_storedAt {x : CacheExchange} {now : ℕ} {w : Written}
    (h : x.written now = some w) : w.entry.storedAtSecs = now := by
  rcases written_eq_some.mp h with ⟨cfg, ttl, names, -, -, -, -, -, -, rfl⟩
  rfl

/-- An entry with a lifetime is fresh until it ends. -/
theorem written_fresh {x : CacheExchange} {now now' : ℕ} {w : Written}
    (h : x.written now = some w) (hpos : 0 < w.entry.ttlSecs)
    (hlt : now' < now + w.entry.ttlSecs) :
    w.entry.isExpired now' = false := by
  rw [CachedResponse.isExpired, decide_eq_false_iff_not, written_storedAt h]
  omega

theorem ttl_pos_of_fresh {e : CachedResponse} {now : ℕ} (h : e.isExpired now = false) :
    0 < e.ttlSecs := by
  rw [CachedResponse.isExpired, decide_eq_false_iff_not] at h
  omega

namespace ResponseCache

variable {cache : ResponseCache} {env : CacheEnv} {rq : CacheRequest} {x : CacheExchange}

variable (env) in
theorem store_of_written {w : Written} (h : x.written env.now = some w) :
    cache.store env x =
      ⟨cache.l1.putThrough env.pick w.key w.entry,
        if !w.isPrivate then cache.l2.put (env.redis 0) w.key w.entry w.entry.ttlSecs
        else cache.l2⟩ := by
  rw [store, h]

variable (env) in
theorem store_of_not_written (h : x.written env.now = none) : cache.store env x = cache := by
  rw [store, h]

/-! ## How a lookup ends -/

/-- Everything the second L1 cache binds, the first one does. -/
def L1Within (l1' l1 : L1Cache) : Prop :=
  ∀ k e, l1'.store.lookup k = some e → l1.store.lookup k = some e

theorem l1Within_get (l1 : L1Cache) (now : ℕ) (key : CacheKey) :
    L1Within (l1.get now key).2 l1 := by
  intro k e h
  exact L1Cache.get_lookup h

/-- The ways a lookup ends. A hit in L1 has read an entry under the base key
and one under the key that entry leads to; a hit in L2 promotes what it serves. -/
inductive LookupOutcome (cache : ResponseCache) (env : CacheEnv) (rq : CacheRequest) :
    CacheLookup × ResponseCache → Prop where
  | bypass : rq.bypasses = true → LookupOutcome cache env rq (.bypass, cache)
  | miss {l1' : L1Cache} : rq.bypasses = false → L1Within l1' cache.l1 →
      LookupOutcome cache env rq (.miss, { cache with l1 := l1' })
  | l1Hit {first e : CachedResponse} {l1' : L1Cache} : rq.bypasses = false →
      cache.l1.store.lookup rq.baseKey.text = some first → first.isExpired env.now = false →
      cache.l1.store.lookup (rq.baseKey.withVary first.varyHeaders rq.headers).text = some e →
      e.isExpired env.now = false → L1Within l1' cache.l1 →
      LookupOutcome cache env rq (.hit e, { cache with l1 := l1' })
  | l2Hit {first e : CachedResponse} {l1' : L1Cache} : rq.bypasses = false →
      cache.l2.get (env.redis 0) rq.baseKey = some first →
      (e = first ∨ (rq.baseKey.withVary first.varyHeaders rq.headers ≠ rq.baseKey ∧
        cache.l2.get (env.redis 1) (rq.baseKey.withVary first.varyHeaders rq.headers) = some e)) →
      L1Within l1' cache.l1 →
      LookupOutcome cache env rq (.hit e,
        { cache with l1 :=
            l1'.putThrough env.pick (rq.baseKey.withVary first.varyHeaders rq.headers) e })

theorem lookupL2_outcome (hby : rq.bypasses = false) {l1' : L1Cache}
    (hwithin : L1Within l1' cache.l1) :
    LookupOutcome cache env rq (lookupL2 { cache with l1 := l1' } env rq) := by
  unfold lookupL2
  cases hget : cache.l2.get (env.redis 0) rq.baseKey with
  | none =>
      have hmiss : LookupOutcome cache env rq (.miss, { cache with l1 := l1' }) := .miss hby hwithin
      simpa [hget] using hmiss
  | some first =>
      refine LookupOutcome.l2Hit hby hget ?_ hwithin
      by_cases hkey : rq.baseKey.withVary first.varyHeaders rq.headers ≠ rq.baseKey
      · cases hvary : cache.l2.get (env.redis 1)
            (rq.baseKey.withVary first.varyHeaders rq.headers) with
        | none => exact .inl (by simp [hkey])
        | some e => exact .inr ⟨hkey, by simp [hkey]⟩
      · exact .inl (by simp [hkey])

variable (cache env rq) in
theorem lookup_outcome : LookupOutcome cache env rq (cache.lookup env rq) := by
  unfold lookup
  by_cases hby : rq.bypasses = true
  · rw [if_pos hby]
    exact .bypass hby
  have hby' : rq.bypasses = false := by simpa using hby
  rw [if_neg hby]
  cases hfirst : cache.l1.get env.now rq.baseKey with
  | mk first l1₁ =>
  have h₁ : L1Within l1₁ cache.l1 := by
    have hget := l1Within_get cache.l1 env.now rq.baseKey
    rwa [hfirst] at hget
  cases first with
  | none => exact lookupL2_outcome hby' h₁
  | some first =>
  rcases L1Cache.get_eq_some.mp (congrArg Prod.fst hfirst) with ⟨hlook, hfresh⟩
  obtain rfl : l1₁ = cache.l1 := by
    rw [L1Cache.get_fresh hlook hfresh] at hfirst
    exact (congrArg Prod.snd hfirst).symm
  simp only
  cases hsecond : cache.l1.get env.now (rq.baseKey.withVary first.varyHeaders rq.headers) with
  | mk second l1₂ =>
  have h₂ : L1Within l1₂ cache.l1 := by
    have hget := l1Within_get cache.l1 env.now
      (rq.baseKey.withVary first.varyHeaders rq.headers)
    rwa [hsecond] at hget
  cases second with
  | none => exact lookupL2_outcome hby' h₂
  | some e =>
  rcases L1Cache.get_eq_some.mp (congrArg Prod.fst hsecond) with ⟨hlook', hfresh'⟩
  exact .l1Hit hby' hlook hfresh hlook' hfresh' h₂

/-- A fresh entry without Vary names under the base key is a hit. -/
theorem lookup_base_hit {e : CachedResponse} (hby : rq.bypasses = false)
    (hlook : cache.l1.store.lookup rq.baseKey.text = some e)
    (hfresh : e.isExpired env.now = false) (hvary : e.varyHeaders = []) :
    (cache.lookup env rq).1 = .hit e := by
  simp [lookup, hby, L1Cache.get_fresh hlook hfresh, hvary]

/-- An entry under the base key that leads to a key neither layer knows is
served from L2 as it is. -/
theorem lookup_base_fallback {first e : CachedResponse} (hby : rq.bypasses = false)
    (hlook : cache.l1.store.lookup rq.baseKey.text = some first)
    (hfresh : first.isExpired env.now = false)
    (hfull : cache.l1.store.lookup
      (rq.baseKey.withVary first.varyHeaders rq.headers).text = none)
    (hget : cache.l2.get (env.redis 0) rq.baseKey = some e)
    (hget' : cache.l2.get (env.redis 1) (rq.baseKey.withVary e.varyHeaders rq.headers) = none) :
    (cache.lookup env rq).1 = .hit e := by
  have hmiss : cache.l1.get env.now (rq.baseKey.withVary first.varyHeaders rq.headers) =
      (none, cache.l1) := by simp [L1Cache.get, hfull]
  simp [lookup, hby, L1Cache.get_fresh hlook hfresh, hmiss, lookupL2, hget, hget']

/-- Nothing under the base key in either layer is a miss. -/
theorem lookup_base_miss (hby : rq.bypasses = false)
    (hl1 : cache.l1.store.lookup rq.baseKey.text = none)
    (hl2 : cache.l2.store.lookup rq.baseKey.text = none) :
    (cache.lookup env rq).1 = .miss := by
  have hget : cache.l2.get (env.redis 0) rq.baseKey = none := by
    simp [L2Cache.get, hl2]
  simp [lookup, hby, L1Cache.get, hl1, lookupL2, hget]

end ResponseCache

end Stateform
