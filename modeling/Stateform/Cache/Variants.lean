import Stateform.Library.Run
import Stateform.Cache.ResponseCache

/-!
# Whose response a hit returns

Runs of `store`, `lookup` and `invalidate` calls. A hit is faithful when its
entry was stored earlier in the run, for the same method, route, path and query
and for request headers that agree on every header the entry varies on. Keys
are flat texts, so this can fail; `hits_faithful_iff` says for which calls it
does not: those of which no key reads as another's (`NoConfusion`).
-/

namespace Stateform

open Library

/-! ## Runs -/

inductive CacheCall : Type where
  | store (env : CacheEnv) (x : CacheExchange)
  | lookup (env : CacheEnv) (rq : CacheRequest)
  | invalidate (env : CacheEnv) (routeId method path : Str) (query : Option Str)

namespace ResponseCache

def step (cache : ResponseCache) : CacheCall → ResponseCache
  | .store env x => cache.store env x
  | .lookup env rq => (cache.lookup env rq).2
  | .invalidate env routeId method path query => cache.invalidate env routeId method path query

/-- The cache after a run from the start of the process. -/
abbrev afterCalls (capacity : ℕ) (calls : List CacheCall) : ResponseCache :=
  after step (.new capacity) calls

end ResponseCache

/-- The calls of a run store only exchanges of `X` and look up only requests
of `L`. -/
def CacheCall.Within (X : Set CacheExchange) (L : Set CacheRequest) : CacheCall → Prop
  | .store _ x => x ∈ X
  | .lookup _ rq => rq ∈ L
  | .invalidate .. => True

/-! ## Where the entries of a cache come from -/

/-- The run stored this, under this key. -/
def StoredAs (calls : List CacheCall) (k : Str) (w : Written) : Prop :=
  ∃ env x, .store env x ∈ calls ∧ x.written env.now = some w ∧ w.key.text = k

/-- Every entry is under the key it was stored with, and those in L2 have a
lifetime and are not private. -/
structure Provenance (calls : List CacheCall) (cache : ResponseCache) : Prop where
  l1 : ∀ k e, cache.l1.store.lookup k = some e → ∃ w, StoredAs calls k w ∧ w.entry = e
  l2 : ∀ k v, cache.l2.store.lookup k = some v →
    ∃ w, StoredAs calls k w ∧ w.entry = v.1 ∧ w.isPrivate = false ∧ 0 < w.entry.ttlSecs

theorem StoredAs.snoc {calls : List CacheCall} {k : Str} {w : Written} (h : StoredAs calls k w)
    (c : CacheCall) : StoredAs (calls ++ [c]) k w := by
  obtain ⟨env, x, hmem, hw⟩ := h
  exact ⟨env, x, List.mem_append_left _ hmem, hw⟩

theorem Provenance.snoc {calls : List CacheCall} {cache : ResponseCache}
    (h : Provenance calls cache) (c : CacheCall) : Provenance (calls ++ [c]) cache where
  l1 := by
    intro k e hk
    rcases h.l1 k e hk with ⟨w, hw, hentry⟩
    exact ⟨w, hw.snoc c, hentry⟩
  l2 := by
    intro k v hk
    rcases h.l2 k v hk with ⟨w, hw, hentry⟩
    exact ⟨w, hw.snoc c, hentry⟩

theorem provenance_new (capacity : ℕ) : Provenance [] (.new capacity) where
  l1 := by simp [ResponseCache.new, L1Cache.new]
  l2 := by simp [ResponseCache.new, L2Cache.empty]

section
variable {calls : List CacheCall} {cache : ResponseCache}

theorem Provenance.store (h : Provenance calls cache) (env : CacheEnv) (x : CacheExchange) :
    Provenance (calls ++ [.store env x]) (cache.store env x) := by
  cases hw : x.written env.now with
  | none =>
      rw [ResponseCache.store_of_not_written _ hw]
      exact h.snoc _
  | some w =>
      have hstored : StoredAs (calls ++ [.store env x]) w.key.text w :=
        ⟨env, x, by simp, hw, rfl⟩
      rw [ResponseCache.store_of_written _ hw]
      constructor
      · intro k e hk
        rcases L1Cache.putThrough_lookup hk with ⟨rfl, rfl⟩ | hold
        · exact ⟨w, hstored, rfl⟩
        · exact (h.snoc _).l1 k e hold
      · intro k v hk
        cases hpriv : w.isPrivate with
        | true =>
            simp only [hpriv, Bool.not_true, Bool.false_eq_true, ↓reduceIte] at hk
            exact (h.snoc _).l2 k v hk
        | false =>
            simp only [hpriv, Bool.not_false, ↓reduceIte] at hk
            rcases L2Cache.put_lookup hk with ⟨rfl, hv, httl⟩ | hold
            · exact ⟨w, hstored, hv.symm, hpriv, by omega⟩
            · exact (h.snoc _).l2 k v hold

theorem Provenance.invalidate (h : Provenance calls cache) (env : CacheEnv)
    (routeId method path : Str) (query : Option Str) :
    Provenance (calls ++ [.invalidate env routeId method path query])
      (cache.invalidate env routeId method path query) where
  l1 := by
    intro k e hk
    exact (h.snoc _).l1 k e (L1Cache.invalidate_lookup hk)
  l2 := by
    intro k v hk
    exact (h.snoc _).l2 k v (L2Cache.invalidate_lookup hk)

end

/-! ## Confusion of keys -/

/-- The same method, route, path and query; an empty query is no query. -/
structure SameResource (a b : CacheRequest) : Prop where
  method : toAsciiUppercase a.method = toAsciiUppercase b.method
  route : a.routeId = b.routeId
  path : a.path = b.path
  query : a.query.filter (· ≠ []) = b.query.filter (· ≠ [])

/-- The requests carry the same values of every header of the list. -/
def SameVariant (names : List Str) (a b : CacheRequest) : Prop :=
  ∀ name ∈ names, a.headers.getAll name = b.headers.getAll name

theorem pathQuery_filter (path : Str) (query : Option Str) :
    pathQuery path (query.filter (· ≠ [])) = pathQuery path query := by
  cases query with
  | none => rfl
  | some q => by_cases hq : q = [] <;> simp [pathQuery, Option.filter_some, hq]

theorem SameResource.baseKey_eq {a b : CacheRequest} (h : SameResource a b) :
    a.baseKey = b.baseKey := by
  have hpq : pathQuery a.path a.query = pathQuery b.path b.query :=
    calc pathQuery a.path a.query
        = pathQuery a.path (a.query.filter (· ≠ [])) := (pathQuery_filter _ _).symm
      _ = pathQuery b.path (b.query.filter (· ≠ [])) := congrArg₂ pathQuery h.path h.query
      _ = pathQuery b.path b.query := pathQuery_filter _ _
  unfold CacheRequest.baseKey CacheKey.new
  rw [h.method, h.route, hpq]

/-- An exchange writes this at some time, with a lifetime. -/
def Writes (x : CacheExchange) (w : Written) : Prop :=
  (∃ now, x.written now = some w) ∧ 0 < w.entry.ttlSecs

/-- No key reads as another's. An entry that can be served from under the base
key of a looked-up request is of that resource; and where a private entry with
Vary names lies there, the key it leads to is only used for that variant. -/
structure NoConfusion (X : Set CacheExchange) (L : Set CacheRequest) : Prop where
  base : ∀ x ∈ X, ∀ rq ∈ L, ∀ w, rq.bypasses = false → Writes x w → w.key = rq.baseKey →
    (w.isPrivate = false ∨ w.entry.varyHeaders = []) → SameResource x.toCacheRequest rq
  variant : ∀ x ∈ X, ∀ x' ∈ X, ∀ rq ∈ L, ∀ w w', rq.bypasses = false → Writes x w →
    w.key = rq.baseKey → w.isPrivate = true → w.entry.varyHeaders ≠ [] → Writes x' w' →
    w'.key = rq.baseKey.withVary w.entry.varyHeaders rq.headers →
    SameResource x'.toCacheRequest rq ∧ SameVariant w'.entry.varyHeaders x'.toCacheRequest rq

/-- Every hit of a run returns what was stored for its resource and variant. -/
def HitFaithful (calls : List CacheCall) (rq : CacheRequest) (e : CachedResponse) : Prop :=
  ∃ env x w, .store env x ∈ calls ∧ x.written env.now = some w ∧ w.entry = e ∧
    SameResource x.toCacheRequest rq ∧ SameVariant e.varyHeaders x.toCacheRequest rq

section
variable {X : Set CacheExchange} {L : Set CacheRequest}

/-- What lies under the base key of a request of its resource has no Vary
names: with them it would have a longer key. -/
theorem varyHeaders_eq_nil {x : CacheExchange} {rq : CacheRequest} {now : ℕ} {w : Written}
    (hw : x.written now = some w) (hkey : w.key = rq.baseKey)
    (hres : SameResource x.toCacheRequest rq) : w.entry.varyHeaders = [] := by
  have hself := written_key hw
  rw [hkey, ← hres.baseKey_eq] at hself
  exact CacheKey.withVary_eq_self.mp hself.symm

/-- An entry found under a base key, if it is shared or has no Vary names, is
faithful and has none. -/
theorem base_entry_faithful (hno : NoConfusion X L) {calls : List CacheCall}
    (hcalls : ∀ c ∈ calls, c.Within X L) {rq : CacheRequest} (hrq : rq ∈ L)
    (hby : rq.bypasses = false) {w : Written} (hw : StoredAs calls rq.baseKey.text w)
    (hpos : 0 < w.entry.ttlSecs) (hshared : w.isPrivate = false ∨ w.entry.varyHeaders = []) :
    w.entry.varyHeaders = [] ∧ HitFaithful calls rq w.entry := by
  obtain ⟨env, x, hmem, hwritten, hkey⟩ := hw
  have hx : x ∈ X := hcalls _ hmem
  have hkey' : w.key = rq.baseKey := CacheKey.ext hkey
  have hres := hno.base x hx rq hrq w hby ⟨⟨_, hwritten⟩, hpos⟩ hkey' hshared
  have hnil := varyHeaders_eq_nil hwritten hkey' hres
  exact ⟨hnil, env, x, w, hmem, hwritten, rfl, hres, by simp [SameVariant, hnil]⟩

/-- The step lemma of lookups: what is promoted was stored under that key, and
what is returned is faithful. -/
theorem Provenance.lookup (hno : NoConfusion X L) {calls : List CacheCall}
    (hcalls : ∀ c ∈ calls, c.Within X L) {cache : ResponseCache} (h : Provenance calls cache)
    (env : CacheEnv) {rq : CacheRequest} (hrq : rq ∈ L) :
    Provenance calls (cache.lookup env rq).2 ∧
      ∀ e, (cache.lookup env rq).1 = .hit e → HitFaithful calls rq e := by
  have hout := ResponseCache.lookup_outcome cache env rq
  generalize cache.lookup env rq = result at hout
  cases hout with
  | bypass => exact ⟨h, nofun⟩
  | miss _ hwithin => exact ⟨⟨fun k e hk => h.l1 k e (hwithin k e hk), h.l2⟩, nofun⟩
  | @l1Hit first e l1' hby hfirst hfresh hsecond hfresh' hwithin =>
      refine ⟨⟨fun k e hk => h.l1 k e (hwithin k e hk), h.l2⟩, ?_⟩
      rintro _ ⟨rfl⟩
      rcases h.l1 _ _ hfirst with ⟨w, hw, rfl⟩
      rcases h.l1 _ _ hsecond with ⟨w', hw', rfl⟩
      have hpos := ttl_pos_of_fresh hfresh
      by_cases hshared : w.isPrivate = false ∨ w.entry.varyHeaders = []
      · obtain ⟨hnil, hfaith⟩ := base_entry_faithful hno hcalls hrq hby hw hpos hshared
        rw [hnil, CacheKey.withVary_nil, hfirst] at hsecond
        exact Option.some.inj hsecond ▸ hfaith
      · -- a private entry with Vary names: the second key decides
        simp only [not_or, Bool.not_eq_false] at hshared
        obtain ⟨env₁, x, hmem, hwritten, hkey⟩ := hw
        obtain ⟨env₂, x', hmem', hwritten', hkey'⟩ := hw'
        obtain ⟨hres, hvar⟩ := hno.variant x (hcalls _ hmem) x' (hcalls _ hmem') rq hrq w w' hby
          ⟨⟨_, hwritten⟩, hpos⟩ (CacheKey.ext hkey) hshared.1 hshared.2
          ⟨⟨_, hwritten'⟩, ttl_pos_of_fresh hfresh'⟩ (CacheKey.ext hkey')
        exact ⟨env₂, x', w', hmem', hwritten', rfl, hres, hvar⟩
  | @l2Hit first e l1' hby hfirst hfinal hwithin =>
      rcases L2Cache.get_lookup hfirst with ⟨expiresAt, hlook⟩
      rcases h.l2 _ _ hlook with ⟨w, hw, rfl, hshared, hpos⟩
      obtain ⟨hnil, hfaith⟩ := base_entry_faithful hno hcalls hrq hby hw hpos (.inl hshared)
      obtain rfl : e = w.entry := by
        rcases hfinal with rfl | ⟨hne, -⟩
        · rfl
        · simp [hnil] at hne
      refine ⟨⟨?_, h.l2⟩, ?_⟩
      · intro k e hk
        rcases L1Cache.putThrough_lookup hk with ⟨rfl, rfl⟩ | hold
        · exact ⟨w, by simpa [hnil] using hw, rfl⟩
        · exact h.l1 k e (hwithin k e hold)
      · rintro _ ⟨rfl⟩
        exact hfaith

/-- Along every run within `X` and `L`, entries stay under their keys. -/
theorem provenance_after (hno : NoConfusion X L) (capacity : ℕ) :
    ∀ calls : List CacheCall, (∀ c ∈ calls, c.Within X L) →
      Provenance calls (ResponseCache.afterCalls capacity calls) := by
  apply history_invariant (provenance_new capacity)
  intro calls c hcalls hc h
  cases c with
  | store env x => exact h.store env x
  | lookup env rq => exact (Provenance.lookup hno hcalls h env hc).1.snoc _
  | invalidate env routeId method path query => exact h.invalidate env routeId method path query

end

/-! ## Runs whose hits are faithful -/

def HitsFaithful (capacity : ℕ) (calls : List CacheCall) : Prop :=
  ∀ pre env rq post e, calls = pre ++ .lookup env rq :: post →
    ((ResponseCache.afterCalls capacity pre).lookup env rq).1 = .hit e → HitFaithful pre rq e

theorem hitsFaithful_of_noConfusion {X : Set CacheExchange} {L : Set CacheRequest}
    (hno : NoConfusion X L) (capacity : ℕ) {calls : List CacheCall}
    (hcalls : ∀ c ∈ calls, c.Within X L) : HitsFaithful capacity calls := by
  rintro pre env rq post e rfl hhit
  have hpre : ∀ c ∈ pre, c.Within X L := by
    intro c hc
    exact hcalls c (List.mem_append_left _ hc)
  have hrq : rq ∈ L := hcalls (.lookup env rq) (by simp)
  exact (Provenance.lookup hno hpre (provenance_after hno capacity pre hpre) env hrq).2 e hhit

section
variable {x x' : CacheExchange} {rq : CacheRequest} {w w' : Written}

theorem written_zero_fresh (hw : x.written 0 = some w) (hpos : 0 < w.entry.ttlSecs) :
    w.entry.isExpired CacheEnv.zero.now = false :=
  written_fresh hw hpos (by simpa [CacheEnv.zero] using hpos)

/-- A store under the base key of a request, if it is shared or has no Vary
names, is what a lookup right after it returns. -/
theorem lookup_after_colliding_store (hw : x.written 0 = some w) (hpos : 0 < w.entry.ttlSecs)
    (hby : rq.bypasses = false) (hkey : w.key = rq.baseKey)
    (hshared : w.isPrivate = false ∨ w.entry.varyHeaders = []) :
    ((ResponseCache.afterCalls 1 [.store .zero x]).lookup .zero rq).1 = .hit w.entry := by
  have hcache : ResponseCache.afterCalls 1 [.store .zero x] =
      (ResponseCache.new 1).store .zero x := rfl
  rw [hcache, ResponseCache.store_of_written .zero hw]
  have hlook : ((ResponseCache.new 1).l1.putThrough CacheEnv.zero.pick w.key w.entry).store.lookup
      rq.baseKey.text = some w.entry := by
    rw [← hkey]
    exact L1Cache.putThrough_lookup_self
  have hfresh := written_zero_fresh hw hpos
  by_cases hnil : w.entry.varyHeaders = []
  · exact ResponseCache.lookup_base_hit hby hlook hfresh hnil
  -- the entry leads to a longer key, under which neither layer has anything
  have hpriv : w.isPrivate = false := hshared.resolve_right hnil
  have hne : rq.baseKey.withVary w.entry.varyHeaders rq.headers ≠ rq.baseKey := by
    intro h
    exact hnil (CacheKey.withVary_eq_self.mp h)
  generalize hfull : rq.baseKey.withVary w.entry.varyHeaders rq.headers = full at hne
  have hne' : full.text ≠ w.key.text := by
    intro h
    exact hne ((CacheKey.ext h).trans hkey)
  simp only [hpriv, Bool.not_false, ↓reduceIte]
  refine ResponseCache.lookup_base_fallback hby hlook hfresh ?_ ?_ ?_
  · rw [hfull, Option.eq_none_iff_forall_ne_some]
    intro e he
    rcases L1Cache.putThrough_lookup he with ⟨heq, -⟩ | hold
    · exact hne' heq
    · simp [ResponseCache.new, L1Cache.new] at hold
  · rw [← hkey]
    exact L2Cache.put_get_self rfl rfl (by simpa [CacheEnv.zero] using hpos) hpos
  · rw [hfull, Option.eq_none_iff_forall_ne_some]
    intro e he
    rcases L2Cache.get_lookup he with ⟨expiresAt, hold⟩
    rcases L2Cache.put_lookup hold with ⟨heq, -⟩ | hold
    · exact hne' heq
    · simp [ResponseCache.new, L2Cache.empty] at hold

/-- With room for two entries, the key a private entry leads to decides. -/
theorem lookup_after_two_stores (hw : x.written 0 = some w) (hpos : 0 < w.entry.ttlSecs)
    (hby : rq.bypasses = false) (hkey : w.key = rq.baseKey) (hvary : w.entry.varyHeaders ≠ [])
    (hw' : x'.written 0 = some w') (hpos' : 0 < w'.entry.ttlSecs)
    (hkey' : w'.key = rq.baseKey.withVary w.entry.varyHeaders rq.headers) :
    ((ResponseCache.afterCalls 2 [.store .zero x, .store .zero x']).lookup .zero rq).1 =
      .hit w'.entry := by
  have hne : w'.key.text ≠ w.key.text := by
    intro h
    have hsame := CacheKey.ext h
    rw [hkey', hkey] at hsame
    exact hvary (CacheKey.withVary_eq_self.mp hsame)
  have hcache : ResponseCache.afterCalls 2 [.store .zero x, .store .zero x'] =
      ((ResponseCache.new 2).store .zero x).store .zero x' := rfl
  rw [hcache, ResponseCache.store_of_written .zero hw',
    ResponseCache.store_of_written .zero hw]
  have hput : (ResponseCache.new 2).l1.putThrough CacheEnv.zero.pick w.key w.entry =
      ⟨AList.insert w.key.text w.entry ∅, 2⟩ :=
    L1Cache.putThrough_of_room (by simp [ResponseCache.new, L1Cache.new])
  have hput' : (L1Cache.mk (AList.insert w.key.text w.entry ∅) 2).putThrough CacheEnv.zero.pick
      w'.key w'.entry =
        ⟨AList.insert w'.key.text w'.entry (AList.insert w.key.text w.entry ∅), 2⟩ :=
    L1Cache.putThrough_of_room (by simp)
  have hbase : (AList.insert w'.key.text w'.entry (AList.insert w.key.text w.entry ∅) :
      StrMap CachedResponse).lookup rq.baseKey.text = some w.entry := by
    rw [← hkey, AList.lookup_insert_ne hne.symm, AList.lookup_insert]
  have hfull : (AList.insert w'.key.text w'.entry (AList.insert w.key.text w.entry ∅) :
      StrMap CachedResponse).lookup
        (rq.baseKey.withVary w.entry.varyHeaders rq.headers).text = some w'.entry := by
    rw [← hkey', AList.lookup_insert]
  simp only [hput, hput', ResponseCache.lookup, hby, Bool.false_eq_true, ↓reduceIte]
  rw [L1Cache.get_fresh hbase (written_zero_fresh hw hpos)]
  simp only
  rw [L1Cache.get_fresh hfull (written_zero_fresh hw' hpos')]

end

/-- **Hits are faithful in every run, for every capacity, exactly when no key
reads as another's.** -/
theorem hits_faithful_iff (X : Set CacheExchange) (L : Set CacheRequest) :
    (∀ capacity calls, (∀ c ∈ calls, CacheCall.Within X L c) → HitsFaithful capacity calls) ↔
      NoConfusion X L := by
  constructor
  swap
  · intro hno capacity calls hcalls
    exact hitsFaithful_of_noConfusion hno capacity hcalls
  intro h
  -- a confusion shows in a run of one or two stores and the lookup
  constructor
  · rintro x hx rq hrq w hby ⟨⟨now, hw⟩, hpos⟩ hkey hshared
    have hhit := lookup_after_colliding_store (written_at hw 0) hpos hby hkey hshared
    have hrun := h 1 [.store .zero x, .lookup .zero rq] (by simp [CacheCall.Within, hx, hrq])
    rcases hrun [.store .zero x] .zero rq [] _ rfl hhit with ⟨env, x', w', hmem, -, -, hres, -⟩
    obtain ⟨-, rfl⟩ : env = .zero ∧ x' = x := by simpa using hmem
    exact hres
  · rintro x hx x' hx' rq hrq w w' hby ⟨⟨now, hw⟩, hpos⟩ hkey hpriv hvary ⟨⟨now', hw'⟩, hpos'⟩
      hkey'
    have hhit := lookup_after_two_stores (written_at hw 0) hpos hby hkey hvary
      (written_at hw' 0) hpos' hkey'
    have hrun := h 2 [.store .zero x, .store .zero x', .lookup .zero rq]
      (by simp [CacheCall.Within, hx, hx', hrq])
    obtain ⟨env, y, v, hmem, -, -, hres, hvar⟩ :=
      hrun [.store .zero x, .store .zero x'] .zero rq [] _ rfl hhit
    have hy : y = x ∨ y = x' := by
      simp only [List.mem_cons, CacheCall.store.injEq, List.not_mem_nil, or_false] at hmem
      tauto
    rcases hy with rfl | rfl
    · exact absurd (varyHeaders_eq_nil hw hkey hres) hvary
    · exact ⟨hres, hvar⟩

/-- A cached `GET` on a route, without query. -/
def getRequest (routeId path : Str) (headers : HeaderMap) : CacheRequest where
  middleware := some ⟨60, false⟩
  routeId := routeId
  method := "GET".toList
  path := path
  query := none
  headers := headers

def acceptHeader (value : Str) : HeaderMap :=
  ⟨[(⟨"accept".toList, by decide, by decide⟩, value.map fun c => c.toNat.toUInt8)]⟩

def varyHeader (value : Str) : HeaderMap :=
  ⟨[(varyName, value.map fun c => c.toNat.toUInt8)]⟩

/-- `GET /users` with `Accept: text`, answered with `Vary: Accept`. -/
def usersExchange : CacheExchange where
  toCacheRequest := getRequest "api".toList "/users".toList (acceptHeader "text".toList)
  status := 200
  responseHeaders := varyHeader "Accept".toList
  body := [117]

/-- The path that spells out the key of `usersExchange`. -/
def spelledRequest : CacheRequest := getRequest "api".toList "/users:accept=text".toList .empty

/-- A request for another path is answered with the response of `/users`. -/
theorem spelled_key_hit :
    ((ResponseCache.afterCalls 1000 [.store .zero usersExchange]).lookup .zero
        spelledRequest).1 = .hit ⟨200, [("vary".toList, "Accept".toList)], [117], 60, 0,
          ["accept".toList]⟩ ∧
      ¬ HitsFaithful 1000 [.store .zero usersExchange, .lookup .zero spelledRequest] := by
  have hhit : ((ResponseCache.afterCalls 1000 [.store .zero usersExchange]).lookup .zero
      spelledRequest).1 = .hit ⟨200, [("vary".toList, "Accept".toList)], [117], 60, 0,
        ["accept".toList]⟩ := by decide
  refine ⟨hhit, ?_⟩
  intro h
  rcases h [.store .zero usersExchange] .zero _ [] _ rfl hhit with ⟨env, x, w, hmem, -, -, hres, -⟩
  obtain ⟨-, rfl⟩ : env = .zero ∧ x = usersExchange := by simpa using hmem
  have hpath : "/users".toList = "/users:accept=text".toList := hres.path
  exact absurd hpath (by decide)

end Stateform
