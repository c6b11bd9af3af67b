import Stateform.Cache.Variants

/-!
# Looking up what was just stored

A cacheable exchange is replayed when a lookup of its own request, before its
lifetime ends and while its entry is still there, returns what was stored.
`replays_iff` says which exchanges are: those whose response has a `Vary` line
that names no header.
-/

namespace Stateform

open Library

/-- The exchanges that may be cached, for `ttl` seconds. -/
structure Cacheable (x : CacheExchange) (ttl : ℕ) : Prop where
  cached : ∃ cfg, x.middleware = some cfg ∧ cfg.readOnly = false ∧
    resolveTtl (CacheControl.fromHeaders x.responseHeaders) cfg.ttl = some ttl
  request : x.bypasses = false
  success : 200 ≤ x.status ∧ x.status < 300
  ttl_pos : 0 < ttl
  not_star : ∀ vary, x.responseHeaders.getStr "vary".toList = some vary → trim vary ≠ "*".toList

/-- Whatever calls come after the store, a lookup of the same request hits what
was stored, as long as the entry is where the store put it and lives. -/
def Replays (x : CacheExchange) (ttl : ℕ) : Prop :=
  ∀ (cache : ResponseCache) (env : CacheEnv) (calls : List CacheCall) (env' : CacheEnv),
    let later := after ResponseCache.step (cache.store env x) calls
    (∀ w, x.written env.now = some w → later.l1.store.lookup w.key.text = some w.entry) →
    env.now ≤ env'.now → env'.now < env.now + ttl →
    ∃ e, (later.lookup env' x.toCacheRequest).1 = .hit e ∧ e.status = x.status ∧
      e.headers = storableHeaders x.responseHeaders ∧ e.body = x.body

section
variable {x : CacheExchange} {ttl : ℕ}

/-- What a cacheable exchange writes, once its Vary names are known. -/
theorem Cacheable.written (h : Cacheable x ttl) {names : List Str}
    (hvary : parseVary x.responseHeaders = some names) (now : ℕ) :
    ∃ w, x.written now = some w ∧ w.key = x.baseKey.withVary names x.headers ∧
      w.entry = .new now x.status (storableHeaders x.responseHeaders) x.body ttl names := by
  obtain ⟨cfg, hcfg, hro, httl⟩ := h.cached
  exact ⟨_, written_eq_some.mpr ⟨cfg, ttl, names, hcfg, hro, h.success.1, h.success.2, httl, hvary,
    rfl⟩, rfl, rfl⟩

theorem replays_of_no_names (h : Cacheable x ttl) (hvary : parseVary x.responseHeaders = some []) :
    Replays x ttl := by
  intro cache env calls env' later hkept hle hlt
  rcases h.written hvary env.now with ⟨w, hw, hkey, hentry⟩
  have httl : w.entry.ttlSecs = ttl := by rw [hentry]; rfl
  have hfresh : w.entry.isExpired env'.now = false :=
    written_fresh hw (httl ▸ h.ttl_pos) (httl ▸ hlt)
  have hlook : later.l1.store.lookup x.baseKey.text = some w.entry := by
    have hstored := hkept w hw
    rwa [hkey, CacheKey.withVary_nil] at hstored
  refine ⟨w.entry, ResponseCache.lookup_base_hit h.request hlook hfresh ?_, ?_, ?_, ?_⟩ <;>
    rw [hentry] <;> rfl

/-- From an empty cache, a store that leaves nothing under the base key is
followed by a miss. -/
theorem lookup_after_store_miss (hby : x.bypasses = false)
    (hkey : ∀ w, x.written 0 = some w → w.key ≠ x.baseKey) :
    (((ResponseCache.new 1).store .zero x).lookup .zero x.toCacheRequest).1 = .miss := by
  cases hw : x.written 0 with
  | none =>
      rw [ResponseCache.store_of_not_written .zero hw]
      exact ResponseCache.lookup_base_miss hby (by simp [ResponseCache.new, L1Cache.new])
        (by simp [ResponseCache.new, L2Cache.empty])
  | some w =>
      have hne : x.baseKey.text ≠ w.key.text := by
        intro h
        exact hkey w hw (CacheKey.ext h).symm
      have hprov := (provenance_new 1).store .zero x
      have hnone : ∀ v, ¬ StoredAs ([] ++ [.store .zero x]) x.baseKey.text v := by
        rintro v ⟨env, y, hmem, hv, htext⟩
        obtain ⟨rfl, rfl⟩ : env = .zero ∧ y = x := by simpa using hmem
        obtain rfl : w = v := Option.some.inj (hw.symm.trans hv)
        exact hne htext.symm
      apply ResponseCache.lookup_base_miss hby
      · rw [Option.eq_none_iff_forall_ne_some]
        intro e he
        rcases hprov.l1 _ _ he with ⟨v, hv, -⟩
        exact hnone v hv
      · rw [Option.eq_none_iff_forall_ne_some]
        intro e he
        rcases hprov.l2 _ _ he with ⟨v, hv, -⟩
        exact hnone v hv

theorem no_names_of_replays (h : Cacheable x ttl) (hreplays : Replays x ttl) :
    parseVary x.responseHeaders = some [] := by
  by_contra hvary
  have hkey : ∀ w, x.written 0 = some w → w.key ≠ x.baseKey := by
    intro w hw hbase
    rcases written_eq_some.mp hw with ⟨cfg, ttl', names, -, -, -, -, -, hnames, rfl⟩
    obtain rfl := CacheKey.withVary_eq_self.mp hbase
    exact hvary hnames
  have hkept : ∀ w, x.written CacheEnv.zero.now = some w →
      (after ResponseCache.step ((ResponseCache.new 1).store .zero x) []).l1.store.lookup
        w.key.text = some w.entry := by
    intro w hw
    rw [after_nil, ResponseCache.store_of_written _ hw]
    exact L1Cache.putThrough_lookup_self
  have hlt : CacheEnv.zero.now < CacheEnv.zero.now + ttl := Nat.lt_add_of_pos_right h.ttl_pos
  rcases hreplays (.new 1) .zero [] .zero hkept le_rfl hlt with ⟨e, he, -⟩
  rw [after_nil, lookup_after_store_miss h.request hkey] at he
  cases he

end

/-- **A cacheable exchange is replayed exactly when its response has a readable
`Vary` line that names no header.** -/
theorem replays_iff {x : CacheExchange} {ttl : ℕ} (h : Cacheable x ttl) :
    Replays x ttl ↔
      ∃ vary, x.responseHeaders.getStr "vary".toList = some vary ∧
        ∀ element ∈ vary.splitOn ',', trim element = [] := by
  have hnames : parseVary x.responseHeaders = some [] ↔
      ∃ vary, x.responseHeaders.getStr "vary".toList = some vary ∧
        ∀ element ∈ vary.splitOn ',', trim element = [] := by
    rw [parseVary_eq_some]
    apply exists_congr
    intro vary
    apply and_congr_right
    intro hvary
    have hstar := h.not_star vary hvary
    rw [and_iff_right hstar, eq_comm, List.filter_eq_nil_iff]
    simp [toAsciiLowercase]
  rw [← hnames]
  exact ⟨no_names_of_replays h, replays_of_no_names h⟩

/-- `GET /status`, answered with an empty `Vary` line. -/
def emptyVaryExchange : CacheExchange where
  toCacheRequest := getRequest "api".toList "/status".toList .empty
  status := 200
  responseHeaders := varyHeader []
  body := [111, 107]

/-- The same without a `Vary` line. -/
def plainExchange : CacheExchange := { emptyVaryExchange with responseHeaders := .empty }

theorem emptyVaryExchange_cacheable : Cacheable emptyVaryExchange 60 where
  cached := ⟨⟨60, false⟩, rfl, rfl, rfl⟩
  request := by decide
  success := by decide
  ttl_pos := by decide
  not_star := by
    intro vary hvary
    obtain rfl : [] = vary := Option.some.inj hvary
    decide

theorem emptyVary_replayed : Replays emptyVaryExchange 60 :=
  (replays_iff emptyVaryExchange_cacheable).mpr ⟨[], by decide, by decide⟩

theorem plainExchange_cacheable : Cacheable plainExchange 60 where
  cached := ⟨⟨60, false⟩, rfl, rfl, rfl⟩
  request := by decide
  success := by decide
  ttl_pos := by decide
  not_star := nofun

/-- A response without a `Vary` line is not stored. -/
theorem plain_response_missed :
    Cacheable plainExchange 60 ∧
      (((ResponseCache.new 1000).store .zero plainExchange).lookup .zero
        plainExchange.toCacheRequest).1 = .miss ∧
      ¬ Replays plainExchange 60 := by
  have hmiss : (((ResponseCache.new 1000).store .zero plainExchange).lookup .zero
      plainExchange.toCacheRequest).1 = .miss := by decide
  have hnone : plainExchange.written CacheEnv.zero.now = none := by decide
  refine ⟨plainExchange_cacheable, hmiss, ?_⟩
  intro h
  rcases h (.new 1000) .zero [] .zero (by simp [hnone]) le_rfl (by decide) with ⟨e, he, -⟩
  rw [after_nil, hmiss] at he
  cases he

end Stateform
