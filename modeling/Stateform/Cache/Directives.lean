import Stateform.Cache.Variants

/-!
# Directives of a response

`Cache-Control` may come in several lines, each a list of directives. The gateway
reads the first line only, and only if it is readable. Here are the directives of
all lines, and when the ones that forbid storing are obeyed: for which responses a
run leaves no trace in L2, or in the cache, of storing them (`directives_obeyed_iff`).
-/

namespace Stateform

open Library

/-! ## Directives -/

/-- A line as text, byte by byte. -/
def HeaderValue.latin1 (line : HeaderValue) : Str := line.map fun b => Char.ofNat b.toNat

/-- The name of a directive, without its argument. -/
def directiveName (directive : Str) : Str :=
  (toAsciiLowercase (trim directive)).takeWhile (· ≠ '=')

/-- Some `Cache-Control` line has the directive. -/
def HasDirective (headers : HeaderMap) (name : Str) : Prop :=
  ∃ line ∈ headers.getAll "cache-control".toList,
    ∃ directive ∈ (HeaderValue.latin1 line).splitOn ',', directiveName directive = name

/-- A text lists the directive, without an argument. -/
def Lists (value name : Str) : Prop :=
  ∃ directive ∈ value.splitOn ',', toAsciiLowercase (trim directive) = name

/-- The first line is readable and lists the directive. -/
def FirstLineHas (headers : HeaderMap) (name : Str) : Prop :=
  ∃ value, headers.getStr "cache-control".toList = some value ∧ Lists value name

/-! ## What the parser finds -/

namespace CacheControl

/-- A round sets the flag of the directive it has read, and no other. -/
theorem addDirective_flags (cc : CacheControl) (directive : Str) :
    ((cc.addDirective directive).noStore =
        (cc.noStore || toAsciiLowercase (trim directive) == "no-store".toList)) ∧
      ((cc.addDirective directive).noCache =
        (cc.noCache || toAsciiLowercase (trim directive) == "no-cache".toList)) ∧
      ((cc.addDirective directive).private_ =
        (cc.private_ || toAsciiLowercase (trim directive) == "private".toList)) := by
  unfold addDirective
  generalize toAsciiLowercase (trim directive) = d
  by_cases hstore : d = "no-store".toList
  · subst hstore
    simp
  by_cases hcache : d = "no-cache".toList
  · subst hcache
    simp
  by_cases hprivate : d = "private".toList
  · subst hprivate
    simp
  have hflags : (d == "no-store".toList) = false ∧ (d == "no-cache".toList) = false ∧
      (d == "private".toList) = false := by
    simp only [beq_eq_false_iff_ne]
    exact ⟨hstore, hcache, hprivate⟩
  simp only [hflags, if_neg hstore, if_neg hcache, if_neg hprivate, Bool.or_false]
  split
  · exact ⟨rfl, rfl, rfl⟩
  · split
    · exact ⟨rfl, rfl, rfl⟩
    · split <;> exact ⟨rfl, rfl, rfl⟩

theorem foldl_addDirective_flags (directives : List Str) (cc : CacheControl) :
    let lists := fun name : Str => directives.any fun d => toAsciiLowercase (trim d) == name
    ((directives.foldl addDirective cc).noStore = (cc.noStore || lists "no-store".toList)) ∧
      ((directives.foldl addDirective cc).noCache = (cc.noCache || lists "no-cache".toList)) ∧
      ((directives.foldl addDirective cc).private_ = (cc.private_ || lists "private".toList)) := by
  induction directives generalizing cc with
  | nil => simp
  | cons d rest ih =>
      obtain ⟨hstore, hcache, hprivate⟩ := ih (cc.addDirective d)
      obtain ⟨hstore', hcache', hprivate'⟩ := cc.addDirective_flags d
      simp only [List.foldl_cons, List.any_cons, ← Bool.or_assoc]
      rw [hstore, hcache, hprivate, hstore', hcache', hprivate']
      exact ⟨rfl, rfl, rfl⟩

theorem any_eq_true_iff_lists {value name : Str} :
    ((value.splitOn ',').any fun d => toAsciiLowercase (trim d) == name) = true ↔
      Lists value name := by
  simp only [List.any_eq_true, beq_iff_eq]
  exact Iff.rfl

/-- The flags of a line are the directives it lists. -/
theorem parse_flags (value : Str) :
    ((parse value).noStore = true ↔ Lists value "no-store".toList) ∧
      ((parse value).noCache = true ↔ Lists value "no-cache".toList) ∧
      ((parse value).private_ = true ↔ Lists value "private".toList) := by
  obtain ⟨hstore, hcache, hprivate⟩ := foldl_addDirective_flags (value.splitOn ',') .default
  simp only [CacheControl.default, Bool.false_or] at hstore hcache hprivate
  refine ⟨?_, ?_, ?_⟩
  · rw [← any_eq_true_iff_lists, ← hstore]
    rfl
  · rw [← any_eq_true_iff_lists, ← hcache]
    rfl
  · rw [← any_eq_true_iff_lists, ← hprivate]
    rfl

theorem fromHeaders_private {headers : HeaderMap} :
    ((fromHeaders headers).map private_).getD false = true ↔
      FirstLineHas headers "private".toList := by
  unfold fromHeaders FirstLineHas
  cases headers.getStr "cache-control".toList with
  | none => simp
  | some value => simpa using (parse_flags value).2.2

theorem fromHeaders_isUncacheable {headers : HeaderMap} :
    ((fromHeaders headers).map isUncacheable).getD false = true ↔
      FirstLineHas headers "no-store".toList ∨ FirstLineHas headers "no-cache".toList := by
  unfold fromHeaders FirstLineHas
  cases headers.getStr "cache-control".toList with
  | none => simp
  | some value =>
      obtain ⟨hstore, hcache, -⟩ := parse_flags value
      rw [Option.map_some, Option.map_some, Option.getD_some, isUncacheable, Bool.or_eq_true,
        hstore, hcache]
      simp

end CacheControl

/-! ## Runs without the stores of a response -/

/-- The call stores a response with these headers. -/
def CacheCall.stores (headers : HeaderMap) : CacheCall → Bool
  | .store _ x => x.responseHeaders = headers
  | _ => false

/-- Storing such a response leaves no trace in L2, in any run. -/
def NeverInL2 (headers : HeaderMap) : Prop :=
  ∀ capacity calls,
    (ResponseCache.afterCalls capacity calls).l2 =
      (ResponseCache.afterCalls capacity (calls.filter fun call => !call.stores headers)).l2

/-- Storing such a response leaves no trace at all. -/
def NeverStored (headers : HeaderMap) : Prop :=
  ∀ capacity calls,
    ResponseCache.afterCalls capacity calls =
      ResponseCache.afterCalls capacity (calls.filter fun call => !call.stores headers)

/-- What a call does to L2: lookups only read it. -/
def L2Cache.step (l2 : L2Cache) : CacheCall → L2Cache
  | .store env x =>
      match x.written env.now with
      | none => l2
      | some w => if !w.isPrivate then l2.put (env.redis 0) w.key w.entry w.entry.ttlSecs else l2
  | .lookup _ _ => l2
  | .invalidate env routeId method path query =>
      l2.invalidate (env.redis 0) (.new method routeId path query)

theorem ResponseCache.step_l2 (cache : ResponseCache) (call : CacheCall) :
    (cache.step call).l2 = cache.l2.step call := by
  cases call with
  | store env x =>
      simp only [step, store, L2Cache.step]
      cases x.written env.now with
      | none => rfl
      | some w => rfl
  | lookup env rq =>
      have hout := lookup_outcome cache env rq
      simp only [step, L2Cache.step]
      generalize cache.lookup env rq = result at hout
      cases hout <;> rfl
  | invalidate env routeId method path query => rfl

/-- The reasons the gateway finds for storing nothing. -/
def Refused (headers : HeaderMap) : Prop :=
  FirstLineHas headers "no-store".toList ∨ FirstLineHas headers "no-cache".toList ∨
    parseVary headers = none

/-- The reasons it finds for keeping a response out of L2. -/
def RefusedByL2 (headers : HeaderMap) : Prop :=
  FirstLineHas headers "private".toList ∨ Refused headers ∨
    (CacheControl.fromHeaders headers).bind CacheControl.sharedTtl = some 0

theorem resolveTtl_eq_none {cc : Option CacheControl} {routeTtl : ℕ} :
    resolveTtl cc routeTtl = none ↔ (cc.map CacheControl.isUncacheable).getD false = true := by
  unfold resolveTtl
  cases cc with
  | none => simp
  | some cc =>
      cases hunc : cc.isUncacheable with
      | true => simp [hunc]
      | false => cases httl : cc.sharedTtl <;> simp [hunc, httl]

theorem resolveTtl_eq_zero {cc : Option CacheControl} {routeTtl : ℕ}
    (h : cc.bind CacheControl.sharedTtl = some 0) : ∀ ttl ∈ resolveTtl cc routeTtl, ttl = 0 := by
  intro ttl httl
  unfold resolveTtl at httl
  cases cc with
  | none => cases h
  | some cc =>
      rw [Option.bind_some] at h
      cases hunc : cc.isUncacheable with
      | true => simp [hunc] at httl
      | false => simpa [hunc, h] using httl.symm

theorem written_of_refused {x : CacheExchange} (h : Refused x.responseHeaders) (now : ℕ) :
    x.written now = none := by
  rw [Option.eq_none_iff_forall_ne_some]
  intro w hw
  obtain ⟨cfg, ttl, names, -, -, -, -, httl, hvary, -⟩ := written_eq_some.mp hw
  have hrefused : (CacheControl.fromHeaders x.responseHeaders).map
      CacheControl.isUncacheable |>.getD false := by
    rcases h with h | h | h
    · exact CacheControl.fromHeaders_isUncacheable.mpr (.inl h)
    · exact CacheControl.fromHeaders_isUncacheable.mpr (.inr h)
    · cases h.symm.trans hvary
  cases (resolveTtl_eq_none.mpr hrefused).symm.trans httl

theorem exists_of_stores {call : CacheCall} {headers : HeaderMap} (h : call.stores headers = true) :
    ∃ env x, call = .store env x ∧ x.responseHeaders = headers := by
  cases call with
  | store env x => exact ⟨env, x, rfl, of_decide_eq_true h⟩
  | _ => cases h

/-- Such a response never reaches L2. -/
theorem step_l2_of_refused {l2 : L2Cache} {call : CacheCall} {headers : HeaderMap}
    (h : RefusedByL2 headers) (hstores : call.stores headers = true) : l2.step call = l2 := by
  obtain ⟨env, x, rfl, rfl⟩ := exists_of_stores hstores
  simp only [L2Cache.step]
  cases hw : x.written env.now with
  | none => rfl
  | some w =>
      obtain ⟨cfg, ttl, names, -, -, -, -, httl, hvary, rfl⟩ := written_eq_some.mp hw
      rcases h with h | h | h
      · rw [CacheControl.fromHeaders_private.mpr h]
        rfl
      · cases (written_of_refused h env.now).symm.trans hw
      · have hzero := resolveTtl_eq_zero h ttl httl
        subst hzero
        simp [L2Cache.put, CachedResponse.new]

/-- What the gateway does not refuse, it writes, where the route and the status let it. -/
theorem written_of_not_refused {x : CacheExchange} {cfg : CacheMiddlewareConfig}
    (hcfg : x.middleware = some cfg) (hwrite : cfg.readOnly = false) (hlow : 200 ≤ x.status)
    (hhigh : x.status < 300) (h : ¬ Refused x.responseHeaders) (now : ℕ) :
    ∃ w, x.written now = some w ∧
      w.isPrivate =
        ((CacheControl.fromHeaders x.responseHeaders).map CacheControl.private_).getD false ∧
      resolveTtl (CacheControl.fromHeaders x.responseHeaders) cfg.ttl = some w.entry.ttlSecs := by
  obtain ⟨hstore, hrest⟩ := not_or.mp h
  obtain ⟨hcache, hvary⟩ := not_or.mp hrest
  obtain ⟨names, hnames⟩ := Option.ne_none_iff_exists'.mp hvary
  have hlifetime : resolveTtl (CacheControl.fromHeaders x.responseHeaders) cfg.ttl ≠ none := by
    rw [Ne, resolveTtl_eq_none, CacheControl.fromHeaders_isUncacheable]
    exact not_or.mpr ⟨hstore, hcache⟩
  obtain ⟨ttl, httl⟩ := Option.ne_none_iff_exists'.mp hlifetime
  exact ⟨_, written_eq_some.mpr ⟨cfg, ttl, names, hcfg, hwrite, hlow, hhigh, httl, hnames, rfl⟩,
    rfl, httl⟩

/-- A cached `GET` of `/` with this response, and a lifetime of a minute. -/
def probe (headers : HeaderMap) : CacheExchange where
  toCacheRequest := getRequest [] "/".toList .empty
  status := 200
  responseHeaders := headers
  body := []

theorem written_probe {headers : HeaderMap} (h : ¬ Refused headers) :
    ∃ w, (probe headers).written 0 = some w ∧
      w.isPrivate = ((CacheControl.fromHeaders headers).map CacheControl.private_).getD false ∧
      resolveTtl (CacheControl.fromHeaders headers) 60 = some w.entry.ttlSecs :=
  written_of_not_refused (x := probe headers) rfl rfl (Nat.le_refl 200) (by decide : 200 < 300) h 0

/-- The probe alone, and without it nothing. -/
theorem filter_probe (headers : HeaderMap) :
    ([.store .zero (probe headers)] : List CacheCall).filter
      (fun call => !call.stores headers) = [] := by
  simp [CacheCall.stores, probe]

theorem neverStored_iff {headers : HeaderMap} : NeverStored headers ↔ Refused headers := by
  constructor
  · intro h
    by_contra hnot
    obtain ⟨w, hw, -⟩ := written_probe hnot
    have hrun := h 1 [.store .zero (probe headers)]
    rw [filter_probe] at hrun
    have hlook := congrArg (fun cache => cache.l1.store.lookup w.key.text) hrun
    have hstored : ResponseCache.afterCalls 1 [.store .zero (probe headers)] =
        (ResponseCache.new 1).store .zero (probe headers) := rfl
    rw [hstored, ResponseCache.store_of_written .zero hw] at hlook
    simp only [L1Cache.putThrough_lookup_self] at hlook
    cases hlook
  · intro h capacity calls
    apply after_filter id ResponseCache.step (fun _ _ => rfl)
    intro cache call hkeep
    have hstores : call.stores headers = true := by simpa using hkeep
    obtain ⟨env, x, rfl, rfl⟩ := exists_of_stores hstores
    exact ResponseCache.store_of_not_written env (written_of_refused h env.now)

theorem sharedTtl_pos {cc : Option CacheControl} {ttl : ℕ} (httl : resolveTtl cc 60 = some ttl)
    (h : cc.bind CacheControl.sharedTtl ≠ some 0) : 0 < ttl := by
  unfold resolveTtl at httl
  cases cc with
  | none =>
      obtain rfl := Option.some.inj httl
      exact Nat.succ_pos 59
  | some cc =>
      rw [Option.bind_some] at h
      cases hunc : cc.isUncacheable with
      | true => simp [hunc] at httl
      | false =>
          cases hshared : cc.sharedTtl with
          | none =>
              simp only [hunc, hshared] at httl
              obtain rfl := Option.some.inj httl
              exact Nat.succ_pos 59
          | some upstreamTtl =>
              simp only [hunc, hshared] at httl
              obtain rfl := Option.some.inj httl
              have hpos : upstreamTtl ≠ 0 := by
                rintro rfl
                exact h hshared
              omega

theorem neverInL2_iff {headers : HeaderMap} : NeverInL2 headers ↔ RefusedByL2 headers := by
  constructor
  · intro h
    by_contra hnot
    obtain ⟨hprivate, hrest⟩ := not_or.mp hnot
    obtain ⟨hrefused, hzero⟩ := not_or.mp hrest
    obtain ⟨w, hw, hshared, httl⟩ := written_probe hrefused
    have hpublic : w.isPrivate = false := by
      rw [hshared, ← Bool.not_eq_true, CacheControl.fromHeaders_private]
      exact hprivate
    have hpos := sharedTtl_pos httl hzero
    have hrun := h 1 [.store .zero (probe headers)]
    rw [filter_probe] at hrun
    have hstored : ResponseCache.afterCalls 1 [.store .zero (probe headers)] =
        (ResponseCache.new 1).store .zero (probe headers) := rfl
    rw [hstored, ResponseCache.store_of_written .zero hw, hpublic] at hrun
    have hget := congrArg (fun l2 => L2Cache.get l2 ⟨true, 0⟩ w.key) hrun
    have hkept : ((ResponseCache.new 1).l2.put (CacheEnv.zero.redis 0) w.key w.entry
        w.entry.ttlSecs).get ⟨true, 0⟩ w.key = some w.entry :=
      L2Cache.put_get_self rfl rfl (by simpa [CacheEnv.zero] using hpos) hpos
    cases hkept.symm.trans hget
  · intro h capacity calls
    apply after_filter ResponseCache.l2 L2Cache.step
      ResponseCache.step_l2
    intro l2 call hkeep
    exact step_l2_of_refused h (by simpa using hkeep)

/-- **When directives are obeyed.** A response whose lines say `private` leaves no trace
in L2, and one whose lines say `no-store` or `no-cache` none in either layer, exactly if
the gateway finds a reason for it: a directive of the first line, a `Vary` it cannot use,
or, for L2, a shared lifetime of zero. -/
theorem directives_obeyed_iff (headers : HeaderMap) :
    ((HasDirective headers "private".toList → NeverInL2 headers) ∧
        (HasDirective headers "no-store".toList ∨ HasDirective headers "no-cache".toList →
          NeverStored headers)) ↔
      (HasDirective headers "private".toList → RefusedByL2 headers) ∧
        (HasDirective headers "no-store".toList ∨ HasDirective headers "no-cache".toList →
          Refused headers) := by
  rw [neverInL2_iff, neverStored_iff]

theorem cacheControl_ne_nil : "cache-control".toList ≠ [] := by decide

theorem cacheControl_token : "cache-control".toList.all isHeaderChar = true := by decide

def cacheControlName : HeaderName :=
  ⟨"cache-control".toList, cacheControl_ne_nil, cacheControl_token⟩

/-- `Cache-Control: public`, `Cache-Control: private`, `Vary: Accept`. -/
def secondLinePrivate : HeaderMap :=
  ⟨(cacheControlName, "public".toList.map fun c => c.toNat.toUInt8) ::
    (cacheControlName, "private".toList.map fun c => c.toNat.toUInt8) ::
    (varyHeader "Accept".toList).fields⟩

/-- The second line is not read, and the response is shared. -/
theorem second_line_ignored :
    ¬ ∀ headers : HeaderMap,
        (HasDirective headers "private".toList → NeverInL2 headers) ∧
          (HasDirective headers "no-store".toList ∨ HasDirective headers "no-cache".toList →
            NeverStored headers) := by
  intro h
  have hprivate : HasDirective secondLinePrivate "private".toList :=
    ⟨"private".toList.map fun c => c.toNat.toUInt8, by decide, "private".toList, by decide,
      by decide⟩
  have hrefused := neverInL2_iff.mp ((h secondLinePrivate).1 hprivate)
  rw [RefusedByL2, Refused, ← or_assoc (b := FirstLineHas _ _), ← CacheControl.fromHeaders_private,
    ← CacheControl.fromHeaders_isUncacheable] at hrefused
  revert hrefused
  decide

end Stateform
