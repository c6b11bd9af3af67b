import Stateform.Cache.Replay
import Stateform.Cache.Shared

/-!
# Invalidation among lookups and stores

`invalidate` removes its key from L1 and then from L2, and a lookup that read L2 before
that writes what it read back to L1 afterwards. So an invalidation holds in the runs
without such a promotion (`invalidation_holds`), and not in all of them
(`invalidated_entry_served`).
-/

namespace Stateform

open Library

/-! ## What an invalidation promises -/

/-- The step a call returned at. -/
def SharedTask.stopped (t : SharedTask) : Option ℕ :=
  match t.stage with
  | .ended _ at_ => some at_
  | _ => none

namespace SharedCache

/-- Store number `origin` had completed before the call started. -/
def StoredBefore (s : SharedCache) (origin : ℕ) (t : SharedTask) : Prop :=
  ∃ store stop, s.tasks[origin]? = some store ∧ store.stopped = some stop ∧ stop < t.started

/-- Once an invalidation has completed, no lookup under its key that starts later returns
an entry whose store had completed before the invalidation started. -/
def Holds (s : SharedCache) : Prop :=
  ∀ (i j : ℕ) (inv look : SharedTask) (rq : CacheRequest) (stop : ℕ) (entry : CachedResponse)
    (origin at_ : ℕ), s.tasks[i]? = some inv → inv.Invalidates rq.baseKey →
    inv.stopped = some stop → s.tasks[j]? = some look → look.call = .lookup rq →
    stop < look.started → look.stage = .ended (.hit entry origin) at_ →
    ¬ s.StoredBefore origin inv

/-- The next operation of a call goes wrong for no invalidation: it promotes nothing that
one has already taken out of L1, it is no `DEL` that Redis fails to answer and that leaves
such an entry in L2, and it finds no such entry under another key than the one that was
removed. -/
structure Unhindered (s : SharedCache) (t : SharedTask) (op : CacheOp) : Prop where
  promotion : ∀ key entry origin, t.stage = .promote key entry origin →
    ∀ inv ∈ s.tasks, inv.Invalidates key → inv.stage ≠ .l1Remove → ¬ s.StoredBefore origin inv
  answered : ∀ key v, t.stage = .l2Remove → t.Invalidates key → op.redis.up = false →
    s.cache.l2.store.lookup key.text = some v → ¬ s.StoredBefore (s.l2From key.text) t
  variant : ∀ rq key origin, t.call = .lookup rq → s.FindsVariant t op rq key origin →
    key ≠ rq.baseKey → ∀ inv ∈ s.tasks, inv.Invalidates rq.baseKey → ∀ stop,
      inv.stopped = some stop → stop < t.started → ¬ s.StoredBefore origin inv

def UnhinderedEvent (s : SharedCache) : SharedEvent → Prop
  | .begin _ => True
  | .act k op => ∀ t, s.tasks[k]? = some t → s.Unhindered t op

end SharedCache

/-- An operation at second zero, with Redis answering. -/
def CacheOp.zero : CacheOp := ⟨0, 0, ⟨true, 0⟩⟩

/-- A lookup reads L2 while an invalidation is between the layers, and promotes what it
read once the invalidation is over. -/
def resurrectingRun : List SharedEvent :=
  [.begin (.store emptyVaryExchange 0), .act 0 .zero, .act 0 .zero,
    .begin (.invalidate "api".toList "GET".toList "/status".toList none), .act 1 .zero,
    .begin (.lookup emptyVaryExchange.toCacheRequest), .act 2 .zero, .act 2 .zero,
    .act 1 .zero, .act 2 .zero,
    .begin (.lookup emptyVaryExchange.toCacheRequest), .act 3 .zero, .act 3 .zero]

theorem invalidated_entry_served :
    ¬ ∀ capacity events s, SharedCache.run capacity events = some s → s.Holds := by
  intro hall
  have hholds := hall 1000 resurrectingRun _ rfl
  refine hholds 1 3 _ _ emptyVaryExchange.toCacheRequest 8 _ 0 12 rfl ?_ ?_ rfl rfl ?_ rfl ?_
  · rfl
  · rfl
  · decide
  · exact ⟨_, 2, rfl, rfl, by decide⟩

/-! ## No invalidated entry is found -/

namespace SharedCache

section
variable {s s' mid : SharedCache} {k : ℕ} {t : SharedTask} {op : CacheOp} {stage : SharedStage}

/-- What a lookup has of L2, or has returned, is of no store of the kind. -/
def Clean (old : ℕ → Prop) : SharedStage → Prop
  | .l2Full _ origin => ¬ old origin
  | .promote _ _ origin => ¬ old origin
  | .ended (.hit _ origin) _ => ¬ old origin
  | _ => True

theorem Clean.mono {old old' : ℕ → Prop} (h : Clean old stage)
    (hsub : ∀ origin, old' origin → old origin) : Clean old' stage := by
  cases stage with
  | l2Full first origin => exact fun hold => h (hsub origin hold)
  | promote key entry origin => exact fun hold => h (hsub origin hold)
  | ended answer at_ =>
      cases answer with
      | hit entry origin => exact fun hold => h (hsub origin hold)
      | _ => trivial
  | _ => exact h

/-- A clean lookup stays clean if its base key is clean in both layers, and so is what it
finds under another key. -/
theorem Acted.clean (h : Acted s k t op stage mid) {old : ℕ → Prop} {rq : CacheRequest}
    (hcall : t.call = .lookup rq)
    (hl1 : ∀ e, s.cache.l1.store.lookup rq.baseKey.text = some e →
      ¬ old (s.l1From rq.baseKey.text))
    (hl2 : ∀ v, s.cache.l2.store.lookup rq.baseKey.text = some v →
      ¬ old (s.l2From rq.baseKey.text))
    (hvariant : ∀ key origin, s.FindsVariant t op rq key origin → key ≠ rq.baseKey →
      ¬ old origin)
    (hclean : Clean old t.stage) : Clean old stage := by
  cases h with
  | @l1Hit rq' first entry l1' hcall' hstage hget hwithin =>
      cases hcall.symm.trans hcall'
      by_cases hkey : rq.baseKey.withVary first.varyHeaders rq.headers = rq.baseKey
      · rw [hkey] at hget ⊢
        exact hl1 _ (L1Cache.get_eq_some.mp hget).1
      · exact hvariant _ _ ⟨_, _, rfl, .inl ⟨hstage, hget, rfl⟩⟩ hkey
  | l2Found hcall' hget =>
      cases hcall.symm.trans hcall'
      obtain ⟨expiresAt, hlook⟩ := L2Cache.get_lookup hget
      split
      · exact hl2 _ hlook
      · exact hl2 _ hlook
  | @l2Full rq' key first entry _ _ hcall' hstage hkey hentry =>
      cases hcall.symm.trans hcall'
      rcases hentry with ⟨_, rfl⟩ | ⟨hget, rfl⟩
      · rw [hstage] at hclean
        exact hclean
      · by_cases hbase : key = rq.baseKey
        · rw [hbase] at hget ⊢
          obtain ⟨expiresAt, hlook⟩ := L2Cache.get_lookup hget
          exact hl2 _ hlook
        · exact hvariant _ _ ⟨_, _, hkey, .inr ⟨⟨_, hstage⟩, hget, rfl⟩⟩ hbase
  | promoted _ hstage =>
      rw [hstage] at hclean
      exact hclean
  | storedL1 hcall' => cases hcall.symm.trans hcall'
  | _ => trivial

/-- What an invalidation has achieved: once it has removed its key from a layer, the layer
has nothing there of a store that had completed before it started, and once it is over no
lookup that starts later comes to hold any. -/
structure Purged (s : SharedCache) (inv : SharedTask) (key : CacheKey) : Prop where
  l1 : inv.stage ≠ .l1Remove → ∀ e, s.cache.l1.store.lookup key.text = some e →
    ¬ s.StoredBefore (s.l1From key.text) inv
  l2 : ∀ stop, inv.stopped = some stop → ∀ v, s.cache.l2.store.lookup key.text = some v →
    ¬ s.StoredBefore (s.l2From key.text) inv
  lookups : ∀ stop, inv.stopped = some stop → ∀ look ∈ s.tasks, ∀ rq, look.call = .lookup rq →
    rq.baseKey = key → stop < look.started → Clean (fun origin => s.StoredBefore origin inv)
      look.stage

/-- The invariant: calls have started in the past, and every invalidation has achieved what
it should have. -/
structure Invalidating (s : SharedCache) : Prop where
  started : ∀ t ∈ s.tasks, t.started < s.clock
  purged : ∀ inv ∈ s.tasks, ∀ key, inv.Invalidates key → Purged s inv key

/-- A call that goes on makes nothing older than a call that has started. -/
theorem storedBefore_move {inv : SharedTask} {origin : ℕ} (hk : s.tasks[k]? = some t)
    (hacted : Acted s k t op stage mid) (hstarted : inv.started < s.clock)
    (h : (mid.move k t stage).StoredBefore origin inv) :
    s.StoredBefore origin inv ∧ origin ≠ k := by
  obtain ⟨store, stop, hstore, hstop, hlt⟩ := h
  change (mid.tasks.set k { t with stage := stage })[origin]? = some store at hstore
  rw [hacted.tasks, getElem?_replaced hk] at hstore
  split at hstore
  · cases hstore
    cases stage with
    | ended answer at_ =>
        have hnow := hacted.stamp rfl
        obtain rfl : at_ = stop := Option.some.inj hstop
        omega
    | _ => cases hstop
  · next hne => exact ⟨⟨store, stop, hstore, hstop, hlt⟩, hne⟩

theorem started_move (h : Invalidating s) (hk : s.tasks[k]? = some t)
    (hacted : Acted s k t op stage mid) {u : SharedTask}
    (hu : u ∈ (mid.move k t stage).tasks) : u.started < s.clock := by
  change u ∈ mid.tasks.set k { t with stage := stage } at hu
  rw [hacted.tasks] at hu
  rcases List.mem_or_eq_of_mem_set hu with hold | rfl
  · exact h.started u hold
  · exact h.started t (List.mem_of_getElem? hk)

theorem stage_of_stopped {u : SharedTask} {stop : ℕ} (h : u.stopped = some stop) :
    ∃ answer, u.stage = .ended answer stop := by
  unfold SharedTask.stopped at h
  split at h
  · next answer at_ hstage =>
      obtain rfl := Option.some.inj h
      exact ⟨answer, hstage⟩
  · cases h

/-- The step lemma for an invalidation that is not the call that acts. -/
theorem Purged.other {inv : SharedTask} {key : CacheKey} (h : Purged s inv key)
    (hinvariant : Invalidating s) (hmem : inv ∈ s.tasks) (hinv : inv.Invalidates key)
    (hk : s.tasks[k]? = some t) (hun : s.Unhindered t op) (hacted : Acted s k t op stage mid) :
    Purged (mid.move k t stage) inv key where
  l1 := by
    intro hstage e he hold
    obtain ⟨hold, hne⟩ := storedBefore_move hk hacted (hinvariant.started inv hmem) hold
    rcases hacted.l1 he with ⟨hlook, hfrom⟩ | hnew | ⟨_, entry, _, hpromote⟩
    · rw [show (mid.move k t stage).l1From = mid.l1From from rfl, hfrom] at hold
      exact h.l1 hstage e hlook hold
    · exact hne hnew
    · exact hun.promotion key entry _ hpromote inv hmem hinv hstage hold
  l2 := by
    intro stop hstop v hv hold
    obtain ⟨hold, hne⟩ := storedBefore_move hk hacted (hinvariant.started inv hmem) hold
    rcases hacted.l2 hv with ⟨hlook, hfrom⟩ | hnew
    · rw [show (mid.move k t stage).l2From = mid.l2From from rfl, hfrom] at hold
      exact h.l2 stop hstop v hlook hold
    · exact hne hnew
  lookups := by
    intro stop hstop look hlook rq hcall hkey hlt
    have hmono : ∀ origin, (mid.move k t stage).StoredBefore origin inv →
        s.StoredBefore origin inv := fun origin hold =>
      (storedBefore_move hk hacted (hinvariant.started inv hmem) hold).1
    obtain ⟨j, hj⟩ := List.mem_iff_getElem?.mp hlook
    change (mid.tasks.set k { t with stage := stage })[j]? = some look at hj
    rw [hacted.tasks, getElem?_replaced hk] at hj
    split at hj
    · cases hj
      have ht : t ∈ s.tasks := List.mem_of_getElem? hk
      have hclean := h.lookups stop hstop t ht rq hcall hkey hlt
      subst hkey
      refine (hacted.clean hcall ?_ ?_ ?_ hclean).mono hmono
      · apply h.l1
        intro hremove
        rw [SharedTask.stopped, hremove] at hstop
        cases hstop
      · exact h.l2 stop hstop
      · intro other origin hfinds hother
        exact hun.variant rq other origin hcall hfinds hother inv hmem hinv stop hstop hlt
    · exact (h.lookups stop hstop look (List.mem_of_getElem? hj) rq hcall hkey hlt).mono hmono

/-- The step lemma for an invalidation that acts. -/
theorem Purged.self {key : CacheKey} (h : Purged s t key) (hinvariant : Invalidating s)
    (hmem : t ∈ s.tasks) (hinv : t.Invalidates key) (hk : s.tasks[k]? = some t)
    (hun : s.Unhindered t op) (hacted : Acted s k t op stage mid) :
    Purged (mid.move k t stage) { t with stage := stage } key where
  l1 := by
    intro _ e he hold
    obtain ⟨hold, _⟩ := storedBefore_move hk hacted (hinvariant.started t hmem) hold
    rcases hacted.invalidation hinv with ⟨_, _, rfl⟩ | ⟨hstage, rfl⟩
    · exact absurd (lookup_erase_self.symm.trans he) nofun
    · refine h.l1 ?_ e he hold
      rw [hstage]
      nofun
  l2 := by
    intro stop hstop v hv hold
    obtain ⟨hold, _⟩ := storedBefore_move hk hacted (hinvariant.started t hmem) hold
    rcases hacted.invalidation hinv with ⟨_, rfl, _⟩ | ⟨hstage, rfl⟩
    · cases hstop
    cases hup : op.redis.up with
    | true =>
        change (s.cache.l2.invalidate op.redis key).store.lookup key.text = some v at hv
        rw [L2Cache.invalidate, if_pos hup] at hv
        exact absurd (lookup_erase_self.symm.trans hv) nofun
    | false =>
        have hlook : s.cache.l2.store.lookup key.text = some v := L2Cache.invalidate_lookup hv
        exact hun.answered key v hstage hinv hup hlook hold
  lookups := by
    -- no call has started later than now
    intro stop hstop look hlook rq _ _ hlt
    obtain ⟨answer, hended⟩ := stage_of_stopped hstop
    have hnow : stop = s.clock := hacted.stamp hended
    have hbefore : look.started < s.clock := started_move hinvariant hk hacted hlook
    omega

/-- The invariant is kept by a call that acts. -/
theorem Invalidating.act (h : Invalidating s) (hk : s.tasks[k]? = some t)
    (hun : s.Unhindered t op) (hacted : Acted s k t op stage mid) :
    Invalidating (mid.move k t stage) where
  started := by
    intro u hu
    have hbefore := started_move h hk hacted hu
    show u.started < mid.clock + 1
    rw [hacted.clock]
    omega
  purged := by
    intro inv hmem key hinv
    obtain ⟨i, hi⟩ := List.mem_iff_getElem?.mp hmem
    change (mid.tasks.set k { t with stage := stage })[i]? = some inv at hi
    rw [hacted.tasks, getElem?_replaced hk] at hi
    split at hi
    · cases hi
      have ht : t ∈ s.tasks := List.mem_of_getElem? hk
      exact (h.purged t ht key hinv).self h ht hinv hk hun hacted
    · have hold : inv ∈ s.tasks := List.mem_of_getElem? hi
      exact (h.purged inv hold key hinv).other h hold hinv hk hun hacted

theorem first_stopped {call : SharedCall} {clock stop at_ : ℕ}
    (h : (SharedTask.mk call at_ (call.first clock)).stopped = some stop) : stop = clock := by
  obtain ⟨answer, hstage⟩ := stage_of_stopped h
  change call.first clock = _ at hstage
  unfold SharedCall.first at hstage
  cases call with
  | lookup rq =>
      simp only at hstage
      split at hstage
      · cases hstage
        rfl
      · cases hstage
  | store x now =>
      simp only at hstage
      split at hstage
      · cases hstage
        rfl
      · cases hstage
  | invalidate routeId method path query => cases hstage

theorem first_clean (old : ℕ → Prop) (rq : CacheRequest) (clock : ℕ) :
    Clean old ((SharedCall.lookup rq).first clock) := by
  unfold SharedCall.first
  simp only
  split
  · trivial
  · trivial

/-- A call that begins makes nothing older than a call that has started. -/
theorem storedBefore_begun {call : SharedCall} {inv : SharedTask} {origin : ℕ}
    (hstarted : inv.started < s.clock) (h : (s.begun call).StoredBefore origin inv) :
    s.StoredBefore origin inv := by
  obtain ⟨store, stop, hstore, hstop, hlt⟩ := h
  change (s.tasks ++ [_])[origin]? = some store at hstore
  rw [getElem?_appended] at hstore
  split at hstore
  · cases hstore
    have hnow := first_stopped hstop
    omega
  · exact ⟨store, stop, hstore, hstop, hlt⟩

/-- The invariant is kept by a call that begins. -/
theorem Invalidating.begin (h : Invalidating s) (call : SharedCall) :
    Invalidating (s.begun call) where
  started := by
    intro u hu
    show u.started < s.clock + 1
    rcases List.mem_append.mp hu with hold | hnew
    · exact Nat.lt_succ_of_lt (h.started u hold)
    · obtain rfl := List.mem_singleton.mp hnew
      exact Nat.lt_succ_self _
  purged := by
    intro inv hmem key hinv
    rcases List.mem_append.mp hmem with hold | hnew
    · have hmono : ∀ origin, (s.begun call).StoredBefore origin inv →
          s.StoredBefore origin inv := fun _ => storedBefore_begun (h.started inv hold)
      have hpurged := h.purged inv hold key hinv
      refine ⟨?_, ?_, ?_⟩
      · intro hstage e he hstored
        exact hpurged.l1 hstage e he (hmono _ hstored)
      · intro stop hstop v hv hstored
        exact hpurged.l2 stop hstop v hv (hmono _ hstored)
      · intro stop hstop look hlook rq hcall hkey hlt
        rcases List.mem_append.mp hlook with hlook | hlook
        · exact (hpurged.lookups stop hstop look hlook rq hcall hkey hlt).mono hmono
        · obtain rfl := List.mem_singleton.mp hlook
          cases hcall
          exact first_clean _ rq s.clock
    · obtain rfl := List.mem_singleton.mp hnew
      cases call with
      | invalidate routeId method path query =>
          refine ⟨?_, ?_, ?_⟩
          · intro hstage
            exact absurd rfl hstage
          · intro stop hstop
            cases hstop
          · intro stop hstop
            cases hstop
      | _ => exact hinv.elim

theorem Invalidating.initial (capacity : ℕ) : Invalidating (init capacity) where
  started := nofun
  purged := nofun

/-- The run lemma. -/
theorem invalidating_run {capacity : ℕ} {events : List SharedEvent}
    (hun : Meets step UnhinderedEvent (init capacity) events)
    (hrun : run capacity events = some s) : Invalidating s := by
  refine meets_invariant (P := fun _ s => Invalidating s) (.initial capacity) ?_ events s hun hrun
  intro _ event s s' _ hinvariant hok hstep
  cases event with
  | begin call =>
      cases hstep
      exact hinvariant.begin call
  | act k op =>
      obtain ⟨t, hk, hact⟩ := Option.bind_eq_some_iff.mp hstep
      obtain ⟨stage, mid, hacted, rfl⟩ := act_acted hact
      exact hinvariant.act hk (hok t hk) hacted

end

/-- **An invalidation holds** in every run without a stale promotion, a failed `DEL` and a
variant that was not removed. -/
theorem invalidation_holds (capacity : ℕ) (events : List SharedEvent) (s : SharedCache)
    (hrun : run capacity events = some s)
    (hun : Meets step UnhinderedEvent (init capacity) events) : s.Holds := by
  intro i j inv look rq stop entry origin at_ hi hinv hstop hj hcall hlt hhit
  have hinvariant := invalidating_run hun hrun
  have hpurged := hinvariant.purged inv (List.mem_of_getElem? hi) rq.baseKey hinv
  have hclean := hpurged.lookups stop hstop look (List.mem_of_getElem? hj) rq hcall rfl hlt
  rw [hhit] at hclean
  exact hclean

/-- Nothing is promoted at the stage, or read under a second key. -/
def plainStage : SharedStage → Bool
  | .l1Full first => first.varyHeaders.isEmpty
  | .l2Full _ _ => false
  | .promote _ _ _ => false
  | _ => true

/-- A test of `UnhinderedEvent`. -/
def plainEvent (s : SharedCache) : SharedEvent → Bool
  | .begin _ => true
  | .act k op => op.redis.up && (s.tasks[k]?).all fun t => plainStage t.stage

theorem unhindered_of_plain (s : SharedCache) (event : SharedEvent)
    (h : s.plainEvent event = true) : s.UnhinderedEvent event := by
  cases event with
  | begin call => trivial
  | act k op =>
      intro t hk
      obtain ⟨hup, hplain⟩ := Bool.and_eq_true_iff.mp h
      rw [hk, Option.all_some] at hplain
      refine ⟨?_, ?_, ?_⟩
      · intro key entry origin hstage
        rw [hstage] at hplain
        cases hplain
      · intro key v _ _ hdown
        cases hup.symm.trans hdown
      · rintro rq key origin - ⟨first, entry, rfl, hread⟩ hne
        rcases hread with ⟨hstage, -, -⟩ | ⟨⟨origin', hstage⟩, -, -⟩
        · rw [hstage] at hplain
          rw [List.isEmpty_iff.mp hplain, CacheKey.withVary_nil] at hne
          exact absurd rfl hne
        · rw [hstage] at hplain
          cases hplain

/-- A response is stored, invalidated and stored again, and then looked up. -/
def storedAgainRun : List SharedEvent :=
  [.begin (.store emptyVaryExchange 0), .act 0 .zero, .act 0 .zero,
    .begin (.invalidate "api".toList "GET".toList "/status".toList none), .act 1 .zero,
    .act 1 .zero, .begin (.store emptyVaryExchange 0), .act 2 .zero, .act 2 .zero,
    .begin (.lookup emptyVaryExchange.toCacheRequest), .act 3 .zero, .act 3 .zero]

theorem invalidation_holds_stored_again :
    ∃ s, run 1000 storedAgainRun = some s ∧ s.Holds ∧
      ∃ look entry, s.tasks[3]? = some look ∧ look.stage = .ended (.hit entry 2) 11 := by
  have hun : Meets step UnhinderedEvent (init 1000) storedAgainRun :=
    meets_of_tested unhindered_of_plain _ _ rfl
  exact ⟨_, rfl, invalidation_holds 1000 storedAgainRun _ rfl hun, _, _, rfl, rfl⟩

end SharedCache

end Stateform
