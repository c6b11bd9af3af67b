import Stateform.Library.Numbered
import Stateform.Library.Run
import Stateform.Cache.ResponseCache

/-!
# Calls on one cache

Any number of `lookup`, `store` and `invalidate` calls on one `ResponseCache`, each
taken from one operation on L1 or L2 to the next, in any interleaving. A call that is
alone does what the function does (`lookup_alone`, `store_alone`, `invalidate_alone`).
An entry is followed by the number of the store that wrote it (`sourced_run`).
-/

namespace Stateform

open Library

/-! ## Calls, operation by operation -/

/-- A call, with what it is given. A store reads the clock when it makes its entry. -/
inductive SharedCall : Type where
  | lookup (rq : CacheRequest)
  | store (x : CacheExchange) (now : ℕ)
  | invalidate (routeId method path : Str) (query : Option Str)

/-- What a call returned: a hit with the store its entry is of. -/
inductive SharedAnswer : Type where
  | bypass
  | miss
  | hit (entry : CachedResponse) (origin : ℕ)
  | done
deriving DecidableEq

/-- The operation a call does next. A lookup holds what it has read so far. -/
inductive SharedStage : Type where
  | l1Base
  | l1Full (first : CachedResponse)
  | l2Base
  | l2Full (first : CachedResponse) (origin : ℕ)
  | promote (key : CacheKey) (entry : CachedResponse) (origin : ℕ)
  | l1Put (w : Written)
  | l2Put (w : Written)
  | l1Remove
  | l2Remove
  | ended (answer : SharedAnswer) (at_ : ℕ)
deriving DecidableEq

/-- A call on the way: where it is, and the step it began with. -/
structure SharedTask : Type where
  call : SharedCall
  started : ℕ
  stage : SharedStage

/-- What an operation meets: the gateway's clock, the entry an eviction takes, and the
command sent to Redis. -/
structure CacheOp : Type where
  now : ℕ
  pick : ℕ
  redis : RedisCommand

/-- A call begins, or the call of a number does its next operation. -/
inductive SharedEvent : Type where
  | begin (call : SharedCall)
  | act (k : ℕ) (op : CacheOp)

/-- A cache and the calls on it, numbered as they came. Beside it stands, for each key,
the number of the store whose entry each layer has there; `clock` counts the steps. -/
structure SharedCache : Type where
  cache : ResponseCache
  l1From : Str → ℕ
  l2From : Str → ℕ
  tasks : List SharedTask
  clock : ℕ

def SharedCall.first (call : SharedCall) (clock : ℕ) : SharedStage :=
  match call with
  | .lookup rq => if rq.bypasses then .ended .bypass clock else .l1Base
  | .store x now =>
      match x.written now with
      | none => .ended .done clock
      | some w => .l1Put w
  | .invalidate _ _ _ _ => .l1Remove

namespace SharedCache

/-- `ResponseCache::new`, before any call. -/
def init (capacity : ℕ) : SharedCache := ⟨.new capacity, fun _ => 0, fun _ => 0, [], 0⟩

/-- Call number `k` goes to another stage. -/
def move (s : SharedCache) (k : ℕ) (t : SharedTask) (stage : SharedStage) : SharedCache :=
  { s with tasks := s.tasks.set k { t with stage := stage }, clock := s.clock + 1 }

def setL1 (s : SharedCache) (l1 : L1Cache) : SharedCache :=
  { s with cache := { s.cache with l1 := l1 } }

def setL2 (s : SharedCache) (l2 : L2Cache) : SharedCache :=
  { s with cache := { s.cache with l2 := l2 } }

/-- `L1Cache::put`, of an entry of a store. -/
def putL1 (s : SharedCache) (op : CacheOp) (key : CacheKey) (entry : CachedResponse)
    (origin : ℕ) : SharedCache :=
  { s.setL1 (s.cache.l1.putThrough op.pick key entry) with
    l1From := Function.update s.l1From key.text origin }

/-- `L2Cache::put`, of an entry of a store: nothing is written without a lifetime or an
answer of Redis. -/
def putL2 (s : SharedCache) (op : CacheOp) (w : Written) (origin : ℕ) : SharedCache :=
  { s.setL2 (s.cache.l2.put op.redis w.key w.entry w.entry.ttlSecs) with
    l2From := if w.entry.ttlSecs ≠ 0 ∧ op.redis.up then
      Function.update s.l2From w.key.text origin else s.l2From }

/-- The next operation of a lookup. -/
def actLookup (s : SharedCache) (k : ℕ) (t : SharedTask) (rq : CacheRequest) (op : CacheOp) :
    Option SharedCache :=
  match t.stage with
  | .l1Base =>
      match s.cache.l1.get op.now rq.baseKey with
      | (none, l1) => some ((s.setL1 l1).move k t .l2Base)
      | (some first, l1) => some ((s.setL1 l1).move k t (.l1Full first))
  | .l1Full first =>
      let fullKey := rq.baseKey.withVary first.varyHeaders rq.headers
      match s.cache.l1.get op.now fullKey with
      | (none, l1) => some ((s.setL1 l1).move k t .l2Base)
      | (some entry, l1) =>
          some ((s.setL1 l1).move k t (.ended (.hit entry (s.l1From fullKey.text)) s.clock))
  | .l2Base =>
      match s.cache.l2.get op.redis rq.baseKey with
      | none => some (s.move k t (.ended .miss s.clock))
      | some entry =>
          let origin := s.l2From rq.baseKey.text
          let fullKey := rq.baseKey.withVary entry.varyHeaders rq.headers
          if fullKey ≠ rq.baseKey then some (s.move k t (.l2Full entry origin))
          else some (s.move k t (.promote fullKey entry origin))
  | .l2Full first origin =>
      let fullKey := rq.baseKey.withVary first.varyHeaders rq.headers
      match s.cache.l2.get op.redis fullKey with
      | none => some (s.move k t (.promote fullKey first origin))
      | some entry => some (s.move k t (.promote fullKey entry (s.l2From fullKey.text)))
  | .promote key entry origin =>
      some ((s.putL1 op key entry origin).move k t (.ended (.hit entry origin) s.clock))
  | _ => none

/-- The next operation of a store, number `k`. -/
def actStore (s : SharedCache) (k : ℕ) (t : SharedTask) (op : CacheOp) : Option SharedCache :=
  match t.stage with
  | .l1Put w =>
      let stage := if !w.isPrivate then .l2Put w else .ended .done s.clock
      some ((s.putL1 op w.key w.entry k).move k t stage)
  | .l2Put w => some ((s.putL2 op w k).move k t (.ended .done s.clock))
  | _ => none

/-- The next operation of an invalidation. -/
def actInvalidate (s : SharedCache) (k : ℕ) (t : SharedTask) (key : CacheKey) (op : CacheOp) :
    Option SharedCache :=
  match t.stage with
  | .l1Remove => some ((s.setL1 (s.cache.l1.invalidate key)).move k t .l2Remove)
  | .l2Remove =>
      some ((s.setL2 (s.cache.l2.invalidate op.redis key)).move k t (.ended .done s.clock))
  | _ => none

def act (s : SharedCache) (k : ℕ) (t : SharedTask) (op : CacheOp) : Option SharedCache :=
  match t.call with
  | .lookup rq => s.actLookup k t rq op
  | .store _ _ => s.actStore k t op
  | .invalidate routeId method path query =>
      s.actInvalidate k t (.new method routeId path query) op

/-- A call begins. -/
def begun (s : SharedCache) (call : SharedCall) : SharedCache :=
  { s with tasks := s.tasks ++ [⟨call, s.clock, call.first s.clock⟩], clock := s.clock + 1 }

def step (s : SharedCache) : SharedEvent → Option SharedCache
  | .begin call => some (s.begun call)
  | .act k op => (s.tasks[k]?).bind fun t => s.act k t op

def run (capacity : ℕ) (events : List SharedEvent) : Option SharedCache :=
  follow step (init capacity) events

end SharedCache

/-! ## What an operation does -/

/-- The call is an invalidation of the key. -/
def SharedTask.Invalidates (t : SharedTask) (key : CacheKey) : Prop :=
  match t.call with
  | .invalidate routeId method path query => CacheKey.new method routeId path query = key
  | _ => False

namespace SharedCache

/-- The second read of a lookup in a layer finds an entry of store number `origin`. -/
def FindsVariant (s : SharedCache) (t : SharedTask) (op : CacheOp) (rq : CacheRequest)
    (key : CacheKey) (origin : ℕ) : Prop :=
  ∃ first entry, key = rq.baseKey.withVary first.varyHeaders rq.headers ∧
    (t.stage = .l1Full first ∧ (s.cache.l1.get op.now key).1 = some entry ∧
        origin = s.l1From key.text ∨
      (∃ from_, t.stage = .l2Full first from_) ∧ s.cache.l2.get op.redis key = some entry ∧
        origin = s.l2From key.text)

section
variable {s s' mid : SharedCache} {k : ℕ} {t : SharedTask} {op : CacheOp} {stage : SharedStage}

/-- The operations of a call: the stage it goes to, and what is written before it goes
there. -/
inductive Acted (s : SharedCache) (k : ℕ) (t : SharedTask) (op : CacheOp) :
    SharedStage → SharedCache → Prop where
  | l1Missed {rq : CacheRequest} {l1' : L1Cache} : t.call = .lookup rq →
      ResponseCache.L1Within l1' s.cache.l1 → Acted s k t op .l2Base (s.setL1 l1')
  | l1Found {rq : CacheRequest} {first : CachedResponse} {l1' : L1Cache} :
      t.call = .lookup rq → ResponseCache.L1Within l1' s.cache.l1 →
      Acted s k t op (.l1Full first) (s.setL1 l1')
  | l1Hit {rq : CacheRequest} {first entry : CachedResponse} {l1' : L1Cache} :
      t.call = .lookup rq → t.stage = .l1Full first →
      (s.cache.l1.get op.now (rq.baseKey.withVary first.varyHeaders rq.headers)).1 =
        some entry → ResponseCache.L1Within l1' s.cache.l1 →
      Acted s k t op
        (.ended (.hit entry
          (s.l1From (rq.baseKey.withVary first.varyHeaders rq.headers).text)) s.clock)
        (s.setL1 l1')
  | l2Missed {rq : CacheRequest} : t.call = .lookup rq →
      Acted s k t op (.ended .miss s.clock) s
  | l2Found {rq : CacheRequest} {first : CachedResponse} : t.call = .lookup rq →
      s.cache.l2.get op.redis rq.baseKey = some first →
      Acted s k t op
        (if rq.baseKey.withVary first.varyHeaders rq.headers ≠ rq.baseKey then
          .l2Full first (s.l2From rq.baseKey.text)
        else
          .promote (rq.baseKey.withVary first.varyHeaders rq.headers) first
            (s.l2From rq.baseKey.text)) s
  | l2Full {rq : CacheRequest} {key : CacheKey} {first entry : CachedResponse}
      {origin origin' : ℕ} : t.call = .lookup rq → t.stage = .l2Full first origin →
      key = rq.baseKey.withVary first.varyHeaders rq.headers →
      entry = first ∧ origin' = origin ∨
        s.cache.l2.get op.redis key = some entry ∧ origin' = s.l2From key.text →
      Acted s k t op (.promote key entry origin') s
  | promoted {rq : CacheRequest} {key : CacheKey} {entry : CachedResponse} {origin : ℕ} :
      t.call = .lookup rq → t.stage = .promote key entry origin →
      Acted s k t op (.ended (.hit entry origin) s.clock) (s.putL1 op key entry origin)
  | storedL1 {x : CacheExchange} {now : ℕ} {w : Written} : t.call = .store x now →
      t.stage = .l1Put w →
      Acted s k t op (if !w.isPrivate then .l2Put w else .ended .done s.clock)
        (s.putL1 op w.key w.entry k)
  | storedL2 {x : CacheExchange} {now : ℕ} {w : Written} : t.call = .store x now →
      t.stage = .l2Put w → Acted s k t op (.ended .done s.clock) (s.putL2 op w k)
  | removedL1 {key : CacheKey} : t.Invalidates key → t.stage = .l1Remove →
      Acted s k t op .l2Remove (s.setL1 (s.cache.l1.invalidate key))
  | removedL2 {key : CacheKey} : t.Invalidates key → t.stage = .l2Remove →
      Acted s k t op (.ended .done s.clock) (s.setL2 (s.cache.l2.invalidate op.redis key))

theorem actLookup_acted {rq : CacheRequest} (hcall : t.call = .lookup rq)
    (h : s.actLookup k t rq op = some s') :
    ∃ stage mid, Acted s k t op stage mid ∧ s' = mid.move k t stage := by
  unfold actLookup at h
  cases hstage : t.stage with
  | l1Base =>
      simp only [hstage] at h
      have hwithin := ResponseCache.l1Within_get s.cache.l1 op.now rq.baseKey
      cases hget : s.cache.l1.get op.now rq.baseKey with
      | mk found l1 =>
      rw [hget] at hwithin
      cases found with
      | none =>
          simp only [hget, Option.some.injEq] at h
          exact ⟨_, _, .l1Missed hcall hwithin, h.symm⟩
      | some first =>
          simp only [hget, Option.some.injEq] at h
          exact ⟨_, _, .l1Found hcall hwithin, h.symm⟩
  | l1Full first =>
      simp only [hstage] at h
      have hwithin := ResponseCache.l1Within_get s.cache.l1 op.now
        (rq.baseKey.withVary first.varyHeaders rq.headers)
      cases hget : s.cache.l1.get op.now (rq.baseKey.withVary first.varyHeaders rq.headers) with
      | mk found l1 =>
      rw [hget] at hwithin
      cases found with
      | none =>
          simp only [hget, Option.some.injEq] at h
          exact ⟨_, _, .l1Missed hcall hwithin, h.symm⟩
      | some entry =>
          simp only [hget, Option.some.injEq] at h
          exact ⟨_, _, .l1Hit hcall hstage (congrArg Prod.fst hget) hwithin, h.symm⟩
  | l2Base =>
      simp only [hstage] at h
      cases hget : s.cache.l2.get op.redis rq.baseKey with
      | none =>
          simp only [hget, Option.some.injEq] at h
          exact ⟨_, _, .l2Missed hcall, h.symm⟩
      | some first =>
          simp only [hget] at h
          refine ⟨_, _, .l2Found hcall hget, ?_⟩
          split at h
          · next hvary =>
              rw [if_pos hvary]
              exact (Option.some.inj h).symm
          · next hplain =>
              rw [if_neg hplain]
              exact (Option.some.inj h).symm
  | l2Full first origin =>
      simp only [hstage] at h
      cases hget : s.cache.l2.get op.redis
          (rq.baseKey.withVary first.varyHeaders rq.headers) with
      | none =>
          simp only [hget, Option.some.injEq] at h
          exact ⟨_, _, .l2Full hcall hstage rfl (.inl ⟨rfl, rfl⟩), h.symm⟩
      | some entry =>
          simp only [hget, Option.some.injEq] at h
          exact ⟨_, _, .l2Full hcall hstage rfl (.inr ⟨hget, rfl⟩), h.symm⟩
  | promote key entry origin =>
      simp only [hstage, Option.some.injEq] at h
      exact ⟨_, _, .promoted hcall hstage, h.symm⟩
  | _ =>
      rw [hstage] at h
      cases h

theorem act_acted (h : s.act k t op = some s') :
    ∃ stage mid, Acted s k t op stage mid ∧ s' = mid.move k t stage := by
  unfold act at h
  cases hcall : t.call with
  | lookup rq =>
      rw [hcall] at h
      exact actLookup_acted hcall h
  | store x now =>
      simp only [hcall, actStore] at h
      cases hstage : t.stage with
      | l1Put w =>
          simp only [hstage, Option.some.injEq] at h
          exact ⟨_, _, .storedL1 hcall hstage, h.symm⟩
      | l2Put w =>
          simp only [hstage, Option.some.injEq] at h
          exact ⟨_, _, .storedL2 hcall hstage, h.symm⟩
      | _ =>
          rw [hstage] at h
          cases h
  | invalidate routeId method path query =>
      have hkey : t.Invalidates (.new method routeId path query) := by
        rw [SharedTask.Invalidates, hcall]
      simp only [hcall, actInvalidate] at h
      cases hstage : t.stage with
      | l1Remove =>
          simp only [hstage, Option.some.injEq] at h
          exact ⟨_, _, .removedL1 hkey hstage, h.symm⟩
      | l2Remove =>
          simp only [hstage, Option.some.injEq] at h
          exact ⟨_, _, .removedL2 hkey hstage, h.symm⟩
      | _ =>
          rw [hstage] at h
          cases h

theorem Acted.tasks (h : Acted s k t op stage mid) : mid.tasks = s.tasks := by
  cases h <;> rfl

theorem Acted.clock (h : Acted s k t op stage mid) : mid.clock = s.clock := by
  cases h <;> rfl

/-- A call that returns does so at this step. -/
theorem Acted.stamp (h : Acted s k t op stage mid) {answer : SharedAnswer} {at_ : ℕ}
    (hended : stage = .ended answer at_) : at_ = s.clock := by
  cases h with
  | l2Found =>
      split at hended <;> cases hended
  | storedL1 =>
      split at hended
      · cases hended
      · cases hended
        rfl
  | _ =>
      cases hended
      try rfl

theorem not_invalidates_lookup {rq : CacheRequest} (hcall : t.call = .lookup rq)
    (key : CacheKey) : ¬ t.Invalidates key := by
  rw [SharedTask.Invalidates, hcall]
  exact id

theorem not_invalidates_store {x : CacheExchange} {now : ℕ} (hcall : t.call = .store x now)
    (key : CacheKey) : ¬ t.Invalidates key := by
  rw [SharedTask.Invalidates, hcall]
  exact id

theorem invalidates_unique {key key' : CacheKey} (h : t.Invalidates key)
    (h' : t.Invalidates key') : key = key' := by
  unfold SharedTask.Invalidates at h h'
  cases hcall : t.call with
  | invalidate routeId method path query =>
      rw [hcall] at h h'
      exact h.symm.trans h'
  | _ =>
      rw [hcall] at h
      exact h.elim

theorem lookup_erase_self {V : Type} {m : StrMap V} {key : Str} : (m.erase key).lookup key = none :=
  AList.lookup_erase key m

/-- An invalidation removes its key from L1, and then from L2. -/
theorem Acted.invalidation (h : Acted s k t op stage mid) {key : CacheKey}
    (hinv : t.Invalidates key) :
    (t.stage = .l1Remove ∧ stage = .l2Remove ∧ mid = s.setL1 (s.cache.l1.invalidate key)) ∨
    (t.stage = .l2Remove ∧ mid = s.setL2 (s.cache.l2.invalidate op.redis key)) := by
  cases h with
  | l1Missed hcall => exact (not_invalidates_lookup hcall key hinv).elim
  | l1Found hcall => exact (not_invalidates_lookup hcall key hinv).elim
  | l1Hit hcall => exact (not_invalidates_lookup hcall key hinv).elim
  | l2Missed hcall => exact (not_invalidates_lookup hcall key hinv).elim
  | l2Found hcall => exact (not_invalidates_lookup hcall key hinv).elim
  | l2Full hcall => exact (not_invalidates_lookup hcall key hinv).elim
  | promoted hcall => exact (not_invalidates_lookup hcall key hinv).elim
  | storedL1 hcall => exact (not_invalidates_store hcall key hinv).elim
  | storedL2 hcall => exact (not_invalidates_store hcall key hinv).elim
  | removedL1 hkey hstage =>
      obtain rfl := invalidates_unique hkey hinv
      exact .inl ⟨hstage, rfl, rfl⟩
  | removedL2 hkey hstage =>
      obtain rfl := invalidates_unique hkey hinv
      exact .inr ⟨hstage, rfl⟩

theorem putL1_lookup {key key' : CacheKey} {entry e : CachedResponse} {origin : ℕ}
    (h : (s.putL1 op key' entry origin).cache.l1.store.lookup key.text = some e) :
    (key = key' ∧ e = entry ∧ (s.putL1 op key' entry origin).l1From key.text = origin) ∨
      s.cache.l1.store.lookup key.text = some e ∧
        (s.putL1 op key' entry origin).l1From key.text = s.l1From key.text := by
  by_cases hkey : key.text = key'.text
  · left
    obtain rfl := CacheKey.ext hkey
    exact ⟨rfl, Option.some.inj (h.symm.trans L1Cache.putThrough_lookup_self),
      Function.update_self _ _ _⟩
  · right
    rcases L1Cache.putThrough_lookup h with ⟨heq, _⟩ | hold
    · exact absurd heq hkey
    · exact ⟨hold, Function.update_of_ne hkey _ _⟩

theorem putL2_lookup {w : Written} {key : CacheKey} {v : CachedResponse × ℕ} {origin : ℕ}
    (h : (s.putL2 op w origin).cache.l2.store.lookup key.text = some v) :
    (key = w.key ∧ v.1 = w.entry ∧ (s.putL2 op w origin).l2From key.text = origin) ∨
      s.cache.l2.store.lookup key.text = some v ∧
        (s.putL2 op w origin).l2From key.text = s.l2From key.text := by
  by_cases hwritten : w.entry.ttlSecs ≠ 0 ∧ op.redis.up = true
  · by_cases hkey : key.text = w.key.text
    · left
      obtain rfl := CacheKey.ext hkey
      refine ⟨rfl, ?_, ?_⟩
      · change (s.cache.l2.put op.redis w.key w.entry w.entry.ttlSecs).store.lookup _ = _ at h
        rw [L2Cache.put, if_neg hwritten.1, if_pos hwritten.2] at h
        obtain rfl := Option.some.inj ((AList.lookup_insert _).symm.trans h)
        rfl
      · rw [putL2, if_pos hwritten]
        exact Function.update_self _ _ _
    · right
      rcases L2Cache.put_lookup h with ⟨heq, _⟩ | hold
      · exact absurd heq hkey
      · refine ⟨hold, ?_⟩
        rw [putL2, if_pos hwritten]
        exact Function.update_of_ne hkey _ _
  · right
    have hsame : s.cache.l2.put op.redis w.key w.entry w.entry.ttlSecs = s.cache.l2 := by
      unfold L2Cache.put
      grind
    rw [putL2, if_neg hwritten, hsame] at h
    refine ⟨h, ?_⟩
    rw [putL2, if_neg hwritten]

/-- What L1 has under a key after an operation was there before, or is of the store that
acts, or is promoted. -/
theorem Acted.l1 (h : Acted s k t op stage mid) {key : CacheKey} {e : CachedResponse}
    (he : mid.cache.l1.store.lookup key.text = some e) :
    (s.cache.l1.store.lookup key.text = some e ∧ mid.l1From key.text = s.l1From key.text) ∨
    mid.l1From key.text = k ∨
    ∃ rq entry, t.call = .lookup rq ∧ t.stage = .promote key entry (mid.l1From key.text) := by
  cases h with
  | l1Missed _ hwithin => exact .inl ⟨hwithin _ _ he, rfl⟩
  | l1Found _ hwithin => exact .inl ⟨hwithin _ _ he, rfl⟩
  | l1Hit _ _ _ hwithin => exact .inl ⟨hwithin _ _ he, rfl⟩
  | promoted hcall hstage =>
      rcases putL1_lookup he with ⟨rfl, _, hfrom⟩ | ⟨hold, hfrom⟩
      · exact .inr (.inr ⟨_, _, hcall, by rw [hfrom]; exact hstage⟩)
      · exact .inl ⟨hold, hfrom⟩
  | storedL1 =>
      rcases putL1_lookup he with ⟨rfl, _, hfrom⟩ | ⟨hold, hfrom⟩
      · exact .inr (.inl hfrom)
      · exact .inl ⟨hold, hfrom⟩
  | removedL1 => exact .inl ⟨L1Cache.invalidate_lookup he, rfl⟩
  | _ => exact .inl ⟨he, rfl⟩

/-- The same for L2, where only stores write. -/
theorem Acted.l2 (h : Acted s k t op stage mid) {key : CacheKey} {v : CachedResponse × ℕ}
    (hv : mid.cache.l2.store.lookup key.text = some v) :
    (s.cache.l2.store.lookup key.text = some v ∧ mid.l2From key.text = s.l2From key.text) ∨
    mid.l2From key.text = k := by
  cases h with
  | storedL2 =>
      rcases putL2_lookup hv with ⟨rfl, _, hfrom⟩ | ⟨hold, hfrom⟩
      · exact .inr hfrom
      · exact .inl ⟨hold, hfrom⟩
  | removedL2 => exact .inl ⟨L2Cache.invalidate_lookup hv, rfl⟩
  | _ => exact .inl ⟨hv, rfl⟩

end

/-! ## The store an entry is of -/

/-- Store number `origin` wrote the entry. -/
def Wrote (s : SharedCache) (origin : ℕ) (entry : CachedResponse) : Prop :=
  ∃ t x now w, s.tasks[origin]? = some t ∧ t.call = .store x now ∧ x.written now = some w ∧
    w.entry = entry

/-- A stage holds entries with the stores that wrote them, and a store what it is to write. -/
def StageSourced (wrote : ℕ → CachedResponse → Prop) (call : SharedCall) : SharedStage → Prop
  | .l2Full first origin => wrote origin first
  | .promote _ entry origin => wrote origin entry
  | .ended (.hit entry origin) _ => wrote origin entry
  | .l1Put w => ∃ x now, call = .store x now ∧ x.written now = some w
  | .l2Put w => ∃ x now, call = .store x now ∧ x.written now = some w
  | _ => True

/-- The numbers beside the cache are those of the stores that wrote its entries. -/
structure Sourced (s : SharedCache) : Prop where
  l1 : ∀ (key : CacheKey) e, s.cache.l1.store.lookup key.text = some e →
    s.Wrote (s.l1From key.text) e
  l2 : ∀ (key : CacheKey) v, s.cache.l2.store.lookup key.text = some v →
    s.Wrote (s.l2From key.text) v.1
  tasks : ∀ t ∈ s.tasks, StageSourced s.Wrote t.call t.stage

section
variable {s s' mid : SharedCache} {k : ℕ} {t : SharedTask} {op : CacheOp} {stage : SharedStage}
  {wrote wrote' : ℕ → CachedResponse → Prop} {call : SharedCall}

theorem StageSourced.mono (h : StageSourced wrote call stage)
    (hsub : ∀ origin entry, wrote origin entry → wrote' origin entry) :
    StageSourced wrote' call stage := by
  cases stage with
  | l2Full first origin => exact hsub _ _ h
  | promote key entry origin => exact hsub _ _ h
  | ended answer at_ =>
      cases answer with
      | hit entry origin => exact hsub _ _ h
      | _ => trivial
  | _ => exact h

theorem wrote_begun (call : SharedCall) (origin : ℕ) (entry : CachedResponse)
    (h : s.Wrote origin entry) : (s.begun call).Wrote origin entry := by
  obtain ⟨u, x, now, w, hu, hrest⟩ := h
  exact ⟨u, x, now, w, getElem?_appended_of_some _ hu, hrest⟩

variable (stage) in
theorem wrote_move (hk : s.tasks[k]? = some t) (htasks : mid.tasks = s.tasks) (origin : ℕ)
    (entry : CachedResponse) (h : s.Wrote origin entry) :
    (mid.move k t stage).Wrote origin entry := by
  obtain ⟨u, x, now, w, hu, hcall, hrest⟩ := h
  have hmoved : (mid.move k t stage).tasks[origin]? =
      if origin = k then some { t with stage := stage } else s.tasks[origin]? := by
    show (mid.tasks.set k { t with stage := stage })[origin]? = _
    rw [htasks, getElem?_replaced hk]
  by_cases horigin : origin = k
  · subst horigin
    cases hk.symm.trans hu
    rw [if_pos rfl] at hmoved
    exact ⟨_, x, now, w, hmoved, hcall, hrest⟩
  · rw [if_neg horigin] at hmoved
    exact ⟨u, x, now, w, hmoved.trans hu, hcall, hrest⟩

/-- What an operation writes, and what the call holds then, is of the store it is numbered
with. -/
theorem Acted.sourced (h : Acted s k t op stage mid) (hk : s.tasks[k]? = some t)
    (hs : Sourced s) :
    (∀ (key : CacheKey) e, mid.cache.l1.store.lookup key.text = some e →
      s.Wrote (mid.l1From key.text) e) ∧
    (∀ (key : CacheKey) v, mid.cache.l2.store.lookup key.text = some v →
      s.Wrote (mid.l2From key.text) v.1) ∧ StageSourced s.Wrote t.call stage := by
  have hheld := hs.tasks t (List.mem_of_getElem? hk)
  cases h with
  | l1Missed _ hwithin => exact ⟨fun key e he => hs.l1 key e (hwithin _ _ he), hs.l2, trivial⟩
  | l1Found _ hwithin => exact ⟨fun key e he => hs.l1 key e (hwithin _ _ he), hs.l2, trivial⟩
  | l1Hit _ _ hget hwithin =>
      have hlook := (L1Cache.get_eq_some.mp hget).1
      exact ⟨fun key e he => hs.l1 key e (hwithin _ _ he), hs.l2, hs.l1 _ _ hlook⟩
  | l2Missed => exact ⟨hs.l1, hs.l2, trivial⟩
  | l2Found _ hget =>
      obtain ⟨expiresAt, hlook⟩ := L2Cache.get_lookup hget
      have hwrote := hs.l2 _ _ hlook
      refine ⟨hs.l1, hs.l2, ?_⟩
      split
      · exact hwrote
      · exact hwrote
  | l2Full _ hstage _ hentry =>
      rw [hstage] at hheld
      refine ⟨hs.l1, hs.l2, ?_⟩
      rcases hentry with ⟨rfl, rfl⟩ | ⟨hget, rfl⟩
      · exact hheld
      · obtain ⟨expiresAt, hlook⟩ := L2Cache.get_lookup hget
        exact hs.l2 _ _ hlook
  | promoted _ hstage =>
      rw [hstage] at hheld
      refine ⟨?_, hs.l2, hheld⟩
      intro key e he
      rcases putL1_lookup he with ⟨rfl, rfl, hfrom⟩ | ⟨hold, hfrom⟩
      · rw [hfrom]
        exact hheld
      · rw [hfrom]
        exact hs.l1 key e hold
  | storedL1 _ hstage =>
      rw [hstage] at hheld
      obtain ⟨x, now, hcall, hw⟩ := hheld
      refine ⟨?_, hs.l2, ?_⟩
      · intro key e he
        rcases putL1_lookup he with ⟨rfl, rfl, hfrom⟩ | ⟨hold, hfrom⟩
        · rw [hfrom]
          exact ⟨t, x, now, _, hk, hcall, hw, rfl⟩
        · rw [hfrom]
          exact hs.l1 key e hold
      · split
        · exact ⟨x, now, hcall, hw⟩
        · trivial
  | storedL2 _ hstage =>
      rw [hstage] at hheld
      obtain ⟨x, now, hcall, hw⟩ := hheld
      refine ⟨hs.l1, ?_, trivial⟩
      intro key v hv
      rcases putL2_lookup hv with ⟨rfl, hentry, hfrom⟩ | ⟨hold, hfrom⟩
      · rw [hfrom]
        exact ⟨t, x, now, _, hk, hcall, hw, hentry.symm⟩
      · rw [hfrom]
        exact hs.l2 key v hold
  | removedL1 =>
      exact ⟨fun key e he => hs.l1 key e (L1Cache.invalidate_lookup he), hs.l2, trivial⟩
  | removedL2 =>
      exact ⟨hs.l1, fun key v hv => hs.l2 key v (L2Cache.invalidate_lookup hv), trivial⟩

theorem Sourced.act (h : Sourced s) (hk : s.tasks[k]? = some t)
    (hacted : Acted s k t op stage mid) : Sourced (mid.move k t stage) := by
  obtain ⟨hl1, hl2, hstage⟩ := hacted.sourced hk h
  have hmono := wrote_move stage hk hacted.tasks
  refine ⟨fun key e he => hmono _ _ (hl1 key e he), fun key v hv => hmono _ _ (hl2 key v hv), ?_⟩
  intro u hu
  change u ∈ mid.tasks.set k { t with stage := stage } at hu
  rw [hacted.tasks] at hu
  rcases List.mem_or_eq_of_mem_set hu with hold | rfl
  · exact (h.tasks u hold).mono hmono
  · exact hstage.mono hmono

theorem Sourced.begin (h : Sourced s) (call : SharedCall) : Sourced (s.begun call) := by
  have hmono := wrote_begun (s := s) call
  refine ⟨fun key e he => hmono _ _ (h.l1 key e he), fun key v hv => hmono _ _ (h.l2 key v hv),
    ?_⟩
  intro u hu
  rcases List.mem_append.mp hu with hold | hnew
  · exact (h.tasks u hold).mono hmono
  · obtain rfl := List.mem_singleton.mp hnew
    show StageSourced _ call (call.first s.clock)
    unfold SharedCall.first
    cases call with
    | lookup rq =>
        simp only
        split <;> trivial
    | store x now =>
        simp only
        split
        · trivial
        · next w hw => exact ⟨x, now, rfl, hw⟩
    | invalidate routeId method path query => trivial

theorem Sourced.initial (capacity : ℕ) : Sourced (init capacity) where
  l1 := by
    intro key e he
    exact absurd ((AList.lookup_empty key.text).symm.trans he) nofun
  l2 := by
    intro key v hv
    exact absurd ((AList.lookup_empty key.text).symm.trans hv) nofun
  tasks := by
    intro t ht
    exact absurd ht List.not_mem_nil

/-- **Origins are right.** In every run the numbers are those of the stores that wrote the
entries: so what a lookup returns is what the store it is numbered with has written. -/
theorem sourced_run {capacity : ℕ} {events : List SharedEvent}
    (hrun : run capacity events = some s) : Sourced s := by
  refine follow_invariant (P := fun _ s => Sourced s) (.initial capacity) ?_ events s hrun
  intro _ event s s' _ hsourced hstep
  cases event with
  | begin call =>
      cases hstep
      exact hsourced.begin call
  | act k op =>
      obtain ⟨t, hk, hact⟩ := Option.bind_eq_some_iff.mp hstep
      obtain ⟨stage, mid, hacted, rfl⟩ := act_acted hact
      exact hsourced.act hk hacted

end

/-! ## A call that is alone -/

/-- What a lookup returned, without the store. -/
def answered : SharedAnswer → Option CacheLookup
  | .bypass => some .bypass
  | .miss => some .miss
  | .hit entry _ => some (.hit entry)
  | .done => none

/-- Some operations of call number `k` bring it to its end, with this cache and answer. -/
def Finishes (s : SharedCache) (k : ℕ) (cache : ResponseCache) (ok : SharedAnswer → Prop) : Prop :=
  ∃ events s' t answer stop, follow step s events = some s' ∧ s'.cache = cache ∧
    s'.tasks[k]? = some t ∧ t.stage = .ended answer stop ∧ ok answer

section
variable {s : SharedCache} {k : ℕ} {t : SharedTask} {cache : ResponseCache}
  {ok : SharedAnswer → Prop}

theorem finishes_ended (answer : SharedAnswer) (stop : ℕ) (hk : s.tasks[k]? = some t)
    (hstage : t.stage = .ended answer stop) (hok : ok answer) : s.Finishes k s.cache ok :=
  ⟨[], s, t, answer, stop, rfl, rfl, hk, hstage, hok⟩

theorem Finishes.cons {s₁ : SharedCache} {event : SharedEvent} (h : s₁.Finishes k cache ok)
    (hstep : s.step event = some s₁) : s.Finishes k cache ok := by
  obtain ⟨events, s', t, answer, stop, hrun, hrest⟩ := h
  refine ⟨event :: events, s', t, answer, stop, ?_, hrest⟩
  rw [follow_cons, hstep]
  exact hrun

/-- An operation, and the end from where it leads. -/
theorem finishes_act (op : CacheOp) (mid : SharedCache) (stage : SharedStage)
    (hk : s.tasks[k]? = some t) (hact : s.act k t op = some (mid.move k t stage))
    (htasks : mid.tasks = s.tasks)
    (h : (mid.move k t stage).tasks[k]? = some { t with stage := stage } →
      (mid.move k t stage).Finishes k cache ok) : s.Finishes k cache ok := by
  have hmoved : (mid.move k t stage).tasks[k]? = some { t with stage := stage } := by
    show (mid.tasks.set k { t with stage := stage })[k]? = _
    rw [htasks]
    exact getElem?_replaced_self hk _
  have hstep : s.step (.act k op) = some (mid.move k t stage) := by
    rw [step, hk]
    exact hact
  exact (h hmoved).cons hstep

/-- The operation a call returns from. -/
theorem finishes_last (op : CacheOp) (mid : SharedCache) (answer : SharedAnswer)
    (hk : s.tasks[k]? = some t)
    (hact : s.act k t op = some (mid.move k t (.ended answer s.clock)))
    (htasks : mid.tasks = s.tasks) (hok : ok answer) : s.Finishes k mid.cache ok :=
  finishes_act op mid _ hk hact htasks fun hmoved => finishes_ended _ _ hmoved rfl hok

variable (env : CacheEnv)

/-- The operation of a call that sends the `i`-th command of its environment. -/
def opOf (i : ℕ) : CacheOp := ⟨env.now, env.pick, env.redis i⟩

section
variable {rq : CacheRequest}

theorem promote_alone {key : CacheKey} {entry : CachedResponse} {origin : ℕ}
    (hk : s.tasks[k]? = some t) (hcall : t.call = .lookup rq)
    (hstage : t.stage = .promote key entry origin) :
    s.Finishes k { s.cache with l1 := s.cache.l1.putThrough env.pick key entry }
      fun answer => answered answer = some (.hit entry) := by
  refine finishes_last (opOf env 0) (s.putL1 (opOf env 0) key entry origin) (.hit entry origin) hk
    ?_ rfl rfl
  simp [act, actLookup, hcall, hstage]

theorem lookupL2_alone (hk : s.tasks[k]? = some t) (hcall : t.call = .lookup rq)
    (hstage : t.stage = .l2Base) :
    s.Finishes k (s.cache.lookupL2 env rq).2
      fun answer => answered answer = some (s.cache.lookupL2 env rq).1 := by
  unfold ResponseCache.lookupL2
  cases hget : s.cache.l2.get (env.redis 0) rq.baseKey with
  | none =>
      refine finishes_last (opOf env 0) s .miss hk ?_ rfl rfl
      simp [act, actLookup, hcall, hstage, opOf, hget]
  | some first =>
  simp only
  generalize hfull : rq.baseKey.withVary first.varyHeaders rq.headers = fullKey
  by_cases hkey : fullKey ≠ rq.baseKey
  · rw [if_pos hkey]
    refine finishes_act (opOf env 0) s (.l2Full first (s.l2From rq.baseKey.text)) hk ?_ rfl ?_
    · simp [act, actLookup, hcall, hstage, opOf, hget, hfull, hkey]
    intro hmoved
    cases hvary : s.cache.l2.get (env.redis 1) fullKey with
    | none =>
        refine finishes_act (opOf env 1) _ (.promote fullKey first (s.l2From rq.baseKey.text))
          hmoved ?_ rfl ?_
        · simp [act, actLookup, hcall, move, opOf, hfull, hvary]
        intro hmoved'
        exact promote_alone env hmoved' hcall rfl
    | some entry =>
        refine finishes_act (opOf env 1) _ (.promote fullKey entry (s.l2From fullKey.text))
          hmoved ?_ rfl ?_
        · simp [act, actLookup, hcall, move, opOf, hfull, hvary]
        intro hmoved'
        exact promote_alone env hmoved' hcall rfl
  · rw [if_neg hkey]
    refine finishes_act (opOf env 0) s (.promote fullKey first (s.l2From rq.baseKey.text)) hk ?_
      rfl ?_
    · simp [act, actLookup, hcall, hstage, opOf, hget, hfull, hkey]
    intro hmoved
    exact promote_alone env hmoved hcall rfl

/-- The second read of L1, and what comes after it. -/
def l1FullEnd (cache : ResponseCache) (rq : CacheRequest) (first : CachedResponse) :
    CacheLookup × ResponseCache :=
  match cache.l1.get env.now (rq.baseKey.withVary first.varyHeaders rq.headers) with
  | (none, l1) => ResponseCache.lookupL2 { cache with l1 := l1 } env rq
  | (some entry, l1) => (.hit entry, { cache with l1 := l1 })

theorem l1Full_alone {first : CachedResponse} (hk : s.tasks[k]? = some t)
    (hcall : t.call = .lookup rq) (hstage : t.stage = .l1Full first) :
    s.Finishes k (l1FullEnd env s.cache rq first).2
      fun answer => answered answer = some (l1FullEnd env s.cache rq first).1 := by
  unfold l1FullEnd
  generalize hfull : rq.baseKey.withVary first.varyHeaders rq.headers = fullKey
  cases hget : s.cache.l1.get env.now fullKey with
  | mk found l1 =>
  cases found with
  | none =>
      refine finishes_act (opOf env 0) (s.setL1 l1) .l2Base hk ?_ rfl ?_
      · simp [act, actLookup, hcall, hstage, opOf, hfull, hget]
      intro hmoved
      exact lookupL2_alone env hmoved hcall rfl
  | some entry =>
      refine finishes_last (opOf env 0) (s.setL1 l1) (.hit entry (s.l1From fullKey.text)) hk ?_ rfl
        rfl
      simp [act, actLookup, hcall, hstage, opOf, hfull, hget]

/-- **A lookup alone** is `ResponseCache.lookup`. -/
theorem lookup_alone (s : SharedCache) (rq : CacheRequest) :
    (s.begun (.lookup rq)).Finishes s.tasks.length (s.cache.lookup env rq).2
      fun answer => answered answer = some (s.cache.lookup env rq).1 := by
  have hk : (s.begun (.lookup rq)).tasks[s.tasks.length]? =
      some ⟨.lookup rq, s.clock, (SharedCall.lookup rq).first s.clock⟩ :=
    List.getElem?_concat_length
  unfold ResponseCache.lookup
  by_cases hby : rq.bypasses = true
  · rw [if_pos hby]
    refine finishes_ended .bypass s.clock hk ?_ rfl
    simp [SharedCall.first, hby]
  rw [if_neg hby]
  have hstage : (SharedCall.lookup rq).first s.clock = .l1Base := by
    simp [SharedCall.first, hby]
  rw [hstage] at hk
  cases hfirst : s.cache.l1.get env.now rq.baseKey with
  | mk first l1 =>
  cases first with
  | none =>
      refine finishes_act (opOf env 0) ((s.begun (.lookup rq)).setL1 l1) .l2Base hk ?_ rfl ?_
      · simp [act, actLookup, begun, opOf, hfirst]
      intro hmoved
      exact lookupL2_alone env hmoved rfl rfl
  | some first =>
      -- the entry under the base key is fresh, and L1 is as it was
      obtain ⟨hlook, hfresh⟩ := L1Cache.get_eq_some.mp (congrArg Prod.fst hfirst)
      obtain rfl : s.cache.l1 = l1 := by
        rw [L1Cache.get_fresh hlook hfresh] at hfirst
        exact congrArg Prod.snd hfirst
      refine finishes_act (opOf env 0) ((s.begun (.lookup rq)).setL1 s.cache.l1) (.l1Full first) hk
        ?_ rfl ?_
      · simp [act, actLookup, begun, opOf, hfirst]
      intro hmoved
      exact l1Full_alone env hmoved rfl rfl

end

/-- **A store alone** is `ResponseCache.store`. -/
theorem store_alone (s : SharedCache) (x : CacheExchange) :
    (s.begun (.store x env.now)).Finishes s.tasks.length (s.cache.store env x) (· = .done) := by
  have hk : (s.begun (.store x env.now)).tasks[s.tasks.length]? =
      some ⟨.store x env.now, s.clock, (SharedCall.store x env.now).first s.clock⟩ :=
    List.getElem?_concat_length
  cases hw : x.written env.now with
  | none =>
      rw [ResponseCache.store_of_not_written env hw]
      refine finishes_ended .done s.clock hk ?_ rfl
      simp [SharedCall.first, hw]
  | some w =>
  have hstage : (SharedCall.store x env.now).first s.clock = .l1Put w := by
    simp [SharedCall.first, hw]
  rw [hstage] at hk
  rw [ResponseCache.store_of_written env hw]
  by_cases hprivate : w.isPrivate = true
  · simp only [hprivate, Bool.not_true, Bool.false_eq_true, ↓reduceIte]
    refine finishes_last (opOf env 0) ((s.begun (.store x env.now)).putL1 (opOf env 0) w.key w.entry
      s.tasks.length) .done hk ?_ rfl rfl
    simp [act, actStore, hprivate]
  · simp only [hprivate, Bool.not_false, ↓reduceIte]
    refine finishes_act (opOf env 0) ((s.begun (.store x env.now)).putL1 (opOf env 0) w.key w.entry
      s.tasks.length) (.l2Put w) hk ?_ rfl ?_
    · simp [act, actStore, hprivate]
    intro hmoved
    exact finishes_last (opOf env 0) (putL2 _ (opOf env 0) w s.tasks.length) .done hmoved rfl
      rfl rfl

/-- **An invalidation alone** is `ResponseCache.invalidate`. -/
theorem invalidate_alone (s : SharedCache) (routeId method path : Str) (query : Option Str) :
    (s.begun (.invalidate routeId method path query)).Finishes s.tasks.length
      (s.cache.invalidate env routeId method path query) (· = .done) := by
  have hk : (s.begun (.invalidate routeId method path query)).tasks[s.tasks.length]? =
      some ⟨.invalidate routeId method path query, s.clock, .l1Remove⟩ :=
    List.getElem?_concat_length
  refine finishes_act (opOf env 0) ((s.begun (.invalidate routeId method path query)).setL1
    (s.cache.l1.invalidate (.new method routeId path query))) .l2Remove hk rfl rfl ?_
  intro hmoved
  exact finishes_last (opOf env 0) (setL2 _ (s.cache.l2.invalidate (env.redis 0)
    (.new method routeId path query))) .done hmoved rfl rfl rfl

end

end SharedCache

end Stateform
