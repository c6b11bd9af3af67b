import Mathlib.Algebra.Order.Floor.Semiring
import Mathlib.Data.Rat.Floor
import Stateform.Cache.Replay
import Stateform.Cache.Shared

/-!
# How long an entry lives

Any number of gateways with an L1 of their own and one Redis, under one clock of rational
seconds. Calls of `lookup` and `store` are taken from one operation to the next, in any
interleaving, each operation at an instant of its own; gateways read whole seconds. A call
that takes no time does what the function does (`lookup_instant`, `store_instant`). Each
copy of an entry is followed to the store that made it. However often it is promoted, it is
not found once the lifetime it was made with is over, counted from the `SETEX` for what has
come through Redis (`hit_in_time`); the lookup that found it in time may still return later.
-/

namespace Stateform

open Library

/-! ## Copies -/

/-- The store call a copy is of, by its number, and whether the copy came through Redis. -/
structure CopyOrigin : Type where
  store : ℕ
  viaRedis : Bool
deriving DecidableEq

/-- An entry that a lookup has read, and when. -/
structure ReadCopy : Type where
  entry : CachedResponse
  origin : CopyOrigin
  readAt : ℚ
deriving DecidableEq

/-- `SystemTime::now` in whole seconds since the epoch; before it, zero. -/
def unixSecs (now : ℚ) : ℕ := ⌊now⌋₊

/-! ## Redis -/

/-- What Redis holds: each entry with the instant its key is dropped. -/
abbrev RedisEntries : Type := StrMap (CachedResponse × ℚ)

namespace RedisEntries

/-- `L2Cache::get`. -/
def get (redis : RedisEntries) (up : Bool) (now : ℚ) (key : CacheKey) : Option CachedResponse :=
  if up then
    match redis.lookup key.text with
    | some (entry, expiresAt) => if now < expiresAt then some entry else none
    | none => none
  else none

/-- `L2Cache::put`: whether its `SETEX` ran. -/
def puts (up : Bool) (ttlSecs : ℕ) : Bool := ttlSecs ≠ 0 && up

/-- A `SETEX` that runs. -/
def setex (redis : RedisEntries) (now : ℚ) (w : Written) : RedisEntries :=
  redis.insert w.key.text (w.entry, now + w.entry.ttlSecs)

theorem get_eq_some {redis : RedisEntries} {up : Bool} {now : ℚ} {key : CacheKey}
    {e : CachedResponse} (h : redis.get up now key = some e) :
    ∃ expiresAt, redis.lookup key.text = some (e, expiresAt) ∧ now < expiresAt := by
  unfold get at h
  cases hup : up with
  | false => simp [hup] at h
  | true =>
      cases hlook : redis.lookup key.text with
      | none => simp [hup, hlook] at h
      | some v =>
          obtain ⟨entry, expiresAt⟩ := v
          by_cases hlt : now < expiresAt
          · obtain rfl : entry = e := by simpa [hup, hlook, hlt] using h
            exact ⟨expiresAt, rfl, hlt⟩
          · simp [hup, hlook, hlt] at h

theorem setex_lookup {redis : RedisEntries} {now : ℚ} {w : Written} {k : Str}
    {v : CachedResponse × ℚ} (h : (redis.setex now w).lookup k = some v) :
    (k = w.key.text ∧ v = (w.entry, now + w.entry.ttlSecs)) ∨
      k ≠ w.key.text ∧ redis.lookup k = some v := by
  unfold setex at h
  by_cases hk : k = w.key.text
  · subst hk
    rw [AList.lookup_insert] at h
    exact .inl ⟨rfl, (Option.some.inj h).symm⟩
  · rw [AList.lookup_insert_ne hk] at h
    exact .inr ⟨hk, h⟩

end RedisEntries

/-! ## Calls, operation by operation -/

inductive ReplicaCall : Type where
  | lookup (rq : CacheRequest)
  | store (x : CacheExchange)

/-- The operation a call does next, or how it ended. A lookup holds what it has read, a
store what it has made, and when; at its end, when its `SETEX` ran. -/
inductive ReplicaStage : Type where
  | l1Base
  | l1Full (first : CachedResponse)
  | l2Base
  | l2Full (first : ReadCopy)
  | promote (key : CacheKey) (copy : ReadCopy)
  | bypassed
  | missed
  | hit (copy : ReadCopy) (returnedAt : ℚ)
  | make
  | l1Put (createdAt : ℚ) (w : Written)
  | l2Put (createdAt : ℚ) (w : Written)
  | stored (createdAt : ℚ) (w : Written) (setexAt : Option ℚ)
  | notStored

/-- A call on the way, and the gateway it runs on. -/
structure ReplicaTask : Type where
  call : ReplicaCall
  replica : ℕ
  startedAt : ℚ
  stage : ReplicaStage

/-- What an operation meets: the instant, the entry an eviction takes, and whether Redis is
reached. -/
structure ReplicaOp : Type where
  now : ℚ
  pick : ℕ
  up : Bool

/-- A call begins on a gateway, or the call of a number does its next operation. -/
inductive ReplicaEvent : Type where
  | begin (now : ℚ) (replica : ℕ) (call : ReplicaCall)
  | act (k : ℕ) (op : ReplicaOp)

/-- The gateways' L1 caches, Redis, and the calls, numbered as they came. Beside them
stands, for each key, the origin of the copy each cache has there. -/
structure Replicas : Type where
  l1 : ℕ → L1Cache
  redis : RedisEntries
  l1From : ℕ → Str → CopyOrigin
  redisFrom : Str → ℕ
  tasks : List ReplicaTask
  clock : ℚ

def ReplicaCall.first : ReplicaCall → ReplicaStage
  | .lookup rq => if rq.bypasses then .bypassed else .l1Base
  | .store _ => .make

namespace Replicas

/-- Before any call, at the epoch. -/
def init (capacity : ℕ → ℕ) : Replicas where
  l1 := fun replica => .new (capacity replica)
  redis := ∅
  l1From := fun _ _ => ⟨0, false⟩
  redisFrom := fun _ => 0
  tasks := []
  clock := 0

/-- Call number `k` goes to another stage. -/
def move (s : Replicas) (k : ℕ) (t : ReplicaTask) (stage : ReplicaStage) (now : ℚ) : Replicas :=
  { s with tasks := s.tasks.set k { t with stage := stage }, clock := now }

def setL1 (s : Replicas) (replica : ℕ) (l1 : L1Cache) : Replicas :=
  { s with l1 := Function.update s.l1 replica l1 }

/-- `L1Cache::put`, of a copy. -/
def putL1 (s : Replicas) (replica pick : ℕ) (key : CacheKey) (entry : CachedResponse)
    (origin : CopyOrigin) : Replicas :=
  { s.setL1 replica ((s.l1 replica).putThrough pick key entry) with
    l1From := Function.update s.l1From replica
      (Function.update (s.l1From replica) key.text origin) }

/-- A `SETEX` of store number `k`. -/
def setex (s : Replicas) (now : ℚ) (w : Written) (k : ℕ) : Replicas :=
  { s with
    redis := s.redis.setex now w
    redisFrom := Function.update s.redisFrom w.key.text k }

/-- The next operation of a lookup. -/
def actLookup (s : Replicas) (k : ℕ) (t : ReplicaTask) (rq : CacheRequest) (op : ReplicaOp) :
    Option Replicas :=
  match t.stage with
  | .l1Base =>
      match (s.l1 t.replica).get (unixSecs op.now) rq.baseKey with
      | (none, l1) => some ((s.setL1 t.replica l1).move k t .l2Base op.now)
      | (some first, l1) => some ((s.setL1 t.replica l1).move k t (.l1Full first) op.now)
  | .l1Full first =>
      let fullKey := rq.baseKey.withVary first.varyHeaders rq.headers
      match (s.l1 t.replica).get (unixSecs op.now) fullKey with
      | (none, l1) => some ((s.setL1 t.replica l1).move k t .l2Base op.now)
      | (some entry, l1) =>
          let copy := ⟨entry, s.l1From t.replica fullKey.text, op.now⟩
          some ((s.setL1 t.replica l1).move k t (.hit copy op.now) op.now)
  | .l2Base =>
      match s.redis.get op.up op.now rq.baseKey with
      | none => some (s.move k t .missed op.now)
      | some entry =>
          let copy := ⟨entry, ⟨s.redisFrom rq.baseKey.text, true⟩, op.now⟩
          let fullKey := rq.baseKey.withVary entry.varyHeaders rq.headers
          if fullKey ≠ rq.baseKey then some (s.move k t (.l2Full copy) op.now)
          else some (s.move k t (.promote fullKey copy) op.now)
  | .l2Full first =>
      let fullKey := rq.baseKey.withVary first.entry.varyHeaders rq.headers
      match s.redis.get op.up op.now fullKey with
      | none => some (s.move k t (.promote fullKey first) op.now)
      | some entry =>
          let copy := ⟨entry, ⟨s.redisFrom fullKey.text, true⟩, op.now⟩
          some (s.move k t (.promote fullKey copy) op.now)
  | .promote key copy =>
      some ((s.putL1 t.replica op.pick key copy.entry copy.origin).move k t (.hit copy op.now)
        op.now)
  | _ => none

/-- The next operation of a store, number `k`. Its entry is made at an instant of its own,
before it is put anywhere. -/
def actStore (s : Replicas) (k : ℕ) (t : ReplicaTask) (x : CacheExchange) (op : ReplicaOp) :
    Option Replicas :=
  match t.stage with
  | .make =>
      match x.written (unixSecs op.now) with
      | none => some (s.move k t .notStored op.now)
      | some w => some (s.move k t (.l1Put op.now w) op.now)
  | .l1Put createdAt w =>
      let stage := if !w.isPrivate then .l2Put createdAt w else .stored createdAt w none
      some ((s.putL1 t.replica op.pick w.key w.entry ⟨k, false⟩).move k t stage op.now)
  | .l2Put createdAt w =>
      if RedisEntries.puts op.up w.entry.ttlSecs then
        some ((s.setex op.now w k).move k t (.stored createdAt w (some op.now)) op.now)
      else some (s.move k t (.stored createdAt w none) op.now)
  | _ => none

def act (s : Replicas) (k : ℕ) (t : ReplicaTask) (op : ReplicaOp) : Option Replicas :=
  match t.call with
  | .lookup rq => s.actLookup k t rq op
  | .store x => s.actStore k t x op

/-- A call begins. -/
def begun (s : Replicas) (now : ℚ) (replica : ℕ) (call : ReplicaCall) : Replicas :=
  { s with tasks := s.tasks ++ [⟨call, replica, now, call.first⟩], clock := now }

/-- The clock does not go back. -/
def step (s : Replicas) : ReplicaEvent → Option Replicas
  | .begin now replica call => if s.clock ≤ now then some (s.begun now replica call) else none
  | .act k op => if s.clock ≤ op.now then (s.tasks[k]?).bind fun t => s.act k t op else none

def run (capacity : ℕ → ℕ) (events : List ReplicaEvent) : Option Replicas :=
  follow step (init capacity) events

/-! ## What an operation does -/

section
variable {s s' mid : Replicas} {k : ℕ} {t : ReplicaTask} {op : ReplicaOp} {stage : ReplicaStage}

/-- A lookup reads a copy, from its gateway's L1 or from Redis. -/
inductive Reads (s : Replicas) (t : ReplicaTask) (op : ReplicaOp) : ReadCopy → Prop where
  | l1 {key : CacheKey} {entry : CachedResponse} :
      (s.l1 t.replica).store.lookup key.text = some entry →
      entry.isExpired (unixSecs op.now) = false →
      Reads s t op ⟨entry, s.l1From t.replica key.text, op.now⟩
  | redis {key : CacheKey} {entry : CachedResponse} {expiresAt : ℚ} :
      s.redis.lookup key.text = some (entry, expiresAt) → op.now < expiresAt →
      Reads s t op ⟨entry, ⟨s.redisFrom key.text, true⟩, op.now⟩

/-- The operations of a call: the stage it goes to, and what is written before it goes
there. -/
inductive Acted (s : Replicas) (k : ℕ) (t : ReplicaTask) (op : ReplicaOp) :
    ReplicaStage → Replicas → Prop where
  | missed {rq : CacheRequest} {stage : ReplicaStage} {l1' : L1Cache} : t.call = .lookup rq →
      ResponseCache.L1Within l1' (s.l1 t.replica) →
      stage = .l2Base ∨ stage = .missed ∨ (∃ first, stage = .l1Full first) →
      Acted s k t op stage (s.setL1 t.replica l1')
  | hit {rq : CacheRequest} {l1' : L1Cache} {copy : ReadCopy} : t.call = .lookup rq →
      ResponseCache.L1Within l1' (s.l1 t.replica) → Reads s t op copy →
      Acted s k t op (.hit copy op.now) (s.setL1 t.replica l1')
  | read {rq : CacheRequest} {stage : ReplicaStage} {copy : ReadCopy} : t.call = .lookup rq →
      Reads s t op copy ∨ t.stage = .l2Full copy →
      stage = .l2Full copy ∨ (∃ key, stage = .promote key copy) →
      Acted s k t op stage s
  | promoted {rq : CacheRequest} {key : CacheKey} {copy : ReadCopy} : t.call = .lookup rq →
      t.stage = .promote key copy →
      Acted s k t op (.hit copy op.now) (s.putL1 t.replica op.pick key copy.entry copy.origin)
  | made {x : CacheExchange} {w : Written} : t.call = .store x → t.stage = .make →
      x.written (unixSecs op.now) = some w → Acted s k t op (.l1Put op.now w) s
  | notStored {x : CacheExchange} : t.call = .store x → t.stage = .make →
      Acted s k t op .notStored s
  | storedL1 {x : CacheExchange} {createdAt : ℚ} {w : Written} {stage : ReplicaStage} :
      t.call = .store x → t.stage = .l1Put createdAt w →
      stage = .l2Put createdAt w ∨ stage = .stored createdAt w none →
      Acted s k t op stage (s.putL1 t.replica op.pick w.key w.entry ⟨k, false⟩)
  | notInRedis {x : CacheExchange} {createdAt : ℚ} {w : Written} : t.call = .store x →
      t.stage = .l2Put createdAt w → Acted s k t op (.stored createdAt w none) s
  | inRedis {x : CacheExchange} {createdAt : ℚ} {w : Written} : t.call = .store x →
      t.stage = .l2Put createdAt w →
      Acted s k t op (.stored createdAt w (some op.now)) (s.setex op.now w k)

theorem actLookup_acted {rq : CacheRequest} (hcall : t.call = .lookup rq)
    (h : s.actLookup k t rq op = some s') :
    ∃ stage mid, Acted s k t op stage mid ∧ s' = mid.move k t stage op.now := by
  unfold actLookup at h
  have hsame : s.setL1 t.replica (s.l1 t.replica) = s := by
    simp [setL1]
  cases hstage : t.stage with
  | l1Base =>
      simp only [hstage] at h
      have hwithin := ResponseCache.l1Within_get (s.l1 t.replica) (unixSecs op.now) rq.baseKey
      cases hget : (s.l1 t.replica).get (unixSecs op.now) rq.baseKey with
      | mk found l1 =>
      rw [hget] at hwithin
      cases found with
      | none =>
          simp only [hget, Option.some.injEq] at h
          exact ⟨_, _, .missed hcall hwithin (.inl rfl), h.symm⟩
      | some first =>
          simp only [hget, Option.some.injEq] at h
          exact ⟨_, _, .missed hcall hwithin (.inr (.inr ⟨first, rfl⟩)), h.symm⟩
  | l1Full first =>
      simp only [hstage] at h
      have hwithin := ResponseCache.l1Within_get (s.l1 t.replica) (unixSecs op.now)
        (rq.baseKey.withVary first.varyHeaders rq.headers)
      cases hget : (s.l1 t.replica).get (unixSecs op.now)
          (rq.baseKey.withVary first.varyHeaders rq.headers) with
      | mk found l1 =>
      rw [hget] at hwithin
      cases found with
      | none =>
          simp only [hget, Option.some.injEq] at h
          exact ⟨_, _, .missed hcall hwithin (.inl rfl), h.symm⟩
      | some entry =>
          simp only [hget, Option.some.injEq] at h
          obtain ⟨hlook, hfresh⟩ := L1Cache.get_eq_some.mp (congrArg Prod.fst hget)
          exact ⟨_, _, .hit hcall hwithin (.l1 hlook hfresh), h.symm⟩
  | l2Base =>
      simp only [hstage] at h
      cases hget : s.redis.get op.up op.now rq.baseKey with
      | none =>
          simp only [hget, Option.some.injEq] at h
          have hmissed : Acted s k t op .missed (s.setL1 t.replica (s.l1 t.replica)) :=
            .missed hcall (fun _ _ he => he) (.inr (.inl rfl))
          rw [hsame] at hmissed
          exact ⟨_, s, hmissed, h.symm⟩
      | some first =>
          simp only [hget] at h
          obtain ⟨expiresAt, hlook, hlt⟩ := RedisEntries.get_eq_some hget
          split at h
          · exact ⟨_, _, .read hcall (.inl (.redis hlook hlt)) (.inl rfl),
              (Option.some.inj h).symm⟩
          · exact ⟨_, _, .read hcall (.inl (.redis hlook hlt)) (.inr ⟨_, rfl⟩),
              (Option.some.inj h).symm⟩
  | l2Full first =>
      simp only [hstage] at h
      cases hget : s.redis.get op.up op.now
          (rq.baseKey.withVary first.entry.varyHeaders rq.headers) with
      | none =>
          simp only [hget, Option.some.injEq] at h
          exact ⟨_, _, .read hcall (.inr hstage) (.inr ⟨_, rfl⟩), h.symm⟩
      | some entry =>
          simp only [hget, Option.some.injEq] at h
          obtain ⟨expiresAt, hlook, hlt⟩ := RedisEntries.get_eq_some hget
          exact ⟨_, _, .read hcall (.inl (.redis hlook hlt)) (.inr ⟨_, rfl⟩), h.symm⟩
  | promote key copy =>
      simp only [hstage, Option.some.injEq] at h
      exact ⟨_, _, .promoted hcall hstage, h.symm⟩
  | _ =>
      rw [hstage] at h
      cases h

theorem actStore_acted {x : CacheExchange} (hcall : t.call = .store x)
    (h : s.actStore k t x op = some s') :
    ∃ stage mid, Acted s k t op stage mid ∧ s' = mid.move k t stage op.now := by
  unfold actStore at h
  cases hstage : t.stage with
  | make =>
      simp only [hstage] at h
      cases hwritten : x.written (unixSecs op.now) with
      | none =>
          simp only [hwritten, Option.some.injEq] at h
          exact ⟨_, _, .notStored hcall hstage, h.symm⟩
      | some w =>
          simp only [hwritten, Option.some.injEq] at h
          exact ⟨_, _, .made hcall hstage hwritten, h.symm⟩
  | l1Put createdAt w =>
      simp only [hstage, Option.some.injEq] at h
      refine ⟨_, _, .storedL1 hcall hstage ?_, h.symm⟩
      cases w.isPrivate with
      | false => exact .inl rfl
      | true => exact .inr rfl
  | l2Put createdAt w =>
      simp only [hstage] at h
      split at h
      · exact ⟨_, _, .inRedis hcall hstage, (Option.some.inj h).symm⟩
      · exact ⟨_, _, .notInRedis hcall hstage, (Option.some.inj h).symm⟩
  | _ =>
      rw [hstage] at h
      cases h

theorem act_acted (h : s.act k t op = some s') :
    ∃ stage mid, Acted s k t op stage mid ∧ s' = mid.move k t stage op.now := by
  unfold act at h
  cases hcall : t.call with
  | lookup rq =>
      rw [hcall] at h
      exact actLookup_acted hcall h
  | store x =>
      rw [hcall] at h
      exact actStore_acted hcall h

theorem Acted.tasks (h : Acted s k t op stage mid) : mid.tasks = s.tasks := by
  cases h <;> rfl

theorem putL1_lookup {replica replica' pick : ℕ} {key key' : CacheKey} {entry e : CachedResponse}
    {origin : CopyOrigin}
    (h : ((s.putL1 replica' pick key' entry origin).l1 replica).store.lookup key.text = some e) :
    (e = entry ∧ (s.putL1 replica' pick key' entry origin).l1From replica key.text = origin) ∨
      (s.l1 replica).store.lookup key.text = some e ∧
        (s.putL1 replica' pick key' entry origin).l1From replica key.text =
          s.l1From replica key.text := by
  have hl1 : (s.putL1 replica' pick key' entry origin).l1 = Function.update s.l1 replica'
      ((s.l1 replica').putThrough pick key' entry) := rfl
  have hfrom : (s.putL1 replica' pick key' entry origin).l1From =
      Function.update s.l1From replica'
        (Function.update (s.l1From replica') key'.text origin) := rfl
  rw [hl1] at h
  rw [hfrom]
  -- the put is seen on its own replica only, and there under its own key
  by_cases hreplica : replica = replica'
  · subst hreplica
    rw [Function.update_self] at h ⊢
    by_cases hkey : key.text = key'.text
    · rw [hkey, L1Cache.putThrough_lookup_self] at h
      rw [hkey, Function.update_self]
      exact .inl ⟨(Option.some.inj h).symm, rfl⟩
    · rw [Function.update_of_ne hkey]
      rcases L1Cache.putThrough_lookup h with ⟨htext, _⟩ | hold
      · exact absurd htext hkey
      · exact .inr ⟨hold, rfl⟩
  · rw [Function.update_of_ne hreplica] at h ⊢
    exact .inr ⟨h, rfl⟩

theorem setL1_lookup {replica replica' : ℕ} {key : CacheKey} {e : CachedResponse} {l1' : L1Cache}
    (hwithin : ResponseCache.L1Within l1' (s.l1 replica'))
    (h : ((s.setL1 replica' l1').l1 replica).store.lookup key.text = some e) :
    (s.l1 replica).store.lookup key.text = some e := by
  have hl1 : (s.setL1 replica' l1').l1 = Function.update s.l1 replica' l1' := rfl
  rw [hl1] at h
  by_cases hreplica : replica = replica'
  · subst hreplica
    rw [Function.update_self] at h
    exact hwithin _ _ h
  · rwa [Function.update_of_ne hreplica] at h

end

end Replicas

/-! ## How long a copy lives -/

/-- When a store made its entry, and what it made. -/
def ReplicaStage.made : ReplicaStage → Option (ℚ × Written)
  | .l1Put createdAt w => some (createdAt, w)
  | .l2Put createdAt w => some (createdAt, w)
  | .stored createdAt w _ => some (createdAt, w)
  | _ => none

/-- What a call returned as a hit, and when. -/
def ReplicaStage.returned : ReplicaStage → Option (ReadCopy × ℚ)
  | .hit copy returnedAt => some (copy, returnedAt)
  | _ => none

/-- When the `SETEX` of a store ran. -/
def ReplicaStage.setexAt : ReplicaStage → Option ℚ
  | .stored _ _ setexAt => setexAt
  | _ => none

namespace Replicas

/-- A store call made the entry then. Where the copy came through Redis, the delay is that
from there to the call's `SETEX`; else there is none. -/
structure MadeBy (s : Replicas) (entry : CachedResponse) (origin : CopyOrigin)
    (createdAt delay : ℚ) : Prop where
  store : ∃ u x w, s.tasks[origin.store]? = some u ∧ u.call = .store x ∧
    u.stage.made = some (createdAt, w) ∧ x.written (unixSecs createdAt) = some w ∧
    w.entry = entry ∧
    (if origin.viaRedis then u.stage.setexAt = some (createdAt + delay) else delay = 0)
  createdAt_nonneg : 0 ≤ createdAt
  delay_nonneg : 0 ≤ delay

/-- The copy was read before its time was over. -/
def InTime (made : CachedResponse → CopyOrigin → ℚ → ℚ → Prop) (copy : ReadCopy) : Prop :=
  ∃ createdAt delay, made copy.entry copy.origin createdAt delay ∧
    copy.readAt < createdAt + copy.entry.ttlSecs + delay

/-- What a call holds: a lookup copies that were in time when it read them, a store what it
has made. -/
def StageInTime (made : CachedResponse → CopyOrigin → ℚ → ℚ → Prop) (clock : ℚ)
    (t : ReplicaTask) : Prop :=
  match t.stage with
  | .l2Full copy => InTime made copy ∧ t.startedAt ≤ copy.readAt ∧ copy.readAt ≤ clock
  | .promote _ copy => InTime made copy ∧ t.startedAt ≤ copy.readAt ∧ copy.readAt ≤ clock
  | .hit copy returnedAt => InTime made copy ∧ t.startedAt ≤ copy.readAt ∧
      copy.readAt ≤ returnedAt
  | .l1Put createdAt w => (∃ x, t.call = .store x ∧ x.written (unixSecs createdAt) = some w) ∧
      0 ≤ createdAt ∧ createdAt ≤ clock
  | .l2Put createdAt w => (∃ x, t.call = .store x ∧ x.written (unixSecs createdAt) = some w) ∧
      0 ≤ createdAt ∧ createdAt ≤ clock
  | _ => True

/-- Every copy is of the store it is followed to, and Redis drops each at the end of its
time. -/
structure Timely (s : Replicas) : Prop where
  clock : 0 ≤ s.clock
  l1 : ∀ replica (key : CacheKey) e, (s.l1 replica).store.lookup key.text = some e →
    ∃ createdAt delay, s.MadeBy e (s.l1From replica key.text) createdAt delay
  redis : ∀ (key : CacheKey) v, s.redis.lookup key.text = some v →
    ∃ createdAt delay, s.MadeBy v.1 ⟨s.redisFrom key.text, true⟩ createdAt delay ∧
      v.2 = createdAt + v.1.ttlSecs + delay
  tasks : ∀ t ∈ s.tasks, t.startedAt ≤ s.clock ∧ StageInTime s.MadeBy s.clock t

section
variable {s s' mid : Replicas} {k : ℕ} {t : ReplicaTask} {op : ReplicaOp} {stage : ReplicaStage}
  {entry : CachedResponse} {origin : CopyOrigin} {createdAt delay now clock : ℚ}
  {made made' : CachedResponse → CopyOrigin → ℚ → ℚ → Prop}

/-- An entry is fresh in whole seconds only within its lifetime: rounding down what it was
made at and what the time is loses less than the one second that `is_expired` asks for. -/
theorem lt_of_fresh (hcreated : 0 ≤ createdAt) (hstored : entry.storedAtSecs = unixSecs createdAt)
    (hfresh : entry.isExpired (unixSecs now) = false) : now < createdAt + entry.ttlSecs := by
  rw [CachedResponse.isExpired, decide_eq_false_iff_not, hstored] at hfresh
  have hsecs : unixSecs now + 1 ≤ unixSecs createdAt + entry.ttlSecs := by omega
  have hsecs' : (unixSecs now : ℚ) + 1 ≤ unixSecs createdAt + entry.ttlSecs := by
    exact_mod_cast hsecs
  calc now < (unixSecs now : ℚ) + 1 := Nat.lt_floor_add_one now
    _ ≤ (unixSecs createdAt : ℚ) + entry.ttlSecs := hsecs'
    _ ≤ createdAt + entry.ttlSecs := by
        have hfloor : (unixSecs createdAt : ℚ) ≤ createdAt := Nat.floor_le hcreated
        linarith

theorem MadeBy.storedAt (h : s.MadeBy entry origin createdAt delay) :
    entry.storedAtSecs = unixSecs createdAt := by
  obtain ⟨u, x, w, -, -, -, hwritten, rfl, -⟩ := h.store
  exact written_storedAt hwritten

/-- What a lookup reads is in time: from L1 by `is_expired`, from Redis by the expiry of
its key. -/
theorem Reads.inTime {copy : ReadCopy} (h : Reads s t op copy) (hs : Timely s) :
    InTime s.MadeBy copy ∧ copy.readAt = op.now := by
  cases h with
  | l1 hlook hfresh =>
      obtain ⟨createdAt, delay, hmade⟩ := hs.l1 _ _ _ hlook
      refine ⟨⟨createdAt, delay, hmade, ?_⟩, rfl⟩
      have hlt := lt_of_fresh hmade.createdAt_nonneg hmade.storedAt hfresh
      have hdelay := hmade.delay_nonneg
      show op.now < _
      linarith
  | redis hlook hlt =>
      obtain ⟨createdAt, delay, hmade, hexpires⟩ := hs.redis _ _ hlook
      refine ⟨⟨createdAt, delay, hmade, ?_⟩, rfl⟩
      show op.now < _
      rwa [← hexpires]

theorem StageInTime.mono (h : StageInTime made clock t)
    (hsub : ∀ entry origin createdAt delay, made entry origin createdAt delay →
      made' entry origin createdAt delay) (hclock : clock ≤ now) :
    StageInTime made' now t := by
  have hcopy : ∀ copy, InTime made copy → InTime made' copy := by
    rintro copy ⟨createdAt, delay, hmade, hlt⟩
    exact ⟨createdAt, delay, hsub _ _ _ _ hmade, hlt⟩
  unfold StageInTime at h ⊢
  cases hstage : t.stage with
  | l2Full copy =>
      rw [hstage] at h
      exact ⟨hcopy copy h.1, h.2.1, h.2.2.trans hclock⟩
  | promote key copy =>
      rw [hstage] at h
      exact ⟨hcopy copy h.1, h.2.1, h.2.2.trans hclock⟩
  | hit copy returnedAt =>
      rw [hstage] at h
      exact ⟨hcopy copy h.1, h.2⟩
  | l1Put createdAt w =>
      rw [hstage] at h
      exact ⟨h.1, h.2.1, h.2.2.trans hclock⟩
  | l2Put createdAt w =>
      rw [hstage] at h
      exact ⟨h.1, h.2.1, h.2.2.trans hclock⟩
  | _ => trivial

theorem madeBy_begun (replica : ℕ) (call : ReplicaCall)
    (h : s.MadeBy entry origin createdAt delay) :
    (s.begun now replica call).MadeBy entry origin createdAt delay := by
  obtain ⟨⟨u, x, w, hu, hrest⟩, hcreated, hdelay⟩ := h
  exact ⟨⟨u, x, w, getElem?_appended_of_some _ hu, hrest⟩, hcreated, hdelay⟩

/-- A store keeps what it has made, and when its `SETEX` ran. -/
theorem Acted.kept (h : Acted s k t op stage mid) {x : CacheExchange} (hcall : t.call = .store x)
    {p : ℚ × Written} (hmade : t.stage.made = some p) :
    stage.made = some p ∧ ∀ at_, t.stage.setexAt = some at_ → stage.setexAt = some at_ := by
  cases h with
  | missed hcall' => cases hcall.symm.trans hcall'
  | hit hcall' => cases hcall.symm.trans hcall'
  | read hcall' => cases hcall.symm.trans hcall'
  | promoted hcall' => cases hcall.symm.trans hcall'
  | made _ hstage =>
      rw [hstage] at hmade
      cases hmade
  | notStored _ hstage =>
      rw [hstage] at hmade
      cases hmade
  | storedL1 _ hstage hnext =>
      rw [hstage] at hmade ⊢
      refine ⟨?_, by rintro at_ ⟨⟩⟩
      rcases hnext with rfl | rfl
      · exact hmade
      · exact hmade
  | notInRedis _ hstage =>
      rw [hstage] at hmade ⊢
      exact ⟨hmade, by rintro at_ ⟨⟩⟩
  | inRedis _ hstage =>
      rw [hstage] at hmade ⊢
      exact ⟨hmade, by rintro at_ ⟨⟩⟩

variable (stage now) in
theorem move_tasks (hk : s.tasks[k]? = some t) (htasks : mid.tasks = s.tasks) (i : ℕ) :
    (mid.move k t stage now).tasks[i]? =
      if i = k then some { t with stage := stage } else s.tasks[i]? := by
  show (mid.tasks.set k { t with stage := stage })[i]? = _
  rw [htasks, getElem?_replaced hk]

theorem Acted.madeBy (h : Acted s k t op stage mid) (hk : s.tasks[k]? = some t)
    (hmade : s.MadeBy entry origin createdAt delay) :
    (mid.move k t stage op.now).MadeBy entry origin createdAt delay := by
  obtain ⟨⟨u, x, w, hu, hcall, hstage, hwritten, hentry, hdelay⟩, hcreated, hnonneg⟩ := hmade
  have hmoved := move_tasks stage op.now hk h.tasks origin.store
  -- the store the copy is followed to is the call that acts, or is left alone
  by_cases horigin : origin.store = k
  · rw [horigin] at hu
    cases hk.symm.trans hu
    rw [if_pos horigin] at hmoved
    obtain ⟨hstage', hsetex⟩ := h.kept hcall hstage
    refine ⟨⟨_, x, w, hmoved, hcall, hstage', hwritten, hentry, ?_⟩, hcreated, hnonneg⟩
    split at hdelay
    · next hvia =>
        rw [if_pos hvia]
        exact hsetex _ hdelay
    · next hvia =>
        rw [if_neg hvia]
        exact hdelay
  · rw [if_neg horigin] at hmoved
    exact ⟨⟨u, x, w, hmoved.trans hu, hcall, hstage, hwritten, hentry, hdelay⟩, hcreated,
      hnonneg⟩

/-- What an operation leaves in the L1 caches is of the store it is followed to. -/
theorem Acted.l1 (h : Acted s k t op stage mid) (hk : s.tasks[k]? = some t) (hs : Timely s)
    (replica : ℕ) (key : CacheKey) {e : CachedResponse}
    (he : (mid.l1 replica).store.lookup key.text = some e) :
    ∃ createdAt delay, s.MadeBy e (mid.l1From replica key.text) createdAt delay := by
  -- a promotion and a store put an entry there, and both hold it already
  have hheld := (hs.tasks t (List.mem_of_getElem? hk)).2
  cases h with
  | missed _ hwithin => exact hs.l1 replica key e (setL1_lookup hwithin he)
  | hit _ hwithin => exact hs.l1 replica key e (setL1_lookup hwithin he)
  | promoted _ hstage =>
      rw [StageInTime, hstage] at hheld
      obtain ⟨⟨createdAt, delay, hmade, -⟩, -⟩ := hheld
      rcases putL1_lookup he with ⟨rfl, hfrom⟩ | ⟨hold, hfrom⟩
      · rw [hfrom]
        exact ⟨createdAt, delay, hmade⟩
      · rw [hfrom]
        exact hs.l1 replica key e hold
  | @storedL1 x createdAt w _ hcall hstage =>
      rw [StageInTime, hstage] at hheld
      obtain ⟨⟨x', hcall', hwritten⟩, hcreated, -⟩ := hheld
      rcases putL1_lookup he with ⟨rfl, hfrom⟩ | ⟨hold, hfrom⟩
      · rw [hfrom]
        have hmade : t.stage.made = some (createdAt, w) := by
          rw [hstage]
          rfl
        exact ⟨createdAt, 0, ⟨t, x', w, hk, hcall', hmade, hwritten, rfl, rfl⟩, hcreated, le_rfl⟩
      · rw [hfrom]
        exact hs.l1 replica key e hold
  | read => exact hs.l1 replica key e he
  | made => exact hs.l1 replica key e he
  | notStored => exact hs.l1 replica key e he
  | notInRedis => exact hs.l1 replica key e he
  | inRedis => exact hs.l1 replica key e he

/-- What an operation leaves in Redis is dropped a lifetime after its `SETEX`. -/
theorem Acted.redis (h : Acted s k t op stage mid) (hk : s.tasks[k]? = some t) (hs : Timely s)
    (hclock : s.clock ≤ op.now) (key : CacheKey) {v : CachedResponse × ℚ}
    (hv : mid.redis.lookup key.text = some v) :
    ∃ createdAt delay,
      (mid.move k t stage op.now).MadeBy v.1 ⟨mid.redisFrom key.text, true⟩ createdAt delay ∧
        v.2 = createdAt + v.1.ttlSecs + delay := by
  have hheld := (hs.tasks t (List.mem_of_getElem? hk)).2
  have hold : s.redis.lookup key.text = some v → mid.redisFrom key.text = s.redisFrom key.text →
      ∃ createdAt delay,
        (mid.move k t stage op.now).MadeBy v.1 ⟨mid.redisFrom key.text, true⟩ createdAt delay ∧
          v.2 = createdAt + v.1.ttlSecs + delay := by
    intro hlook hfrom
    obtain ⟨createdAt, delay, hmade, hexpires⟩ := hs.redis key v hlook
    rw [hfrom]
    exact ⟨createdAt, delay, h.madeBy hk hmade, hexpires⟩
  -- only a `SETEX` writes Redis, with the lifetime it counts from then
  cases h with
  | @inRedis x createdAt w hcall hstage =>
      rw [StageInTime, hstage] at hheld
      obtain ⟨⟨x', hcall', hwritten⟩, hcreated, hle⟩ := hheld
      rcases RedisEntries.setex_lookup hv with ⟨hkey, rfl⟩ | ⟨hkey, hlook⟩
      · have hfrom : (s.setex op.now w k).redisFrom key.text = k := by
          show Function.update s.redisFrom w.key.text k key.text = k
          rw [hkey, Function.update_self]
        have htasks : (s.setex op.now w k).tasks = s.tasks := rfl
        have hmoved := move_tasks (.stored createdAt w (some op.now)) op.now hk htasks k
        rw [if_pos rfl] at hmoved
        have hsetex : some op.now = some (createdAt + (op.now - createdAt)) := by
          congr 1
          ring
        rw [hfrom]
        refine ⟨createdAt, op.now - createdAt, ⟨⟨_, x', w, hmoved, hcall', rfl, hwritten, rfl,
          hsetex⟩, hcreated, sub_nonneg.mpr (hle.trans hclock)⟩, ?_⟩
        show op.now + (w.entry.ttlSecs : ℚ) = createdAt + w.entry.ttlSecs + (op.now - createdAt)
        ring
      · apply hold hlook
        show Function.update s.redisFrom w.key.text k key.text = _
        rw [Function.update_of_ne hkey]
  | _ => exact hold hv rfl

/-- What a call holds after an operation is in time. -/
theorem Acted.held (h : Acted s k t op stage mid) (hk : s.tasks[k]? = some t) (hs : Timely s)
    (hclock : s.clock ≤ op.now) :
    StageInTime s.MadeBy op.now { t with stage := stage } := by
  obtain ⟨hstarted, hheld⟩ := hs.tasks t (List.mem_of_getElem? hk)
  have hnow : t.startedAt ≤ op.now := hstarted.trans hclock
  cases h with
  | missed _ _ hstage => rcases hstage with rfl | rfl | ⟨first, rfl⟩ <;> trivial
  | hit _ _ hreads =>
      obtain ⟨htime, hread⟩ := hreads.inTime hs
      refine ⟨htime, ?_, ?_⟩
      · rw [hread]
        exact hnow
      · rw [hread]
  | @read rq stage copy _ hcopy hstage =>
      -- with no variant in Redis, the copy read under the base key is kept
      have hread : InTime s.MadeBy copy ∧ t.startedAt ≤ copy.readAt ∧ copy.readAt ≤ op.now := by
        rcases hcopy with hreads | hfirst
        · obtain ⟨htime, hread⟩ := hreads.inTime hs
          rw [hread]
          exact ⟨htime, hnow, le_rfl⟩
        · rw [StageInTime, hfirst] at hheld
          exact ⟨hheld.1, hheld.2.1, hheld.2.2.trans hclock⟩
      rcases hstage with rfl | ⟨key, rfl⟩
      · exact hread
      · exact hread
  | promoted _ hstage =>
      rw [StageInTime, hstage] at hheld
      exact ⟨hheld.1, hheld.2.1, hheld.2.2.trans hclock⟩
  | made hcall _ hwritten => exact ⟨⟨_, hcall, hwritten⟩, hs.clock.trans hclock, le_rfl⟩
  | notStored => trivial
  | storedL1 _ hstage hnext =>
      rw [StageInTime, hstage] at hheld
      rcases hnext with rfl | rfl
      · exact ⟨hheld.1, hheld.2.1, hheld.2.2.trans hclock⟩
      · trivial
  | notInRedis => trivial
  | inRedis => trivial

theorem Timely.act (h : Timely s) (hk : s.tasks[k]? = some t)
    (hacted : Acted s k t op stage mid) (hclock : s.clock ≤ op.now) :
    Timely (mid.move k t stage op.now) where
  clock := h.clock.trans hclock
  l1 := by
    intro replica key e he
    obtain ⟨createdAt, delay, hmade⟩ := hacted.l1 hk h replica key he
    exact ⟨createdAt, delay, hacted.madeBy hk hmade⟩
  redis := fun key v hv => hacted.redis hk h hclock key hv
  tasks := by
    intro u hu
    have hmono : ∀ entry origin createdAt delay, s.MadeBy entry origin createdAt delay →
        (mid.move k t stage op.now).MadeBy entry origin createdAt delay :=
      fun _ _ _ _ hmade => hacted.madeBy hk hmade
    change u ∈ mid.tasks.set k { t with stage := stage } at hu
    rw [hacted.tasks] at hu
    rcases List.mem_or_eq_of_mem_set hu with hold | rfl
    · obtain ⟨hstarted, hheld⟩ := h.tasks u hold
      exact ⟨hstarted.trans hclock, hheld.mono hmono hclock⟩
    · have hstarted := (h.tasks t (List.mem_of_getElem? hk)).1
      exact ⟨hstarted.trans hclock, (hacted.held hk h hclock).mono hmono le_rfl⟩

theorem Timely.begin (h : Timely s) (replica : ℕ) (call : ReplicaCall) (hclock : s.clock ≤ now) :
    Timely (s.begun now replica call) where
  clock := h.clock.trans hclock
  l1 := by
    intro r key e he
    obtain ⟨createdAt, delay, hmade⟩ := h.l1 r key e he
    exact ⟨createdAt, delay, madeBy_begun replica call hmade⟩
  redis := by
    intro key v hv
    obtain ⟨createdAt, delay, hmade, hexpires⟩ := h.redis key v hv
    exact ⟨createdAt, delay, madeBy_begun replica call hmade, hexpires⟩
  tasks := by
    intro u hu
    rcases List.mem_append.mp hu with hold | hnew
    · obtain ⟨hstarted, hheld⟩ := h.tasks u hold
      exact ⟨hstarted.trans hclock,
        hheld.mono (fun _ _ _ _ hmade => madeBy_begun replica call hmade) hclock⟩
    · obtain rfl := List.mem_singleton.mp hnew
      refine ⟨le_rfl, ?_⟩
      show StageInTime _ _ ⟨call, replica, now, call.first⟩
      cases call with
      | lookup rq =>
          show StageInTime _ _ ⟨_, _, _, if rq.bypasses then .bypassed else .l1Base⟩
          by_cases hby : rq.bypasses
          · rw [if_pos hby]
            trivial
          · rw [if_neg hby]
            trivial
      | store x => trivial

theorem Timely.initial (capacity : ℕ → ℕ) : Timely (init capacity) where
  clock := le_rfl
  l1 := by
    intro replica key e he
    cases (AList.lookup_empty key.text).symm.trans he
  redis := by
    intro key v hv
    cases (AList.lookup_empty key.text).symm.trans hv
  tasks := by
    intro t ht
    exact absurd ht List.not_mem_nil

/-- Every state of every run keeps the lifetimes. -/
theorem timely_run {capacity : ℕ → ℕ} {events : List ReplicaEvent}
    (hrun : run capacity events = some s) : Timely s := by
  refine follow_invariant (P := fun _ s => Timely s) (.initial capacity) ?_ events s hrun
  intro _ event s s' _ htimely hstep
  cases event with
  | begin now replica call =>
      simp only [step] at hstep
      split at hstep
      · next hclock =>
          cases hstep
          exact htimely.begin replica call hclock
      · cases hstep
  | act k op =>
      simp only [step] at hstep
      split at hstep
      · next hclock =>
          obtain ⟨t, hk, hact⟩ := Option.bind_eq_some_iff.mp hstep
          obtain ⟨stage, mid, hacted, rfl⟩ := act_acted hact
          exact htimely.act hk hacted hclock
      · cases hstep

end

/-- One gateway stores: the entry is made half a second after the epoch, and comes into
Redis after one second. Another one finds it there, and promotes it. -/
def promotedRun (now : ℚ) : List ReplicaEvent :=
  [.begin (1 / 2) 0 (.store emptyVaryExchange), .act 0 ⟨1 / 2, 0, true⟩, .act 0 ⟨3 / 4, 0, true⟩,
    .act 0 ⟨1, 0, true⟩, .begin now 1 (.lookup emptyVaryExchange.toCacheRequest),
    .act 1 ⟨now, 0, true⟩, .act 1 ⟨now, 0, true⟩, .act 1 ⟨now, 0, true⟩]

/-- At 60.75 the copy in Redis is older than its lifetime, and still found. -/
theorem promotedRun_returned :
    ((run (fun _ => 10) (promotedRun (243 / 4))).bind fun s =>
      (s.tasks[1]?).bind fun t => ReplicaStage.returned t.stage) =
        some (⟨.new 0 200 [("vary".toList, [])] [111, 107] 60 [], ⟨0, true⟩, 243 / 4⟩,
          243 / 4) := by
  decide +kernel

/-- A lookup that finds an entry of another request under its key, and so asks Redis for a
second key. The reply comes when the entry's time is over. -/
def awaitingRun : List ReplicaEvent :=
  [.begin (1 / 2) 0 (.store usersExchange), .act 0 ⟨1 / 2, 0, true⟩, .act 0 ⟨3 / 4, 0, true⟩,
    .act 0 ⟨1, 0, true⟩, .begin (243 / 4) 1 (.lookup spelledRequest),
    .act 1 ⟨243 / 4, 0, true⟩, .act 1 ⟨243 / 4, 0, true⟩, .act 1 ⟨70, 0, true⟩,
    .act 1 ⟨70, 0, true⟩]

/-- The `SETEX` ran at 1, and the lookup returns at 70 what it read at 60.75. -/
theorem awaitingRun_returned :
    ((run (fun _ => 10) awaitingRun).bind fun s =>
      (s.tasks[0]?).bind fun u => (s.tasks[1]?).bind fun t =>
        t.stage.returned.map fun hit => (u.stage.setexAt, hit)) =
      some (some 1, ⟨.new 0 200 [("vary".toList, "Accept".toList)] [117] 60 ["accept".toList],
        ⟨0, true⟩, 243 / 4⟩, 70) := by
  decide +kernel

/-- What a lookup returned. -/
def lookedUp : ReplicaStage → Option CacheLookup
  | .bypassed => some .bypass
  | .missed => some .miss
  | .hit copy _ => some (.hit copy.entry)
  | _ => none

/-- A cache shows what the calls of a gateway meet at an instant: its L1, and what Redis
still has then, if it is reached. -/
structure Shows (s : Replicas) (replica : ℕ) (now : ℚ) (env : CacheEnv) (cmd : RedisCommand)
    (cache : ResponseCache) : Prop where
  clock : s.clock ≤ now
  l1 : cache.l1 = s.l1 replica
  secs : env.now = unixSecs now
  redis : ∀ i, env.redis i = cmd
  l2 : ∀ key, cache.l2.get cmd key = s.redis.get cmd.up now key

/-- Some operations of call number `k`, all at this instant, bring it to its end, with this
cache and stage. -/
def EndsAt (s : Replicas) (k replica : ℕ) (now : ℚ) (env : CacheEnv) (cmd : RedisCommand)
    (cache : ResponseCache) (ok : ReplicaStage → Prop) : Prop :=
  ∃ (ops : List ReplicaOp) (s' : Replicas) (t : ReplicaTask), (∀ op ∈ ops, op.now = now) ∧
    follow step s (ops.map (.act k)) = some s' ∧ s'.tasks[k]? = some t ∧ ok t.stage ∧
      s'.Shows replica now env cmd cache

section
variable {s mid : Replicas} {k replica : ℕ} {t : ReplicaTask} {now : ℚ} {env : CacheEnv}
  {cmd : RedisCommand} {cache : ResponseCache} {ok : ReplicaStage → Prop} {l1 : L1Cache}
  {rq : CacheRequest}

theorem endsAt_ended (hk : s.tasks[k]? = some t) (hok : ok t.stage)
    (hshows : s.Shows replica now env cmd cache) : s.EndsAt k replica now env cmd cache ok :=
  ⟨[], s, t, by simp, rfl, hk, hok, hshows⟩

/-- An operation, and the end from where it leads. -/
theorem endsAt_act (pick : ℕ) (up : Bool) (mid : Replicas) (stage : ReplicaStage)
    (hk : s.tasks[k]? = some t) (hclock : s.clock ≤ now)
    (hact : s.act k t ⟨now, pick, up⟩ = some (mid.move k t stage now))
    (htasks : mid.tasks = s.tasks)
    (h : (mid.move k t stage now).tasks[k]? = some { t with stage := stage } →
      (mid.move k t stage now).EndsAt k replica now env cmd cache ok) :
    s.EndsAt k replica now env cmd cache ok := by
  have hmoved := move_tasks stage now hk htasks k
  rw [if_pos rfl] at hmoved
  have hstep : s.step (.act k ⟨now, pick, up⟩) = some (mid.move k t stage now) := by
    rw [step, if_pos hclock, hk]
    exact hact
  obtain ⟨ops, s', t', hnow, hrun, hrest⟩ := h hmoved
  refine ⟨⟨now, pick, up⟩ :: ops, s', t', ?_, ?_, hrest⟩
  · intro op hop
    rcases List.mem_cons.mp hop with rfl | hop
    · rfl
    · exact hnow op hop
  · rw [List.map_cons, follow_cons, hstep]
    exact hrun

/-- The operation a call returns from. -/
theorem endsAt_last (pick : ℕ) (up : Bool) (mid : Replicas) (stage : ReplicaStage)
    (hk : s.tasks[k]? = some t) (hclock : s.clock ≤ now)
    (hact : s.act k t ⟨now, pick, up⟩ = some (mid.move k t stage now))
    (htasks : mid.tasks = s.tasks) (hok : ok stage)
    (hshows : (mid.move k t stage now).Shows replica now env cmd cache) :
    s.EndsAt k replica now env cmd cache ok :=
  endsAt_act pick up mid stage hk hclock hact htasks fun hmoved =>
    endsAt_ended hmoved hok hshows

theorem Shows.move (h : s.Shows replica now env cmd cache) (stage : ReplicaStage) :
    (s.move k t stage now).Shows replica now env cmd cache :=
  ⟨le_rfl, h.l1, h.secs, h.redis, h.l2⟩

theorem Shows.setL1 (h : s.Shows replica now env cmd cache) (l1 : L1Cache) :
    (s.setL1 replica l1).Shows replica now env cmd { cache with l1 := l1 } := by
  refine ⟨h.clock, ?_, h.secs, h.redis, h.l2⟩
  show l1 = Function.update s.l1 replica l1 replica
  rw [Function.update_self]

theorem Shows.putL1 (h : s.Shows replica now env cmd cache) (pick : ℕ) (key : CacheKey)
    (entry : CachedResponse) (origin : CopyOrigin) :
    (s.putL1 replica pick key entry origin).Shows replica now env cmd
      { cache with l1 := cache.l1.putThrough pick key entry } := by
  refine ⟨h.clock, ?_, h.secs, h.redis, h.l2⟩
  show cache.l1.putThrough pick key entry =
    Function.update s.l1 replica ((s.l1 replica).putThrough pick key entry) replica
  rw [Function.update_self, h.l1]

/-- A `SETEX` of the gateway is seen at once. -/
theorem Shows.setex (h : s.Shows replica now env cmd cache) {w : Written} (k : ℕ)
    (hup : cmd.up = true) (httl : w.entry.ttlSecs ≠ 0) :
    (s.setex now w k).Shows replica now env cmd
      { cache with l2 := cache.l2.put cmd w.key w.entry w.entry.ttlSecs } := by
  refine ⟨h.clock, h.l1, h.secs, h.redis, ?_⟩
  intro key
  have hold := h.l2 key
  show L2Cache.get _ cmd key = (s.redis.setex now w).get cmd.up now key
  unfold L2Cache.get RedisEntries.get at hold ⊢
  rw [L2Cache.put, if_neg httl, if_pos hup, RedisEntries.setex]
  rw [if_pos hup, if_pos hup] at hold ⊢
  by_cases hkey : key.text = w.key.text
  · have hpos : (0 : ℚ) < w.entry.ttlSecs := by
      exact_mod_cast Nat.pos_of_ne_zero httl
    rw [hkey, AList.lookup_insert, AList.lookup_insert]
    simp [Nat.pos_of_ne_zero httl, hpos]
  · rw [AList.lookup_insert_ne hkey, AList.lookup_insert_ne hkey]
    exact hold

theorem promote_instant {key : CacheKey} {copy : ReadCopy} (hk : s.tasks[k]? = some t)
    (hcall : t.call = .lookup rq) (hstage : t.stage = .promote key copy)
    (hreplica : t.replica = replica)
    (hshows : s.Shows replica now env cmd cache) :
    s.EndsAt k replica now env cmd { cache with l1 := cache.l1.putThrough env.pick key copy.entry }
      fun stage => lookedUp stage = some (.hit copy.entry) := by
  subst hreplica
  refine endsAt_last env.pick cmd.up (s.putL1 t.replica env.pick key copy.entry copy.origin)
    (.hit copy now) hk hshows.clock ?_ rfl rfl ?_
  · simp [act, actLookup, hcall, hstage]
  · exact (hshows.putL1 env.pick key copy.entry copy.origin).move _

theorem lookupL2_instant (hk : s.tasks[k]? = some t) (hcall : t.call = .lookup rq)
    (hstage : t.stage = .l2Base) (hreplica : t.replica = replica)
    (hshows : s.Shows replica now env cmd cache) :
    s.EndsAt k replica now env cmd (cache.lookupL2 env rq).2
      fun stage => lookedUp stage = some (cache.lookupL2 env rq).1 := by
  subst hreplica
  unfold ResponseCache.lookupL2
  rw [hshows.redis 0, hshows.redis 1, hshows.l2 rq.baseKey]
  cases hget : s.redis.get cmd.up now rq.baseKey with
  | none =>
      refine endsAt_last env.pick cmd.up s .missed hk hshows.clock ?_ rfl rfl (hshows.move _)
      simp [act, actLookup, hcall, hstage, hget]
  | some first =>
  simp only
  rw [hshows.l2]
  generalize hfull : rq.baseKey.withVary first.varyHeaders rq.headers = fullKey
  let copy : ReadCopy := ⟨first, ⟨s.redisFrom rq.baseKey.text, true⟩, now⟩
  by_cases hkey : fullKey ≠ rq.baseKey
  · rw [if_pos hkey]
    refine endsAt_act env.pick cmd.up s (.l2Full copy) hk hshows.clock ?_ rfl ?_
    · simp [act, actLookup, hcall, hstage, hget, hfull, hkey, copy]
    intro hmoved
    cases hvary : s.redis.get cmd.up now fullKey with
    | none =>
        refine endsAt_act env.pick cmd.up _ (.promote fullKey copy) hmoved le_rfl ?_ rfl ?_
        · simp [act, actLookup, hcall, Replicas.move, hfull, hvary, copy]
        intro hmoved'
        exact promote_instant hmoved' hcall rfl rfl ((hshows.move _).move _)
    | some entry =>
        let variantCopy : ReadCopy := ⟨entry, ⟨s.redisFrom fullKey.text, true⟩, now⟩
        refine endsAt_act env.pick cmd.up _ (.promote fullKey variantCopy) hmoved le_rfl ?_ rfl ?_
        · simp [act, actLookup, hcall, Replicas.move, hfull, hvary, copy, variantCopy]
        intro hmoved'
        exact promote_instant hmoved' hcall rfl rfl ((hshows.move _).move _)
  · rw [if_neg hkey]
    refine endsAt_act env.pick cmd.up s (.promote fullKey copy) hk hshows.clock ?_ rfl ?_
    · simp [act, actLookup, hcall, hstage, hget, hfull, hkey, copy]
    intro hmoved
    exact promote_instant hmoved hcall rfl rfl (hshows.move _)

theorem l1Full_instant {first : CachedResponse} (hk : s.tasks[k]? = some t)
    (hcall : t.call = .lookup rq) (hstage : t.stage = .l1Full first)
    (hreplica : t.replica = replica)
    (hshows : s.Shows replica now env cmd cache) :
    s.EndsAt k replica now env cmd (SharedCache.l1FullEnd env cache rq first).2
      fun stage => lookedUp stage = some (SharedCache.l1FullEnd env cache rq first).1 := by
  subst hreplica
  unfold SharedCache.l1FullEnd
  rw [hshows.l1, hshows.secs]
  generalize hfull : rq.baseKey.withVary first.varyHeaders rq.headers = fullKey
  cases hget : (s.l1 t.replica).get (unixSecs now) fullKey with
  | mk found l1 =>
  cases found with
  | none =>
      refine endsAt_act env.pick cmd.up (s.setL1 t.replica l1) .l2Base hk hshows.clock ?_ rfl ?_
      · simp [act, actLookup, hcall, hstage, hfull, hget]
      intro hmoved
      exact lookupL2_instant hmoved hcall rfl rfl ((hshows.setL1 l1).move _)
  | some entry =>
      refine endsAt_last env.pick cmd.up (s.setL1 t.replica l1)
        (.hit ⟨entry, s.l1From t.replica fullKey.text, now⟩ now) hk hshows.clock ?_ rfl rfl
        ((hshows.setL1 l1).move _)
      simp [act, actLookup, hcall, hstage, hfull, hget]

/-- **A lookup at one instant** is `ResponseCache.lookup`, on its gateway's L1 and on what
Redis still has. -/
theorem lookup_instant (hk : s.tasks[k]? = some t) (hcall : t.call = .lookup rq)
    (hstage : t.stage = t.call.first) (hreplica : t.replica = replica)
    (hshows : s.Shows replica now env cmd cache) :
    s.EndsAt k replica now env cmd (cache.lookup env rq).2
      fun stage => lookedUp stage = some (cache.lookup env rq).1 := by
  subst hreplica
  rw [hcall] at hstage
  unfold ResponseCache.lookup
  by_cases hby : rq.bypasses = true
  · rw [if_pos hby]
    refine endsAt_ended hk ?_ hshows
    rw [hstage, ReplicaCall.first, if_pos hby]
    rfl
  rw [if_neg hby]
  rw [ReplicaCall.first, if_neg hby] at hstage
  rw [hshows.l1, hshows.secs]
  cases hfirst : (s.l1 t.replica).get (unixSecs now) rq.baseKey with
  | mk first l1 =>
  cases first with
  | none =>
      refine endsAt_act env.pick cmd.up (s.setL1 t.replica l1) .l2Base hk hshows.clock ?_ rfl ?_
      · simp [act, actLookup, hcall, hstage, hfirst]
      intro hmoved
      exact lookupL2_instant hmoved hcall rfl rfl ((hshows.setL1 l1).move _)
  | some first =>
      refine endsAt_act env.pick cmd.up (s.setL1 t.replica l1) (.l1Full first) hk hshows.clock ?_
        rfl ?_
      · simp [act, actLookup, hcall, hstage, hfirst]
      intro hmoved
      have hend := l1Full_instant hmoved hcall rfl rfl ((hshows.setL1 l1).move (.l1Full first))
      unfold SharedCache.l1FullEnd at hend
      rw [hshows.secs] at hend
      exact hend

/-- **A store at one instant** is `ResponseCache.store`. -/
theorem store_instant {x : CacheExchange} (hk : s.tasks[k]? = some t) (hcall : t.call = .store x)
    (hstage : t.stage = t.call.first) (hreplica : t.replica = replica)
    (hshows : s.Shows replica now env cmd cache) :
    s.EndsAt k replica now env cmd (cache.store env x)
      fun stage => ∀ w, x.written env.now = some w → stage.made = some (now, w) := by
  subst hreplica
  rw [hcall] at hstage
  cases hw : x.written env.now with
  | none =>
      rw [ResponseCache.store_of_not_written env hw]
      refine endsAt_last env.pick cmd.up s .notStored hk hshows.clock ?_ rfl ?_ (hshows.move _)
      · rw [hshows.secs] at hw
        simp [act, actStore, hcall, hstage, ReplicaCall.first, hw]
      · rintro w ⟨⟩
  | some w =>
  rw [ResponseCache.store_of_written env hw, hshows.redis 0]
  have hw' := hw
  rw [hshows.secs] at hw'
  refine endsAt_act env.pick cmd.up s (.l1Put now w) hk hshows.clock ?_ rfl ?_
  · simp [act, actStore, hcall, hstage, ReplicaCall.first, hw']
  intro hmade
  let put := (s.move k t (.l1Put now w) now).putL1 t.replica env.pick w.key w.entry ⟨k, false⟩
  have hput : put.Shows t.replica now env cmd
      { cache with l1 := cache.l1.putThrough env.pick w.key w.entry } :=
    (hshows.move _).putL1 env.pick w.key w.entry ⟨k, false⟩
  have hgiven : ∀ w', some w = some w' → some (now, w) = some (now, w') := by
    rintro w' ⟨⟩
    rfl
  by_cases hprivate : w.isPrivate = true
  · simp only [hprivate, Bool.not_true, Bool.false_eq_true, ↓reduceIte]
    refine endsAt_last env.pick cmd.up put (.stored now w none) hmade le_rfl ?_ rfl hgiven
      (hput.move _)
    simp [act, actStore, hcall, hprivate, put]
  · simp only [hprivate, Bool.not_false, ↓reduceIte]
    refine endsAt_act env.pick cmd.up put (.l2Put now w) hmade le_rfl ?_ rfl ?_
    · simp [act, actStore, hcall, hprivate, put]
    intro hmoved
    by_cases hputs : RedisEntries.puts cmd.up w.entry.ttlSecs = true
    · have hup : w.entry.ttlSecs ≠ 0 ∧ cmd.up = true := by
        simpa [RedisEntries.puts] using hputs
      refine endsAt_last env.pick cmd.up (setex _ now w k) (.stored now w (some now)) hmoved
        le_rfl ?_ rfl hgiven (((hput.move _).setex k hup.2 hup.1).move _)
      simp [act, actStore, hcall, hputs]
    · have hsame : cache.l2.put cmd w.key w.entry w.entry.ttlSecs = cache.l2 := by
        rw [L2Cache.put]
        split
        · rfl
        · next httl =>
            have hdown : ¬ cmd.up = true := by
              intro hup
              apply hputs
              simp [RedisEntries.puts, httl, hup]
            rw [if_neg hdown]
      rw [hsame]
      refine endsAt_last env.pick cmd.up _ (.stored now w none) hmoved le_rfl ?_ rfl hgiven
        ((hput.move _).move _)
      simp [act, actStore, hcall, hputs]

end

end Replicas

end Stateform
