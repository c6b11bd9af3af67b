import Stateform.Cache.Key
import Stateform.Config.Schema

/-!
# The two cache layers

`entry.rs`, `l1_local.rs` and `l2_redis.rs`. L1 is a map bounded by a capacity
whose eviction finds an arbitrary entry, and never gets to remove it: it still reads the
entry's shard (`put_eq`). L2 is a store of entries with an expiry, any command of which may
fail. Times are Unix seconds.
-/

namespace Stateform

/-- Erasing binds nothing. -/
theorem lookup_of_erase {V : Type} {m : StrMap V} {a k : Str} {v : V}
    (h : (m.erase a).lookup k = some v) : m.lookup k = some v := by
  by_cases hk : k = a
  · subst hk
    rw [AList.lookup_erase] at h
    simp at h
  · rwa [AList.lookup_erase_ne hk] at h

structure CachedResponse : Type where
  status : ℕ
  headers : List (Str × Str)
  body : List UInt8
  ttlSecs : ℕ
  storedAtSecs : ℕ
  varyHeaders : List Str
deriving DecidableEq

namespace CachedResponse

/-- `CachedResponse::new`, at a given time. -/
def new (now : ℕ) (status : ℕ) (headers : List (Str × Str)) (body : List UInt8) (ttl : ℕ)
    (varyHeaders : List Str) : CachedResponse :=
  ⟨status, headers, body, ttl, now, varyHeaders⟩

/-- `age_header`. -/
def ageHeader (r : CachedResponse) (now : ℕ) : Str := decimal (now - r.storedAtSecs)

def isExpired (r : CachedResponse) (now : ℕ) : Bool := decide (r.ttlSecs ≤ now - r.storedAtSecs)

end CachedResponse

/-! ## L1 -/

structure L1Cache : Type where
  store : StrMap CachedResponse
  capacity : ℕ

namespace L1Cache

def new (capacity : ℕ) : L1Cache := ⟨∅, capacity⟩

/-- `L1Cache::get`: an expired entry is removed on the way, its guard dropped before. -/
def get (l1 : L1Cache) (now : ℕ) (key : CacheKey) : Option CachedResponse × L1Cache :=
  match l1.store.lookup key.text with
  | none => (none, l1)
  | some entry =>
      if entry.isExpired now then (none, { l1 with store := l1.store.erase key.text })
      else (some entry, l1)

/-- `DashMap::remove`, by a caller that holds read guards on these shards. The write lock of a
shard the caller itself reads is never free, and `none` is a call that never returns. -/
def remove (shardOf : Str → ℕ) (guards : List ℕ) (l1 : L1Cache) (key : Str) : Option L1Cache :=
  if shardOf key ∈ guards then none else some { l1 with store := l1.store.erase key }

/-- `evict_one` finds some entry: the one at `pick`, counted around. -/
def evictOne (shardOf : Str → ℕ) (l1 : L1Cache) (pick : ℕ) : Option L1Cache :=
  match l1.store.keys[pick % l1.store.keys.length]? with
  | some key =>
      -- the iterator lives to the end of the `if let`: of the two guards on the shard, only
      -- the entry's is dropped
      let guards := [shardOf key, shardOf key]
      l1.remove shardOf (guards.erase (shardOf key)) key
  | none => some l1

/-- `L1Cache::put`. -/
def put (shardOf : Str → ℕ) (l1 : L1Cache) (pick : ℕ) (key : CacheKey)
    (response : CachedResponse) : Option L1Cache := do
  let l1 ← if l1.capacity ≤ l1.store.keys.length then l1.evictOne shardOf pick else some l1
  return { l1 with store := l1.store.insert key.text response }

/-- The cache without the entry at `pick`. -/
def evicted (l1 : L1Cache) (pick : ℕ) : L1Cache :=
  match l1.store.keys[pick % l1.store.keys.length]? with
  | some victim => { l1 with store := l1.store.erase victim }
  | none => l1

/-- What a `put` is to leave, where its eviction comes to an end. A `put` of the code leaves
this or never returns (`put_eq`), so the runs of the other modules, whose puts all return, have
those of the code among them. -/
def putThrough (l1 : L1Cache) (pick : ℕ) (key : CacheKey) (response : CachedResponse) : L1Cache :=
  let l1 := if l1.capacity ≤ l1.store.keys.length then l1.evicted pick else l1
  { l1 with store := l1.store.insert key.text response }

def invalidate (l1 : L1Cache) (key : CacheKey) : L1Cache :=
  { l1 with store := l1.store.erase key.text }

/-- What `get` leaves behind was there before. -/
theorem get_lookup {l1 : L1Cache} {now : ℕ} {key : CacheKey} {k : Str} {e : CachedResponse}
    (h : (l1.get now key).2.store.lookup k = some e) : l1.store.lookup k = some e := by
  unfold get at h
  cases hlook : l1.store.lookup key.text with
  | none => simpa [hlook] using h
  | some entry =>
      by_cases hexp : entry.isExpired now = true
      · simp only [hlook, hexp, ↓reduceIte] at h
        exact lookup_of_erase h
      · simpa [hlook, hexp] using h

theorem get_eq_some {l1 : L1Cache} {now : ℕ} {key : CacheKey} {e : CachedResponse} :
    (l1.get now key).1 = some e ↔
      l1.store.lookup key.text = some e ∧ e.isExpired now = false := by
  unfold get
  cases l1.store.lookup key.text with
  | none => simp
  | some entry => by_cases hexp : entry.isExpired now = true <;> simp [hexp] <;> grind

theorem get_fresh {l1 : L1Cache} {now : ℕ} {key : CacheKey} {e : CachedResponse}
    (hlook : l1.store.lookup key.text = some e) (hfresh : e.isExpired now = false) :
    l1.get now key = (some e, l1) := by
  rw [get, hlook]
  simp [hfresh]

theorem evicted_lookup {l1 : L1Cache} {pick : ℕ} {k : Str} {e : CachedResponse}
    (h : (l1.evicted pick).store.lookup k = some e) : l1.store.lookup k = some e := by
  unfold evicted at h
  cases hv : l1.store.keys[pick % l1.store.keys.length]? with
  | none => simpa [hv] using h
  | some victim =>
      simp only [hv] at h
      exact lookup_of_erase h

/-- What is left behind is the new entry, or was there before. -/
theorem putThrough_lookup {l1 : L1Cache} {pick : ℕ} {key : CacheKey} {r : CachedResponse} {k : Str}
    {e : CachedResponse} (h : (l1.putThrough pick key r).store.lookup k = some e) :
    (k = key.text ∧ e = r) ∨ l1.store.lookup k = some e := by
  unfold putThrough at h
  by_cases hk : k = key.text
  · subst hk
    exact .inl ⟨rfl, by simpa [eq_comm] using h⟩
  · right
    simp only [AList.lookup_insert_ne hk] at h
    split at h
    · exact evicted_lookup h
    · exact h

@[simp] theorem putThrough_lookup_self {l1 : L1Cache} {pick : ℕ} {key : CacheKey}
    {r : CachedResponse} : (l1.putThrough pick key r).store.lookup key.text = some r := by
  simp [putThrough]

theorem putThrough_of_room {l1 : L1Cache} {pick : ℕ} {key : CacheKey} {r : CachedResponse}
    (h : l1.store.keys.length < l1.capacity) :
    l1.putThrough pick key r = { l1 with store := l1.store.insert key.text r } := by
  have hnot : ¬ l1.capacity ≤ l1.store.keys.length := by omega
  rw [putThrough, if_neg hnot]

/-- An eviction that finds an entry never returns. -/
theorem evictOne_eq (shardOf : Str → ℕ) (l1 : L1Cache) (pick : ℕ) :
    l1.evictOne shardOf pick = if 0 < l1.store.keys.length then none else some l1 := by
  by_cases hsome : 0 < l1.store.keys.length
  · rw [evictOne, List.getElem?_eq_getElem (Nat.mod_lt pick hsome), if_pos hsome]
    simp [remove]
  · have hempty : l1.store.keys = [] := List.eq_nil_of_length_eq_zero (by omega)
    rw [evictOne, hempty]
    rfl

theorem evicted_of_empty {l1 : L1Cache} {pick : ℕ} (h : ¬ 0 < l1.store.keys.length) :
    l1.evicted pick = l1 := by
  have hempty : l1.store.keys = [] := List.eq_nil_of_length_eq_zero (by omega)
  rw [evicted, hempty]
  rfl

/-- **A put at capacity.** Where the cache is full and holds an entry, a put never returns. -/
theorem put_eq (shardOf : Str → ℕ) (l1 : L1Cache) (pick : ℕ) (key : CacheKey)
    (r : CachedResponse) :
    l1.put shardOf pick key r =
      if l1.capacity ≤ l1.store.keys.length ∧ 0 < l1.store.keys.length then none
      else some (l1.putThrough pick key r) := by
  unfold put putThrough
  by_cases hfull : l1.capacity ≤ l1.store.keys.length
  · rw [if_pos hfull, if_pos hfull, evictOne_eq]
    by_cases hsome : 0 < l1.store.keys.length
    · rw [if_pos hsome, if_pos ⟨hfull, hsome⟩]
      rfl
    · rw [if_neg hsome, if_neg fun h => hsome h.2, evicted_of_empty hsome]
      rfl
  · rw [if_neg hfull, if_neg hfull, if_neg fun h => hfull h.1]
    rfl

theorem invalidate_lookup {l1 : L1Cache} {key : CacheKey} {k : Str} {e : CachedResponse}
    (h : (l1.invalidate key).store.lookup k = some e) : l1.store.lookup k = some e :=
  lookup_of_erase h

end L1Cache

/-! ## L2 -/

/-- What Redis holds: the entry and the second its key expires. Serialising is
the identity here: an entry is read back from JSON as it was written. -/
structure L2Cache : Type where
  store : StrMap (CachedResponse × ℕ)

/-- One command sent to Redis: whether it is answered, and Redis' time then. -/
structure RedisCommand : Type where
  up : Bool
  now : ℕ

namespace L2Cache

def empty : L2Cache := ⟨∅⟩

/-- `L2Cache::get`: a failed command is a miss. -/
def get (l2 : L2Cache) (cmd : RedisCommand) (key : CacheKey) : Option CachedResponse :=
  if cmd.up then
    match l2.store.lookup key.text with
    | some (entry, expiresAt) => if cmd.now < expiresAt then some entry else none
    | none => none
  else none

/-- `L2Cache::put`: `SETEX`, unless the lifetime is zero. -/
def put (l2 : L2Cache) (cmd : RedisCommand) (key : CacheKey) (response : CachedResponse)
    (ttlSecs : ℕ) : L2Cache :=
  if ttlSecs = 0 then l2
  else if cmd.up then ⟨l2.store.insert key.text (response, cmd.now + ttlSecs)⟩
  else l2

def invalidate (l2 : L2Cache) (cmd : RedisCommand) (key : CacheKey) : L2Cache :=
  if cmd.up then ⟨l2.store.erase key.text⟩ else l2

theorem get_lookup {l2 : L2Cache} {cmd : RedisCommand} {key : CacheKey} {e : CachedResponse}
    (h : l2.get cmd key = some e) : ∃ expiresAt, l2.store.lookup key.text = some (e, expiresAt) := by
  unfold get at h
  cases hup : cmd.up with
  | false => simp [hup] at h
  | true =>
      cases hlook : l2.store.lookup key.text with
      | none => simp [hup, hlook] at h
      | some v =>
          obtain ⟨entry, expiresAt⟩ := v
          by_cases hlt : cmd.now < expiresAt
          · obtain rfl : entry = e := by simpa [hup, hlook, hlt] using h
            exact ⟨expiresAt, rfl⟩
          · simp [hup, hlook, hlt] at h

/-- What a `put` leaves behind is the new entry, which has a lifetime, or was
there before. -/
theorem put_lookup {l2 : L2Cache} {cmd : RedisCommand} {key : CacheKey} {r : CachedResponse}
    {ttlSecs : ℕ} {k : Str} {v : CachedResponse × ℕ}
    (h : (l2.put cmd key r ttlSecs).store.lookup k = some v) :
    (k = key.text ∧ v.1 = r ∧ ttlSecs ≠ 0) ∨ l2.store.lookup k = some v := by
  unfold put at h
  by_cases hzero : ttlSecs = 0
  · right
    rwa [if_pos hzero] at h
  rw [if_neg hzero] at h
  cases hup : cmd.up with
  | false =>
      right
      simpa [hup] using h
  | true =>
      by_cases hk : k = key.text
      · subst hk
        left
        simp only [hup, ↓reduceIte, AList.lookup_insert, Option.some.injEq] at h
        subst h
        exact ⟨rfl, rfl, hzero⟩
      · right
        simpa [hup, AList.lookup_insert_ne hk] using h

theorem put_get_self {l2 : L2Cache} {cmd cmd' : RedisCommand} {key : CacheKey}
    {r : CachedResponse} {ttlSecs : ℕ} (hup : cmd.up = true) (hup' : cmd'.up = true)
    (hlt : cmd'.now < cmd.now + ttlSecs) (hpos : 0 < ttlSecs) :
    (l2.put cmd key r ttlSecs).get cmd' key = some r := by
  have hne : ttlSecs ≠ 0 := by omega
  simp [put, get, hne, hup, hup', hlt]

theorem invalidate_lookup {l2 : L2Cache} {cmd : RedisCommand} {key : CacheKey} {k : Str}
    {v : CachedResponse × ℕ} (h : (l2.invalidate cmd key).store.lookup k = some v) :
    l2.store.lookup k = some v := by
  unfold invalidate at h
  split at h
  · exact lookup_of_erase h
  · exact h

end L2Cache

end Stateform
