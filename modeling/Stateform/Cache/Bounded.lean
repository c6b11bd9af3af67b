import Stateform.Cache.Layers
import Stateform.Library.LastWrite

/-!
# L1 as a bounded store

Calls on one `L1Cache`, in any order and at any times, whatever entry each eviction finds. An
eviction never returns, so a call that returns leaves what a map without a bound would
(`plain`). As long as every put finds room the calls all return, the cache does not outgrow
its capacity and a key reads the entry last put under it; the first put into a full cache is
the last call that is made (`bounded_store_iff`).
-/

namespace Stateform

open Library

/-- One call on a cache: `pick` says which entry an eviction finds. -/
inductive L1Call : Type where
  | get (now : ℕ) (key : CacheKey)
  | put (pick : ℕ) (key : CacheKey) (response : CachedResponse)
  | invalidate (key : CacheKey)

namespace L1Cache

variable {shardOf : Str → ℕ} {l1 l1' : L1Cache} {pick capacity : ℕ} {key k : CacheKey}
  {r e : CachedResponse}

/-- `L1Cache::len`. -/
def len (l1 : L1Cache) : ℕ := l1.store.keys.length

/-- What a call leaves, if it returns. -/
def call (shardOf : Str → ℕ) (l1 : L1Cache) : L1Call → Option L1Cache
  | .get now key => some (l1.get now key).2
  | .put pick key response => l1.put shardOf pick key response
  | .invalidate key => some (l1.invalidate key)

/-- A new cache after these calls, if they all return. -/
def afterCalls (shardOf : Str → ℕ) (capacity : ℕ) (calls : List L1Call) : Option L1Cache :=
  follow (call shardOf) (new capacity) calls

/-- The put returns and has removed the entry under the key. -/
def Evicts (shardOf : Str → ℕ) (l1 : L1Cache) (pick : ℕ) (key : CacheKey) (r : CachedResponse)
    (k : CacheKey) : Prop :=
  ∃ l1', l1.put shardOf pick key r = some l1' ∧ l1.store.lookup k.text ≠ none ∧
    l1'.store.lookup k.text = none

/-- The call touches what is stored under the key: it finds it expired, invalidates or
evicts it, or puts an entry of its own there. -/
def Touches (shardOf : Str → ℕ) (k : CacheKey) (l1 : L1Cache) : L1Call → Prop
  | .get now key => key = k ∧ ∃ e, l1.store.lookup k.text = some e ∧ e.isExpired now = true
  | .put pick key r => key = k ∨ l1.Evicts shardOf pick key r k
  | .invalidate key => key = k

/-- After these calls on a new cache, each of which returns: the cache has never held more than
its capacity; a key has read the entry last put under it, unless that had expired or was found
so, invalidated or evicted; and a put has evicted from a full cache only, and for a key that
was not there. -/
structure BoundedStore (shardOf : Str → ℕ) (capacity : ℕ) (calls : List L1Call) : Prop where
  returns : ∃ l1, afterCalls shardOf capacity calls = some l1
  size : ∀ before rest l1, calls = before ++ rest →
    afterCalls shardOf capacity before = some l1 → l1.len ≤ capacity
  reads : ∀ before rest l1, calls = before ++ rest →
    afterCalls shardOf capacity before = some l1 → ∀ now k e, (l1.get now k).1 = some e ↔
      e.isExpired now = false ∧ ∃ start pick since, before = start ++ .put pick k e :: since ∧
        ∀ l1', afterCalls shardOf capacity (start ++ [.put pick k e]) = some l1' →
          Meets (call shardOf) (fun l1 c => ¬ Touches shardOf k l1 c) l1' since
  evicts : ∀ before pick key r rest l1 k, calls = before ++ .put pick key r :: rest →
    afterCalls shardOf capacity before = some l1 → l1.Evicts shardOf pick key r k →
      l1.store.lookup key.text = none ∧ l1.len = capacity

/-- A put comes to a cache that is not full. -/
def FindsRoom (l1 : L1Cache) : L1Call → Prop
  | .put _ _ _ => l1.len < l1.capacity
  | _ => True

instance (l1 : L1Cache) (c : L1Call) : Decidable (l1.FindsRoom c) :=
  match c with
  | .get _ _ => isTrue trivial
  | .put _ _ _ => inferInstanceAs (Decidable (l1.len < l1.capacity))
  | .invalidate _ => isTrue trivial

/-! ## A map without a bound -/

/-- The calls on a map without a bound. -/
def plain (l1 : L1Cache) : L1Call → L1Cache
  | .get now key => (l1.get now key).2
  | .put _ key response => { l1 with store := l1.store.insert key.text response }
  | .invalidate key => l1.invalidate key

/-- The call touches what the map has under the key. -/
def Rewrites (k : CacheKey) (l1 : L1Cache) : L1Call → Prop
  | .get now key => key = k ∧ ∃ e, l1.store.lookup k.text = some e ∧ e.isExpired now = true
  | .put _ key _ => key = k
  | .invalidate key => key = k

/-- The call puts this entry under the key. -/
def Puts (k : CacheKey) (e : CachedResponse) : L1Call → Prop
  | .put _ key r => key = k ∧ r = e
  | _ => False

theorem put_returns (h : l1.put shardOf pick key r = some l1') :
    ¬ (l1.capacity ≤ l1.len ∧ 0 < l1.len) ∧ l1' = l1.plain (.put pick key r) := by
  rw [put_eq] at h
  by_cases hblocks : l1.capacity ≤ l1.store.keys.length ∧ 0 < l1.store.keys.length
  · rw [if_pos hblocks] at h
    cases h
  · rw [if_neg hblocks] at h
    cases h
    refine ⟨hblocks, ?_⟩
    by_cases hsome : 0 < l1.store.keys.length
    · exact putThrough_of_room (Nat.lt_of_not_le fun hfull => hblocks ⟨hfull, hsome⟩)
    · rw [putThrough, evicted_of_empty hsome, ite_self]
      rfl

/-- A call that returns does what it does to a map without a bound. -/
theorem call_plain (l1 : L1Cache) (c : L1Call) (l1' : L1Cache)
    (h : l1.call shardOf c = some l1') : l1' = l1.plain c := by
  cases c with
  | get now key => exact (Option.some.inj h).symm
  | put pick key r => exact (put_returns h).2
  | invalidate key => exact (Option.some.inj h).symm

theorem call_of_room (shardOf : Str → ℕ) {c : L1Call} (h : l1.FindsRoom c) :
    l1.call shardOf c = some (l1.plain c) := by
  cases c with
  | get now key => rfl
  | put pick key r =>
      have hroom : ¬ (l1.capacity ≤ l1.store.keys.length ∧ 0 < l1.store.keys.length) :=
        fun hfull => absurd h (Nat.not_lt.mpr hfull.1)
      rw [call, put_eq, if_neg hroom, putThrough_of_room h]
      rfl
  | invalidate key => rfl

theorem call_put_full (shardOf : Str → ℕ) (hfull : l1.capacity ≤ l1.len) (hsome : 0 < l1.len) :
    l1.call shardOf (.put pick key r) = none :=
  (put_eq shardOf l1 pick key r).trans (if_pos ⟨hfull, hsome⟩)

theorem text_ne (h : key ≠ k) : k.text ≠ key.text := by
  intro htext
  exact h (CacheKey.ext htext.symm)

/-- A put that returns has evicted nothing. -/
theorem not_evicts : ¬ l1.Evicts shardOf pick key r k := by
  rintro ⟨l1', hput, hbefore, hafter⟩
  rw [(put_returns hput).2, plain] at hafter
  by_cases hkey : k.text = key.text
  · rw [hkey, AList.lookup_insert] at hafter
    cases hafter
  · rw [AList.lookup_insert_ne hkey] at hafter
    exact hbefore hafter

theorem touches_iff (shardOf : Str → ℕ) (k : CacheKey) (l1 : L1Cache) (c : L1Call) :
    Touches shardOf k l1 c ↔ Rewrites k l1 c := by
  cases c with
  | get now key => exact Iff.rfl
  | put pick key r => exact or_iff_left not_evicts
  | invalidate key => exact Iff.rfl

/-! ## The size -/

section
variable {K V : Type} [DecidableEq K]

theorem length_keys_erase_le (m : AList fun _ : K => V) (a : K) :
    (m.erase a).keys.length ≤ m.keys.length := by
  rw [AList.keys_erase]
  exact List.length_erase_le

theorem length_keys_insert_le (m : AList fun _ : K => V) (a : K) (b : V) :
    (m.insert a b).keys.length ≤ m.keys.length + 1 := by
  rw [AList.keys_insert, List.length_cons]
  exact Nat.succ_le_succ List.length_erase_le

end

theorem get_keeps (l1 : L1Cache) (now : ℕ) (key : CacheKey) :
    (l1.get now key).2.capacity = l1.capacity ∧ (l1.get now key).2.len ≤ l1.len := by
  unfold get
  split
  · exact ⟨rfl, Nat.le_refl _⟩
  · split
    · exact ⟨rfl, length_keys_erase_le _ _⟩
    · exact ⟨rfl, Nat.le_refl _⟩

theorem plain_capacity (l1 : L1Cache) (c : L1Call) : (l1.plain c).capacity = l1.capacity := by
  cases c with
  | get now key => exact (get_keeps l1 now key).1
  | put pick key r => rfl
  | invalidate key => rfl

theorem plain_len {c : L1Call} (hle : l1.len ≤ l1.capacity) (hroom : l1.FindsRoom c) :
    (l1.plain c).len ≤ l1.capacity := by
  cases c with
  | get now key => exact (get_keeps l1 now key).2.trans hle
  | put pick key r => exact (length_keys_insert_le _ _ _).trans hroom
  | invalidate key => exact (length_keys_erase_le _ _).trans hle

/-- A cache with a capacity: a call that returns had room. -/
theorem findsRoom_of_returns {c : L1Call} (hpos : 1 ≤ l1.capacity)
    (h : l1.call shardOf c = some l1') : l1.FindsRoom c := by
  cases c with
  | get now key => trivial
  | put pick key r =>
      apply Nat.lt_of_not_le
      intro hfull
      exact (put_returns h).1 ⟨hfull, hpos.trans hfull⟩
  | invalidate key => trivial

/-- **What calls leave.** A cache whose calls have all returned holds what a map without a
bound does, and no more than its capacity. -/
theorem afterCalls_kept (hpos : 1 ≤ capacity) : ∀ calls l1,
    afterCalls shardOf capacity calls = some l1 →
      l1 = after plain (new capacity) calls ∧ l1.capacity = capacity ∧ l1.len ≤ capacity := by
  apply follow_invariant (P := fun calls l1 =>
    l1 = after plain (new capacity) calls ∧ l1.capacity = capacity ∧ l1.len ≤ capacity)
  · exact ⟨rfl, rfl, Nat.zero_le _⟩
  · rintro calls c l1 l1' - ⟨hplain, hcapacity, hlen⟩ hcall
    have hroom := findsRoom_of_returns (hpos.trans_eq hcapacity.symm) hcall
    have hkept := plain_len (hlen.trans_eq hcapacity.symm) hroom
    rw [call_plain l1 c l1' hcall]
    refine ⟨?_, (plain_capacity l1 c).trans hcapacity, hkept.trans_eq hcapacity⟩
    rw [after_append, ← hplain]
    rfl

/-! ## What is under a key -/

theorem plain_untouched (l1 : L1Cache) (c : L1Call) (h : ¬ Rewrites k l1 c) :
    (l1.plain c).store.lookup k.text = l1.store.lookup k.text := by
  cases c with
  | get now key =>
      change (l1.get now key).2.store.lookup k.text = l1.store.lookup k.text
      unfold get
      split
      · rfl
      · next e hlook =>
        split
        · next hexpired =>
          have hother : key ≠ k := by
            rintro rfl
            exact h ⟨rfl, e, hlook, hexpired⟩
          exact AList.lookup_erase_ne (text_ne hother)
        · rfl
  | put pick key r => exact AList.lookup_insert_ne (text_ne h)
  | invalidate key => exact AList.lookup_erase_ne (text_ne h)

theorem plain_touched (l1 : L1Cache) (c : L1Call) (h : Rewrites k l1 c) :
    (l1.plain c).store.lookup k.text = some e ↔ Puts k e c := by
  cases c with
  | get now key =>
      obtain ⟨rfl, e', hlook, hexpired⟩ := h
      simp [plain, get, hlook, hexpired, Puts]
  | put pick key r =>
      obtain rfl := h
      simp [plain, Puts]
  | invalidate key =>
      obtain rfl := h
      simp [plain, invalidate, Puts]

theorem rewrites_of_puts (l1 : L1Cache) (c : L1Call) (h : Puts k e c) : Rewrites k l1 c := by
  cases c with
  | get now key => exact h.elim
  | put pick key r => exact h.1
  | invalidate key => exact h.elim

/-- A key reads the entry last put under it, as long as nothing has touched it since. -/
theorem afterCalls_get_iff {calls : List L1Call} (hpos : 1 ≤ capacity)
    (h : afterCalls shardOf capacity calls = some l1) (now : ℕ) :
    (l1.get now k).1 = some e ↔
      e.isExpired now = false ∧ ∃ start pick since, calls = start ++ .put pick k e :: since ∧
        ∀ l1', afterCalls shardOf capacity (start ++ [.put pick k e]) = some l1' →
          Meets (call shardOf) (fun l1 c => ¬ Touches shardOf k l1 c) l1' since := by
  have hinit : (new capacity).store.lookup k.text ≠ some e := by simp [new]
  have hlast := read_after_iff (fun l1 : L1Cache => l1.store.lookup k.text) hinit plain_untouched
    plain_touched rewrites_of_puts calls
  rw [← (afterCalls_kept hpos calls l1 h).1] at hlast
  -- the map without a bound has been through the same calls
  have hsince : ∀ start pick since, calls = start ++ .put pick k e :: since →
      ((∀ l1', afterCalls shardOf capacity (start ++ [.put pick k e]) = some l1' →
          Meets (call shardOf) (fun l1 c => ¬ Touches shardOf k l1 c) l1' since) ↔
        Untouched plain (Rewrites k)
          (after plain (new capacity) (start ++ [.put pick k e])) since) := by
    rintro start pick since rfl
    have hsplit : afterCalls shardOf capacity ((start ++ [.put pick k e]) ++ since) = some l1 := by
      simpa using h
    rw [afterCalls, follow_append] at hsplit
    obtain ⟨middle, hmiddle, hrest⟩ := Option.bind_eq_some_iff.mp hsplit
    have hiff := meets_untouched_iff call_plain (fun l1 c _ _ => touches_iff shardOf k l1 c) hrest
    rw [← (afterCalls_kept hpos _ middle hmiddle).1, ← hiff]
    refine ⟨fun hall => hall middle hmiddle, ?_⟩
    intro hmeets l1' hl1'
    cases hl1'.symm.trans hmiddle
    exact hmeets
  rw [get_eq_some, and_comm]
  refine and_congr_right fun _ => hlast.trans ?_
  constructor
  · rintro ⟨start, c, since, hcalls, hputs, huntouched⟩
    cases c with
    | get now key => exact hputs.elim
    | put pick key r =>
        obtain ⟨rfl, rfl⟩ := hputs
        exact ⟨start, pick, since, hcalls, (hsince start pick since hcalls).mpr huntouched⟩
    | invalidate key => exact hputs.elim
  · rintro ⟨start, pick, since, hcalls, hmeets⟩
    exact ⟨start, _, since, hcalls, ⟨rfl, rfl⟩, (hsince start pick since hcalls).mp hmeets⟩

/-! ## Calls that return -/

/-- Where every put finds room, every call returns. -/
theorem follow_of_room (shardOf : Str → ℕ) {calls : List L1Call}
    (h : Meets (call shardOf) FindsRoom l1 calls) :
    follow (call shardOf) l1 calls = some (after plain l1 calls) := by
  induction calls generalizing l1 with
  | nil => rfl
  | cons c calls ih =>
      have hcall := call_of_room shardOf h.1
      rw [follow_cons, hcall]
      exact ih (h.2 _ hcall)

theorem meets_of_room (shardOf : Str → ℕ) (l1 : L1Cache) (calls : List L1Call)
    (h : tested (call shardOf) (fun l1 c => decide (FindsRoom l1 c)) l1 calls = true) :
    Meets (call shardOf) FindsRoom l1 calls :=
  meets_of_tested (fun _ _ => of_decide_eq_true) l1 calls h

/-- **A bounded store.** The calls on a new cache with a capacity find what they should of a
bounded store exactly if every put among them comes to a cache that is not full. -/
theorem bounded_store_iff (shardOf : Str → ℕ) {capacity : ℕ} (hpos : 1 ≤ capacity)
    (calls : List L1Call) :
    BoundedStore shardOf capacity calls ↔
      Meets (call shardOf) FindsRoom (new capacity) calls := by
  constructor
  · intro h
    obtain ⟨l1, hl1⟩ := h.returns
    rw [meets_iff_history]
    rintro before c rest middle rfl hmiddle
    rw [afterCalls, follow_append, hmiddle, Option.bind_some, follow_cons] at hl1
    obtain ⟨next, hnext, -⟩ := Option.bind_eq_some_iff.mp hl1
    have hcapacity := (afterCalls_kept hpos before middle hmiddle).2.1
    exact findsRoom_of_returns (hpos.trans_eq hcapacity.symm) hnext
  · intro h
    refine ⟨⟨_, follow_of_room shardOf h⟩, ?_, ?_, ?_⟩
    · intro before _ l1 _ hl1
      exact (afterCalls_kept hpos before l1 hl1).2.2
    · intro before _ l1 _ hl1 now k e
      exact afterCalls_get_iff hpos hl1 now
    · intro _ _ _ _ _ _ _ _ _ hevicts
      exact absurd hevicts not_evicts

/-- A cache for two, in which one entry expires and makes room for a third. -/
theorem bounded_store_iff_two :
    let calls : List L1Call :=
      [.put 0 ⟨"a".toList⟩ ⟨200, [], [], 60, 0, []⟩, .put 0 ⟨"b".toList⟩ ⟨200, [], [], 600, 0, []⟩,
        .get 60 ⟨"a".toList⟩, .put 0 ⟨"c".toList⟩ ⟨200, [], [], 60, 60, []⟩]
    (∀ shardOf, BoundedStore shardOf 2 calls) ∧
      ∀ shardOf l1, afterCalls shardOf 2 calls = some l1 →
        (l1.get 61 ⟨"b".toList⟩).1 = some ⟨200, [], [], 600, 0, []⟩ ∧ l1.len = 2 := by
  intro calls
  have hroom : ∀ shardOf, Meets (call shardOf) FindsRoom (new 2) calls :=
    fun shardOf => meets_of_room shardOf _ _ rfl
  refine ⟨fun shardOf => (bounded_store_iff shardOf (by decide) calls).mpr (hroom shardOf), ?_⟩
  intro shardOf l1 hl1
  rw [afterCalls, follow_of_room shardOf (hroom shardOf)] at hl1
  cases hl1
  decide

/-- A put of the test that fills a cache for three. -/
def testPut (path : Str) : L1Call :=
  .put 0 (.new "GET".toList "route".toList path none) ⟨200, [], [98, 111, 100, 121], 60, 0, []⟩

/-- Three entries fill a cache for three, and the fourth put never returns. -/
theorem fourth_put_blocks :
    (∀ shardOf, (∃ l1, afterCalls shardOf 3
        [testPut "/0".toList, testPut "/1".toList, testPut "/2".toList] = some l1) ∧
      afterCalls shardOf 3 [testPut "/0".toList, testPut "/1".toList, testPut "/2".toList,
        testPut "/3".toList] = none) ∧
      ¬ ∀ shardOf capacity, 1 ≤ capacity → ∀ calls, BoundedStore shardOf capacity calls := by
  have hthree : ∀ shardOf, afterCalls shardOf 3
      [testPut "/0".toList, testPut "/1".toList, testPut "/2".toList] =
        some (after plain (new 3)
          [testPut "/0".toList, testPut "/1".toList, testPut "/2".toList]) := by
    intro shardOf
    exact follow_of_room shardOf (meets_of_room shardOf _ _ rfl)
  have hfourth : ∀ shardOf, afterCalls shardOf 3 [testPut "/0".toList, testPut "/1".toList,
      testPut "/2".toList, testPut "/3".toList] = none := by
    intro shardOf
    have hfull := hthree shardOf
    rw [afterCalls] at hfull ⊢
    rw [show [testPut "/0".toList, testPut "/1".toList, testPut "/2".toList,
      testPut "/3".toList] = [testPut "/0".toList, testPut "/1".toList, testPut "/2".toList] ++
        [testPut "/3".toList] from rfl, follow_concat, hfull, Option.bind_some]
    exact call_put_full shardOf (by decide) (by decide)
  refine ⟨fun shardOf => ⟨⟨_, hthree shardOf⟩, hfourth shardOf⟩, ?_⟩
  intro h
  obtain ⟨l1, hl1⟩ := (h (fun _ => 0) 3 (by decide) [testPut "/0".toList, testPut "/1".toList,
    testPut "/2".toList, testPut "/3".toList]).returns
  cases (hfourth _).symm.trans hl1

end L1Cache

end Stateform
