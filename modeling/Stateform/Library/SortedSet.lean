import Mathlib.Data.List.AList
import Mathlib.Order.Lattice
import Mathlib.Order.MinMax
import Mathlib.Tactic.Common

/-!
# Sorted sets

Members with a score each, in the terms of the store that keeps them: adding a
member, dropping all up to a score, counting, and the lowest score. What the
operations do is said by `countAbove`: how many members score above a bound.
-/

namespace Stateform.Library

variable {M K : Type*} [DecidableEq M] [LinearOrder K]

/-- Each member is there once, with one score. -/
abbrev SortedSet (M K : Type*) : Type _ := AList fun _ : M => K

namespace SortedSet

/-- `ZADD`: a member that is there gets the new score. -/
def zadd (z : SortedSet M K) (score : K) (member : M) : SortedSet M K := z.insert member score

/-- `ZREMRANGEBYSCORE -inf max`: the bound itself goes too. -/
def zremrangebyscore (z : SortedSet M K) (max : K) : SortedSet M K where
  entries := z.entries.filter fun e => decide (max < e.2)
  nodupKeys := z.nodupKeys.sublist List.filter_sublist

/-- `ZCARD`. -/
def zcard (z : SortedSet M K) : ℕ := z.entries.length

/-- The score in `ZRANGE 0 0 WITHSCORES`. -/
def lowestScore (z : SortedSet M K) : Option K := (z.entries.map Sigma.snd).min?

/-- How many members score above a bound. -/
def countAbove (z : SortedSet M K) (s : K) : ℕ := z.entries.countP fun e => decide (s < e.2)

variable {z : SortedSet M K} {s max score : K} {member : M}

omit [DecidableEq M] in
@[simp] theorem countAbove_empty : countAbove (∅ : SortedSet M K) s = 0 := rfl

/-- A new member counts wherever its score does. -/
theorem countAbove_zadd (hnew : member ∉ z) :
    (z.zadd score member).countAbove s = z.countAbove s + if s < score then 1 else 0 := by
  unfold zadd countAbove
  rw [AList.entries_insert_of_notMem hnew, List.countP_cons]
  simp

omit [DecidableEq M] in
theorem countAbove_zremrangebyscore (hle : max ≤ s) :
    (z.zremrangebyscore max).countAbove s = z.countAbove s := by
  unfold zremrangebyscore countAbove
  rw [List.countP_filter]
  apply List.countP_congr
  intro e _
  simp only [Bool.and_eq_true, decide_eq_true_eq]
  constructor
  · intro h
    exact h.1
  · intro h
    exact ⟨h, lt_of_le_of_lt hle h⟩

omit [DecidableEq M] in
/-- After the drop, the count is what scores above the bound. -/
theorem zcard_zremrangebyscore :
    (z.zremrangebyscore max).zcard = z.countAbove max := by
  unfold zcard zremrangebyscore countAbove
  rw [List.countP_eq_length_filter]

omit [LinearOrder K] in
theorem mem_zadd {m : M} : m ∈ z.zadd score member ↔ m = member ∨ m ∈ z := AList.mem_insert z

omit [DecidableEq M] in
theorem mem_of_mem_zremrangebyscore {m : M} (h : m ∈ z.zremrangebyscore max) : m ∈ z := by
  show m ∈ z.entries.map Sigma.fst
  have h' : m ∈ (z.entries.filter fun e => decide (max < e.2)).map Sigma.fst := h
  exact (List.filter_sublist.map Sigma.fst).subset h'

omit [LinearOrder K] in
/-- What is in a set after an addition is new or was in it. -/
theorem mem_entries_zadd {e : Sigma fun _ : M => K} (h : e ∈ (z.zadd score member).entries) :
    e = ⟨member, score⟩ ∨ e ∈ z.entries := by
  rw [zadd, AList.entries_insert] at h
  rcases List.mem_cons.mp h with rfl | h
  · exact .inl rfl
  · exact .inr ((List.kerase_sublist member z.entries).subset h)

omit [DecidableEq M] in
/-- A bound that nothing exceeds leaves nothing. -/
theorem zremrangebyscore_eq_empty (h : ∀ e ∈ z.entries, e.2 ≤ max) :
    z.zremrangebyscore max = ∅ := by
  apply AList.ext
  show z.entries.filter _ = []
  rw [List.filter_eq_nil_iff]
  intro e he habove
  exact absurd (of_decide_eq_true habove) (not_lt.mpr (h e he))

omit [DecidableEq M] in
/-- Fewer members score above a higher bound. -/
theorem countAbove_anti {s' : K} (hle : s ≤ s') : z.countAbove s' ≤ z.countAbove s := by
  apply List.countP_mono_left
  intro e _ habove
  exact decide_eq_true (lt_of_le_of_lt hle (of_decide_eq_true habove))

omit [DecidableEq M] in
/-- What is lowest after the drop is above the bound. -/
theorem lt_lowestScore {lowest : K} (h : (z.zremrangebyscore max).lowestScore = some lowest) :
    max < lowest := by
  obtain ⟨hmem, -⟩ := List.min?_eq_some_iff.mp h
  obtain ⟨e, he, rfl⟩ := List.mem_map.mp hmem
  exact of_decide_eq_true (List.mem_filter.mp he).2

omit [DecidableEq M] in
theorem countAbove_le_zcard : z.countAbove s ≤ z.zcard := List.countP_le_length

omit [DecidableEq M] in
/-- A bound that everything exceeds drops nothing. -/
theorem zremrangebyscore_eq_self (h : z.zcard ≤ z.countAbove s) : z.zremrangebyscore s = z := by
  have hall : ∀ e ∈ z.entries, decide (s < e.2) = true :=
    List.countP_eq_length.mp (le_antisymm countAbove_le_zcard h)
  apply AList.ext
  exact List.filter_eq_self.mpr hall

omit [LinearOrder K] in
theorem zcard_zadd_le : (z.zadd score member).zcard ≤ z.zcard + 1 := by
  unfold zadd zcard
  rw [AList.entries_insert, List.length_cons]
  exact Nat.add_le_add_right (List.kerase_sublist member z.entries).length_le 1

omit [LinearOrder K] in
theorem zcard_zadd (hnew : member ∉ z) : (z.zadd score member).zcard = z.zcard + 1 := by
  unfold zadd zcard
  rw [AList.entries_insert_of_notMem hnew, List.length_cons]

omit [DecidableEq M] in
theorem exists_lowestScore (h : 0 < z.zcard) : ∃ lowest, z.lowestScore = some lowest := by
  have hne : z.entries.map Sigma.snd ≠ [] := by
    rw [Ne, List.map_eq_nil_iff]
    exact List.ne_nil_of_length_pos h
  exact Option.isSome_iff_exists.mp (List.isSome_min?_of_ne_nil hne)

omit [DecidableEq M] in
/-- Something is at a bound or below it exactly if the lowest is. -/
theorem countAbove_lt_zcard_iff {lowest : K} (h : z.lowestScore = some lowest) :
    z.countAbove s < z.zcard ↔ lowest ≤ s := by
  obtain ⟨hmem, hmin⟩ := List.min?_eq_some_iff.mp h
  constructor
  · intro hlt
    by_contra hnot
    have hall : ∀ e ∈ z.entries, decide (s < e.2) = true := by
      intro e he
      have hle : lowest ≤ e.2 := hmin e.2 (List.mem_map_of_mem he)
      exact decide_eq_true (lt_of_lt_of_le (not_le.mp hnot) hle)
    have hcount : z.countAbove s = z.zcard := List.countP_eq_length.mpr hall
    omega
  · intro hle
    obtain ⟨e, he, rfl⟩ := List.mem_map.mp hmem
    refine lt_of_le_of_ne countAbove_le_zcard ?_
    intro hcount
    have habove := List.countP_eq_length.mp hcount e he
    exact absurd (of_decide_eq_true habove) (not_lt.mpr hle)

end SortedSet

end Stateform.Library
