import Mathlib.Algebra.Ring.Nat
import Mathlib.Tactic.Common

/-!
# Numbered entries

Lists whose entries are numbered as they came: a new one is appended, and an old
one is replaced by what it becomes. What is found under a number afterwards, and
how a count of the entries moves.
-/

namespace Stateform.Library

/-! ## Looking up -/

section
variable {α : Type*} {l : List α} {i j : ℕ} {a b x : α}

/-- A replaced entry is the new one, every other entry is what it was. -/
theorem getElem?_replaced (h : l[i]? = some a) (b : α) (j : ℕ) :
    (l.set i b)[j]? = if j = i then some b else l[j]? := by
  obtain ⟨hlt, _⟩ := List.getElem?_eq_some_iff.mp h
  rw [List.getElem?_set]
  by_cases hij : i = j
  · rw [if_pos hij, if_pos hlt, if_pos hij.symm]
  · rw [if_neg hij, if_neg fun hji => hij hji.symm]

theorem getElem?_replaced_self (h : l[i]? = some a) (b : α) : (l.set i b)[i]? = some b := by
  rw [getElem?_replaced h, if_pos rfl]

theorem getElem?_replaced_ne (h : l[i]? = some a) (b : α) (hne : j ≠ i) :
    (l.set i b)[j]? = l[j]? := by
  rw [getElem?_replaced h, if_neg hne]

/-- An entry of the appended list is an old one, or the new one under the next number. -/
theorem getElem?_appended (l : List α) (a : α) (j : ℕ) :
    (l ++ [a])[j]? = if j = l.length then some a else l[j]? := by
  by_cases hj : j = l.length
  · rw [if_pos hj, hj]
    exact List.getElem?_concat_length
  · rw [if_neg hj, List.getElem?_append]
    split
    · rfl
    · next hlt =>
        rw [List.getElem?_eq_none (by omega : l.length ≤ j)]
        apply List.getElem?_eq_none
        show 1 ≤ j - l.length
        omega

theorem getElem?_appended_of_some (a : α) (h : l[j]? = some x) : (l ++ [a])[j]? = some x := by
  obtain ⟨hlt, _⟩ := List.getElem?_eq_some_iff.mp h
  rw [getElem?_appended, if_neg (Nat.ne_of_lt hlt), h]

/-- What is read off the entries stays, if the new entry has the same. -/
theorem map_replaced_same {β : Type*} {f : α → β} (h : l[i]? = some a) (hsame : f b = f a) :
    (l.set i b).map f = l.map f := by
  apply List.ext_getElem?
  intro j
  rw [List.getElem?_map, List.getElem?_map, getElem?_replaced h]
  split
  · next hj =>
      rw [hj, h]
      exact congrArg some hsame
  · rfl

end

/-! ## Counting entries -/

section
variable {α : Type*} {p : α → Bool} {l : List α} {i : ℕ} {a b : α}

/-- One entry is replaced: the count moves by what the two entries hold. -/
theorem countP_replaced (p : α → Bool) (h : l[i]? = some a) (b : α) :
    (l.set i b).countP p + (if p a then 1 else 0) = l.countP p + if p b then 1 else 0 := by
  obtain ⟨hlt, ha⟩ := List.getElem?_eq_some_iff.mp h
  rw [List.countP_set hlt, ha]
  have hpos : p a = true → 1 ≤ l.countP p := by
    intro hp
    have hmem : a ∈ l := ha ▸ List.getElem_mem hlt
    exact List.countP_pos_iff.mpr ⟨a, hmem, hp⟩
  split
  · next hp =>
      have := hpos hp
      omega
  · omega

/-- Fewer entries count where fewer are asked for, and one is left out. -/
theorem countP_lt_countP {q : α → Bool} (hsub : ∀ x ∈ l, p x → q x) (ha : a ∈ l) (hq : q a)
    (hp : ¬ p a) : l.countP p < l.countP q := by
  obtain ⟨before, rest, rfl⟩ := List.append_of_mem ha
  have hbefore : before.countP p ≤ before.countP q :=
    List.countP_mono_left fun x hx => hsub x (List.mem_append_left _ hx)
  have hrest : rest.countP p ≤ rest.countP q :=
    List.countP_mono_left fun x hx => hsub x (List.mem_append_right _ (List.mem_cons_of_mem _ hx))
  rw [List.countP_append, List.countP_append, List.countP_cons_of_neg hp,
    List.countP_cons_of_pos hq]
  omega

theorem countP_replaced_same (h : l[i]? = some a) (hsame : p b = p a) :
    (l.set i b).countP p = l.countP p := by
  have := countP_replaced p h b
  rw [hsame] at this
  omega

theorem countP_replaced_one (h : l[i]? = some a) (ha : p a = false) (hb : p b = true) :
    (l.set i b).countP p = l.countP p + 1 := by
  have hmoved := countP_replaced p h b
  rw [ha, hb, if_pos rfl, if_neg Bool.false_ne_true] at hmoved
  exact hmoved

/-- The same for a sum over the entries. -/
theorem sum_map_replaced (f : α → ℕ) (h : l[i]? = some a) (b : α) :
    ((l.set i b).map f).sum + f a = (l.map f).sum + f b := by
  induction l generalizing i with
  | nil => cases h
  | cons x l ih =>
      cases i with
      | zero =>
          obtain rfl : x = a := Option.some.inj h
          simp only [List.set_cons_zero, List.map_cons, List.sum_cons]
          omega
      | succ i =>
          have hrest := ih h
          simp only [List.set_cons_succ, List.map_cons, List.sum_cons]
          omega

end

end Stateform.Library
