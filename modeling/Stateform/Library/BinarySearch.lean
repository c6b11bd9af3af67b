import Mathlib.Data.List.Basic
import Mathlib.Tactic.Common

/-!
# Binary search with a comparator

The halving search of a slice against a comparator: the candidate range is
`[base, base + size)` and every round keeps the half that can still hold an
equal element. On a list the comparator cuts (first the smaller elements, then
at most one equal one, then the greater ones) it finds exactly what a scan
from the left finds, `binarySearchBy_eq_findIdx?`; elsewhere nothing is
promised.
-/

namespace Stateform.Library

variable {α : Type*}

/-- The start of the range once it has shrunk to one element. -/
def searchBase (f : α → Ordering) (xs : List α) (size base : ℕ) : ℕ :=
  if 1 < size then
    let mid := base + size / 2
    let base' := if xs[mid]?.map f = some .gt then base else mid
    searchBase f xs (size - size / 2) base'
  else base
termination_by size

/-- The index of an element the comparator calls equal. -/
def binarySearchBy (f : α → Ordering) (xs : List α) : Option ℕ :=
  let base := searchBase f xs xs.length 0
  if xs[base]?.map f = some .eq then some base else none

/-- The comparator cuts the list: whatever follows an element that is not
smaller is greater. -/
def Cut (f : α → Ordering) (xs : List α) : Prop :=
  xs.Pairwise fun a b => f a ≠ .lt → f b = .gt

theorem Cut.gt_of_lt {f : α → Ordering} {xs : List α} (h : Cut f xs) {i j : ℕ}
    (hij : i < j) (hj : j < xs.length) (hi : f xs[i] ≠ .lt) : f xs[j] = .gt :=
  List.pairwise_iff_getElem.mp h i j (Nat.lt_trans hij hj) hj hij hi

/-- What the halving keeps: everything right of the range is greater, and the
range starts at the left end or at an element that is not greater. -/
structure RangeInv (f : α → Ordering) (xs : List α) (size base : ℕ) : Prop where
  inside : base + size ≤ xs.length
  pos : 1 ≤ size
  right : ∀ i (h : i < xs.length), base + size ≤ i → f xs[i] = .gt
  left : base = 0 ∨ ∃ h : base < xs.length, f xs[base] ≠ .gt

theorem searchBase_inv {f : α → Ordering} {xs : List α} (hcut : Cut f xs) (size base : ℕ)
    (inv : RangeInv f xs size base) : RangeInv f xs 1 (searchBase f xs size base) := by
  induction size using Nat.strongRecOn generalizing base with
  | ind size ih =>
    have hpos := inv.pos
    have hin := inv.inside
    rw [searchBase]
    split
    · rename_i hsize
      have hmid : base + size / 2 < xs.length := by omega
      apply ih _ (by omega)
      by_cases hgt : f xs[base + size / 2] = .gt
      · -- the middle is greater: everything from it on is greater
        rw [if_pos (by simp [hmid, hgt])]
        refine ⟨by omega, by omega, ?_, inv.left⟩
        intro i hi hle
        rcases Nat.lt_or_ge (base + size / 2) i with hlt | hge
        · exact hcut.gt_of_lt hlt hi (by simp [hgt])
        · obtain rfl : i = base + size / 2 := by omega
          exact hgt
      · rw [if_neg (by simpa [hmid] using hgt)]
        refine ⟨by omega, by omega, ?_, Or.inr ⟨hmid, hgt⟩⟩
        intro i hi hle
        exact inv.right i hi (by omega)
    · obtain rfl : size = 1 := by omega
      exact inv

/-- **The search is a scan** wherever the comparator cuts the list. -/
theorem binarySearchBy_eq_findIdx? {f : α → Ordering} {xs : List α} (hcut : Cut f xs) :
    binarySearchBy f xs = xs.findIdx? (fun x => f x == .eq) := by
  rcases Nat.eq_zero_or_pos xs.length with hnil | hlen
  · obtain rfl := List.eq_nil_of_length_eq_zero hnil
    simp [binarySearchBy]
  have inv : RangeInv f xs 1 (searchBase f xs xs.length 0) := by
    apply searchBase_inv hcut
    refine ⟨by omega, hlen, ?_, Or.inl rfl⟩
    intro i hi hle
    omega
  have hbase : searchBase f xs xs.length 0 < xs.length := by have := inv.inside; omega
  simp only [binarySearchBy]
  symm
  split
  · rename_i heq
    have heq' : f xs[searchBase f xs xs.length 0] = .eq := by simpa [hbase] using heq
    rw [List.findIdx?_eq_some_iff_getElem]
    refine ⟨hbase, by simp [heq'], ?_⟩
    intro i hi hfound
    -- an earlier equal element would make this one greater
    have := hcut.gt_of_lt hi hbase (by simp at hfound; simp [hfound])
    simp [heq'] at this
  · rename_i hne
    have hne' : f xs[searchBase f xs xs.length 0] ≠ .eq := by simpa [hbase] using hne
    rw [List.findIdx?_eq_none_iff]
    intro x hx
    rcases List.getElem_of_mem hx with ⟨i, hi, rfl⟩
    rw [beq_eq_false_iff_ne]
    intro heq
    rcases Nat.lt_trichotomy i (searchBase f xs xs.length 0) with hlt | rfl | hgt
    · have hgt := hcut.gt_of_lt hlt hbase (by simp [heq])
      rcases inv.left with h0 | ⟨_, hleft⟩
      · omega
      · exact hleft hgt
    · exact hne' heq
    · have := inv.right i hi (by omega)
      simp [heq] at this

end Stateform.Library
