import Mathlib.Data.List.Basic
import Mathlib.Data.Nat.Count
import Mathlib.Data.Nat.Periodic
import Mathlib.Tactic.Common

/-!
# Weighted rounds

Slots of given widths, one after the other, and which of them a position falls into. As
many consecutive turns as the widths add up to fall into each slot as often as it is wide,
wherever they start (`countP_turns`).
-/

namespace Stateform.Library

/-- The slot a position falls into. -/
def slot : ℕ → List ℕ → Option ℕ
  | _, [] => none
  | pos, w :: widths => if pos < w then some 0 else (slot (pos - w) widths).map (· + 1)

section
variable {pos w i : ℕ} {widths : List ℕ}

theorem slot_cons_lt (h : pos < w) : slot pos (w :: widths) = some 0 := if_pos h

theorem slot_cons_add (w pos : ℕ) (widths : List ℕ) :
    slot (w + pos) (w :: widths) = (slot pos widths).map (· + 1) := by
  rw [slot, if_neg (Nat.not_lt.mpr (Nat.le_add_right w pos)), Nat.add_sub_cancel_left]

/-- Every position up to the end is in some slot, and that slot has a width. -/
theorem slot_of_lt (h : pos < widths.sum) :
    ∃ i, slot pos widths = some i ∧ ∃ w, widths[i]? = some w ∧ 0 < w := by
  induction widths generalizing pos with
  | nil => exact absurd h (Nat.not_lt_zero pos)
  | cons w widths ih =>
      by_cases hlt : pos < w
      · exact ⟨0, slot_cons_lt hlt, w, rfl, Nat.zero_lt_of_lt hlt⟩
      · obtain ⟨rest, rfl⟩ : ∃ rest, pos = w + rest := ⟨pos - w, by omega⟩
        rw [List.sum_cons] at h
        obtain ⟨i, hi, v, hv, hpos⟩ := ih (Nat.lt_of_add_lt_add_left h)
        exact ⟨i + 1, by rw [slot_cons_add, hi]; rfl, v, hv, hpos⟩

theorem count_congr {p q : ℕ → Prop} [DecidablePred p] [DecidablePred q] {n : ℕ}
    (h : ∀ k < n, (p k ↔ q k)) : Nat.count p n = Nat.count q n :=
  le_antisymm (Nat.count_mono_left fun k hk => (h k hk).mp)
    (Nat.count_mono_left fun k hk => (h k hk).mpr)

/-- A slot is as wide as the positions it takes. -/
theorem count_slot (widths : List ℕ) (i : ℕ) :
    Nat.count (fun pos => slot pos widths = some i) widths.sum = widths[i]?.getD 0 := by
  induction widths generalizing i with
  | nil => rfl
  | cons w widths ih =>
      rw [List.sum_cons, Nat.count_add]
      -- the first positions are of the first slot, the others of those behind it
      have hfirst : Nat.count (fun pos => slot pos (w :: widths) = some i) w =
          if i = 0 then w else 0 := by
        have hcongr : Nat.count (fun pos => slot pos (w :: widths) = some i) w =
            Nat.count (fun _ => i = 0) w := by
          apply count_congr
          intro pos hpos
          rw [slot_cons_lt hpos, Option.some.injEq]
          exact eq_comm
        rw [hcongr]
        by_cases hi : i = 0
        · simp [hi]
        · simp [hi]
      have hrest : Nat.count (fun pos => slot (w + pos) (w :: widths) = some i) widths.sum =
          if i = 0 then 0 else widths[i - 1]?.getD 0 := by
        simp only [slot_cons_add]
        cases i with
        | zero => simp
        | succ i =>
            rw [if_neg (Nat.succ_ne_zero i), Nat.add_sub_cancel, ← ih i]
            apply count_congr
            intro pos _
            simp
      rw [hfirst, hrest]
      cases i with
      | zero => simp
      | succ i => simp

/-- **Turns.** Of as many consecutive turns as the widths add up to, each slot gets its
width. -/
theorem countP_turns (widths : List ℕ) (first i : ℕ) :
    (List.range' first widths.sum).countP (fun turn => slot (turn % widths.sum) widths = some i) =
      widths[i]?.getD 0 := by
  have hperiodic : Function.Periodic (fun turn => slot (turn % widths.sum) widths = some i)
      widths.sum := by
    intro turn
    show (slot ((turn + widths.sum) % widths.sum) widths = some i) = _
    rw [Nat.add_mod_right]
  have hround := Nat.filter_multiset_Ico_card_eq_of_periodic first widths.sum _ hperiodic
  rw [← Multiset.countP_eq_card_filter] at hround
  have hlist : Multiset.Ico first (first + widths.sum) =
      ((List.range' first widths.sum : List ℕ) : Multiset ℕ) := by
    show ((List.range' first (first + widths.sum - first) : List ℕ) : Multiset ℕ) = _
    rw [Nat.add_sub_cancel_left]
  rw [hlist, Multiset.coe_countP] at hround
  rw [hround, ← count_slot widths i]
  apply count_congr
  intro pos hpos
  rw [Nat.mod_eq_of_lt hpos]

end

end Stateform.Library
