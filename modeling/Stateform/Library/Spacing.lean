import Mathlib.Algebra.Order.Ring.Nat
import Mathlib.Tactic.Common

/-!
# Spaced times

Times of which each comes more than a certain distance after the one before. Few of them
fall into a span of a given width, however many there are.
-/

namespace Stateform.Library

section
variable {times : List ℕ} {t gap bound start width : ℕ}

/-- From the first time to a bound there is room for all gaps. -/
theorem spaced_le (hspaced : (t :: times).Pairwise fun a b => a + gap < b)
    (hbound : ∀ u ∈ t :: times, u ≤ bound) : t + times.length * (gap + 1) ≤ bound := by
  induction times generalizing t with
  | nil => simpa using hbound t
  | cons u times ih =>
      obtain ⟨hnext, hrest⟩ := List.pairwise_cons.mp hspaced
      have hlater := ih hrest fun v hv => hbound v (List.mem_cons_of_mem _ hv)
      have hgap := hnext u List.mem_cons_self
      rw [List.length_cons, Nat.succ_mul]
      omega

/-- **Few in a span.** -/
theorem length_spaced_le (hspaced : times.Pairwise fun a b => a + gap < b)
    (hspan : ∀ u ∈ times, start ≤ u ∧ u ≤ start + width) :
    times.length ≤ width / (gap + 1) + 1 := by
  cases times with
  | nil => exact Nat.zero_le _
  | cons t times =>
      have hroom := spaced_le hspaced fun u hu => (hspan u hu).2
      have hfirst := (hspan t List.mem_cons_self).1
      have hgaps : times.length ≤ width / (gap + 1) := by
        rw [Nat.le_div_iff_mul_le (Nat.add_one_pos gap)]
        omega
      rw [List.length_cons]
      omega

end

end Stateform.Library
