import Mathlib.Algebra.Order.Ring.Nat
import Mathlib.Dynamics.FixedPoints.Basic
import Mathlib.Order.Interval.Set.OrdConnected
import Mathlib.Tactic.Common
import Mathlib.Tactic.Linarith
import Mathlib.Tactic.Ring

/-!
# Weighted means, rounded down

The mean of a sample and an estimate with weights `a` and `b`, rounded down. It stays
between the two, and averaging in one sample over and over moves the estimate towards it
until it rests. Rounding makes it rest early from below (`floorMean_eq_self_iff`).
-/

namespace Stateform.Library

variable {a b x y lo hi : ℕ}

def floorMean (a b x y : ℕ) : ℕ := (a * x + b * y) / (a + b)

theorem le_floorMean (hpos : 0 < a + b) (hx : lo ≤ x) (hy : lo ≤ y) : lo ≤ floorMean a b x y := by
  rw [floorMean, Nat.le_div_iff_mul_le hpos]
  calc lo * (a + b) = a * lo + b * lo := by ring
    _ ≤ a * x + b * y := Nat.add_le_add (Nat.mul_le_mul_left a hx) (Nat.mul_le_mul_left b hy)

theorem floorMean_le (hx : x ≤ hi) (hy : y ≤ hi) : floorMean a b x y ≤ hi := by
  apply Nat.div_le_of_le_mul
  calc a * x + b * y ≤ a * hi + b * hi :=
        Nat.add_le_add (Nat.mul_le_mul_left a hx) (Nat.mul_le_mul_left b hy)
    _ = (a + b) * hi := by ring

/-- `y'` lies between `y` and `x`. -/
def Towards (x y y' : ℕ) : Prop := y ≤ y' ∧ y' ≤ x ∨ x ≤ y' ∧ y' ≤ y

/-- What holds of `x` and `y` and everything between any two it holds of, holds of `y'`. -/
theorem Towards.mem {y' : ℕ} {P : Set ℕ} (h : Towards x y y') (hP : P.OrdConnected) (hx : x ∈ P)
    (hy : y ∈ P) : y' ∈ P := by
  rcases h with ⟨hlo, hhi⟩ | ⟨hlo, hhi⟩
  · exact hP.out hy hx ⟨hlo, hhi⟩
  · exact hP.out hx hy ⟨hlo, hhi⟩

theorem floorMean_towards (hpos : 0 < a + b) : Towards x y (floorMean a b x y) := by
  rcases Nat.le_total y x with h | h
  · exact .inl ⟨le_floorMean hpos h (Nat.le_refl y), floorMean_le (Nat.le_refl x) h⟩
  · exact .inr ⟨le_floorMean hpos (Nat.le_refl x) h, floorMean_le h (Nat.le_refl y)⟩

/-- Where an estimate rests: at the sample, or so little below it that rounding down
takes the step back. -/
theorem floorMean_eq_self_iff (ha : 0 < a) :
    floorMean a b x y = y ↔ y ≤ x ∧ a * (x - y) < a + b := by
  rw [floorMean, Nat.div_eq_iff (Nat.add_pos_left ha b)]
  constructor
  · rintro ⟨hlower, hupper⟩
    have hle : y ≤ x := by
      have hmul : a * y ≤ a * x := by nlinarith only [hlower]
      exact Nat.le_of_mul_le_mul_left hmul ha
    refine ⟨hle, ?_⟩
    obtain ⟨d, rfl⟩ := Nat.exists_eq_add_of_le hle
    rw [Nat.add_sub_cancel_left]
    have hsum : a * (y + d) + b * y = y * (a + b) + a * d := by ring
    omega
  · rintro ⟨hle, hlt⟩
    obtain ⟨d, rfl⟩ := Nat.exists_eq_add_of_le hle
    rw [Nat.add_sub_cancel_left] at hlt
    have hsum : a * (y + d) + b * y = y * (a + b) + a * d := by ring
    omega

/-- **Rest.** A sequence in which every step goes towards `x`, and one step leads to the next
always in the same way, comes to rest. -/
theorem exists_fixed {f : ℕ → ℕ} (h : ∀ y, Towards x y (f y)) (y : ℕ) :
    ∃ n, Function.IsFixedPt f (f^[n] y) := by
  -- the distance to `x` falls with every step that moves
  induction hdist : (y - x) + (x - y) using Nat.strong_induction_on generalizing y with
  | h dist ih =>
      by_cases hfixed : f y = y
      · exact ⟨0, hfixed⟩
      · have hcloser : (f y - x) + (x - f y) < dist := by
          rcases h y with ⟨hlo, hhi⟩ | ⟨hlo, hhi⟩ <;> omega
        obtain ⟨n, hn⟩ := ih _ hcloser (f y) rfl
        exact ⟨n + 1, hn⟩

/-- After that it stays there. -/
theorem iterate_of_fixed {f : ℕ → ℕ} {n : ℕ} (h : Function.IsFixedPt f (f^[n] y)) {m : ℕ}
    (hle : n ≤ m) : f^[m] y = f^[n] y := by
  obtain ⟨k, rfl⟩ := Nat.exists_eq_add_of_le' hle
  rw [Function.iterate_add_apply]
  exact h.iterate k

end Stateform.Library
