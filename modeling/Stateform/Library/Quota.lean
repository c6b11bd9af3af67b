import Stateform.Library.Run

/-!
# Quotas

A state of which a number of grants is left: the next action is granted exactly if the
number is positive, and takes one off it. A run then grants exactly that many, and the first
ones (`Quota.grants`).
-/

namespace Stateform.Library

variable {σ α β : Type*}

/-- While the condition holds of what is still to come, each action is granted exactly if
something is left, and leaves one less. -/
structure Quota (f : σ → α → β × σ) (granted : β → Bool) (Cond : List α → σ → Prop)
    (left : σ → ℕ) : Prop where
  grants_iff : ∀ a as s, Cond (a :: as) s → granted (f s a).1 = decide (0 < left s)
  takes : ∀ a as s, Cond (a :: as) s → left (f s a).2 = left s - 1
  keeps : ∀ a as s, Cond (a :: as) s → Cond as (f s a).2

/-- **The first ones are granted**, as many as are left. -/
theorem Quota.grants {f : σ → α → β × σ} {granted : β → Bool} {Cond : List α → σ → Prop}
    {left : σ → ℕ} (h : Quota f granted Cond left) (as : List α) {s : σ} (hcond : Cond as s) :
    (transcript f s as).map (fun e => granted e.2) =
      (List.range as.length).map fun i => decide (i < left s) := by
  induction as generalizing s with
  | nil => rfl
  | cons a as ih =>
      have hrest := ih (h.keeps a as s hcond)
      rw [h.takes a as s hcond] at hrest
      rw [transcript, List.map_cons, hrest, h.grants_iff a as s hcond, List.length_cons,
        List.range_succ_eq_map, List.map_cons, List.map_map]
      congr 1
      apply List.map_congr_left
      intro i _
      exact decide_eq_decide.mpr Nat.lt_sub_iff_add_lt

end Stateform.Library
