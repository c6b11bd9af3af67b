import Stateform.Library.Run

/-!
# Progress

Actions that use work up. Where each action of a kind lowers a bound, runs of them are no
longer than the bound (`Drains.length_le`), also of one part of the work (`countP_le`), and
where some action can always be taken until all is over, a run ends only there
(`Drains.over_of_stuck`) and one that ends exists (`Drains.exists_over`).
-/

namespace Stateform.Library

variable {σ α : Type*}

/-- The actions of a run that use up one part of the work are bounded by that part. -/
theorem countP_le {step : σ → α → Option σ} {own : α → Prop} {p : α → Bool} {part : σ → ℕ}
    {s s' : σ} {as : List α}
    (hpart : ∀ s a s', own a → step s a = some s' → part s' + (p a).toNat ≤ part s)
    (hown : ∀ a ∈ as, own a) (hrun : follow step s as = some s') :
    as.countP p + part s' ≤ part s := by
  induction as generalizing s with
  | nil =>
      cases hrun
      show 0 + part s' ≤ part s'
      omega
  | cons a as ih =>
      rw [follow_cons] at hrun
      obtain ⟨t, ht, hrest⟩ := Option.bind_eq_some_iff.mp hrun
      have hone := hpart s a t (hown a List.mem_cons_self) ht
      have htail := ih (fun b hb => hown b (List.mem_cons_of_mem _ hb)) hrest
      rw [List.countP_cons]
      cases hp : p a with
      | false =>
          rw [hp, Bool.toNat_false] at hone
          rw [if_neg Bool.false_ne_true]
          omega
      | true =>
          rw [hp, Bool.toNat_true] at hone
          rw [if_pos rfl]
          omega

/-- The actions of a kind, `own`, use up the work left in a state, and as long as not all is
over one of the `eager` ones among them can be taken. -/
structure Drains (step : σ → α → Option σ) (Inv : σ → Prop) (own eager : α → Prop)
    (Over : σ → Prop) (work : σ → ℕ) : Prop where
  eager_own : ∀ a, eager a → own a
  kept : ∀ s a s', Inv s → own a → step s a = some s' → Inv s'
  lower : ∀ s a s', Inv s → own a → step s a = some s' → work s' < work s
  goesOn : ∀ s, Inv s → ¬ Over s → ∃ a s', eager a ∧ step s a = some s'

namespace Drains

variable {step : σ → α → Option σ} {Inv : σ → Prop} {own eager : α → Prop} {Over : σ → Prop}
  {work : σ → ℕ} {s s' : σ} {as : List α}

theorem run_kept (h : Drains step Inv own eager Over work) (hinv : Inv s)
    (hown : ∀ a ∈ as, own a) (hrun : follow step s as = some s') : Inv s' := by
  induction as generalizing s with
  | nil =>
      cases hrun
      exact hinv
  | cons a as ih =>
      rw [follow_cons] at hrun
      obtain ⟨t, ht, hrest⟩ := Option.bind_eq_some_iff.mp hrun
      have hnext := h.kept s a t hinv (hown a List.mem_cons_self) ht
      exact ih hnext (fun b hb => hown b (List.mem_cons_of_mem _ hb)) hrest

/-- **Runs are bounded** by the work there was. -/
theorem length_le (h : Drains step Inv own eager Over work) (hinv : Inv s)
    (hown : ∀ a ∈ as, own a) (hrun : follow step s as = some s') :
    as.length + work s' ≤ work s := by
  induction as generalizing s with
  | nil =>
      cases hrun
      show 0 + work s' ≤ work s'
      omega
  | cons a as ih =>
      rw [follow_cons] at hrun
      obtain ⟨t, ht, hrest⟩ := Option.bind_eq_some_iff.mp hrun
      have hfirst := hown a List.mem_cons_self
      have hlower := h.lower s a t hinv hfirst ht
      have htail := ih (h.kept s a t hinv hfirst ht)
        (fun b hb => hown b (List.mem_cons_of_mem _ hb)) hrest
      rw [List.length_cons]
      omega

/-- A run that cannot go on has reached the end. -/
theorem over_of_stuck (h : Drains step Inv own eager Over work) (hinv : Inv s)
    (hown : ∀ a ∈ as, own a) (hrun : follow step s as = some s')
    (hstuck : ∀ a, eager a → step s' a = none) : Over s' := by
  by_contra hover
  obtain ⟨a, t, heager, ht⟩ := h.goesOn s' (h.run_kept hinv hown hrun) hover
  rw [hstuck a heager] at ht
  cases ht

/-- **The end can be reached** by eager actions alone. -/
theorem exists_over (h : Drains step Inv own eager Over work) (hinv : Inv s) :
    ∃ as s', (∀ a ∈ as, eager a) ∧ follow step s as = some s' ∧ Over s' := by
  -- on the work that is left
  induction hn : work s using Nat.strongRecOn generalizing s with
  | ind n ih =>
    subst hn
    by_cases hover : Over s
    · exact ⟨[], s, nofun, rfl, hover⟩
    obtain ⟨a, t, heager, ht⟩ := h.goesOn s hinv hover
    have hfirst := h.eager_own a heager
    obtain ⟨as, s', has, hrest, hover'⟩ :=
      ih (work t) (h.lower s a t hinv hfirst ht) (h.kept s a t hinv hfirst ht) rfl
    refine ⟨a :: as, s', ?_, ?_, hover'⟩
    · intro b hb
      rcases List.mem_cons.mp hb with rfl | hb
      · exact heager
      · exact has b hb
    · rw [follow_cons, ht]
      exact hrest

end Drains

end Stateform.Library
