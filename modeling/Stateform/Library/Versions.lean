import Stateform.Library.Run

/-!
# Versioned values

A part of the state that never changes under the version it has. Of the values it has held
in a run, no two have the same version (`Versioned.eq_of_version`), whoever kept them and
wherever they are now.
-/

namespace Stateform.Library

variable {σ α β : Type*} {step : σ → α → Option σ} {part : σ → β} {s t : σ} {as : List α}
  {x y : β}

/-- The part of the state was this at some point of the run. -/
def Held (step : σ → α → Option σ) (part : σ → β) (s : σ) (as : List α) (x : β) : Prop :=
  ∃ done rest t, as = done ++ rest ∧ follow step s done = some t ∧ part t = x

theorem held_now (h : follow step s as = some t) : Held step part s as (part t) :=
  ⟨as, [], t, (List.append_nil as).symm, h, rfl⟩

theorem Held.append (h : Held step part s as x) (bs : List α) : Held step part s (as ++ bs) x := by
  obtain ⟨done, rest, t, rfl, hdone, hpart⟩ := h
  exact ⟨done, rest ++ bs, t, List.append_assoc _ _ _, hdone, hpart⟩

/-- The part changes only along with its version, which never goes back. -/
structure Versioned (step : σ → α → Option σ) (part : σ → β) (version : β → ℕ) : Prop where
  changes : ∀ s a s', step s a = some s' →
    part s' = part s ∨ version (part s) < version (part s')

namespace Versioned

variable {version : β → ℕ}

theorem along (h : Versioned step part version) (hrun : follow step s as = some t) :
    part t = part s ∨ version (part s) < version (part t) := by
  induction as generalizing s with
  | nil =>
      cases hrun
      exact .inl rfl
  | cons a as ih =>
      rw [follow_cons] at hrun
      obtain ⟨u, hfirst, hrest⟩ := Option.bind_eq_some_iff.mp hrun
      rcases h.changes s a u hfirst with hsame | hnew
      · rw [← hsame]
        exact ih hrest
      · right
        rcases ih hrest with hsame' | hnew'
        · rwa [hsame']
        · exact Nat.lt_trans hnew hnew'

/-- Nothing held in a run is older than what was there first, or newer than what is there
last. -/
theorem version_mem (h : Versioned step part version) (hrun : follow step s as = some t)
    (hx : Held step part s as x) :
    version (part s) ≤ version x ∧ version x ≤ version (part t) := by
  obtain ⟨done, rest, u, rfl, hdone, rfl⟩ := hx
  have hrest : follow step u rest = some t := by
    rw [follow_append, hdone] at hrun
    exact hrun
  constructor
  · rcases h.along hdone with hsame | hnew
    · exact Nat.le_of_eq (congrArg version hsame.symm)
    · exact Nat.le_of_lt hnew
  · rcases h.along hrest with hsame | hnew
    · exact Nat.le_of_eq (congrArg version hsame.symm)
    · exact Nat.le_of_lt hnew

/-- **One value for each version.** -/
theorem eq_of_version (h : Versioned step part version) (hx : Held step part s as x)
    (hy : Held step part s as y) (hversion : version x = version y) : x = y := by
  -- one of the two points of the run is the later one
  have hlater : ∀ {done more : List α} {u v : σ}, follow step s done = some u →
      follow step s (done ++ more) = some v → version (part u) = version (part v) →
      part u = part v := by
    intro done more u v hu hv huv
    have hmore : follow step u more = some v := by
      rw [follow_append, hu] at hv
      exact hv
    rcases h.along hmore with hsame | hnew
    · exact hsame.symm
    · omega
  obtain ⟨done, rest, u, rfl, hu, rfl⟩ := hx
  obtain ⟨done', rest', v, hsplit, hv, rfl⟩ := hy
  rcases List.append_eq_append_iff.mp hsplit with ⟨more, rfl, _⟩ | ⟨more, rfl, _⟩
  · exact hlater hu hv hversion
  · exact (hlater hv hu hversion.symm).symm

end Versioned

end Stateform.Library
