import Stateform.Library.Run

/-!
# The last write to a part of the state

A part of the state that some actions touch and the others leave alone holds a value
exactly if the last action that touched it wrote that value (`read_after_iff`).
-/

namespace Stateform.Library

variable {σ α β : Type*} {step : σ → α → σ} {s : σ} {read : σ → β} {touches : σ → α → Prop}

/-- None of these actions, one after the other from `s` on, touches the part. -/
def Untouched (step : σ → α → σ) (touches : σ → α → Prop) (s : σ) (actions : List α) : Prop :=
  ∀ before a rest, actions = before ++ a :: rest → ¬ touches (after step s before) a

theorem untouched_nil : Untouched step touches s [] := by
  intro before a rest h
  cases before <;> cases h

theorem untouched_cons_iff {a : α} {actions : List α} :
    Untouched step touches s (a :: actions) ↔
      ¬ touches s a ∧ Untouched step touches (step s a) actions := by
  constructor
  · intro h
    refine ⟨h [] a actions rfl, ?_⟩
    rintro before b rest rfl
    exact h (a :: before) b rest rfl
  · rintro ⟨hfirst, hrest⟩ before b rest h
    cases before with
    | nil =>
        obtain ⟨rfl, rfl⟩ := List.cons.inj h
        exact hfirst
    | cons b' before =>
        obtain ⟨rfl, rfl⟩ := List.cons.inj h
        exact hrest before b rest rfl

/-- In a run that comes to an end, steps that do what a total step does touch what it does. -/
theorem meets_untouched_iff {call : σ → α → Option σ} {touches' : σ → α → Prop}
    (hstep : ∀ s a t, call s a = some t → t = step s a)
    (hiff : ∀ s a t, call s a = some t → (touches' s a ↔ touches s a)) {t : σ}
    {actions : List α} (h : follow call s actions = some t) :
    Meets call (fun s a => ¬ touches' s a) s actions ↔ Untouched step touches s actions := by
  induction actions generalizing s with
  | nil => exact ⟨fun _ => untouched_nil, fun _ => trivial⟩
  | cons a actions ih =>
      rw [follow_cons] at h
      obtain ⟨u, hu, hrest⟩ := Option.bind_eq_some_iff.mp h
      rw [untouched_cons_iff, ← hstep s a u hu, ← ih hrest, Meets, hiff s a u hu, hu]
      refine and_congr_right fun _ => ⟨fun hall => hall u rfl, ?_⟩
      rintro hmeets _ ⟨⟩
      exact hmeets

theorem untouched_concat {actions : List α} {a : α} (h : Untouched step touches s actions)
    (ha : ¬ touches (after step s actions) a) : Untouched step touches s (actions ++ [a]) := by
  induction actions generalizing s with
  | nil => exact untouched_cons_iff.mpr ⟨ha, untouched_nil⟩
  | cons b actions ih =>
      obtain ⟨hfirst, hrest⟩ := untouched_cons_iff.mp h
      exact untouched_cons_iff.mpr ⟨hfirst, ih hrest ha⟩

theorem read_after_untouched (hleft : ∀ s a, ¬ touches s a → read (step s a) = read s)
    {actions : List α} (h : Untouched step touches s actions) :
    read (after step s actions) = read s := by
  induction actions generalizing s with
  | nil => rfl
  | cons a actions ih =>
      obtain ⟨hfirst, hrest⟩ := untouched_cons_iff.mp h
      rw [after_cons, ih hrest, hleft s a hfirst]

/-- **The last write.** A value that was not there at the start is there after a run exactly
if some action wrote it and none touched it since. -/
theorem read_after_iff (read : σ → β) {writes : α → Prop} {b : β} (hinit : read s ≠ b)
    (hleft : ∀ s a, ¬ touches s a → read (step s a) = read s)
    (hwrites : ∀ s a, touches s a → (read (step s a) = b ↔ writes a))
    (htouches : ∀ s a, writes a → touches s a) (actions : List α) :
    read (after step s actions) = b ↔
      ∃ before a rest, actions = before ++ a :: rest ∧ writes a ∧
        Untouched step touches (after step s (before ++ [a])) rest := by
  constructor
  · intro h
    induction actions using List.reverseRecOn with
    | nil => exact absurd h hinit
    | append_singleton actions a ih =>
        rw [after_append, after_cons, after_nil] at h
        by_cases ha : touches (after step s actions) a
        · exact ⟨actions, a, [], rfl, (hwrites _ a ha).mp h, untouched_nil⟩
        · rw [hleft _ a ha] at h
          obtain ⟨before, c, rest, rfl, hc, hrest⟩ := ih h
          refine ⟨before, c, rest ++ [a], by simp, hc, untouched_concat hrest ?_⟩
          rw [← after_append]
          simpa using ha
  · rintro ⟨before, a, rest, rfl, ha, hrest⟩
    have hsplit : before ++ a :: rest = before ++ [a] ++ rest := by simp
    rw [hsplit, after_append, read_after_untouched hleft hrest, after_append]
    exact (hwrites _ a (htouches _ a ha)).mpr ha

end Stateform.Library
