import Mathlib.Data.List.Induction
import Mathlib.Tactic.Common

/-!
# Runs of a step function

The state after a list of actions, and the rule for invariants that relate a
state to the whole history that led to it.
-/

namespace Stateform.Library

variable {σ α : Type*} {step : σ → α → σ} {s : σ}

/-- The state after a list of actions. -/
def after (step : σ → α → σ) (s : σ) (actions : List α) : σ := actions.foldl step s

@[simp] theorem after_nil : after step s [] = s := rfl

@[simp] theorem after_cons (a : α) (actions : List α) :
    after step s (a :: actions) = after step (step s a) actions := rfl

@[simp] theorem after_append (as bs : List α) :
    after step s (as ++ bs) = after step (after step s as) bs := List.foldl_append

/-- **History invariants.** What holds before the first action, and is kept by
each admissible action after each admissible history, holds after every
admissible history. -/
theorem history_invariant {P : List α → σ → Prop} {ok : α → Prop} (init : P [] s)
    (kept : ∀ as a, (∀ b ∈ as, ok b) → ok a → P as (after step s as) →
      P (as ++ [a]) (step (after step s as) a)) :
    ∀ as, (∀ a ∈ as, ok a) → P as (after step s as) := by
  intro as
  induction as using List.reverseRecOn with
  | nil =>
      intro _
      exact init
  | append_singleton as a ih =>
      intro hok
      have has : ∀ b ∈ as, ok b := by
        intro b hb
        exact hok b (List.mem_append_left _ hb)
      have ha : ok a := hok a (by simp)
      rw [after_append]
      exact kept as a has ha (ih has)

/-- The special case in which nothing is asked of the actions. -/
theorem history_invariant_all {P : List α → σ → Prop} (init : P [] s)
    (kept : ∀ as a, P as (after step s as) → P (as ++ [a]) (step (after step s as) a))
    (as : List α) : P as (after step s as) := by
  have hall : ∀ as, (∀ a ∈ as, True) → P as (after step s as) := by
    apply history_invariant init
    intro as a _ _
    exact kept as a
  exact hall as fun _ _ => trivial

/-! ## Actions that leave a part alone -/

/-- Where one part of the state runs on its own, the actions that leave it alone can
be taken out of a run. -/
theorem after_filter {τ : Type*} (view : σ → τ) (viewStep : τ → α → τ) {keep : α → Bool}
    (hview : ∀ s a, view (step s a) = viewStep (view s) a)
    (hskip : ∀ t a, keep a = false → viewStep t a = t) (actions : List α) :
    view (after step s actions) = view (after step s (actions.filter keep)) := by
  induction actions using List.reverseRecOn with
  | nil => rfl
  | append_singleton actions a ih =>
      rw [after_append, List.filter_append, after_append, after_cons, after_nil, hview, ih]
      cases ha : keep a with
      | false => simp [ha, hskip]
      | true => simp [ha, hview]

/-! ## The last action of a kind -/

section
variable {β : Type*} {f : α → Option β} {as : List α} {a : α} {b : β}

/-- What the last action of a kind says; `f` says it of the actions of the kind. -/
def lastOf (f : α → Option β) (actions : List α) : Option β := (actions.filterMap f).getLast?

theorem lastOf_snoc_none (h : f a = none) : lastOf f (as ++ [a]) = lastOf f as := by
  unfold lastOf
  rw [List.filterMap_append, List.filterMap_cons_none h]
  exact congrArg List.getLast? (List.append_nil _)

theorem lastOf_snoc_some (h : f a = some b) : lastOf f (as ++ [a]) = some b := by
  unfold lastOf
  rw [List.filterMap_append, List.filterMap_cons_some h]
  exact List.getLast?_concat

end

/-! ## Answers -/

section
variable {β : Type*} (f : σ → α → β × σ)

/-- The actions of a run with what each was answered. -/
def transcript : σ → List α → List (α × β)
  | _, [] => []
  | s, a :: actions => (a, (f s a).1) :: transcript (f s a).2 actions

theorem transcript_append (s : σ) (as bs : List α) :
    transcript f s (as ++ bs) =
      transcript f s as ++ transcript f (after (fun s a => (f s a).2) s as) bs := by
  induction as generalizing s with
  | nil => rfl
  | cons a as ih => simp [transcript, ih]

theorem mem_transcript {f : σ → α → β × σ} {s : σ} {as : List α} {e : α × β}
    (h : e ∈ transcript f s as) : e.1 ∈ as := by
  induction as generalizing s with
  | nil => cases h
  | cons a as ih =>
      rcases List.mem_cons.mp h with rfl | h
      · exact List.mem_cons_self
      · exact List.mem_cons_of_mem _ (ih h)

/-- A transcript that is cut at an answer is cut at its action. -/
theorem transcript_split {f : σ → α → β × σ} {s : σ} {as : List α} {before rest : List (α × β)}
    {e : α × β} (h : transcript f s as = before ++ e :: rest) :
    ∃ as₁ a as₂, as = as₁ ++ a :: as₂ ∧ before = transcript f s as₁ ∧
      e = (a, (f (after (fun s a => (f s a).2) s as₁) a).1) ∧
      rest = transcript f (f (after (fun s a => (f s a).2) s as₁) a).2 as₂ := by
  induction before generalizing s as with
  | nil =>
      cases as with
      | nil => cases h
      | cons a as =>
          cases h
          exact ⟨[], a, as, rfl, rfl, rfl, rfl⟩
  | cons b before ih =>
      cases as with
      | nil => cases h
      | cons a as =>
          obtain ⟨rfl, htail⟩ := List.cons.inj h
          obtain ⟨as₁, a', as₂, rfl, rfl, rfl, rfl⟩ := ih htail
          exact ⟨a :: as₁, a', as₂, rfl, rfl, rfl, rfl⟩

/-- **Bisimulation.** Two machines whose related states answer alike, and stay related, give the
same answers to every run. -/
theorem transcript_bisim {τ : Type*} {f : σ → α → β × σ} {g : τ → α → β × τ} {R : σ → τ → Prop}
    {ok : α → Prop}
    (hstep : ∀ s t a, R s t → ok a → (f s a).1 = (g t a).1 ∧ R (f s a).2 (g t a).2)
    (as : List α) {s : σ} {t : τ} (hrel : R s t) (hok : ∀ a ∈ as, ok a) :
    transcript f s as = transcript g t as := by
  induction as generalizing s t with
  | nil => rfl
  | cons a as ih =>
      obtain ⟨hanswer, hnext⟩ := hstep s t a hrel (hok a List.mem_cons_self)
      have hrest : ∀ b ∈ as, ok b := fun b hb => hok b (List.mem_cons_of_mem _ hb)
      rw [transcript, transcript, hanswer, ih hnext hrest]

/-- **Actions left out.** Where a relation holds between a run and one without some of its
actions, kept by each action that both take and by each that only the first takes, both give
the same answers to the actions they share. -/
theorem transcript_filter {f : σ → α → β × σ} {keep : α → Bool} {hidden : β → Prop}
    {R : List α → σ → σ → Prop}
    (hshared : ∀ a as s t, R (a :: as) s t → keep a = true →
      (f s a).1 = (f t a).1 ∧ R as (f s a).2 (f t a).2)
    (hleft : ∀ a as s t, R (a :: as) s t → keep a = false → hidden (f s a).1 →
      R as (f s a).2 t)
    (as : List α) {s t : σ} (hrel : R as s t)
    (h : ∀ e ∈ transcript f s as, keep e.1 = false → hidden e.2) :
    transcript f t (as.filter keep) = (transcript f s as).filter fun e => keep e.1 := by
  induction as generalizing s t with
  | nil => rfl
  | cons a as ih =>
      have hrest : ∀ e ∈ transcript f (f s a).2 as, keep e.1 = false → hidden e.2 :=
        fun e he => h e (List.mem_cons_of_mem _ he)
      rw [transcript]
      cases hkeep : keep a with
      | true =>
          obtain ⟨hanswer, hnext⟩ := hshared a as s t hrel hkeep
          rw [List.filter_cons_of_pos hkeep, transcript, hanswer, ih hnext hrest]
          exact (List.filter_cons_of_pos (p := fun e : α × β => keep e.1) hkeep).symm
      | false =>
          have hskip : ¬ keep a = true := by simp [hkeep]
          have hnext := hleft a as s t hrel hkeep (h _ List.mem_cons_self hkeep)
          rw [List.filter_cons_of_neg hskip, ih hnext hrest]
          exact (List.filter_cons_of_neg (p := fun e : α × β => keep e.1) hskip).symm

end

/-! ## Steps that may be refused -/

section
variable {step : σ → α → Option σ}

/-- The state after a list of actions, if none of them is refused. -/
def follow (step : σ → α → Option σ) (s : σ) (actions : List α) : Option σ :=
  actions.foldlM step s

theorem follow_cons (a : α) (as : List α) :
    follow step s (a :: as) = (step s a).bind fun t => follow step t as := rfl

@[simp] theorem follow_append (as bs : List α) :
    follow step s (as ++ bs) = (follow step s as).bind fun t => follow step t bs :=
  List.foldlM_append

theorem follow_concat (as : List α) (a : α) :
    follow step s (as ++ [a]) = (follow step s as).bind fun t => step t a := by
  rw [follow_append]
  congr 1
  funext t
  simp [follow]

/-- History invariants, for the histories in which no action was refused. -/
theorem follow_invariant {P : List α → σ → Prop} (init : P [] s)
    (kept : ∀ as a t t', follow step s as = some t → P as t → step t a = some t' →
      P (as ++ [a]) t') :
    ∀ as t, follow step s as = some t → P as t := by
  intro as
  induction as using List.reverseRecOn with
  | nil =>
      rintro t ⟨rfl⟩
      exact init
  | append_singleton as a ih =>
      intro t' h
      rw [follow_concat] at h
      obtain ⟨t, ht, hstep⟩ := Option.bind_eq_some_iff.mp h
      exact kept as a t t' ht (ih t ht) hstep

/-! ## Runs whose steps meet a condition -/

/-- Every action of the list is taken in a state in which the condition admits it. -/
def Meets (step : σ → α → Option σ) (ok : σ → α → Prop) : σ → List α → Prop
  | _, [] => True
  | s, a :: as => ok s a ∧ ∀ t, step s a = some t → Meets step ok t as

theorem meets_append {ok : σ → α → Prop} {as bs : List α} (h : Meets step ok s (as ++ bs)) :
    Meets step ok s as ∧ ∀ t, follow step s as = some t → Meets step ok t bs := by
  induction as generalizing s with
  | nil =>
      refine ⟨trivial, ?_⟩
      rintro t ⟨rfl⟩
      exact h
  | cons a as ih =>
      refine ⟨⟨h.1, fun t ht => (ih (h.2 t ht)).1⟩, ?_⟩
      intro t ht
      rw [follow_cons] at ht
      obtain ⟨u, hu, hrest⟩ := Option.bind_eq_some_iff.mp ht
      exact (ih (h.2 u hu)).2 t hrest

theorem meets_concat {ok : σ → α → Prop} {as : List α} {a : α} (h : Meets step ok s as)
    (hlast : ∀ t, follow step s as = some t → ok t a) : Meets step ok s (as ++ [a]) := by
  induction as generalizing s with
  | nil => exact ⟨hlast s rfl, fun _ _ => trivial⟩
  | cons b as ih =>
      refine ⟨h.1, ?_⟩
      intro t ht
      apply ih (h.2 t ht)
      intro u hu
      apply hlast u
      rw [follow_cons, ht]
      exact hu

/-- A condition on every action of a run, by its history. -/
theorem meets_iff_history {ok : σ → α → Prop} {actions : List α} :
    Meets step ok s actions ↔ ∀ before a rest t, actions = before ++ a :: rest →
      follow step s before = some t → ok t a := by
  constructor
  · rintro h before a rest t rfl ht
    exact ((meets_append h).2 t ht).1
  · intro h
    induction actions generalizing s with
    | nil => trivial
    | cons a as ih =>
        refine ⟨h [] a as s rfl rfl, ?_⟩
        intro t ht
        apply ih
        rintro before b rest u rfl hu
        refine h (a :: before) b rest u rfl ?_
        rw [follow_cons, ht]
        exact hu

/-- Every action of the list is taken in a state in which a test admits it. -/
def tested (step : σ → α → Option σ) (test : σ → α → Bool) : σ → List α → Bool
  | _, [] => true
  | s, a :: as => test s a && (step s a).all fun t => tested step test t as

theorem meets_of_tested {ok : σ → α → Prop} {test : σ → α → Bool}
    (htest : ∀ s a, test s a = true → ok s a) (s : σ) (as : List α)
    (h : tested step test s as = true) : Meets step ok s as := by
  induction as generalizing s with
  | nil => trivial
  | cons a as ih =>
      obtain ⟨hhead, hrest⟩ := Bool.and_eq_true_iff.mp h
      refine ⟨htest s a hhead, ?_⟩
      intro t ht
      rw [ht, Option.all_some] at hrest
      exact ih t hrest

/-- Invariants of the runs whose steps meet a condition. -/
theorem meets_invariant {P : List α → σ → Prop} {ok : σ → α → Prop} (init : P [] s)
    (kept : ∀ as a t t', follow step s as = some t → P as t → ok t a → step t a = some t' →
      P (as ++ [a]) t') :
    ∀ as t, Meets step ok s as → follow step s as = some t → P as t := by
  intro as
  induction as using List.reverseRecOn with
  | nil =>
      rintro t _ ⟨rfl⟩
      exact init
  | append_singleton as a ih =>
      intro t' hmeets h
      rw [follow_concat] at h
      obtain ⟨t, ht, hstep⟩ := Option.bind_eq_some_iff.mp h
      obtain ⟨hbefore, hlast⟩ := meets_append hmeets
      exact kept as a t t' ht (ih t hbefore ht) (hlast t ht).1 hstep

end

end Stateform.Library
