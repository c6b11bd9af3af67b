import Stateform.Library.Expiry

/-!
# Calls that are refused until a time

A call on a value may be refused until some time. Where refused calls do not put that time
off, the next call is accepted exactly from then on, however many were refused in between
(`RefusedUntil.accepts_next_iff`).
-/

namespace Stateform.Library

variable {σ α β K : Type*} [LinearOrder K]

/-- Calls are accepted exactly from a time on, and refused calls keep it so. The invariant
holds of the value from the last call on. -/
structure RefusedUntil (f : Call σ α β K) (accepts : β → Bool) (ready : K) (Inv : K → σ → Prop) :
    Prop where
  accepts_iff : ∀ last s now a, Inv last s → last ≤ now →
    (accepts (f (some s) now a).1 = true ↔ ready ≤ now)
  kept : ∀ last s now a, Inv last s → last ≤ now → accepts (f (some s) now a).1 = false →
    Inv now (f (some s) now a).2

section
variable {f : Call σ α β K} {accepts : β → Bool} {ready last now : K} {Inv : K → σ → Prop} {s : σ}
  {between : List (K × α)} {a : α}

/-- After calls that were refused the value is still one to wait for. -/
theorem RefusedUntil.after_refused (h : RefusedUntil f accepts ready Inv) (hinv : Inv last s)
    (hsorted : (last :: (between.map Prod.fst ++ [now])).Pairwise (· ≤ ·))
    (hrefused : ∀ e ∈ transcript (keptCall f) (some s) between, accepts e.2 = false) :
    ∃ last' s', after (fun s call => (keptCall f s call).2) (some s) between = some s' ∧
      Inv last' s' ∧ last' ≤ now := by
  induction between generalizing last s with
  | nil =>
      rw [List.map_nil, List.nil_append, List.pairwise_cons] at hsorted
      exact ⟨last, s, rfl, hinv, hsorted.1 now List.mem_cons_self⟩
  | cons call between ih =>
      rw [List.map_cons, List.cons_append, List.pairwise_cons] at hsorted
      have hle : last ≤ call.1 := hsorted.1 call.1 List.mem_cons_self
      have hfirst : accepts (f (some s) call.1 call.2).1 = false :=
        hrefused _ List.mem_cons_self
      have hnext : Inv call.1 (f (some s) call.1 call.2).2 :=
        h.kept last s call.1 call.2 hinv hle hfirst
      exact ih hnext hsorted.2 fun e he => hrefused e (List.mem_cons_of_mem _ he)

/-- **The next call.** After calls that were refused, one is accepted exactly from the time
on. -/
theorem RefusedUntil.accepts_next_iff (h : RefusedUntil f accepts ready Inv) (hinv : Inv last s)
    (hsorted : (last :: (between.map Prod.fst ++ [now])).Pairwise (· ≤ ·))
    (hrefused : ∀ e ∈ transcript (keptCall f) (some s) between, accepts e.2 = false) :
    accepts (keptCall f (after (fun s call => (keptCall f s call).2) (some s) between)
      (now, a)).1 = true ↔ ready ≤ now := by
  obtain ⟨last', s', hafter, hinv', hle⟩ := h.after_refused hinv hsorted hrefused
  rw [hafter]
  exact h.accepts_iff last' s' now a hinv' hle

/-- A call of a run, refused calls after it, and the one that comes next: the value the first
leaves says when the last is accepted. -/
theorem next_of_transcript {s : Option σ} {calls : List (K × α)} {before rest : List ((K × α) × β)}
    {between : List ((K × α) × β)} {now' : K} {a' : α} {b b' : β}
    (hsorted : (calls.map Prod.fst).Pairwise (· ≤ ·))
    (hrun : transcript (keptCall f) s calls =
      before ++ ((now, a), b) :: (between ++ ((now', a'), b') :: rest)) :
    ∃ as₁, b = (f (after (fun s call => (keptCall f s call).2) s as₁) now a).1 ∧
      ∀ {accepts : β → Bool} {ready : K} {Inv : K → σ → Prop}, RefusedUntil f accepts ready Inv →
        Inv now (f (after (fun s call => (keptCall f s call).2) s as₁) now a).2 →
        (∀ e ∈ between, accepts e.2 = false) → (accepts b' = true ↔ ready ≤ now') := by
  obtain ⟨as₁, call, as₂, rfl, -, hfirst, hlater⟩ := transcript_split hrun
  obtain ⟨bs, call', cs, rfl, rfl, hnext, -⟩ := transcript_split hlater.symm
  obtain ⟨rfl, rfl⟩ := Prod.mk.inj hfirst
  obtain ⟨rfl, rfl⟩ := Prod.mk.inj hnext
  refine ⟨as₁, rfl, ?_⟩
  intro accepts ready Inv h hinv hrefused
  have hbetween : (now :: (bs.map Prod.fst ++ [now'])).Pairwise (· ≤ ·) := by
    rw [List.map_append, List.map_cons, List.map_append, List.map_cons] at hsorted
    have hfrom := (List.pairwise_append.mp hsorted).2.1
    have hsplit : now :: (bs.map Prod.fst ++ now' :: cs.map Prod.fst) =
        (now :: (bs.map Prod.fst ++ [now'])) ++ cs.map Prod.fst := by simp
    rw [hsplit] at hfrom
    exact (List.pairwise_append.mp hfrom).1
  exact h.accepts_next_iff hinv hbetween hrefused

end

end Stateform.Library
