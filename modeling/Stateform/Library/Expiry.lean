import Mathlib.Algebra.Order.Monoid.Defs
import Stateform.Library.Run

/-!
# State that expires

A value under a key, replaced by every call, with a time to live that each call sets anew.
Whether it is forgotten cannot be seen as long as a call on a value left idle for its time
to live does the same as a call on none (`expiring_eq_kept`).
-/

namespace Stateform.Library

variable {σ α β K : Type*}

/-- A call at a time on what is under the key: what it replies and what it leaves there. -/
abbrev Call (σ α β K : Type*) : Type _ := Option σ → K → α → β × σ

/-- The call on a value that is never forgotten. -/
def keptCall (f : Call σ α β K) (s : Option σ) (call : K × α) : β × Option σ :=
  let (b, next) := f s call.1 call.2
  (b, some next)

section
variable [LinearOrder K]

/-- Whether a deadline has passed. At the deadline itself the value may be gone or not. -/
def passed (early : Bool) (deadline now : K) : Bool :=
  if early then decide (deadline ≤ now) else decide (deadline < now)

theorem le_of_passed {early : Bool} {deadline now : K} (h : passed early deadline now = true) :
    deadline ≤ now := by
  cases early with
  | true => exact of_decide_eq_true h
  | false => exact le_of_lt (of_decide_eq_true h)

/-- What is still there: a value without a deadline stays. -/
def live (early : Bool) (s : Option (σ × Option K)) (now : K) : Option (σ × Option K) :=
  s.filter fun e => !(e.2.any fun deadline => passed early deadline now)

theorem live_some (early : Bool) (s : σ) (deadline now : K) :
    live early (some (s, some deadline)) now =
      if passed early deadline now then none else some (s, some deadline) := by
  cases hpassed : passed early deadline now <;> simp [live, hpassed]

/-- The call on a value that is forgotten once its time to live has run out. A reply that
sets none leaves the deadline as it is. -/
def expiringCall [Add K] (f : Call σ α β K) (ttl : β → Option K) (early : Bool)
    (s : Option (σ × Option K)) (call : K × α) : β × Option (σ × Option K) :=
  let found := live early s call.1
  let (b, next) := f (found.map Prod.fst) call.1 call.2
  (b, some (next, ((ttl b).map fun t => call.1 + t).or (found.bind Prod.snd)))

/-- What a call must promise for its values to expire unseen. The invariant holds of what a
call leaves, from the call on. -/
structure Forgettable [Add K] (f : Call σ α β K) (ttl : β → Option K) (idle : K)
    (Inv : K → σ → Prop) : Prop where
  fresh : ∀ now a, Inv now (f none now a).2
  kept : ∀ last s now a, Inv last s → last ≤ now → Inv now (f (some s) now a).2
  lives : ∀ s now a, ∃ t, ttl (f s now a).1 = some t ∧ idle ≤ t
  unseen : ∀ last s now a, Inv last s → last + idle ≤ now → f (some s) now a = f none now a

section
variable [AddCommMonoid K] [IsOrderedAddMonoid K] {f : Call σ α β K} {ttl : β → Option K}
  {idle : K} {Inv : K → σ → Prop}

/-- What a call leaves lives for its idle time at least. -/
theorem Forgettable.expiringCall_eq (h : Forgettable f ttl idle Inv) (early : Bool)
    {s : Option (σ × Option K)} {kept : Option σ} {now : K} {a : α}
    (hcall : f ((live early s now).map Prod.fst) now a = f kept now a) :
    ∃ deadline, now + idle ≤ deadline ∧ expiringCall f ttl early s (now, a) =
      ((keptCall f kept (now, a)).1, some ((f kept now a).2, some deadline)) := by
  obtain ⟨t, ht, hidle⟩ := h.lives kept now a
  refine ⟨now + t, add_le_add_right hidle now, ?_⟩
  simp only [expiringCall, keptCall, hcall, ht, Option.map_some, Option.some_or]

/-- The two runs, once a call was made: the same value, alive as long as it is not idle. -/
theorem Forgettable.transcript_eq (h : Forgettable f ttl idle Inv) (early : Bool)
    (calls : List (K × α)) {last deadline : K} {s : σ} (hinv : Inv last s)
    (hdeadline : last + idle ≤ deadline)
    (hsorted : (last :: calls.map Prod.fst).Pairwise (· ≤ ·)) :
    transcript (expiringCall f ttl early) (some (s, some deadline)) calls =
      transcript (keptCall f) (some s) calls := by
  induction calls generalizing last deadline s with
  | nil => rfl
  | cons call calls ih =>
      obtain ⟨now, a⟩ := call
      rw [List.map_cons, List.pairwise_cons] at hsorted
      obtain ⟨hlast, hrest⟩ := hsorted
      have hnow : last ≤ now := hlast now List.mem_cons_self
      -- forgotten or not, the call does the same
      have hcall : f ((live early (some (s, some deadline)) now).map Prod.fst) now a =
          f (some s) now a := by
        rw [live_some]
        split
        · next hpassed =>
            exact (h.unseen last s now a hinv (le_trans hdeadline (le_of_passed hpassed))).symm
        · rfl
      obtain ⟨deadline', hdeadline', heq⟩ := h.expiringCall_eq early hcall
      rw [transcript, transcript, heq]
      congr 1
      exact ih (h.kept last s now a hinv hnow) hdeadline' hrest

/-- **Expiry unseen.** Calls at times that never fall get the same replies whether the value
expires or not. -/
theorem Forgettable.expiring_eq_kept (h : Forgettable f ttl idle Inv) (early : Bool)
    (calls : List (K × α)) (hsorted : (calls.map Prod.fst).Pairwise (· ≤ ·)) :
    transcript (expiringCall f ttl early) none calls = transcript (keptCall f) none calls := by
  cases calls with
  | nil => rfl
  | cons call calls =>
      obtain ⟨now, a⟩ := call
      have hcall : f ((live early (none : Option (σ × Option K)) now).map Prod.fst) now a =
          f none now a := rfl
      obtain ⟨deadline, hdeadline, heq⟩ := h.expiringCall_eq early hcall
      rw [transcript, transcript, heq]
      congr 1
      exact h.transcript_eq early calls (h.fresh now a) hdeadline hsorted

end

end

end Stateform.Library
