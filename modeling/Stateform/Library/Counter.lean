import Mathlib.Algebra.Ring.Nat
import Mathlib.Data.List.AList
import Stateform.Library.Run

/-!
# Labelled counters

A vector of counters: one for each tuple of label values that was counted, none for the
others. A sum over the counters whose labels pass a test grows by one for each increment of
such a label (`total_incAll`), in whatever order the increments come.
-/

namespace Stateform.Library

/-- The counters by their labels. -/
abbrev CounterVec (L : Type*) : Type _ := AList fun _ : L => ℕ

namespace CounterVec

section
variable {L : Type*} [DecidableEq L]

/-- A counter that is not there yet starts at 0. -/
def inc (c : CounterVec L) (labels : L) : CounterVec L :=
  c.insert labels ((c.lookup labels).getD 0 + 1)

def incAll (c : CounterVec L) (counted : List L) : CounterVec L := after inc c counted

/-- The sum over the counters whose labels pass the test. -/
def total (c : CounterVec L) (p : L → Bool) : ℕ :=
  ((c.entries.filter fun e => p e.1).map Sigma.snd).sum

/-- The sum without one of the counters. -/
theorem sum_kerase (p : L → Bool) (labels : L) (entries : List (Sigma fun _ : L => ℕ)) :
    (((entries.kerase labels).filter fun e => p e.1).map Sigma.snd).sum +
        (if p labels then (entries.dlookup labels).getD 0 else 0) =
      ((entries.filter fun e => p e.1).map Sigma.snd).sum := by
  induction entries with
  | nil => simp
  | cons e entries ih =>
      by_cases hsame : labels = e.1
      · subst hsame
        rw [List.kerase_cons_eq rfl, List.dlookup_cons_eq, List.filter_cons]
        split
        · rw [List.map_cons, List.sum_cons, Option.getD_some]
          exact Nat.add_comm _ _
        · rfl
      · rw [List.kerase_cons_ne hsame, List.dlookup_cons_ne _ _ hsame, List.filter_cons,
          List.filter_cons]
        split
        · rw [List.map_cons, List.sum_cons, List.map_cons, List.sum_cons, Nat.add_assoc, ih]
        · exact ih

theorem total_inc (c : CounterVec L) (p : L → Bool) (labels : L) :
    (c.inc labels).total p = c.total p + if p labels then 1 else 0 := by
  have hrest := sum_kerase p labels c.entries
  unfold total inc
  rw [AList.entries_insert, List.filter_cons]
  split
  · next hp =>
      rw [if_pos hp] at hrest
      rw [List.map_cons, List.sum_cons, ← hrest]
      show (c.lookup labels).getD 0 + 1 + _ = _ + (c.lookup labels).getD 0 + 1
      omega
  · next hp =>
      rw [if_neg hp] at hrest
      exact hrest

theorem incAll_append (c : CounterVec L) (counted more : List L) :
    c.incAll (counted ++ more) = (c.incAll counted).incAll more := after_append counted more

theorem total_incAll (c : CounterVec L) (p : L → Bool) (counted : List L) :
    (c.incAll counted).total p = c.total p + counted.countP p := by
  induction counted generalizing c with
  | nil => rfl
  | cons labels counted ih =>
      show ((c.inc labels).incAll counted).total p = _
      rw [ih, total_inc, List.countP_cons, Nat.add_assoc, Nat.add_comm (if p labels then 1 else 0)]

end

end CounterVec

end Stateform.Library
