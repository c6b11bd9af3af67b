import Mathlib.Data.List.TakeWhile
import Mathlib.Tactic.Common

/-!
# The words of a separated text

`words sep l` is the list of non-empty blocks between the separators of `l`.
Runs of separators and separators at either end do not count, and two rules
compute it: a leading separator is dropped, and a leading block ends at the
next separator.
-/

namespace Stateform.Library

variable {α : Type*} [DecidableEq α]

def words (sep : α) (l : List α) : List (List α) :=
  (l.splitOn sep).filter (· ≠ [])

@[simp] theorem words_nil (sep : α) : words sep [] = [] := by
  simp [words]

@[simp] theorem words_sep_cons (sep : α) (l : List α) :
    words sep (sep :: l) = words sep l := by
  have h : (sep :: l).splitOn sep = [] :: l.splitOn sep :=
    List.splitOn_append_cons_self_of_not_mem List.not_mem_nil l
  simp [words, h]

theorem words_of_notMem {sep : α} {w : List α} (hw : sep ∉ w) (hne : w ≠ []) :
    words sep w = [w] := by
  rw [words, List.splitOn_eq_singleton hw]
  simp [hne]

theorem words_append_sep_cons {sep : α} {w l : List α} (hw : sep ∉ w) (hne : w ≠ []) :
    words sep (w ++ sep :: l) = w :: words sep l := by
  rw [words, List.splitOn_append_cons_self_of_not_mem hw]
  simp [words, hne]

/-- A list that does not start with a separator is a block, and then nothing
or a separator and the rest. -/
theorem takeWhile_or_split (sep : α) (l : List α) :
    (l = l.takeWhile (· ≠ sep)) ∨
      ∃ rest, l = l.takeWhile (· ≠ sep) ++ sep :: rest ∧
        l.dropWhile (· ≠ sep) = sep :: rest := by
  induction l with
  | nil => exact Or.inl rfl
  | cons a l ih =>
      by_cases h : a = sep
      · subst h
        exact Or.inr ⟨l, by simp⟩
      · rcases ih with ih | ⟨rest, heq, hdrop⟩
        · left
          simpa [h] using ih
        · right
          exact ⟨rest, by simpa [h] using heq, by simpa [h] using hdrop⟩

theorem sep_notMem_takeWhile (sep : α) (l : List α) : sep ∉ l.takeWhile (· ≠ sep) := by
  intro h
  simpa using List.mem_takeWhile_imp h

end Stateform.Library
