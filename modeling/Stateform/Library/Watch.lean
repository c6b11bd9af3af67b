import Mathlib.Tactic.Common

/-!
# Watch channels

A channel that keeps the last value sent, with one receiver that waits for
changes: values sent in between are never seen. Values are numbered, and the
receiver remembers the number it has seen.
-/

namespace Stateform.Library

structure Watch (α : Type*) : Type _ where
  value : α
  version : ℕ
  seen : ℕ
  seen_le : seen ≤ version

namespace Watch

variable {α : Type*}

def new (value : α) : Watch α := ⟨value, 0, 0, Nat.le_refl 0⟩

def send (w : Watch α) (value : α) : Watch α :=
  ⟨value, w.version + 1, w.seen, Nat.le_succ_of_le w.seen_le⟩

/-- The receiver has seen all that was sent. -/
def markSeen (w : Watch α) : Watch α := { w with seen := w.version, seen_le := Nat.le_refl _ }

/-- Something was sent that the receiver has not seen. -/
def hasChanged (w : Watch α) : Bool := w.seen != w.version

variable (w : Watch α) (value : α)

@[simp] theorem hasChanged_send : (w.send value).hasChanged = true := by
  have := w.seen_le
  show (w.seen != w.version + 1) = true
  rw [bne_iff_ne]
  omega

@[simp] theorem hasChanged_markSeen : w.markSeen.hasChanged = false := bne_self_eq_false _

end Watch

end Stateform.Library
