import Mathlib.Tactic.Common

/-!
# Counting semaphores

A pool of permits that is acquired from and released to, and its conservation
law: the free permits and the held ones make up the limit.
-/

namespace Stateform.Library

/-- The free permits of a semaphore that may have been closed. -/
structure Semaphore : Type where
  permits : ℕ
  closed : Bool
deriving DecidableEq

namespace Semaphore

/-- What an acquisition finds when it is polled. -/
inductive Poll : Type where
  | closed
  | pending
  | permit (rest : Semaphore)
deriving DecidableEq

def acquire (s : Semaphore) : Poll :=
  if s.closed then .closed
  else if s.permits = 0 then .pending
  else .permit { s with permits := s.permits - 1 }

def release (s : Semaphore) : Semaphore := { s with permits := s.permits + 1 }

/-- The free permits and the held ones make up the limit. -/
def Conserved (limit : ℕ) (s : Semaphore) (held : ℕ) : Prop := s.permits + held = limit

variable {limit held : ℕ} {s rest : Semaphore}

theorem acquire_eq_permit (h : s.acquire = .permit rest) :
    s.permits = rest.permits + 1 ∧ rest.closed = s.closed ∧ s.closed = false := by
  unfold acquire at h
  split at h
  · cases h
  · next hopen =>
      split at h
      · cases h
      · next hpos =>
          cases h
          refine ⟨?_, rfl, by simpa using hopen⟩
          show s.permits = s.permits - 1 + 1
          omega

theorem acquire_of_pos (hopen : s.closed = false) (hpos : 0 < s.permits) :
    s.acquire = .permit { s with permits := s.permits - 1 } := by
  unfold acquire
  rw [hopen, if_neg Bool.false_ne_true, if_neg (Nat.pos_iff_ne_zero.mp hpos)]

theorem acquire_pending (hopen : s.closed = false) (hzero : s.permits = 0) :
    s.acquire = .pending := by
  unfold acquire
  rw [hopen, if_neg Bool.false_ne_true, if_pos hzero]

/-- Nobody waits for a permit that is free. -/
theorem acquire_ne_pending (hfree : s.permits ≠ 0) : s.acquire ≠ .pending := by
  unfold acquire
  rw [if_neg hfree]
  split <;> nofun

/-- An acquired permit is one more held. -/
theorem Conserved.acquire (h : s.Conserved limit held) (hpermit : s.acquire = .permit rest) :
    rest.Conserved limit (held + 1) := by
  have hone := (acquire_eq_permit hpermit).1
  unfold Conserved at h ⊢
  omega

/-- A released one is held no more. -/
theorem Conserved.release (h : s.Conserved limit (held + 1)) : s.release.Conserved limit held := by
  unfold Conserved at h ⊢
  show s.permits + 1 + held = limit
  omega

end Semaphore

end Stateform.Library
