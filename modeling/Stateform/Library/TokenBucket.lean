import Stateform.Library.Run
import Mathlib.Algebra.Order.Field.Basic
import Mathlib.Tactic.Linarith
import Mathlib.Tactic.Positivity
import Mathlib.Tactic.Ring

/-!
# The budget of a token bucket

A bucket of a capacity that refills at a rate, over any ordered field. The
budget of a window of time relates what was taken in it to what the bucket
still holds; refilling and taking keep it, and it bounds what the window can
give.

A bucket that is read by clocks that disagree is refilled by every rise of its
readings, whatever they fell to before: no more than the rises is ever taken
(`taken_add_tokens_le`), and a bucket that never overflows gives them all
(`taken_add_tokens_eq`).
-/

namespace Stateform.Library

variable {K : Type*} [Field K] [LinearOrder K] [IsStrictOrderedRing K]

/-- The tokens at a later time, when none are taken in between. -/
def refill (capacity rate tokens elapsed : K) : K := min (tokens + elapsed * rate) capacity

section
variable {capacity rate tokens e₁ e₂ : K}

theorem refill_full (hrate : 0 ≤ rate) (h : 0 ≤ e₁) :
    refill capacity rate capacity e₁ = capacity :=
  min_eq_right (le_add_of_nonneg_right (mul_nonneg h hrate))

/-- What is capped on the way is capped in the end. -/
theorem refill_refill (hrate : 0 ≤ rate) (h : 0 ≤ e₂) :
    refill capacity rate (refill capacity rate tokens e₁) e₂ =
      refill capacity rate tokens (e₁ + e₂) := by
  have hgain : 0 ≤ e₂ * rate := mul_nonneg h hrate
  unfold refill
  rw [add_mul, ← add_assoc, ← min_add_add_right, min_assoc,
    min_eq_right (le_add_of_nonneg_right hgain)]

end

/-- `taken` tokens were taken between `s` and `t`, and the bucket was last
touched at `last`, leaving `tokens`. -/
structure Budget (capacity rate s t : K) (taken : ℕ) (tokens last : K) : Prop where
  nonneg : 0 ≤ tokens
  le_capacity : tokens ≤ capacity
  before : last < s → taken = 0
  window : (taken : K) ≤ capacity + rate * (t - s)
  stock : last ≤ t → taken + tokens ≤ capacity + rate * max 0 (last - s)

namespace Budget

variable {capacity rate s t : K} {taken : ℕ} {tokens last now : K}

/-- A full bucket from which nothing was taken. -/
theorem full (hcap : 0 ≤ capacity) (hrate : 0 ≤ rate) (hst : s ≤ t) :
    Budget capacity rate s t 0 capacity last where
  nonneg := hcap
  le_capacity := le_rfl
  before := fun _ => rfl
  window := by
    have hgain := mul_nonneg hrate (sub_nonneg.mpr hst)
    rw [Nat.cast_zero]
    linarith
  stock := by
    intro _
    have hgain := mul_nonneg hrate (le_max_left 0 (last - s))
    rw [Nat.cast_zero]
    linarith

/-- Time passes: the stock grows by at most the rate. -/
theorem refilled (h : Budget capacity rate s t taken tokens last) (hrate : 0 ≤ rate)
    (hle : last ≤ now) :
    Budget capacity rate s t taken (refill capacity rate tokens (now - last)) now where
  nonneg := by
    have hgain := mul_nonneg (sub_nonneg.mpr hle) hrate
    exact le_min (by linarith [h.nonneg]) (h.nonneg.trans h.le_capacity)
  le_capacity := min_le_right _ _
  before := by
    intro hlt
    exact h.before (lt_of_le_of_lt hle hlt)
  window := h.window
  stock := by
    intro hnow
    have hstock := h.stock (hle.trans hnow)
    have hcap : refill capacity rate tokens (now - last) ≤ capacity := min_le_right _ _
    rcases lt_or_ge last s with hlast | hlast
    · -- nothing was taken yet, and the stock is at most the capacity
      have hgain := mul_nonneg hrate (le_max_left 0 (now - s))
      rw [h.before hlast, Nat.cast_zero]
      linarith
    · have hgrow : refill capacity rate tokens (now - last) ≤ tokens + (now - last) * rate :=
        min_le_left _ _
      rw [max_eq_right (by linarith)] at hstock ⊢
      nlinarith

/-- One token is taken inside of the window. -/
theorem take (h : Budget capacity rate s t taken tokens last) (hrate : 0 ≤ rate)
    (hone : 1 ≤ tokens) (hs : s ≤ last) (ht : last ≤ t) :
    Budget capacity rate s t (taken + 1) (tokens - 1) last := by
  have hstock := h.stock ht
  refine ⟨by linarith, by linarith [h.le_capacity], ?_, ?_, ?_⟩
  · intro hlt
    exact absurd hs (not_le.mpr hlt)
  · have hlast : rate * max 0 (last - s) ≤ rate * (t - s) := by
      rw [max_eq_right (by linarith)]
      exact mul_le_mul_of_nonneg_left (by linarith) hrate
    push_cast
    linarith
  · intro _
    push_cast
    linarith

/-- One token is taken that the window does not count. -/
theorem drop (h : Budget capacity rate s t taken tokens last) (hone : 1 ≤ tokens) :
    Budget capacity rate s t taken (tokens - 1) last where
  nonneg := by linarith
  le_capacity := by linarith [h.le_capacity]
  before := h.before
  window := h.window
  stock := by
    intro ht
    linarith [h.stock ht]

end Budget

/-! ## Attempts at any readings -/

/-- A bucket as it is stored: its tokens, and the reading it was last touched at. -/
structure Stock (K : Type*) where
  tokens : K
  last : K

/-- One attempt to take a token. A reading before the last one counts as no time passed. -/
def attempt (capacity rate : K) (b : Stock K) (now : K) : Bool × Stock K :=
  let tokens := refill capacity rate b.tokens (max 0 (now - b.last))
  if 1 ≤ tokens then (true, ⟨tokens - 1, now⟩) else (false, ⟨tokens, now⟩)

/-- The bucket after an attempt. -/
abbrev attempted (capacity rate : K) (b : Stock K) (now : K) : Stock K :=
  (attempt capacity rate b now).2

/-- The attempts that got a token. -/
def taken (capacity rate : K) (b : Stock K) (nows : List K) : ℕ :=
  (transcript (attempt capacity rate) b nows).countP (·.2)

/-- What the readings after `last` rise by, falls not counted. -/
def riseFrom : K → List K → K
  | _, [] => 0
  | last, now :: nows => max 0 (now - last) + riseFrom now nows

/-- What readings rise by, from the first on. -/
def rise : List K → K
  | [] => 0
  | now :: nows => riseFrom now nows

/-- From the lowest to the highest of some readings. -/
def spread (nows : List K) : K := nows.max?.getD 0 - nows.min?.getD 0

omit [IsStrictOrderedRing K] in
theorem rise_cons (now : K) (nows : List K) : rise (now :: nows) = riseFrom now nows := rfl

omit [IsStrictOrderedRing K] in
/-- The first reading is no rise. -/
theorem riseFrom_self (now : K) (nows : List K) :
    riseFrom now (now :: nows) = rise (now :: nows) := by
  rw [riseFrom, sub_self, max_self, zero_add, rise_cons]

theorem riseFrom_nonneg (last : K) (nows : List K) : 0 ≤ riseFrom last nows := by
  induction nows generalizing last with
  | nil => exact le_rfl
  | cons now nows ih => exact add_nonneg (le_max_left _ _) (ih now)

section
variable {capacity rate : K} {b : Stock K} {now : K} {nows : List K}

omit [IsStrictOrderedRing K] in
@[simp] theorem attempted_last : (attempted capacity rate b now).last = now := by
  dsimp only [attempted, attempt]
  split <;> rfl

omit [IsStrictOrderedRing K] in
theorem taken_cons :
    taken capacity rate b (now :: nows) =
      taken capacity rate (attempted capacity rate b now) nows +
        if (attempt capacity rate b now).1 then 1 else 0 := by
  simp [taken, transcript, List.countP_cons]

omit [IsStrictOrderedRing K] in
theorem taken_append (as bs : List K) :
    taken capacity rate b (as ++ bs) =
      taken capacity rate b as +
        taken capacity rate (after (attempted capacity rate) b as) bs := by
  simp [taken, transcript_append, List.countP_append]

omit [IsStrictOrderedRing K] in
/-- An attempt moves one token or none. -/
theorem attempt_balance (capacity rate : K) (b : Stock K) (now : K) :
    (if (attempt capacity rate b now).1 then (1 : K) else 0) +
        (attempted capacity rate b now).tokens =
      refill capacity rate b.tokens (max 0 (now - b.last)) := by
  dsimp only [attempted, attempt]
  split <;> simp

theorem attempted_nonneg (hcap : 0 ≤ capacity) (hrate : 0 ≤ rate) (h : 0 ≤ b.tokens) :
    0 ≤ (attempted capacity rate b now).tokens := by
  have hgain := mul_nonneg (le_max_left 0 (now - b.last)) hrate
  have hrefill : 0 ≤ refill capacity rate b.tokens (max 0 (now - b.last)) :=
    le_min (by linarith) hcap
  dsimp only [attempted, attempt]
  split
  · next hone => linarith
  · exact hrefill

theorem after_attempted_nonneg (b : Stock K) (hcap : 0 ≤ capacity) (hrate : 0 ≤ rate)
    (h : 0 ≤ b.tokens) (nows : List K) :
    0 ≤ (after (attempted capacity rate) b nows).tokens := by
  induction nows generalizing b with
  | nil => exact h
  | cons now nows ih => exact ih _ (attempted_nonneg hcap hrate h)

/-- **What is taken was there, or was refilled.** -/
theorem taken_add_tokens_le (capacity rate : K) (b : Stock K) (nows : List K) :
    (taken capacity rate b nows : K) + (after (attempted capacity rate) b nows).tokens ≤
      b.tokens + rate * riseFrom b.last nows := by
  induction nows generalizing b with
  | nil => simp [taken, transcript, riseFrom]
  | cons now nows ih =>
      have hrest := ih (attempted capacity rate b now)
      have hone := attempt_balance capacity rate b now
      have hmin : refill capacity rate b.tokens (max 0 (now - b.last)) ≤
          b.tokens + max 0 (now - b.last) * rate := min_le_left _ _
      rw [attempted_last] at hrest
      rw [taken_cons, after_cons, riseFrom]
      push_cast
      linarith

/-- A bucket that never overflows gives all of it, or still has it. -/
theorem taken_add_tokens_eq (hrate : 0 ≤ rate) (nows : List K)
    (hroom : b.tokens + rate * riseFrom b.last nows ≤ capacity) :
    (taken capacity rate b nows : K) + (after (attempted capacity rate) b nows).tokens =
      b.tokens + rate * riseFrom b.last nows := by
  induction nows generalizing b with
  | nil => simp [taken, transcript, riseFrom]
  | cons now nows ih =>
      have hone := attempt_balance capacity rate b now
      have hrise := mul_nonneg hrate (riseFrom_nonneg now nows)
      rw [riseFrom] at hroom
      have hrefill : refill capacity rate b.tokens (max 0 (now - b.last)) =
          b.tokens + max 0 (now - b.last) * rate := by
        apply min_eq_left
        linarith
      have htaken : 0 ≤ if (attempt capacity rate b now).1 then (1 : K) else 0 := by
        split <;> simp
      have hrest := ih (b := attempted capacity rate b now)
      rw [attempted_last] at hrest
      have := hrest (by linarith)
      rw [taken_cons, after_cons, riseFrom]
      push_cast
      linarith

end

/-! ## Bursts -/

/-- Each reading `n` times. -/
def bursts (n : ℕ) (nows : List K) : List K := nows.flatMap (List.replicate n)

omit [IsStrictOrderedRing K] in
theorem riseFrom_replicate (m : ℕ) (last now : K) (nows : List K) :
    riseFrom last (List.replicate (m + 1) now ++ nows) =
      max 0 (now - last) + riseFrom now nows := by
  induction m generalizing last with
  | zero => rfl
  | succ m ih =>
      rw [List.replicate_succ, List.cons_append, riseFrom, ih, sub_self, max_self, zero_add]

omit [IsStrictOrderedRing K] in
theorem riseFrom_bursts {n : ℕ} (hn : 0 < n) (last : K) (nows : List K) :
    riseFrom last (bursts n nows) = riseFrom last nows := by
  obtain ⟨m, hm⟩ := Nat.exists_eq_add_of_lt hn
  rw [zero_add] at hm
  subst hm
  induction nows generalizing last with
  | nil => rfl
  | cons now nows ih =>
      show riseFrom last (List.replicate (m + 1) now ++ bursts (m + 1) nows) = _
      rw [riseFrom_replicate, ih, riseFrom]

omit [IsStrictOrderedRing K] in
theorem rise_bursts {n : ℕ} (hn : 0 < n) (nows : List K) : rise (bursts n nows) = rise nows := by
  cases nows with
  | nil => rfl
  | cons now nows =>
      obtain ⟨m, rfl⟩ : ∃ m, n = m + 1 := ⟨n - 1, by omega⟩
      have hshape : bursts (m + 1) (now :: nows) =
          now :: (List.replicate m now ++ bursts (m + 1) nows) := rfl
      rw [hshape, ← riseFrom_self, ← hshape, riseFrom_bursts hn, riseFrom_self]

omit [Field K] [LinearOrder K] [IsStrictOrderedRing K] in
theorem mem_bursts {n : ℕ} (hn : 0 < n) {nows : List K} {t : K} :
    t ∈ bursts n nows ↔ t ∈ nows := by
  unfold bursts
  simp only [List.mem_flatMap, List.mem_replicate]
  constructor
  · rintro ⟨u, hu, _, rfl⟩
    exact hu
  · intro ht
    exact ⟨t, ht, hn.ne', rfl⟩

omit [IsStrictOrderedRing K] in
/-- A burst adds no reading. -/
theorem spread_bursts {n : ℕ} (hn : 0 < n) (nows : List K) :
    spread (bursts n nows) = spread nows := by
  have hmax : (bursts n nows).max? = nows.max? := by
    apply Option.ext
    intro t
    simp only [List.max?_eq_some_iff, mem_bursts hn]
  have hmin : (bursts n nows).min? = nows.min? := by
    apply Option.ext
    intro t
    simp only [List.min?_eq_some_iff, mem_bursts hn]
  rw [spread, spread, hmax, hmin]

section
variable {capacity rate : K} {b : Stock K} {now : K} {n : ℕ}

theorem attempted_tokens_le : (attempted capacity rate b now).tokens ≤ capacity := by
  have hle : refill capacity rate b.tokens (max 0 (now - b.last)) ≤ capacity := min_le_right _ _
  dsimp only [attempted, attempt]
  split
  · show refill capacity rate b.tokens (max 0 (now - b.last)) - 1 ≤ capacity
    linarith
  · exact hle

omit [IsStrictOrderedRing K] in
/-- A second attempt at one reading finds what the first one left. -/
theorem attempted_again (hlast : b.last = now) (hle : b.tokens ≤ capacity) :
    attempted capacity rate b now =
      ⟨if 1 ≤ b.tokens then b.tokens - 1 else b.tokens, now⟩ := by
  have hrefill : refill capacity rate b.tokens (max 0 (now - b.last)) = b.tokens := by
    rw [hlast, sub_self, max_self, refill, zero_mul, add_zero]
    exact min_eq_left hle
  dsimp only [attempted, attempt]
  rw [hrefill]
  split <;> rfl

theorem drained (m : ℕ) (hlast : b.last = now) (hle : b.tokens ≤ capacity)
    (h : b.tokens < m + 1) :
    (after (attempted capacity rate) b (List.replicate m now)).tokens < 1 := by
  induction m generalizing b with
  | zero => simpa using h
  | succ m ih =>
      rw [List.replicate_succ, after_cons]
      apply ih attempted_last attempted_tokens_le
      rw [attempted_again hlast hle]
      push_cast at h
      show (if 1 ≤ b.tokens then b.tokens - 1 else b.tokens) < m + 1
      split
      · linarith
      · next hlt =>
          have hm : (0 : K) ≤ m := Nat.cast_nonneg m
          linarith

/-- A burst of more attempts than the capacity leaves less than one token. -/
theorem burst_drained (rate : K) (b : Stock K) (now : K) (hcap : 0 ≤ capacity)
    (hn : capacity < n) :
    (after (attempted capacity rate) b (List.replicate n now)).tokens < 1 := by
  cases n with
  | zero =>
      rw [Nat.cast_zero] at hn
      exact absurd hcap (not_le.mpr hn)
  | succ m =>
      rw [List.replicate_succ, after_cons]
      apply drained m attempted_last attempted_tokens_le
      push_cast at hn
      exact lt_of_le_of_lt attempted_tokens_le hn

theorem bursts_drained (rate : K) (hcap : 0 ≤ capacity) (hn : capacity < n) (h : b.tokens < 1)
    (nows : List K) : (after (attempted capacity rate) b (bursts n nows)).tokens < 1 := by
  induction nows generalizing b with
  | nil => exact h
  | cons now nows ih =>
      show (after (attempted capacity rate) b
        (List.replicate n now ++ bursts n nows)).tokens < 1
      rw [after_append]
      exact ih (burst_drained rate b now hcap hn)

omit [IsStrictOrderedRing K] in
theorem burst_last (capacity rate : K) (b : Stock K) (now : K) (hn : 0 < n) :
    (after (attempted capacity rate) b (List.replicate n now)).last = now := by
  obtain ⟨m, rfl⟩ : ∃ m, n = m + 1 := ⟨n - 1, by omega⟩
  rw [List.replicate_succ', after_append]
  exact attempted_last

/-- A burst on a full bucket: nothing is refilled. -/
theorem burst_balance (capacity now : K) (n : ℕ) (hrate : 0 ≤ rate) :
    (taken capacity rate ⟨capacity, now⟩ (List.replicate n now) : K) +
        (after (attempted capacity rate) ⟨capacity, now⟩ (List.replicate n now)).tokens =
      capacity := by
  have hstay : riseFrom now (List.replicate n now) = 0 := by
    induction n with
    | zero => rfl
    | succ n ih => rw [List.replicate_succ, riseFrom, ih, sub_self, max_self, zero_add]
  have hall : (capacity : K) + rate * riseFrom now (List.replicate n now) = capacity := by
    rw [hstay, mul_zero, add_zero]
  have hbalance := taken_add_tokens_eq (b := ⟨capacity, now⟩) hrate (List.replicate n now)
    hall.le
  exact hbalance.trans hall

/-- **Bursts take every rise.** Out of a full bucket that is large enough, bursts
take the capacity and all that is refilled, but for less than one token. -/
theorem lt_taken_bursts (hrate : 0 ≤ rate) (nows : List K)
    (hcap : 1 + rate * riseFrom now nows ≤ capacity) (hn : capacity < n) :
    capacity + rate * riseFrom now nows <
      taken capacity rate ⟨capacity, now⟩ (bursts n (now :: nows)) + 1 := by
  have hrise := mul_nonneg hrate (riseFrom_nonneg now nows)
  have hcap0 : 0 ≤ capacity := by linarith
  have hn0 : 0 < n := by
    have : (0 : K) < n := lt_of_le_of_lt hcap0 hn
    exact_mod_cast this
  have hsplit : taken capacity rate ⟨capacity, now⟩ (bursts n (now :: nows)) =
      taken capacity rate ⟨capacity, now⟩ (List.replicate n now) +
        taken capacity rate
          (after (attempted capacity rate) ⟨capacity, now⟩ (List.replicate n now))
          (bursts n nows) := taken_append _ _
  have hburst := burst_balance capacity now n hrate
  have hfirst := burst_drained rate ⟨capacity, now⟩ now hcap0 hn
  have hlast := burst_last capacity rate ⟨capacity, now⟩ now hn0
  -- the first burst empties the bucket, from then on nothing overflows
  revert hsplit hburst hfirst hlast
  generalize after (attempted capacity rate) ⟨capacity, now⟩ (List.replicate n now) = first
  intro hsplit hburst hfirst hlast
  have hroom : first.tokens + rate * riseFrom first.last (bursts n nows) ≤ capacity := by
    rw [hlast, riseFrom_bursts hn0]
    linarith
  have hrest := taken_add_tokens_eq hrate (bursts n nows) hroom
  have hend := bursts_drained rate hcap0 hn hfirst nows
  rw [hlast, riseFrom_bursts hn0] at hrest
  rw [hsplit]
  push_cast
  linarith

end

end Stateform.Library
