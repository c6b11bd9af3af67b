import Stateform.Core.Hashing

/-!
# Least connections

The penalty of `select_endpoint` is to have a degraded endpoint chosen last among equals. It
doubles a product, which says nothing where the product is 0 or saturated: there the order
of the list decides (`degradedLast_iff`).
-/

namespace Stateform

/-! ## Leftmost minima -/

section
variable {α : Type*} {f : α → ℕ} {l : List α} {a : α} {m : ℕ}

/-- The first element with a value none is below is the one `min_by_key` takes. -/
theorem argmin_of_find? (hmin : ∀ b ∈ l, m ≤ f b) (h : l.find? (fun b => f b = m) = some a) :
    l.argmin f = some a := by
  induction l with
  | nil => cases h
  | cons b l ih =>
      rw [List.argmin_cons]
      have hrest : ∀ c ∈ l, m ≤ f c := fun c hc => hmin c (List.mem_cons_of_mem b hc)
      by_cases hb : f b = m
      · rw [List.find?_cons_of_pos (by simpa using hb)] at h
        cases hl : l.argmin f with
        | none => exact h
        | some c =>
            have hc := hrest c (List.argmin_mem hl)
            simp only
            rw [if_neg (by omega)]
            exact h
      · rw [List.find?_cons_of_neg (by simpa using hb)] at h
        rw [ih hrest h]
        have ha : f a = m := by simpa using List.find?_some h
        have hb' := hmin b List.mem_cons_self
        simp only
        rw [if_pos (by omega)]

theorem find?_of_argmin (h : l.argmin f = some a) :
    l.find? (fun b => f b = f a) = some a := by
  have hmin : ∀ b ∈ l, f a ≤ f b := fun b hb => List.le_of_mem_argmin hb h
  cases hfind : l.find? (fun b => f b = f a) with
  | none =>
      have hnot := List.find?_eq_none.mp hfind a (List.argmin_mem h)
      simp at hnot
  | some b => rw [← h, argmin_of_find? hmin hfind]

end

/-! ## Loads -/

namespace EndpointState

/-- The product that is minimised, as the exact number. -/
def load (e : EndpointState) : ℕ :=
  if e.ewmaLatency = 0 then e.activeConns else e.activeConns * e.ewmaLatency

def penalty (e : EndpointState) : ℕ := if e.health = .degraded then 2 else 1

/-- Nothing under way and nothing measured that would tell the two apart. -/
def SameCounters (e e' : EndpointState) : Prop :=
  e.activeConns = e'.activeConns ∧ e.ewmaLatency = e'.ewmaLatency

instance (e e' : EndpointState) : Decidable (SameCounters e e') :=
  inferInstanceAs (Decidable (_ ∧ _))

section
variable {e e' : EndpointState}

variable (e) in
theorem penalty_pos : 1 ≤ e.penalty := by
  unfold penalty
  split <;> omega

theorem load_eq_zero_iff : e.load = 0 ↔ e.activeConns = 0 := by
  unfold load
  by_cases hzero : e.ewmaLatency = 0
  · rw [if_pos hzero]
  · rw [if_neg hzero, Nat.mul_eq_zero, or_iff_left hzero]

/-- Saturation applies to the product as a whole. -/
theorem score_eq (e : EndpointState) : e.score = min (e.load * e.penalty) (2 ^ 64 - 1) := by
  have hpenalty := penalty_pos e
  have hsat : ∀ product : ℕ, saturatingMul (min product (2 ^ 64 - 1)) e.penalty =
      min (product * e.penalty) (2 ^ 64 - 1) := by
    intro product
    unfold saturatingMul
    by_cases hle : product ≤ 2 ^ 64 - 1
    · rw [min_eq_left hle]
    · have hge : 2 ^ 64 - 1 ≤ (2 ^ 64 - 1) * e.penalty := Nat.le_mul_of_pos_right _ hpenalty
      have hge' : 2 ^ 64 - 1 ≤ product * e.penalty :=
        le_trans (Nat.le_of_not_le hle) (Nat.le_mul_of_pos_right _ hpenalty)
      rw [min_eq_right (Nat.le_of_not_le hle), min_eq_right hge, min_eq_right hge']
  unfold score load
  simp only
  rw [← penalty]
  by_cases hzero : e.ewmaLatency = 0
  · rw [if_pos hzero, if_pos hzero]
    rfl
  · rw [if_neg hzero, if_neg hzero]
    exact hsat _

theorem score_eq_zero_iff : e.score = 0 ↔ e.activeConns = 0 := by
  rw [← load_eq_zero_iff, score_eq]
  have hpenalty := penalty_pos e
  constructor
  · intro h
    have hproduct : e.load * e.penalty = 0 := by omega
    exact (Nat.mul_eq_zero.mp hproduct).resolve_right (by omega)
  · intro h
    rw [h, Nat.zero_mul, Nat.zero_min]

theorem score_eq_max_iff : e.score = 2 ^ 64 - 1 ↔ 2 ^ 64 - 1 ≤ e.load * e.penalty := by
  rw [score_eq]
  exact min_eq_right_iff

theorem SameCounters.load_eq (h : SameCounters e e') : e.load = e'.load := by
  rw [load, load, h.1, h.2]

end

end EndpointState

/-! ## Last among equals -/

/-- A degraded endpoint is chosen only if no healthy one has the same counters. -/
def DegradedLast (endpoints : List EndpointState) : Prop :=
  ∀ hashKey counter d next,
    selectEndpoint endpoints .leastConnections hashKey counter = .ok (some d, next) →
      d.health = .degraded → ∀ h ∈ endpoints, h.health = .healthy → ¬ h.SameCounters d

/-- A degraded endpoint with a healthy one like it stands first among those without a
request under way, or first of all where every product saturates. -/
def PenaltyVanishes (endpoints : List EndpointState) : Prop :=
  ∃ d h, d.health = .degraded ∧ h ∈ endpoints ∧ h.health = .healthy ∧ h.SameCounters d ∧
    ((endpoints.filter EndpointState.isAvailable).find? (fun e => e.activeConns = 0) = some d ∨
      (endpoints.filter EndpointState.isAvailable).head? = some d ∧
        ∀ e ∈ endpoints.filter EndpointState.isAvailable, 2 ^ 64 - 1 ≤ e.load * e.penalty)

section
variable {endpoints : List EndpointState} {hashKey : Option Str} {counter : ℕ}

theorem selectEndpoint_leastConnections :
    selectEndpoint endpoints .leastConnections hashKey counter =
      .ok ((endpoints.filter EndpointState.isAvailable).argmin EndpointState.score, counter) := by
  unfold selectEndpoint
  cases endpoints.filter EndpointState.isAvailable with
  | nil => rfl
  | cons first rest => rfl

/-- Twice a product is no more than the product only at the two ends. -/
theorem penalty_vanishes {d h : EndpointState} (hd : d.health = .degraded)
    (hh : h.health = .healthy) (hsame : h.SameCounters d) (hle : d.score ≤ h.score) :
    d.score = 0 ∨ d.score = 2 ^ 64 - 1 := by
  rw [EndpointState.score_eq, EndpointState.score_eq, hsame.load_eq] at hle
  rw [EndpointState.score_eq]
  have hdouble : d.penalty = 2 := if_pos hd
  have hsingle : h.penalty = 1 := by
    unfold EndpointState.penalty
    rw [hh]
    rfl
  rw [hdouble, hsingle] at hle
  rw [hdouble]
  omega

section
variable {available : List EndpointState} {d : EndpointState}

/-- The least score is nothing exactly for the first without a request under way. -/
theorem argmin_zero_iff : available.argmin EndpointState.score = some d ∧ d.score = 0 ↔
    available.find? (fun e => e.activeConns = 0) = some d := by
  have hidle : (fun e : EndpointState => decide (e.score = 0)) =
      fun e => decide (e.activeConns = 0) := by
    funext e
    exact decide_eq_decide.mpr EndpointState.score_eq_zero_iff
  rw [← hidle]
  constructor
  · rintro ⟨hargmin, hzero⟩
    rw [← hzero]
    exact find?_of_argmin hargmin
  · intro hfind
    exact ⟨argmin_of_find? (fun b _ => Nat.zero_le b.score) hfind,
      of_decide_eq_true (List.find?_some hfind :)⟩

/-- The least score is the largest there is exactly for the first of endpoints that all
saturate. -/
theorem argmin_max_iff : available.argmin EndpointState.score = some d ∧ d.score = 2 ^ 64 - 1 ↔
    available.head? = some d ∧ ∀ e ∈ available, 2 ^ 64 - 1 ≤ e.load * e.penalty := by
  -- where all of them saturate, the first one found is the first
  have hhead : (∀ e ∈ available, e.score = 2 ^ 64 - 1) →
      available.find? (fun e => e.score = 2 ^ 64 - 1) = available.head? := by
    intro hall
    cases available with
    | nil => rfl
    | cons first rest =>
        exact List.find?_cons_of_pos (by simpa using hall first List.mem_cons_self)
  constructor
  · rintro ⟨hargmin, hmax⟩
    have hall : ∀ e ∈ available, e.score = 2 ^ 64 - 1 := by
      intro e he
      have hle := List.le_of_mem_argmin he hargmin
      have hscore := EndpointState.score_eq e
      omega
    have hfind := find?_of_argmin hargmin
    rw [hmax, hhead hall] at hfind
    exact ⟨hfind, fun e he => EndpointState.score_eq_max_iff.mp (hall e he)⟩
  · rintro ⟨hfirst, hfull⟩
    have hall : ∀ e ∈ available, e.score = 2 ^ 64 - 1 :=
      fun e he => EndpointState.score_eq_max_iff.mpr (hfull e he)
    refine ⟨argmin_of_find? (fun b hb => (hall b hb).ge) ?_, hall d (List.mem_of_head? hfirst)⟩
    rw [hhead hall, hfirst]

end

/-- **When degraded endpoints come last.** The law fails exactly where the penalty vanishes
and the list has a degraded endpoint before its healthy equal. -/
theorem degradedLast_iff (endpoints : List EndpointState) :
    DegradedLast endpoints ↔ ¬ PenaltyVanishes endpoints := by
  constructor
  · rintro hlast ⟨d, h, hd, hmem, hh, hsame, hfirst⟩
    have hargmin : (endpoints.filter EndpointState.isAvailable).argmin EndpointState.score =
        some d := by
      rcases hfirst with hidle | hfull
      · exact (argmin_zero_iff.mpr hidle).1
      · exact (argmin_max_iff.mpr hfull).1
    have hselect : selectEndpoint endpoints .leastConnections none 0 =
        .ok ((endpoints.filter EndpointState.isAvailable).argmin EndpointState.score, 0) :=
      selectEndpoint_leastConnections
    rw [hargmin] at hselect
    exact hlast none 0 d 0 hselect hd h hmem hh hsame
  · intro hnot hashKey counter d next hselect hd h hmem hh hsame
    rw [selectEndpoint_leastConnections, Except.ok.injEq, Prod.mk.injEq] at hselect
    obtain ⟨hargmin, -⟩ := hselect
    have havailable : h ∈ endpoints.filter EndpointState.isAvailable :=
      List.mem_filter.mpr ⟨hmem, by simp [EndpointState.isAvailable, hh]⟩
    refine hnot ⟨d, h, hd, hmem, hh, hsame, ?_⟩
    rcases penalty_vanishes hd hh hsame (List.le_of_mem_argmin havailable hargmin) with
      hzero | hmax
    · exact .inl (argmin_zero_iff.mp ⟨hargmin, hzero⟩)
    · exact .inr (argmin_max_iff.mp ⟨hargmin, hmax⟩)

end

/-- Two idle endpoints: the degraded one is chosen, as it comes first. -/
theorem degraded_not_last :
    selectEndpoint [firstBackend.withHealth .degraded, secondBackend] .leastConnections none 0 =
        .ok (some (firstBackend.withHealth .degraded), 0) ∧
      ¬ ∀ endpoints, DegradedLast endpoints := by
  have hselect : selectEndpoint [firstBackend.withHealth .degraded, secondBackend]
      .leastConnections none 0 = .ok (some (firstBackend.withHealth .degraded), 0) := by decide
  refine ⟨hselect, ?_⟩
  intro h
  exact h _ none 0 _ 0 hselect rfl secondBackend (by simp) rfl ⟨rfl, rfl⟩

end Stateform
