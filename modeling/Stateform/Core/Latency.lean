import Stateform.Core.Connections
import Stateform.Library.FloorMean

/-!
# The latency estimate

`update_ewma` over the samples of an endpoint. The estimate stays between the samples it
has seen, although 0 stands for "none yet". Under a steady latency it comes to rest: at the
latency when it comes from above, up to 4 ms short of it when it comes from below.
-/

namespace Stateform

open Library

variable {old sample bound : ℕ} {samples : List ℕ}

/-- The estimate after these samples, or the panic of the first update that overflows. -/
def latencyEstimate (samples : List ℕ) : Except Panic ℕ := samples.foldlM updateEwma 0

/-- What `update_ewma` stores where nothing overflows. -/
def nextEstimate (sample old : ℕ) : ℕ := if old = 0 then sample else floorMean 2 8 sample old

theorem updateEwma_eq (hold : old < 2 ^ 60) (hsample : sample < 2 ^ 60) :
    updateEwma old sample = .ok (nextEstimate sample old) := by
  unfold updateEwma nextEstimate
  by_cases hnone : old = 0
  · rw [if_pos hnone, if_pos hnone]
    rfl
  · have hnew : mulU64 2 sample = .ok (2 * sample) := if_pos (by omega)
    have hkept : mulU64 8 old = .ok (8 * old) := if_pos (by omega)
    have hsum : addU64 (2 * sample) (8 * old) = .ok (2 * sample + 8 * old) := if_pos (by omega)
    rw [if_neg hnone, if_neg hnone, hnew, hkept]
    simp only [bind, Except.bind, hsum]
    rfl

/-- With no estimate yet, the first sample becomes the estimate; else it moves towards it. -/
theorem nextEstimate_towards (sample old : ℕ) : Towards sample old (nextEstimate sample old) := by
  unfold nextEstimate
  split
  · next hnone => exact .inl ⟨hnone.le.trans (Nat.zero_le _), Nat.le_refl _⟩
  · exact floorMean_towards (by decide)

theorem nextEstimate_eq_self_iff :
    nextEstimate sample old = old ↔ old ≤ sample ∧ sample ≤ old + 4 ∧ (old = 0 → sample = 0) := by
  unfold nextEstimate
  by_cases hnone : old = 0
  · rw [if_pos hnone]
    omega
  · rw [if_neg hnone, floorMean_eq_self_iff (by decide)]
    omega

/-! ## What a run keeps -/

/-- The estimate lies between samples, as soon as there is one. -/
structure BetweenSamples (samples : List ℕ) (estimate : ℕ) : Prop where
  mem : ∀ P : Set ℕ, P.OrdConnected → samples ≠ [] → (∀ x ∈ samples, x ∈ P) → estimate ∈ P
  none : samples = [] → estimate = 0

namespace BetweenSamples

variable {estimate : ℕ}

theorem lt (h : BetweenSamples samples estimate) (hsmall : ∀ x ∈ samples, x < bound)
    (hpos : 0 < bound) : estimate < bound := by
  by_cases hnil : samples = []
  · rw [h.none hnil]
    exact hpos
  · exact h.mem (Set.Iio bound) Set.ordConnected_Iio hnil hsmall

theorem lower (h : BetweenSamples samples estimate) {lo : ℕ} (hlo : lo ∈ samples.min?) :
    lo ≤ estimate := by
  obtain ⟨hmem, hall⟩ := List.min?_eq_some_iff.mp hlo
  exact h.mem (Set.Ici lo) Set.ordConnected_Ici (List.ne_nil_of_mem hmem) hall

theorem upper (h : BetweenSamples samples estimate) {hi : ℕ} (hhi : hi ∈ samples.max?) :
    estimate ≤ hi := by
  obtain ⟨hmem, hall⟩ := List.max?_eq_some_iff.mp hhi
  exact h.mem (Set.Iic hi) Set.ordConnected_Iic (List.ne_nil_of_mem hmem) hall

theorem concat (h : BetweenSamples samples estimate) (sample : ℕ) :
    BetweenSamples (samples ++ [sample]) (nextEstimate sample estimate) := by
  refine ⟨?_, fun hnil => by simp at hnil⟩
  intro P hP _ hall
  have hsample : sample ∈ P := hall sample (by simp)
  by_cases hnil : samples = []
  · -- the first sample becomes the estimate
    rw [h.none hnil, nextEstimate, if_pos rfl]
    exact hsample
  · have hestimate := h.mem P hP hnil fun x hx => hall x (List.mem_append_left _ hx)
    exact (nextEstimate_towards sample estimate).mem hP hsample hestimate

end BetweenSamples

theorem latencyEstimate_concat {estimate : ℕ} (h : latencyEstimate samples = .ok estimate)
    (hestimate : estimate < 2 ^ 60) (hsample : sample < 2 ^ 60) :
    latencyEstimate (samples ++ [sample]) = .ok (nextEstimate sample estimate) := by
  unfold latencyEstimate at h ⊢
  rw [List.foldlM_append, h]
  simp only [bind, Except.bind, List.foldlM, updateEwma_eq hestimate hsample]
  rfl

/-- Small samples never overflow, and the estimate lies between them. -/
theorem latencyEstimate_between (samples : List ℕ) (hsmall : ∀ x ∈ samples, x < 2 ^ 60) :
    ∃ estimate, latencyEstimate samples = .ok estimate ∧ BetweenSamples samples estimate := by
  induction samples using List.reverseRecOn with
  | nil => exact ⟨0, rfl, fun _ _ hne => absurd rfl hne, fun _ => rfl⟩
  | append_singleton samples sample ih =>
      have hsamples : ∀ x ∈ samples, x < 2 ^ 60 :=
        fun x hx => hsmall x (List.mem_append_left _ hx)
      obtain ⟨estimate, hestimate, hbetween⟩ := ih hsamples
      have hlt := hbetween.lt hsamples (by decide)
      exact ⟨_, latencyEstimate_concat hestimate hlt (hsmall sample (by simp)),
        hbetween.concat sample⟩

/-! ## A steady latency -/

/-- The estimate after `n` more samples that all equal `s`. -/
theorem latencyEstimate_steady {estimate s : ℕ} (h : latencyEstimate samples = .ok estimate)
    (hestimate : estimate < 2 ^ 60) (hs : s < 2 ^ 60) (n : ℕ) :
    latencyEstimate (samples ++ List.replicate n s) = .ok ((nextEstimate s)^[n] estimate) ∧
      (nextEstimate s)^[n] estimate < 2 ^ 60 := by
  induction n with
  | zero =>
      rw [List.replicate_zero, List.append_nil]
      exact ⟨h, hestimate⟩
  | succ n ih =>
      obtain ⟨hok, hlt⟩ := ih
      rw [List.replicate_succ', ← List.append_assoc, Function.iterate_succ_apply']
      refine ⟨latencyEstimate_concat hok hlt hs, ?_⟩
      exact (nextEstimate_towards s _).mem Set.ordConnected_Iio (Set.mem_Iio.mpr hs)
        (Set.mem_Iio.mpr hlt)

/-- **The estimate.** Samples below `2 ^ 60` never overflow it and hold it between the least
and the greatest of them; once they all equal `s` it goes towards `s`, and comes to rest there
or at most 4 below. -/
theorem latency_settles (samples : List ℕ) (hsmall : ∀ x ∈ samples, x < 2 ^ 60) :
    (∃ estimate, latencyEstimate samples = .ok estimate ∧
        (∀ lo ∈ samples.min?, lo ≤ estimate) ∧ (∀ hi ∈ samples.max?, estimate ≤ hi)) ∧
      ∀ s < 2 ^ 60, ∃ estimate : ℕ → ℕ,
        (∀ n, latencyEstimate (samples ++ List.replicate n s) = .ok (estimate n)) ∧
          (∀ n, estimate n ≤ estimate (n + 1) ∧ estimate (n + 1) ≤ s ∨
            s ≤ estimate (n + 1) ∧ estimate (n + 1) ≤ estimate n) ∧
          ∃ e N, s - 4 ≤ e ∧ e ≤ s ∧ ∀ n, N ≤ n → estimate n = e := by
  obtain ⟨estimate, hestimate, hbetween⟩ := latencyEstimate_between samples hsmall
  refine ⟨⟨estimate, hestimate, fun _ hlo => hbetween.lower hlo,
    fun _ hhi => hbetween.upper hhi⟩, ?_⟩
  intro s hs
  have hlt := hbetween.lt hsmall (by decide)
  refine ⟨fun n => (nextEstimate s)^[n] estimate, ?_, ?_, ?_⟩
  · intro n
    exact (latencyEstimate_steady hestimate hlt hs n).1
  · intro n
    dsimp only
    rw [Function.iterate_succ_apply']
    exact nextEstimate_towards s _
  · obtain ⟨N, hfixed⟩ := exists_fixed (nextEstimate_towards s) estimate
    obtain ⟨hle, hge, _⟩ := nextEstimate_eq_self_iff.mp hfixed
    exact ⟨_, N, by omega, hle, fun n hn => iterate_of_fixed hfixed hn⟩

/-- From 10 ms up to a steady 100 ms the estimate stops at 96. -/
theorem latency_settles_below :
    latencyEstimate ([10] ++ List.replicate 16 100) = .ok 96 ∧
      latencyEstimate ([10] ++ List.replicate 17 100) = .ok 96 ∧
      ∃ estimate : ℕ → ℕ,
        (∀ n, latencyEstimate ([10] ++ List.replicate n 100) = .ok (estimate n)) ∧
          (∀ n, estimate n ≤ estimate (n + 1) ∧ estimate (n + 1) ≤ 100 ∨
            100 ≤ estimate (n + 1) ∧ estimate (n + 1) ≤ estimate n) ∧
          ∃ e N, 100 - 4 ≤ e ∧ e ≤ 100 ∧ ∀ n, N ≤ n → estimate n = e :=
  ⟨by decide, by decide, (latency_settles [10] (by decide)).2 100 (by decide)⟩

/-! ## On an endpoint -/

/-- A send that ends moves the estimate of its endpoint by its own latency. -/
theorem release_ewmaLatency {e : EndpointState} (hold : e.ewmaLatency < 2 ^ 60)
    (hsample : sample < 2 ^ 60) :
    (e.release sample).1 = .ok () ∧
      (e.release sample).2.ewmaLatency = nextEstimate sample e.ewmaLatency := by
  unfold EndpointState.release
  simp only [updateEwma_eq hold hsample, and_self]

/-- The sends of an endpoint that end one after the other leave the estimate of their
latencies on it. -/
theorem releases_ewmaLatency {e : EndpointState} (hnew : e.ewmaLatency = 0) (samples : List ℕ)
    (hsmall : ∀ x ∈ samples, x < 2 ^ 60) :
    latencyEstimate samples =
      .ok (after (fun e sample => (EndpointState.release e sample).2) e samples).ewmaLatency := by
  induction samples using List.reverseRecOn with
  | nil =>
      rw [after_nil, hnew]
      rfl
  | append_singleton samples sample ih =>
      have hsamples : ∀ x ∈ samples, x < 2 ^ 60 :=
        fun x hx => hsmall x (List.mem_append_left _ hx)
      obtain ⟨estimate, hestimate, hbetween⟩ := latencyEstimate_between samples hsamples
      have hlt := hbetween.lt hsamples (by decide)
      have hsample : sample < 2 ^ 60 := hsmall sample (by simp)
      rw [latencyEstimate_concat hestimate hlt hsample, after_append, after_cons, after_nil]
      obtain rfl := Except.ok.inj (hestimate.symm.trans (ih hsamples))
      rw [(release_ewmaLatency hlt hsample).2]

end Stateform
