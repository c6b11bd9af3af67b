import Stateform.Core.Hashing
import Stateform.Library.RoundRobin
import Stateform.Library.Run

/-!
# Weighted round robin

The turns of `select_endpoint` are those of the library: the position a turn takes is the
slot of its counter value among the effective weights, an endpoint that is not available
having none. A whole round that does not cross a multiple of `2 ^ 32` gives each endpoint
its weight (`weightedRoundRobin_exact`).
-/

namespace Stateform

open Library

/-! ## Positions -/

/-- The position of the endpoint a turn takes, and the counter it leaves: equal endpoints
are still two. -/
def weightedPosition (endpoints : List EndpointState) (counter : ℕ) :
    Except Panic (Option ℕ × ℕ) :=
  match availableFrom 0 endpoints with
  | [] => .ok (none, counter)
  | first :: rest => do
      let weights := (endpoints.filter EndpointState.isAvailable).map EndpointState.effectiveWeight
      let totalWeight ← sumU32 0 weights
      if totalWeight = 0 then return (some first, counter)
      let place := slot (counter % 2 ^ 32 % totalWeight) weights
      return ((place.bind fun i => (first :: rest)[i]?).or (some first), (counter + 1) % 2 ^ 64)

section
variable {endpoints view : List EndpointState} {counter pos acc : ℕ}

/-- The walk stops in the slot of the position. -/
theorem pickWeighted_eq (hle : acc ≤ pos)
    (hfits : acc + (endpoints.map EndpointState.effectiveWeight).sum < 2 ^ 32) :
    pickWeighted pos acc endpoints =
      .ok ((slot (pos - acc) (endpoints.map EndpointState.effectiveWeight)).bind
        fun i => endpoints[i]?) := by
  induction endpoints generalizing acc with
  | nil => rfl
  | cons ep rest ih =>
      rw [List.map_cons, List.sum_cons] at hfits
      rw [pickWeighted, addU32_of_lt (by omega), List.map_cons, slot]
      simp only [bind, Except.bind]
      by_cases hlt : pos < acc + ep.effectiveWeight
      · rw [if_pos hlt, if_pos (by omega)]
        rfl
      · rw [if_neg hlt, if_neg (by omega), ih (by omega) (by omega), Nat.sub_sub]
        cases slot (pos - (acc + ep.effectiveWeight))
          (rest.map EndpointState.effectiveWeight) with
        | none => rfl
        | some i => rfl

/-- **Selection by position.** `select_endpoint` returns the endpoint at the position. -/
theorem selectEndpoint_weightedPosition (endpoints : List EndpointState) (hashKey : Option Str)
    (counter : ℕ) :
    selectEndpoint endpoints .weightedRoundRobin hashKey counter =
      (weightedPosition endpoints counter).map fun p =>
        (p.1.bind fun i => endpoints[i]?, p.2) := by
  have hlength := availableFrom_length endpoints
  have hat : ∀ place : ℕ, (endpoints.filter EndpointState.isAvailable)[place]? =
      (availableFrom 0 endpoints)[place]?.bind fun i => endpoints[i]? :=
    fun place => getElem?_filter_available place
  unfold selectEndpoint weightedPosition
  cases havailable : endpoints.filter EndpointState.isAvailable with
  | nil =>
      rw [havailable] at hlength
      rw [List.eq_nil_of_length_eq_zero hlength]
      rfl
  | cons ep eps =>
  cases hpositions : availableFrom 0 endpoints with
  | nil =>
      rw [hpositions, havailable] at hlength
      cases hlength
  | cons first rest =>
      rw [havailable, hpositions] at hat
      have hfirst : endpoints[first]? = some ep := (hat 0).symm
      simp only
      rw [sumU32_eq (Nat.two_pow_pos 32), Nat.zero_add]
      by_cases hfits : ((ep :: eps).map EndpointState.effectiveWeight).sum < 2 ^ 32
      · rw [if_pos hfits]
        simp only [bind, Except.bind]
        by_cases hzero : ((ep :: eps).map EndpointState.effectiveWeight).sum = 0
        · rw [if_pos hzero, if_pos hzero]
          simp [pure, Except.pure, Except.map, hfirst]
        · rw [if_neg hzero, if_neg hzero, pickWeighted_eq (Nat.zero_le _) (by omega), Nat.sub_zero]
          simp only [pure, Except.pure, Except.map, hat]
          cases slot (counter % 2 ^ 32 % ((ep :: eps).map EndpointState.effectiveWeight).sum)
              ((ep :: eps).map EndpointState.effectiveWeight) with
          | none => simp [hfirst]
          | some place =>
              simp only [Option.bind_some]
              rw [← hat place]
              cases hplace : (first :: rest)[place]? with
              | none =>
                  have hnone := hat place
                  rw [hplace, Option.bind_none] at hnone
                  simp [hnone, hfirst]
              | some i =>
                  have hsome := hat place
                  rw [hplace, Option.bind_some] at hsome
                  have hlt := (List.getElem?_eq_some_iff.mp hplace).1
                  have hsize : (ep :: eps).length = (first :: rest).length := by
                    rw [← havailable, ← hpositions, hlength]
                  rw [← hsize] at hlt
                  rw [List.getElem?_eq_getElem hlt] at hsome ⊢
                  simp [← hsome]
      · rw [if_neg hfits]
        rfl

end

/-! ## Shares -/

/-- The share of a round each endpoint has. -/
def shares (endpoints : List EndpointState) : List ℕ := endpoints.map EndpointState.effectiveWeight

/-- A view of the endpoints in which weights and health are the same; what is open and
measured on them may have moved on. -/
def SameShares (view endpoints : List EndpointState) : Prop :=
  view.map (fun e => (e.weight, e.health)) = endpoints.map fun e => (e.weight, e.health)

/-- One selection, by a caller with this view of the endpoints. -/
def turn (counter : ℕ) (view : List EndpointState) : Except Panic (Option ℕ) × ℕ :=
  match weightedPosition view counter with
  | .ok (position, next) => (.ok position, next)
  | .error p => (.error p, counter)

/-- The same selection as `select_endpoint` makes it. -/
def selection (hashKey : Option Str) (counter : ℕ) (view : List EndpointState) :
    Except Panic (Option EndpointState) × ℕ :=
  match selectEndpoint view .weightedRoundRobin hashKey counter with
  | .ok (endpoint, next) => (.ok endpoint, next)
  | .error p => (.error p, counter)

section
variable {endpoints view : List EndpointState} {e : EndpointState} {counter pos start : ℕ}

theorem effectiveWeight_unavailable (h : e.isAvailable = false) : e.effectiveWeight = 0 := by
  have hhealth : e.health = .unhealthy := by simpa [EndpointState.isAvailable] using h
  rw [EndpointState.effectiveWeight, hhealth]

variable (endpoints) in
theorem shares_available :
    (shares (endpoints.filter EndpointState.isAvailable)).sum = (shares endpoints).sum := by
  induction endpoints with
  | nil => rfl
  | cons e rest ih =>
      simp only [shares, List.map_cons, List.sum_cons] at ih ⊢
      cases havailable : e.isAvailable with
      | true => rw [List.filter_cons_of_pos havailable, List.map_cons, List.sum_cons, ih]
      | false =>
          rw [List.filter_cons_of_neg (by simp [havailable]), ih,
            effectiveWeight_unavailable havailable, Nat.zero_add]

/-- The slots of the available endpoints are those of all of them, where one that is not
available has a slot without any position. -/
theorem slot_available (endpoints : List EndpointState) (pos start : ℕ) :
    ((slot pos (shares (endpoints.filter EndpointState.isAvailable))).bind
        fun i => (availableFrom start endpoints)[i]?) =
      (slot pos (shares endpoints)).map (start + ·) := by
  simp only [shares]
  induction endpoints generalizing pos start with
  | nil => rfl
  | cons e rest ih =>
      cases havailable : e.isAvailable with
      | true =>
          rw [List.filter_cons_of_pos havailable, availableFrom_cons_pos havailable,
            List.map_cons, List.map_cons, slot, slot]
          by_cases hlt : pos < e.effectiveWeight
          · rw [if_pos hlt, if_pos hlt]
            rfl
          · rw [if_neg hlt, if_neg hlt, Option.bind_map, Option.map_map]
            have hrest := ih (pos - e.effectiveWeight) (start + 1)
            simp only [Function.comp_def, List.getElem?_cons_succ] at hrest ⊢
            rw [hrest]
            congr 1
            funext i
            omega
      | false =>
          rw [List.filter_cons_of_neg (by simp [havailable]), availableFrom_cons_neg havailable,
            ih pos (start + 1), List.map_cons, effectiveWeight_unavailable havailable, slot,
            if_neg (Nat.not_lt_zero pos), Nat.sub_zero, Option.map_map]
          congr 1
          funext i
          simp only [Function.comp_apply]
          omega

/-- A turn falls into the slot of its counter value, and that endpoint is available. -/
theorem weightedPosition_eq (hpos : 0 < (shares endpoints).sum)
    (hfits : (shares endpoints).sum < 2 ^ 32) :
    weightedPosition endpoints counter =
      .ok (slot (counter % 2 ^ 32 % (shares endpoints).sum) (shares endpoints),
        (counter + 1) % 2 ^ 64) := by
  have hsum := shares_available endpoints
  have hslot := slot_available endpoints (counter % 2 ^ 32 % (shares endpoints).sum) 0
  simp only [Nat.zero_add, Option.map_id'] at hslot
  obtain ⟨i, hi, -⟩ := slot_of_lt (Nat.mod_lt (counter % 2 ^ 32) hpos)
  unfold weightedPosition
  cases hpositions : availableFrom 0 endpoints with
  | nil =>
      -- without an available endpoint the shares would add up to nothing
      have hlength := availableFrom_length endpoints
      rw [hpositions] at hlength
      rw [List.eq_nil_of_length_eq_zero hlength.symm] at hsum
      rw [← hsum] at hpos
      exact absurd hpos (Nat.lt_irrefl 0)
  | cons first rest =>
      rw [hpositions] at hslot
      simp only
      rw [sumU32_eq (Nat.two_pow_pos 32), Nat.zero_add]
      rw [← shares, hsum, if_pos hfits]
      simp only [bind, Except.bind]
      rw [if_neg (Nat.ne_of_gt hpos)]
      simp only [Option.bind] at hslot
      simp only [pure, Except.pure, Option.bind]
      rw [hslot, hi]
      rfl

theorem SameShares.shares_eq (h : SameShares view endpoints) : shares view = shares endpoints := by
  have hweight : ∀ e : EndpointState, e.effectiveWeight =
      (fun p : ℕ × Health => (⟨[], p.1, p.2, 0, 0⟩ : EndpointState).effectiveWeight)
        (e.weight, e.health) := fun _ => rfl
  have hmap := congrArg (List.map fun p : ℕ × Health =>
    (⟨[], p.1, p.2, 0, 0⟩ : EndpointState).effectiveWeight) h
  rw [List.map_map, List.map_map] at hmap
  exact hmap

/-- **A run of turns.** As long as the counter does not pass a multiple of `2 ^ 32`, turns
take the slots of consecutive values. -/
theorem turns_eq {views : List (List EndpointState)} (hpos : 0 < (shares endpoints).sum)
    (hfits : (shares endpoints).sum < 2 ^ 32) (hsame : ∀ v ∈ views, SameShares v endpoints)
    (hround : counter % 2 ^ 32 + views.length ≤ 2 ^ 32) :
    (transcript turn counter views).map Prod.snd =
      (List.range' (counter % 2 ^ 32) views.length).map fun n =>
        .ok (slot (n % (shares endpoints).sum) (shares endpoints)) := by
  induction views generalizing counter with
  | nil => rfl
  | cons view views ih =>
      have hview := (hsame view List.mem_cons_self).shares_eq
      have hturn : turn counter view =
          (.ok (slot (counter % 2 ^ 32 % (shares endpoints).sum) (shares endpoints)),
            (counter + 1) % 2 ^ 64) := by
        rw [turn, weightedPosition_eq (hview ▸ hpos) (hview ▸ hfits), hview]
      rw [transcript, List.map_cons, hturn, List.length_cons, List.range'_succ, List.map_cons]
      rw [List.length_cons] at hround
      congr 1
      cases views with
      | nil => rfl
      | cons next views =>
          rw [List.length_cons] at hround
          have hnext : (counter + 1) % 2 ^ 64 % 2 ^ 32 = counter % 2 ^ 32 + 1 := by omega
          rw [ih (fun v hv => hsame v (List.mem_cons_of_mem _ hv))
            (by rw [hnext, List.length_cons]; omega), hnext]

/-- **The turns are the selections.** Each selection returns the endpoint at the position of
its turn, and leaves the counter where the turn does. -/
theorem selections_eq (hashKey : Option Str) (counter : ℕ) (views : List (List EndpointState)) :
    transcript (selection hashKey) counter views =
      (transcript turn counter views).map fun answer =>
        (answer.1, answer.2.map fun position => position.bind fun i => answer.1[i]?) := by
  induction views generalizing counter with
  | nil => rfl
  | cons view views ih =>
      have hone : selection hashKey counter view =
          ((turn counter view).1.map fun position => position.bind fun i => view[i]?,
            (turn counter view).2) := by
        rw [selection, selectEndpoint_weightedPosition, turn]
        cases weightedPosition view counter with
        | error p => rfl
        | ok p => rfl
      rw [transcript, transcript, List.map_cons, hone, ih]

end

/-- **Weighted round robin is exact.** Of as many selections in a row as the shares add up
to, in whatever order the callers draw the counter, each endpoint gets its share, and every
one of them goes to an available endpoint; the selections return the endpoints at these turns'
positions. -/
theorem weightedRoundRobin_exact (endpoints : List EndpointState) (counter : ℕ)
    (views : List (List EndpointState)) (hpos : 0 < (shares endpoints).sum)
    (hfits : (shares endpoints).sum < 2 ^ 32)
    (hround : counter / 2 ^ 32 = (counter + (shares endpoints).sum - 1) / 2 ^ 32)
    (hlength : views.length = (shares endpoints).sum)
    (hsame : ∀ v ∈ views, SameShares v endpoints) :
    (∀ i e, endpoints[i]? = some e →
      (transcript turn counter views).countP (fun answer => answer.2 = .ok (some i)) =
        e.effectiveWeight) ∧
    (∀ answer ∈ transcript turn counter views, ∃ i e, answer.2 = .ok (some i) ∧
      endpoints[i]? = some e ∧ e.isAvailable = true) ∧
    ∀ hashKey, transcript (selection hashKey) counter views =
      (transcript turn counter views).map fun answer =>
        (answer.1, answer.2.map fun position => position.bind fun i => answer.1[i]?) := by
  have hturns : counter % 2 ^ 32 + views.length ≤ 2 ^ 32 := by
    rw [hlength]
    omega
  have hrun := turns_eq hpos hfits hsame hturns
  rw [hlength] at hrun
  refine ⟨?_, ?_, fun hashKey => selections_eq hashKey counter views⟩
  · intro i e he
    have hcount : (transcript turn counter views).countP
        (fun answer => answer.2 = .ok (some i)) =
        ((transcript turn counter views).map Prod.snd).countP
          fun answer => answer = .ok (some i) := by
      rw [List.countP_map]
      rfl
    have hslots := countP_turns (shares endpoints) (counter % 2 ^ 32) i
    rw [hcount, hrun, List.countP_map]
    have hshare : (shares endpoints)[i]?.getD 0 = e.effectiveWeight := by
      rw [shares, List.getElem?_map, he]
      rfl
    rw [← hshare, ← hslots]
    congr 1
    funext n
    simp
  · intro answer hanswer
    have hmem : answer.2 ∈ (transcript turn counter views).map Prod.snd :=
      List.mem_map_of_mem hanswer
    rw [hrun] at hmem
    obtain ⟨n, -, hn⟩ := List.mem_map.mp hmem
    obtain ⟨i, hi, w, hw, hwide⟩ := slot_of_lt (Nat.mod_lt n hpos)
    rw [shares, List.getElem?_map] at hw
    obtain ⟨e, he, rfl⟩ := Option.map_eq_some_iff.mp hw
    refine ⟨i, e, by rw [← hn, hi], he, ?_⟩
    cases havailable : e.isAvailable with
    | true => rfl
    | false =>
        rw [effectiveWeight_unavailable havailable] at hwide
        exact absurd hwide (Nat.lt_irrefl 0)

/-- A healthy endpoint, one that is down and one that is degraded. -/
def mixedBackends : List EndpointState :=
  [.new "127.0.0.1:9001".toList 3,
    (EndpointState.new "127.0.0.1:9002".toList 5).withHealth .unhealthy,
    (EndpointState.new "127.0.0.1:9003".toList 3).withHealth .degraded]

/-- The same with a request under way. -/
def busyBackends : List EndpointState := mixedBackends.map fun e => { e with activeConns := 7 }

theorem weightedRoundRobin_exact_mixed :
    (∀ i e, mixedBackends[i]? = some e →
      (transcript turn 6 [mixedBackends, busyBackends, mixedBackends, busyBackends]).countP
        (fun answer => answer.2 = .ok (some i)) = e.effectiveWeight) ∧
    (∀ answer ∈ transcript turn 6 [mixedBackends, busyBackends, mixedBackends, busyBackends],
      ∃ i e, answer.2 = .ok (some i) ∧ mixedBackends[i]? = some e ∧ e.isAvailable = true) ∧
    ∀ hashKey, transcript (selection hashKey) 6
        [mixedBackends, busyBackends, mixedBackends, busyBackends] =
      (transcript turn 6 [mixedBackends, busyBackends, mixedBackends, busyBackends]).map
        fun answer => (answer.1, answer.2.map fun position =>
          position.bind fun i => answer.1[i]?) :=
  weightedRoundRobin_exact mixedBackends 6 _ (by decide) (by decide) (by decide) (by decide)
    (by
      intro v hv
      simp only [List.mem_cons, List.not_mem_nil, or_false] at hv
      rcases hv with rfl | rfl | rfl | rfl <;> rfl)

end Stateform
