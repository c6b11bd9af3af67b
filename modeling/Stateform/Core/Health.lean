import Mathlib.Data.List.Chain
import Mathlib.Data.List.DropRight
import Stateform.Core.Upstream
import Stateform.Library.Run

/-!
# Endpoint health

`mark_failure` and `mark_success` on one endpoint, and the loop that calls them.
The counters move on every call, the state only once the cooldown is over; what
the counters gathered meanwhile decides the first step after it. So a stored
state has outlived the cooldown and a full stretch of calls stands behind it
(`health_changes`), but failures gathered in the cooldown take a healthy endpoint
straight out of rotation (`diagram_iff`).
-/

namespace Stateform

/-- `FLAP_COOLDOWN_MS`. -/
def flapCooldownMs : ℕ := 10000

/-- The fields of `EndpointState` that health checks keep. -/
structure EndpointHealth : Type where
  health : Health
  consecutiveFailures : ℕ
  consecutiveSuccesses : ℕ
  lastStateChangeMs : ℕ
deriving DecidableEq

/-- One call, with the time `now_ms` reads in it. -/
inductive HealthCall : Type where
  | success (now : ℕ)
  | failure (now : ℕ)
deriving DecidableEq

def HealthCall.isSuccess : HealthCall → Bool
  | .success _ => true
  | .failure _ => false

def HealthCall.isFailure : HealthCall → Bool
  | .success _ => false
  | .failure _ => true

def HealthCall.now : HealthCall → ℕ
  | .success now => now
  | .failure now => now

namespace EndpointHealth

/-- `EndpointState::new`. -/
def new : EndpointHealth := ⟨.healthy, 0, 0, 0⟩

/-- What `fetch_add(1, …)` stores and `fetch_add(1, …) + 1` returns. An atomic wraps in every
build; the sum wraps as in a release build. -/
def countU32 (n : ℕ) : ℕ := (n + 1) % 2 ^ 32

/-- `transition_to`. -/
def transitionTo (e : EndpointHealth) (newState : Health) (timestampMs : ℕ) : EndpointHealth :=
  { e with health := newState, lastStateChangeMs := timestampMs }

def inCooldown (e : EndpointHealth) (now : ℕ) : Bool := now - e.lastStateChangeMs < flapCooldownMs

/-- The end of both calls: nothing in the cooldown, else the transition. -/
def settle (e : EndpointHealth) (newState : Health) (now : ℕ) : Health × EndpointHealth :=
  if e.inCooldown now then (e.health, e)
  else (newState, if newState ≠ e.health then e.transitionTo newState now else e)

/-- `new_state` in `mark_failure`. -/
def stateOnFailure (cfg : HealthCheckConfig) (current : Health) (failures : ℕ) : Health :=
  if cfg.unhealthyThreshold ≤ failures then .unhealthy
  else if current = .healthy then .degraded
  else current

/-- `new_state` in `mark_success`. -/
def stateOnSuccess (cfg : HealthCheckConfig) (current : Health) (successes : ℕ) : Health :=
  if current = .unhealthy ∧ 1 ≤ successes then .degraded
  else if cfg.healthyThreshold ≤ successes ∧ current ≠ .healthy then .healthy
  else current

def markFailure (cfg : HealthCheckConfig) (e : EndpointHealth) (now : ℕ) :
    Health × EndpointHealth :=
  let failures := countU32 e.consecutiveFailures
  settle { e with consecutiveFailures := failures, consecutiveSuccesses := 0 }
    (stateOnFailure cfg e.health failures) now

def markSuccess (cfg : HealthCheckConfig) (e : EndpointHealth) (now : ℕ) :
    Health × EndpointHealth :=
  let successes := countU32 e.consecutiveSuccesses
  settle { e with consecutiveSuccesses := successes, consecutiveFailures := 0 }
    (stateOnSuccess cfg e.health successes) now

def mark (cfg : HealthCheckConfig) (e : EndpointHealth) : HealthCall → Health × EndpointHealth
  | .success now => e.markSuccess cfg now
  | .failure now => e.markFailure cfg now

/-- The endpoint after calls made one after the other. -/
def afterCalls (cfg : HealthCheckConfig) (e : EndpointHealth) (calls : List HealthCall) :
    EndpointHealth :=
  Library.after (fun e call => (e.mark cfg call).2) e calls

end EndpointHealth

/-! ## The loop -/

/-- How a round of `health_check_loop` ends. -/
inductive ProbeOutcome : Type where
  | requestUnbuilt
  | response (status : ℕ)
  | connectionError
  | timeout
deriving DecidableEq

structure ProbeRound : Type where
  now : ℕ
  outcome : ProbeOutcome

/-- The call a round makes; a request that cannot be built makes none. -/
def ProbeRound.call (round : ProbeRound) : Option HealthCall :=
  match round.outcome with
  | .requestUnbuilt => none
  | .response status =>
      if 200 ≤ status ∧ status < 300 then some (.success round.now) else some (.failure round.now)
  | .connectionError => some (.failure round.now)
  | .timeout => some (.failure round.now)

def ProbeRound.run (cfg : HealthCheckConfig) (e : EndpointHealth) (round : ProbeRound) :
    EndpointHealth :=
  match round.call with
  | none => e
  | some call => (e.mark cfg call).2

/-- `health_check_loop`, over the rounds it makes. -/
def healthCheckLoop (cfg : HealthCheckConfig) (e : EndpointHealth) (rounds : List ProbeRound) :
    EndpointHealth :=
  Library.after (ProbeRound.run cfg) e rounds

/-- The loop makes calls one after the other, and does nothing else to the endpoint. -/
theorem healthCheckLoop_eq (cfg : HealthCheckConfig) (e : EndpointHealth)
    (rounds : List ProbeRound) :
    healthCheckLoop cfg e rounds = e.afterCalls cfg (rounds.filterMap ProbeRound.call) := by
  induction rounds generalizing e with
  | nil => rfl
  | cons round rounds ih =>
      have hstep : healthCheckLoop cfg e (round :: rounds) =
          healthCheckLoop cfg (round.run cfg e) rounds := rfl
      rw [hstep, ih, ProbeRound.run]
      cases hcall : round.call with
      | none => rw [List.filterMap_cons_none hcall]
      | some call =>
          rw [List.filterMap_cons_some hcall]
          rfl

namespace EndpointHealth

/-! ## What one call does -/

variable {cfg : HealthCheckConfig} {e : EndpointHealth} {now : ℕ}

theorem inCooldown_iff : e.inCooldown now = true ↔ now < e.lastStateChangeMs + flapCooldownMs := by
  rw [inCooldown, flapCooldownMs, decide_eq_true_eq]
  omega

/-- The state a call computes, whether or not the cooldown lets it through. -/
def stateOn (cfg : HealthCheckConfig) (e : EndpointHealth) : HealthCall → Health
  | .success _ => stateOnSuccess cfg e.health (countU32 e.consecutiveSuccesses)
  | .failure _ => stateOnFailure cfg e.health (countU32 e.consecutiveFailures)

theorem settle_fst (newState : Health) :
    (e.settle newState now).1 = (e.settle newState now).2.health := by
  unfold settle
  split
  · rfl
  · split
    · rfl
    · rename_i hsame
      exact not_not.mp hsame

theorem settle_health (newState : Health) :
    (e.settle newState now).2.health = if e.inCooldown now then e.health else newState := by
  rw [← settle_fst]
  unfold settle
  split <;> rfl

theorem settle_counters (newState : Health) :
    (e.settle newState now).2.consecutiveFailures = e.consecutiveFailures ∧
      (e.settle newState now).2.consecutiveSuccesses = e.consecutiveSuccesses := by
  unfold settle
  split
  · exact ⟨rfl, rfl⟩
  · split <;> exact ⟨rfl, rfl⟩

theorem settle_lastStateChangeMs (newState : Health) :
    (e.settle newState now).2.lastStateChangeMs =
      if (e.settle newState now).2.health = e.health then e.lastStateChangeMs else now := by
  rw [settle_health]
  unfold settle
  by_cases hcool : e.inCooldown now
  · simp only [if_pos hcool, if_true]
  · simp only [if_neg hcool]
    by_cases hsame : newState = e.health
    · rw [if_neg (not_not.mpr hsame), if_pos hsame]
    · rw [if_pos hsame, if_neg hsame]
      rfl

/-- Each call returns the state it stores. -/
theorem mark_fst (call : HealthCall) : (e.mark cfg call).1 = (e.mark cfg call).2.health := by
  cases call with
  | success now => exact settle_fst _
  | failure now => exact settle_fst _

theorem mark_health (call : HealthCall) :
    (e.mark cfg call).2.health =
      if e.inCooldown call.now then e.health else stateOn cfg e call := by
  cases call with
  | success now => exact settle_health _
  | failure now => exact settle_health _

theorem mark_lastStateChangeMs (call : HealthCall) :
    (e.mark cfg call).2.lastStateChangeMs =
      if (e.mark cfg call).2.health = e.health then e.lastStateChangeMs else call.now := by
  cases call with
  | success now => exact settle_lastStateChangeMs _
  | failure now => exact settle_lastStateChangeMs _

/-- A call that changes the state comes after the cooldown, and its time is recorded. -/
theorem mark_changes {call : HealthCall} (h : (e.mark cfg call).2.health ≠ e.health) :
    e.lastStateChangeMs + flapCooldownMs ≤ (e.mark cfg call).2.lastStateChangeMs ∧
      (e.mark cfg call).2.health = stateOn cfg e call := by
  rw [mark_lastStateChangeMs, if_neg h]
  rw [mark_health] at h ⊢
  by_cases hcool : e.inCooldown call.now
  · rw [if_pos hcool] at h
    exact absurd rfl h
  · rw [if_neg hcool]
    rw [inCooldown_iff] at hcool
    exact ⟨by omega, rfl⟩

/-! ## Stretches of calls of one kind -/

variable (cfg e) in
theorem mark_success_counters (now : ℕ) :
    (e.mark cfg (.success now)).2.consecutiveFailures = 0 ∧
      (e.mark cfg (.success now)).2.consecutiveSuccesses = countU32 e.consecutiveSuccesses :=
  settle_counters _

variable (cfg e) in
theorem mark_failure_counters (now : ℕ) :
    (e.mark cfg (.failure now)).2.consecutiveFailures = countU32 e.consecutiveFailures ∧
      (e.mark cfg (.failure now)).2.consecutiveSuccesses = 0 :=
  settle_counters _

/-- The counters never exceed the stretch of calls of their kind that ends the run. -/
structure Counted (calls : List HealthCall) (e : EndpointHealth) : Prop where
  failures : e.consecutiveFailures ≤ (calls.rtakeWhile HealthCall.isFailure).length
  successes : e.consecutiveSuccesses ≤ (calls.rtakeWhile HealthCall.isSuccess).length

/-- A wrap only lowers a counter. -/
theorem countU32_le_of_le {n m : ℕ} (h : n ≤ m) : countU32 n ≤ m + 1 :=
  (Nat.mod_le _ _).trans (Nat.succ_le_succ h)

theorem Counted.mark {calls : List HealthCall} (h : Counted calls e) (call : HealthCall) :
    Counted (calls ++ [call]) (e.mark cfg call).2 := by
  cases call with
  | success now =>
      obtain ⟨hfailures, hsuccesses⟩ := mark_success_counters cfg e now
      refine ⟨?_, ?_⟩
      · rw [hfailures]
        exact Nat.zero_le _
      · rw [hsuccesses, List.rtakeWhile_concat_pos _ _ _ rfl, List.length_append]
        exact countU32_le_of_le h.successes
  | failure now =>
      obtain ⟨hfailures, hsuccesses⟩ := mark_failure_counters cfg e now
      refine ⟨?_, ?_⟩
      · rw [hfailures, List.rtakeWhile_concat_pos _ _ _ rfl, List.length_append]
        exact countU32_le_of_le h.failures
      · rw [hsuccesses]
        exact Nat.zero_le _

theorem counted (cfg : HealthCheckConfig) (calls : List HealthCall) :
    Counted calls (new.afterCalls cfg calls) := by
  apply Library.history_invariant_all (P := Counted)
  · exact ⟨Nat.le_refl 0, Nat.le_refl 0⟩
  · intro calls call ih
    exact ih.mark call

/-! ## State changes -/

/-- A state change, with the time recorded for it. -/
structure StateChange : Type where
  source : Health
  target : Health
  time : ℕ
deriving DecidableEq

/-- The change one call makes, if it makes one. -/
def change (cfg : HealthCheckConfig) (e : EndpointHealth) (call : HealthCall) :
    List StateChange :=
  let e' := (e.mark cfg call).2
  if e'.health = e.health then [] else [⟨e.health, e'.health, e'.lastStateChangeMs⟩]

/-- The state changes of a run. -/
def changes (cfg : HealthCheckConfig) : EndpointHealth → List HealthCall → List StateChange
  | _, [] => []
  | e, call :: calls => change cfg e call ++ changes cfg (e.mark cfg call).2 calls

theorem changes_append (e : EndpointHealth) (as bs : List HealthCall) :
    changes cfg e (as ++ bs) = changes cfg e as ++ changes cfg (e.afterCalls cfg as) bs := by
  induction as generalizing e with
  | nil => rfl
  | cons a as ih =>
      rw [List.cons_append, changes, ih, changes, List.append_assoc]
      rfl

theorem changes_concat (e : EndpointHealth) (calls : List HealthCall) (call : HealthCall) :
    changes cfg e (calls ++ [call]) =
      changes cfg e calls ++ change cfg (e.afterCalls cfg calls) call := by
  rw [changes_append, changes, changes, List.append_nil]

theorem change_of_eq {call : HealthCall} (h : (e.mark cfg call).2.health = e.health) :
    change cfg e call = [] := if_pos h

theorem change_of_ne {call : HealthCall} (h : (e.mark cfg call).2.health ≠ e.health) :
    change cfg e call =
      [⟨e.health, (e.mark cfg call).2.health, (e.mark cfg call).2.lastStateChangeMs⟩] := if_neg h

/-- Successive changes are a cooldown apart, and the last one is on record. -/
structure Spaced (cs : List StateChange) (e : EndpointHealth) : Prop where
  spaced : cs.IsChain fun a b => a.time + flapCooldownMs ≤ b.time
  recorded : ∀ c ∈ cs.getLast?, c.time = e.lastStateChangeMs

theorem Spaced.mark {cs : List StateChange} (h : Spaced cs e) (call : HealthCall) :
    Spaced (cs ++ change cfg e call) (e.mark cfg call).2 := by
  by_cases hsame : (e.mark cfg call).2.health = e.health
  · rw [change_of_eq hsame, List.append_nil]
    refine ⟨h.spaced, ?_⟩
    rw [mark_lastStateChangeMs, if_pos hsame]
    exact h.recorded
  · rw [change_of_ne hsame]
    refine ⟨?_, ?_⟩
    · refine List.isChain_append.mpr ⟨h.spaced, List.isChain_singleton _, ?_⟩
      intro c hc d hd
      rw [h.recorded c hc]
      obtain rfl := Option.some.inj hd
      exact (mark_changes hsame).1
    · intro c hc
      rw [List.getLast?_concat] at hc
      obtain rfl := Option.some.inj hc
      rfl

theorem spaced (cfg : HealthCheckConfig) (calls : List HealthCall) :
    Spaced (changes cfg new calls) (new.afterCalls cfg calls) := by
  apply Library.history_invariant_all (P := fun calls e => Spaced (changes cfg new calls) e)
  · exact ⟨List.isChain_nil, nofun⟩
  · intro calls call ih
    rw [changes_concat]
    exact ih.mark call

theorem mem_changes {e : EndpointHealth} {calls : List HealthCall} {c : StateChange} :
    c ∈ changes cfg e calls ↔
      ∃ before call rest, calls = before ++ call :: rest ∧
        c ∈ change cfg (e.afterCalls cfg before) call := by
  constructor
  · intro h
    induction calls generalizing e with
    | nil => cases h
    | cons call calls ih =>
        rcases List.mem_append.mp h with h | h
        · exact ⟨[], call, calls, rfl, h⟩
        · obtain ⟨before, call', rest, rfl, hc⟩ := ih h
          exact ⟨call :: before, call', rest, rfl, hc⟩
  · rintro ⟨before, call, rest, rfl, hc⟩
    rw [changes_append, changes]
    exact List.mem_append_right _ (List.mem_append_left _ hc)

/-! ## Thresholds and cooldown -/

/-- The last calls, at least `n` of them, are all of one kind. -/
def EndsIn (kind : HealthCall → Bool) (n : ℕ) (calls : List HealthCall) : Prop :=
  ∃ early late, calls = early ++ late ∧ n ≤ late.length ∧ ∀ call ∈ late, kind call

theorem endsIn_of_le {kind : HealthCall → Bool} {n : ℕ} {calls : List HealthCall}
    (h : n ≤ (calls.rtakeWhile kind).length) : EndsIn kind n calls := by
  obtain ⟨early, hearly⟩ := List.rtakeWhile_suffix kind calls
  refine ⟨early, calls.rtakeWhile kind, hearly.symm, h, ?_⟩
  intro call hcall
  exact List.mem_rtakeWhile_imp hcall

/-- Only a failure at the threshold leads to `Unhealthy`. -/
theorem stateOn_unhealthy {call : HealthCall} (hfrom : e.health ≠ .unhealthy)
    (h : stateOn cfg e call = .unhealthy) :
    cfg.unhealthyThreshold ≤ (e.mark cfg call).2.consecutiveFailures := by
  cases call with
  | success now =>
      simp only [stateOn, stateOnSuccess] at h
      split at h
      · cases h
      · split at h
        · cases h
        · exact absurd h hfrom
  | failure now =>
      rw [(mark_failure_counters _ _ now).1]
      simp only [stateOn, stateOnFailure] at h
      split at h
      · assumption
      · split at h
        · cases h
        · exact absurd h hfrom

/-- Only a success at the threshold leads to `Healthy`. -/
theorem stateOn_healthy {call : HealthCall} (hfrom : e.health ≠ .healthy)
    (h : stateOn cfg e call = .healthy) :
    cfg.healthyThreshold ≤ (e.mark cfg call).2.consecutiveSuccesses := by
  cases call with
  | success now =>
      rw [(mark_success_counters _ _ now).2]
      simp only [stateOn, stateOnSuccess] at h
      split at h
      · cases h
      · split at h
        · rename_i hfull
          exact hfull.1
        · exact absurd h hfrom
  | failure now =>
      simp only [stateOn, stateOnFailure, if_neg hfrom] at h
      split at h
      · cases h
      · exact absurd h hfrom

/-- **Damping.** Whatever the clock reads, recorded changes are a cooldown apart,
a state is entered only on a full stretch of calls of its kind, and each call
returns the state it stores. -/
theorem health_changes (cfg : HealthCheckConfig) (calls : List HealthCall) :
    ((changes cfg new calls).IsChain fun a b => a.time + flapCooldownMs ≤ b.time) ∧
      ∀ call,
        let e := new.afterCalls cfg calls
        let answer := e.mark cfg call
        (e.health ≠ .unhealthy → answer.2.health = .unhealthy →
            EndsIn HealthCall.isFailure cfg.unhealthyThreshold (calls ++ [call])) ∧
          (e.health ≠ .healthy → answer.2.health = .healthy →
            EndsIn HealthCall.isSuccess cfg.healthyThreshold (calls ++ [call])) ∧
          answer.1 = answer.2.health := by
  refine ⟨(spaced cfg calls).spaced, ?_⟩
  intro call e answer
  have hcounted : Counted (calls ++ [call]) answer.2 := (counted cfg calls).mark call
  refine ⟨?_, ?_, mark_fst call⟩
  · intro hfrom hto
    have hchange : answer.2.health ≠ e.health := by
      rw [hto]
      exact hfrom.symm
    have hthreshold := stateOn_unhealthy hfrom ((mark_changes hchange).2.symm.trans hto)
    exact endsIn_of_le (hthreshold.trans hcounted.failures)
  · intro hfrom hto
    have hchange : answer.2.health ≠ e.health := by
      rw [hto]
      exact hfrom.symm
    have hthreshold := stateOn_healthy hfrom ((mark_changes hchange).2.symm.trans hto)
    exact endsIn_of_le (hthreshold.trans hcounted.successes)

/-! ## The diagram -/

/-- The edges of the documented diagram. -/
inductive Edge : Health → Health → Prop where
  | firstFailure : Edge .healthy .degraded
  | unhealthyThreshold : Edge .degraded .unhealthy
  | firstSuccess : Edge .unhealthy .degraded
  | healthyThreshold : Edge .degraded .healthy

/-- The calls the diagram has no edge for: a failure that finds a healthy endpoint
with the threshold already gathered, and a success whose counter has wrapped to 0
where none is asked for. -/
def OffDiagram (cfg : HealthCheckConfig) (e : EndpointHealth) (call : HealthCall) : Prop :=
  ¬ e.inCooldown call.now ∧
    match call with
    | .failure _ => e.health = .healthy ∧ cfg.unhealthyThreshold ≤ countU32 e.consecutiveFailures
    | .success _ =>
        e.health = .unhealthy ∧ countU32 e.consecutiveSuccesses = 0 ∧ cfg.healthyThreshold = 0

theorem stateOnFailure_edge_iff {current : Health} {failures : ℕ} :
    (stateOnFailure cfg current failures ≠ current →
        Edge current (stateOnFailure cfg current failures)) ↔
      ¬ (current = .healthy ∧ cfg.unhealthyThreshold ≤ failures) := by
  unfold stateOnFailure
  by_cases hfull : cfg.unhealthyThreshold ≤ failures
  · rw [if_pos hfull]
    cases current with
    | unhealthy => simp
    | healthy => simpa [hfull] using nofun
    | degraded => simpa using Edge.unhealthyThreshold
  · rw [if_neg hfull]
    cases current with
    | unhealthy => simp
    | healthy => simpa [hfull] using Edge.firstFailure
    | degraded => simp

theorem stateOnSuccess_edge_iff {current : Health} {successes : ℕ} :
    (stateOnSuccess cfg current successes ≠ current →
        Edge current (stateOnSuccess cfg current successes)) ↔
      ¬ (current = .unhealthy ∧ successes = 0 ∧ cfg.healthyThreshold = 0) := by
  unfold stateOnSuccess
  cases current with
  | unhealthy =>
      by_cases hfirst : 1 ≤ successes
      · simpa [hfirst, Nat.ne_of_gt hfirst] using Edge.firstSuccess
      · have hzero : successes = 0 := by omega
        by_cases hnone : cfg.healthyThreshold = 0
        · simpa [hzero, hnone] using nofun
        · simp [hzero, hnone]
  | healthy => simp
  | degraded =>
      by_cases hfull : cfg.healthyThreshold ≤ successes
      · simpa [hfull] using Edge.healthyThreshold
      · simp [hfull]

theorem change_edge_iff {call : HealthCall} :
    (∀ c ∈ change cfg e call, Edge c.source c.target) ↔ ¬ OffDiagram cfg e call := by
  by_cases hcool : e.inCooldown call.now
  · have hkept : (e.mark cfg call).2.health = e.health := by rw [mark_health, if_pos hcool]
    rw [change_of_eq hkept]
    simp [OffDiagram, hcool]
  · have hnew : (e.mark cfg call).2.health = stateOn cfg e call := by rw [mark_health, if_neg hcool]
    have hedge : (∀ c ∈ change cfg e call, Edge c.source c.target) ↔
        (stateOn cfg e call ≠ e.health → Edge e.health (stateOn cfg e call)) := by
      by_cases hsame : (e.mark cfg call).2.health = e.health
      · rw [change_of_eq hsame]
        simp [← hnew, hsame]
      · rw [change_of_ne hsame, hnew]
        rw [hnew] at hsame
        simp [hsame]
    rw [hedge]
    cases call with
    | success now =>
        rw [stateOn, stateOnSuccess_edge_iff]
        simp [OffDiagram, hcool]
    | failure now =>
        rw [stateOn, stateOnFailure_edge_iff]
        simp [OffDiagram, hcool]

/-- **The diagram.** The state changes of a run follow its edges exactly when no
call of the run is off it. -/
theorem diagram_iff (cfg : HealthCheckConfig) (calls : List HealthCall) :
    (∀ c ∈ changes cfg new calls, Edge c.source c.target) ↔
      ∀ before call rest, calls = before ++ call :: rest →
        ¬ OffDiagram cfg (new.afterCalls cfg before) call := by
  constructor
  · intro h before call rest hcalls
    apply change_edge_iff.mp
    intro c hc
    exact h c (mem_changes.mpr ⟨before, call, rest, hcalls, hc⟩)
  · intro h c hc
    obtain ⟨before, call, rest, hcalls, hmem⟩ := mem_changes.mp hc
    exact change_edge_iff.mpr (h before call rest hcalls) c hmem

/-- Three failures in the cooldown after a recovery: the next one removes a healthy
endpoint at once. -/
theorem healthy_removed :
    ¬ ∀ (cfg : HealthCheckConfig) (calls : List HealthCall), 2 ≤ cfg.unhealthyThreshold →
        calls.Pairwise (fun a b => a.now ≤ b.now) →
        ∀ c ∈ changes cfg new calls, Edge c.source c.target := by
  intro h
  have hbad := h ⟨"/health".toList, 10, 2, 2, 3⟩
    [.failure 1000000, .success 1008000, .success 1010000, .failure 1012000, .failure 1016000,
      .failure 1020000] (by decide) (by decide) ⟨.healthy, .unhealthy, 1020000⟩ (by decide)
  cases hbad

end EndpointHealth

end Stateform
