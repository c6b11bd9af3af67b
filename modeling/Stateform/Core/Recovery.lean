import Stateform.Core.Health

/-!
# No endpoint gets stuck

Calls of one kind drive an endpoint to the state of their kind: once the cooldown is
over, the next call brings it there or to `Degraded`, and after one more cooldown a
full stretch of calls brings it there. Both kinds follow the same argument (`Drives`).
-/

namespace Stateform.EndpointHealth

open Library

variable {cfg : HealthCheckConfig} {e : EndpointHealth} {now t : ℕ}

/-- What the calls of one kind do to the state they settle on, as long as their
counter does not wrap. -/
structure Drives (cfg : HealthCheckConfig) (call : ℕ → HealthCall) (goal : Health)
    (threshold : ℕ) (counter : EndpointHealth → ℕ) : Prop where
  time : ∀ now, (call now).now = now
  counts : ∀ e now, counter (e.mark cfg (call now)).2 = countU32 (counter e)
  stays : ∀ e now, e.health = goal → stateOn cfg e (call now) = goal
  nears : ∀ e now, counter e + 1 < 2 ^ 32 →
    stateOn cfg e (call now) = goal ∨ stateOn cfg e (call now) = .degraded
  arrives : ∀ e now, counter e + 1 < 2 ^ 32 → e.health = .degraded →
    threshold ≤ counter e + 1 → stateOn cfg e (call now) = goal

theorem countU32_of_lt {n : ℕ} (h : n + 1 < 2 ^ 32) : countU32 n = n + 1 := Nat.mod_eq_of_lt h

theorem drives_success (cfg : HealthCheckConfig) :
    Drives cfg .success .healthy cfg.healthyThreshold consecutiveSuccesses where
  time _ := rfl
  counts e now := (mark_success_counters cfg e now).2
  stays e now h := by simp [stateOn, stateOnSuccess, h]
  nears e now hcount := by
    rw [stateOn, countU32_of_lt hcount, stateOnSuccess]
    cases hhealth : e.health with
    | healthy => exact .inl (by simp)
    | degraded =>
        by_cases hfull : cfg.healthyThreshold ≤ e.consecutiveSuccesses + 1
        · exact .inl (by simp [hfull])
        · exact .inr (by simp [hfull])
    | unhealthy => exact .inr (by simp)
  arrives e now hcount hhealth hfull := by
    rw [stateOn, countU32_of_lt hcount, stateOnSuccess]
    simp [hhealth, hfull]

theorem drives_failure (cfg : HealthCheckConfig) :
    Drives cfg .failure .unhealthy cfg.unhealthyThreshold consecutiveFailures where
  time _ := rfl
  counts e now := (mark_failure_counters cfg e now).1
  stays e now h := by simp [stateOn, stateOnFailure, h]
  nears e now hcount := by
    rw [stateOn, countU32_of_lt hcount, stateOnFailure]
    by_cases hfull : cfg.unhealthyThreshold ≤ e.consecutiveFailures + 1
    · exact .inl (if_pos hfull)
    · rw [if_neg hfull]
      cases hhealth : e.health with
      | healthy => exact .inr (if_pos rfl)
      | degraded => exact .inr (if_neg (by decide))
      | unhealthy => exact .inl (if_neg (by decide))
  arrives e now hcount hhealth hfull := by
    rw [stateOn, countU32_of_lt hcount, stateOnFailure, if_pos hfull]

theorem afterCalls_map_concat (call : ℕ → HealthCall) (times : List ℕ) (now : ℕ) :
    e.afterCalls cfg ((times ++ [now]).map call) =
      ((e.afterCalls cfg (times.map call)).mark cfg (call now)).2 := by
  rw [afterCalls, List.map_append, after_append]
  rfl

/-- At the goal, or `Degraded` since `t` at the latest. -/
def Moving (goal : Health) (t : ℕ) (e : EndpointHealth) : Prop :=
  e.health = goal ∨ e.health = .degraded ∧ e.lastStateChangeMs ≤ t

namespace Drives

variable {call : ℕ → HealthCall} {goal : Health} {threshold : ℕ} {counter : EndpointHealth → ℕ}

/-- A call in the cooldown leaves state and time alone. -/
theorem mark_cooldown (d : Drives cfg call goal threshold counter) (h : e.inCooldown now = true) :
    (e.mark cfg (call now)).2.health = e.health ∧
      (e.mark cfg (call now)).2.lastStateChangeMs = e.lastStateChangeMs := by
  have hkept : (e.mark cfg (call now)).2.health = e.health := by
    rw [mark_health, d.time, if_pos h]
  exact ⟨hkept, by rw [mark_lastStateChangeMs, if_pos hkept]⟩

theorem mark_settles (d : Drives cfg call goal threshold counter)
    (h : ¬ e.inCooldown now = true) :
    (e.mark cfg (call now)).2.health = stateOn cfg e (call now) := by
  rw [mark_health, d.time, if_neg h]

/-- A call after the cooldown starts the move. -/
theorem mark_moves (d : Drives cfg call goal threshold counter)
    (hcount : counter e + 1 < 2 ^ 32) (hcool : ¬ e.inCooldown now = true) :
    Moving goal now (e.mark cfg (call now)).2 := by
  have hsettled := d.mark_settles hcool
  rcases d.nears e now hcount with hgoal | hdegraded
  · exact .inl (hsettled.trans hgoal)
  · refine .inr ⟨hsettled.trans hdegraded, ?_⟩
    rw [mark_lastStateChangeMs, d.time]
    split
    · rw [inCooldown_iff] at hcool
      omega
    · exact Nat.le_refl now

/-- Further calls keep it going. -/
theorem keeps_moving (d : Drives cfg call goal threshold counter)
    (hcount : counter e + 1 < 2 ^ 32) (h : Moving goal t e) :
    Moving goal t (e.mark cfg (call now)).2 := by
  by_cases hcool : e.inCooldown now = true
  · obtain ⟨hhealth, hlast⟩ := d.mark_cooldown hcool
    unfold Moving
    rw [hhealth, hlast]
    exact h
  · have hsettled := d.mark_settles hcool
    rcases h with hgoal | ⟨hdegraded, hlast⟩
    · exact .inl (hsettled.trans (d.stays e now hgoal))
    · rcases d.nears e now hcount with hgoal | hstill
      · exact .inl (hsettled.trans hgoal)
      · have hsame : (e.mark cfg (call now)).2.health = e.health := by
          rw [hsettled, hstill, hdegraded]
        refine .inr ⟨hsettled.trans hstill, ?_⟩
        rw [mark_lastStateChangeMs, if_pos hsame]
        exact hlast

/-- A call a cooldown later arrives, given a full stretch of calls. -/
theorem mark_arrives (d : Drives cfg call goal threshold counter)
    (hcount : counter e + 1 < 2 ^ 32) (hfull : threshold ≤ counter e + 1) (h : Moving goal t e)
    (hlate : t + flapCooldownMs ≤ now) : (e.mark cfg (call now)).2.health = goal := by
  by_cases hcool : e.inCooldown now = true
  · rw [(d.mark_cooldown hcool).1]
    rw [inCooldown_iff] at hcool
    rcases h with hgoal | ⟨_, hlast⟩
    · exact hgoal
    · omega
  · rw [d.mark_settles hcool]
    rcases h with hgoal | ⟨hdegraded, _⟩
    · exact d.stays e now hgoal
    · exact d.arrives e now hcount hdegraded hfull

/-! ### Runs -/

theorem counter_after (d : Drives cfg call goal threshold counter) (times : List ℕ)
    (hcount : counter e + times.length < 2 ^ 32) :
    counter (e.afterCalls cfg (times.map call)) = counter e + times.length := by
  induction times using List.reverseRecOn with
  | nil => rfl
  | append_singleton times now ih =>
      rw [List.length_append, List.length_singleton] at hcount ⊢
      rw [afterCalls_map_concat, d.counts, ih (by omega), countU32_of_lt (by omega)]
      omega

/-- Until the cooldown is over nothing has changed, or the move has started. -/
theorem waits_or_moves (d : Drives cfg call goal threshold counter) (times : List ℕ)
    (hcount : counter e + times.length < 2 ^ 32) (hbefore : ∀ now ∈ times, now ≤ t) :
    (e.afterCalls cfg (times.map call)).lastStateChangeMs = e.lastStateChangeMs ∨
      Moving goal t (e.afterCalls cfg (times.map call)) := by
  induction times using List.reverseRecOn with
  | nil => exact .inl rfl
  | append_singleton times now ih =>
      rw [List.length_append, List.length_singleton] at hcount
      have hcounted := d.counter_after times (by omega : counter e + times.length < 2 ^ 32)
      have hnow : now ≤ t := hbefore now (by simp)
      have hstart := ih (by omega) fun now h => hbefore now (List.mem_append_left _ h)
      rw [afterCalls_map_concat]
      generalize e.afterCalls cfg (times.map call) = e' at hcounted hstart ⊢
      have hroom : counter e' + 1 < 2 ^ 32 := by omega
      rcases hstart with hlast | hmoving
      · by_cases hcool : e'.inCooldown now = true
        · exact .inl ((d.mark_cooldown hcool).2.trans hlast)
        · refine .inr ?_
          rcases d.mark_moves hroom hcool with hgoal | ⟨hdegraded, hchange⟩
          · exact .inl hgoal
          · exact .inr ⟨hdegraded, hchange.trans hnow⟩
      · exact .inr (d.keeps_moving hroom hmoving)

theorem keeps_moving_after (d : Drives cfg call goal threshold counter) (times : List ℕ)
    (hcount : counter e + times.length < 2 ^ 32) (h : Moving goal t e) :
    Moving goal t (e.afterCalls cfg (times.map call)) := by
  induction times using List.reverseRecOn with
  | nil => exact h
  | append_singleton times now ih =>
      rw [List.length_append, List.length_singleton] at hcount
      have hcounted := d.counter_after times (by omega : counter e + times.length < 2 ^ 32)
      rw [afterCalls_map_concat]
      exact d.keeps_moving (by omega) (ih (by omega))

/-- **Arrival.** A call after the cooldown and one a further cooldown later, in a full
stretch of calls of one kind, bring the endpoint to the state of that kind. -/
theorem arrives_after (d : Drives cfg call goal threshold counter) (early late : List ℕ)
    (t last : ℕ) (hbefore : ∀ now ∈ early, now ≤ t)
    (hcool : e.lastStateChangeMs + flapCooldownMs ≤ t) (hlate : t + flapCooldownMs ≤ last)
    (hfull : threshold ≤ (early ++ t :: late ++ [last]).length)
    (hcount : counter e + (early ++ t :: late ++ [last]).length < 2 ^ 32) :
    (e.afterCalls cfg ((early ++ t :: late ++ [last]).map call)).health = goal := by
  simp only [List.length_append, List.length_cons, List.length_nil] at hfull hcount
  have hroom : counter e + early.length < 2 ^ 32 := by omega
  have hearly := d.counter_after early hroom
  have hwaited := d.waits_or_moves early hroom hbefore
  have hsplit : e.afterCalls cfg ((early ++ t :: late ++ [last]).map call) =
      (((((e.afterCalls cfg (early.map call)).mark cfg (call t)).2.afterCalls cfg
        (late.map call)).mark cfg (call last)).2) := by
    simp [afterCalls]
  rw [hsplit]
  generalize e.afterCalls cfg (early.map call) = e₁ at hearly hwaited ⊢
  have hstart : counter e₁ + 1 < 2 ^ 32 := by omega
  have hmoving : Moving goal t (e₁.mark cfg (call t)).2 := by
    rcases hwaited with hsame | hmoving
    · have hover : ¬ e₁.inCooldown t = true := by
        rw [inCooldown_iff, hsame]
        omega
      exact d.mark_moves hstart hover
    · exact d.keeps_moving hstart hmoving
  have hnext : counter (e₁.mark cfg (call t)).2 = counter e + early.length + 1 := by
    rw [d.counts, hearly, countU32_of_lt (by omega)]
  generalize (e₁.mark cfg (call t)).2 = e₂ at hnext hmoving ⊢
  have hrest : counter e₂ + late.length < 2 ^ 32 := by omega
  have hcounted := d.counter_after late hrest
  have hstill := d.keeps_moving_after late hrest hmoving
  exact d.mark_arrives (by omega) (by omega) hstill hlate

end Drives

/-- **No endpoint gets stuck.** From every reachable state, a full stretch of successes in
which one call comes a cooldown after the last state change, and the last one a cooldown
after that, makes the endpoint healthy; failures make it unhealthy in the same way. -/
theorem recovers (cfg : HealthCheckConfig) (history : List HealthCall) (times : List ℕ)
    (last : ℕ) (hordered : (times ++ [last]).Pairwise (· ≤ ·))
    (hcool : ∃ t ∈ times, (new.afterCalls cfg history).lastStateChangeMs + flapCooldownMs ≤ t ∧
      t + flapCooldownMs ≤ last) :
    let e := new.afterCalls cfg history
    let n := (times ++ [last]).length
    (cfg.healthyThreshold ≤ n → e.consecutiveSuccesses + n < 2 ^ 32 →
        (e.afterCalls cfg ((times ++ [last]).map .success)).health = .healthy) ∧
      (cfg.unhealthyThreshold ≤ n → e.consecutiveFailures + n < 2 ^ 32 →
        (e.afterCalls cfg ((times ++ [last]).map .failure)).health = .unhealthy) := by
  obtain ⟨t, ht, hfirst, hsecond⟩ := hcool
  obtain ⟨early, late, rfl⟩ := List.append_of_mem ht
  have hbefore : ∀ now ∈ early, now ≤ t := by
    intro now hnow
    have hcross := (List.pairwise_append.mp (List.pairwise_append.mp hordered).1).2.2
    exact hcross now hnow t List.mem_cons_self
  intro e n
  constructor
  · intro hfull hcount
    exact (drives_success cfg).arrives_after early late t last hbefore hfirst hsecond hfull hcount
  · intro hfull hcount
    exact (drives_failure cfg).arrives_after early late t last hbefore hfirst hsecond hfull hcount

/-- Down after three failures at once, two successes a cooldown apart bring it back. -/
theorem recovers_from_unhealthy :
    let cfg : HealthCheckConfig := ⟨"/health".toList, 10, 2, 2, 3⟩
    let e := new.afterCalls cfg [.failure 20000, .failure 25000, .failure 31000]
    e.health = .unhealthy ∧
      (e.afterCalls cfg [.success 35000, .success 42000, .success 53000]).health = .healthy := by
  intro cfg e
  refine ⟨by decide, ?_⟩
  exact (recovers cfg [.failure 20000, .failure 25000, .failure 31000] [35000, 42000] 53000
    (by decide) ⟨42000, by decide, by decide, by decide⟩).1 (by decide) (by decide)

end Stateform.EndpointHealth
