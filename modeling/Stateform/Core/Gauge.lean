import Stateform.Core.Probes

/-!
# The health gauge

Each round of `health_check_loop` that marks its endpoint then sets the gauge
`endpoint_health` of the endpoint's address to the state it got back. Between the two the
gauge is behind; else it shows what selection goes by, if each address has one endpoint
(`gauge_shows_rotation`).
-/

namespace Stateform

open Library

namespace Serving

/-- The gauge shows the state of an endpoint of the address, unless its loop has yet to record
the one it got back. -/
structure Gauged (addresses : List Str) (events : List ServingEvent) (s : Serving) : Prop where
  returned : ∀ (j : ℕ) (task : HealthTask) (newState : Health), s.tasks[j]? = some task →
    task.unrecorded = some newState → newState = task.marked.health
  shown : ∀ address value, s.gauge.lookup address = some value →
    ∃ (j : ℕ) (task : HealthTask), addresses[j]? = some address ∧ s.tasks[j]? = some task ∧
      (task.unrecorded = none → value = task.marked.health.asGaugeValue)
  recorded : ∀ (j : ℕ) (task : HealthTask) (address : Str), s.tasks[j]? = some task →
    task.unrecorded = none → addresses[j]? = some address → callsOn j events ≠ [] →
      (s.gauge.lookup address).isSome

section
variable {uc : UriCrate} {name : Str} {config : UpstreamConfig} {events : List ServingEvent}
  {addresses : List Str} {event : ServingEvent} {s s' : Serving} {j : ℕ} {e : EndpointState}

theorem Gauged.initial (addresses : List Str) (name : Str) (config : UpstreamConfig) :
    Gauged addresses [] (init name config) where
  returned := by
    intro j task newState htask hunrecorded
    obtain ⟨e, -, rfl⟩ := List.mem_map.mp (List.mem_of_getElem? htask)
    cases hunrecorded
  shown := nofun
  recorded := by
    intro j task address _ _ _ hcalled
    exact absurd rfl hcalled

/-- A step that no loop takes, or one that makes no call. -/
theorem Gauged.quiet {sending : Sending} (h : Gauged addresses events s)
    (hcalls : ∀ j, event.callOn j = none) :
    Gauged addresses (events ++ [event]) { s with sending := sending } where
  returned := h.returned
  shown := h.shown
  recorded := by
    intro j task address htask hidle haddress hcalled
    rw [callsOn_concat, hcalls, Option.toList_none, List.append_nil] at hcalled
    exact h.recorded j task address htask hidle haddress hcalled

theorem Gauged.probe {round : ProbeRound} {cfg : HealthCheckConfig} {call : HealthCall}
    {marked : EndpointHealth} {sending : Sending} (h : Gauged addresses events s)
    (htask : s.tasks[j]? = some ⟨marked, none⟩) :
    Gauged addresses (events ++ [.probe j round])
      ⟨sending, s.tasks.set j ⟨(marked.mark cfg call).2, some (marked.mark cfg call).1⟩,
        s.gauge⟩ where
  returned := by
    intro i task newState hi hunrecorded
    change (s.tasks.set j _)[i]? = some task at hi
    rw [getElem?_replaced htask] at hi
    split at hi
    · cases hi
      cases hunrecorded
      exact EndpointHealth.mark_fst call
    · exact h.returned i task newState hi hunrecorded
  shown := by
    intro address value hvalue
    obtain ⟨i, task, haddress, hi, hshows⟩ := h.shown address value hvalue
    by_cases hij : i = j
    · subst hij
      exact ⟨i, _, haddress, getElem?_replaced_self htask _, nofun⟩
    · exact ⟨i, task, haddress, (getElem?_replaced_ne htask _ hij).trans hi, hshows⟩
  recorded := by
    intro i task address hi hidle haddress hcalled
    change (s.tasks.set j _)[i]? = some task at hi
    rw [getElem?_replaced htask] at hi
    split at hi
    · cases hi
      cases hidle
    · next hij =>
        have hoff : (ServingEvent.probe j round).callOn i = none := by
          rw [ServingEvent.callOn, if_neg (Ne.symm hij)]
        rw [callsOn_concat, hoff, Option.toList_none, List.append_nil] at hcalled
        exact h.recorded i task address hi hidle haddress hcalled

theorem Gauged.record {marked : EndpointHealth} {newState : Health} {address : Str}
    (h : Gauged addresses events s) (htask : s.tasks[j]? = some ⟨marked, some newState⟩)
    (haddress : addresses[j]? = some address) :
    Gauged addresses (events ++ [.record j])
      ⟨s.sending, s.tasks.set j ⟨marked, none⟩,
        s.gauge.insert address newState.asGaugeValue⟩ where
  returned := by
    intro i task newer hi hunrecorded
    change (s.tasks.set j _)[i]? = some task at hi
    rw [getElem?_replaced htask] at hi
    split at hi
    · cases hi
      cases hunrecorded
    · exact h.returned i task newer hi hunrecorded
  shown := by
    intro a value hvalue
    by_cases hsame : a = address
    · subst hsame
      rw [AList.lookup_insert] at hvalue
      cases hvalue
      refine ⟨j, _, haddress, getElem?_replaced_self htask _, ?_⟩
      intro _
      rw [h.returned j _ newState htask rfl]
    · rw [AList.lookup_insert_ne hsame] at hvalue
      obtain ⟨i, task, hi, hitask, hshows⟩ := h.shown a value hvalue
      have hij : i ≠ j := by
        rintro rfl
        exact hsame (Option.some.inj (hi.symm.trans haddress))
      exact ⟨i, task, hi, (getElem?_replaced_ne htask _ hij).trans hitask, hshows⟩
  recorded := by
    intro i task a hi hidle ha hcalled
    show ((s.gauge.insert address newState.asGaugeValue).lookup a).isSome
    by_cases hsame : a = address
    · subst hsame
      rw [AList.lookup_insert]
      rfl
    · rw [AList.lookup_insert_ne hsame]
      rw [callsOn_concat] at hcalled
      have hij : i ≠ j := by
        rintro rfl
        exact hsame (Option.some.inj (ha.symm.trans haddress))
      have hold : s.tasks[i]? = some task := (getElem?_replaced_ne htask _ hij).symm.trans hi
      exact h.recorded i task a hold hidle ha (by simpa [ServingEvent.callOn] using hcalled)

theorem Gauged.step (h : Gauged addresses events s)
    (haddresses : s.sending.pool.endpoints.map EndpointState.address = addresses)
    (hstep : StepCase uc s event s') : Gauged addresses (events ++ [event]) s' := by
  cases hstep with
  | sent hsent => exact h.quiet fun _ => rfl
  | unbuilt hcall =>
      refine h.quiet ?_
      intro i
      simp only [ServingEvent.callOn, hcall]
      split <;> rfl
  | marked hcheck hcall htask he => exact h.probe htask
  | recorded htask he =>
      refine h.record htask ?_
      rw [← haddresses, List.getElem?_map, he]
      rfl

/-- The run lemma. -/
theorem run_gauged (hrun : run uc name config events = some s) :
    FollowsChecks name config events s ∧
      Gauged ((UpstreamPool.new name config).endpoints.map EndpointState.address) events s := by
  refine follow_invariant
    (P := fun events s => FollowsChecks name config events s ∧
      Gauged ((UpstreamPool.new name config).endpoints.map EndpointState.address) events s)
    ⟨.initial name config, .initial _ name config⟩ ?_ events s hrun
  intro events event t t' _ ⟨hchecks, hgauged⟩ hstep
  have hcase := step_cases hstep
  exact ⟨hchecks.step hcase, hgauged.step hchecks.addresses hcase⟩

/-- **The gauge and the traffic.** Where no loop of an address has a state to record, and one
of its endpoints has been checked, the gauge of the address shows the state of one of its
endpoints, and 0 exactly if that one is out of rotation. -/
theorem gauge_shows_rotation (hrun : run uc name config events = some s)
    (he : s.sending.pool.endpoints[j]? = some e) (hcalled : callsOn j events ≠ [])
    (hidle : ∀ (i : ℕ) (e' : EndpointState) (task : HealthTask),
      s.sending.pool.endpoints[i]? = some e' → s.tasks[i]? = some task →
        e'.address = e.address → task.unrecorded = none) :
    ∃ (i : ℕ) (e' : EndpointState), s.sending.pool.endpoints[i]? = some e' ∧
      e'.address = e.address ∧ s.gauge.lookup e.address = some e'.health.asGaugeValue ∧
      (e'.health.asGaugeValue = 0 ↔ ¬ InRotation config.healthCheck (callsOn i events)) := by
  obtain ⟨hchecks, hgauged⟩ := run_gauged hrun
  have hat : ∀ {i : ℕ} {e' : EndpointState}, s.sending.pool.endpoints[i]? = some e' →
      ((UpstreamPool.new name config).endpoints.map EndpointState.address)[i]? =
        some e'.address := by
    intro i e' he'
    rw [← hchecks.addresses, List.getElem?_map, he']
    rfl
  obtain ⟨task, htask, -⟩ := hchecks.task he
  obtain ⟨value, hvalue⟩ := Option.isSome_iff_exists.mp
    (hgauged.recorded j task e.address htask (hidle j e task he htask rfl) (hat he) hcalled)
  obtain ⟨i, shown, haddress, hi, hshows⟩ := hgauged.shown e.address value hvalue
  rw [← hchecks.addresses, List.getElem?_map] at haddress
  obtain ⟨e', he', hsame⟩ := Option.map_eq_some_iff.mp haddress
  obtain ⟨task', htask', hhealth⟩ := hchecks.task he'
  obtain rfl := Option.some.inj (hi.symm.trans htask')
  have hnow := hshows (hidle i e' shown he' hi hsame)
  refine ⟨i, e', he', hsame, ?_, ?_⟩
  · rw [hvalue, hnow, hhealth]
  · rw [← hchecks.available_iff he']
    unfold EndpointState.isAvailable
    cases e'.health <;> simp [Health.asGaugeValue]

end

/-- The check of `requestAfterTimeout` is recorded. -/
theorem gauge_shows_rotation_timeout :
    ∃ s e, run .plain "backend".toList strictUpstream [.probe 0 ⟨20000, .timeout⟩, .record 0] =
        some s ∧ s.sending.pool.endpoints[0]? = some e ∧
      ∃ (i : ℕ) (e' : EndpointState), s.sending.pool.endpoints[i]? = some e' ∧
        e'.address = e.address ∧ s.gauge.lookup e.address = some e'.health.asGaugeValue ∧
        (e'.health.asGaugeValue = 0 ↔ ¬ InRotation strictUpstream.healthCheck
          (callsOn i [.probe 0 ⟨20000, .timeout⟩, .record 0])) := by
  obtain ⟨s, e, hrun, he, htasks⟩ : ∃ s e, run .plain "backend".toList strictUpstream
      [.probe 0 ⟨20000, .timeout⟩, .record 0] = some s ∧
        s.sending.pool.endpoints[0]? = some e ∧
        s.tasks.map HealthTask.unrecorded = [none] := ⟨_, _, rfl, rfl, rfl⟩
  refine ⟨s, e, hrun, he, gauge_shows_rotation hrun he (List.cons_ne_nil _ _) ?_⟩
  intro i e' task _ htask _
  have hmem := List.mem_map_of_mem (f := HealthTask.unrecorded) (List.mem_of_getElem? htask)
  rw [htasks, List.mem_singleton] at hmem
  exact hmem

end Serving

end Stateform
