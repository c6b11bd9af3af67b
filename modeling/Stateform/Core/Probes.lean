import Stateform.Core.Health
import Stateform.Core.Stages

/-!
# Traffic under health checks

An upstream that serves while its endpoints are probed: the sends of `UpstreamPool::send` and
the rounds of `health_check_loop`, in any order. The loops are the only ones that mark an
endpoint, so the state selection reads is that of the calls made on it. A request is sent
only to an endpoint in rotation, and refused for want of one only when all had been taken
out, each on a full stretch of failures (`traffic_follows_probes`).
-/

namespace Stateform

open Library

/-! ## Taken out of rotation -/

namespace EndpointHealth

/-- A full stretch of failures took the endpoint out, and no call since has brought it
back. -/
def TakenOut (cfg : HealthCheckConfig) (calls : List HealthCall) : Prop :=
  ∃ early late, calls = early ++ late ∧
    EndsIn HealthCall.isFailure cfg.unhealthyThreshold early ∧
      ∀ since, since <+: late → (new.afterCalls cfg (early ++ since)).health = .unhealthy

theorem afterCalls_concat (cfg : HealthCheckConfig) (e : EndpointHealth)
    (calls : List HealthCall) (call : HealthCall) :
    e.afterCalls cfg (calls ++ [call]) = ((e.afterCalls cfg calls).mark cfg call).2 := by
  rw [afterCalls, after_append]
  rfl

theorem unhealthy_iff_takenOut {cfg : HealthCheckConfig} {calls : List HealthCall} :
    (new.afterCalls cfg calls).health = .unhealthy ↔ TakenOut cfg calls := by
  constructor
  · intro hout
    induction calls using List.reverseRecOn with
    | nil => cases hout
    | append_singleton calls call ih =>
        by_cases hbefore : (new.afterCalls cfg calls).health = .unhealthy
        · obtain ⟨early, late, rfl, hends, hsince⟩ := ih hbefore
          refine ⟨early, late ++ [call], List.append_assoc _ _ _, hends, ?_⟩
          intro since hpre
          rcases List.prefix_concat_iff.mp hpre with rfl | hpre
          · rwa [List.append_assoc] at hout
          · exact hsince since hpre
        · rw [afterCalls_concat] at hout
          have hends := ((health_changes cfg calls).2 call).1 hbefore hout
          refine ⟨calls ++ [call], [], (List.append_nil _).symm, hends, ?_⟩
          intro since hpre
          rw [List.prefix_nil.mp hpre, List.append_nil, afterCalls_concat]
          exact hout
  · rintro ⟨early, late, rfl, -, hsince⟩
    exact hsince late List.prefix_rfl

end EndpointHealth

/-! ## What selection reads -/

section
variable {endpoints : List EndpointState} {algorithm : LoadBalancingConfig}
  {hashKey : Option Str} {counter counter' : ℕ} {picked : EndpointState}

/-- Selection sees the available endpoints only. -/
theorem selectEndpoint_filter :
    selectEndpoint (endpoints.filter EndpointState.isAvailable) algorithm hashKey counter =
      selectEndpoint endpoints algorithm hashKey counter := by
  unfold selectEndpoint
  rw [List.filter_filter]
  simp only [Bool.and_self]

theorem selectEndpoint_available
    (h : selectEndpoint endpoints algorithm hashKey counter = .ok (some picked, counter')) :
    picked.isAvailable = true := by
  rw [← selectEndpoint_filter] at h
  exact (List.mem_filter.mp (selectEndpoint_mem h)).2

/-- It selects none only where none is available. -/
theorem selectEndpoint_none
    (h : selectEndpoint endpoints algorithm hashKey counter = .ok (none, counter')) :
    ∀ e ∈ endpoints, e.isAvailable = false := by
  unfold selectEndpoint at h
  cases havailable : endpoints.filter EndpointState.isAvailable with
  | nil => simpa using List.filter_eq_nil_iff.mp havailable
  | cons first rest =>
  exfalso
  simp only [havailable] at h
  cases algorithm with
  | leastConnections =>
      simp only [Except.ok.injEq, Prod.mk.injEq] at h
      exact absurd (List.argmin_eq_none.mp h.1) (List.cons_ne_nil _ _)
  | weightedRoundRobin =>
      cases hsum : sumU32 0 ((first :: rest).map EndpointState.effectiveWeight) with
      | error p =>
          simp only [hsum, bind, Except.bind] at h
          cases h
      | ok total =>
      simp only [hsum, bind, Except.bind] at h
      split at h
      · cases h
      · cases hpick : pickWeighted (counter % 2 ^ 32 % total) 0 (first :: rest) with
        | error p =>
            simp only [hpick] at h
            cases h
        | ok found =>
            simp only [hpick, pure, Except.pure, Except.ok.injEq, Prod.mk.injEq] at h
            cases found with
            | none => cases h.1
            | some e => cases h.1
  | consistentHashing hashHeader virtualNodes =>
      cases hring : mulUsize (first :: rest).length virtualNodes with
      | error p =>
          simp only [hring, bind, Except.bind] at h
          cases h
      | ok ringSize =>
      cases hrem : remUsize (fnv1a64 (utf8 (hashKey.getD "default".toList))).toNat ringSize with
      | error p =>
          simp only [hring, hrem, bind, Except.bind] at h
          cases h
      | ok idx =>
          simp only [hring, hrem, bind, Except.bind, pure, Except.pure, Except.ok.injEq,
            Prod.mk.injEq] at h
          have hlt := Nat.mod_lt (idx / virtualNodes) (List.length_pos_of_ne_nil
            (List.cons_ne_nil first rest))
          exact absurd (List.getElem?_eq_none_iff.mp h.1) (Nat.not_le_of_lt hlt)

end

/-! ## What a step does to the sends -/

/-- What a request sees of an endpoint, and the checks do to it. -/
def EndpointState.shown (e : EndpointState) : Str × Health := (e.address, e.health)

def SendEvent.isStart : SendEvent → Bool
  | .start _ _ _ _ => true
  | _ => false

def SendEvent.isCheck : SendEvent → Bool
  | .checked _ _ => true
  | _ => false

/-- The send found no endpoint. -/
def SendStage.IsRefused (st : SendStage) : Prop :=
  ∃ name, st = .ended (.ok (.error (.noHealthyEndpoints name)))

namespace Sending

/-- A send that begins goes to an available endpoint, and finds none only where there is
none. -/
structure Began (s : Sending) (st : SendStage) : Prop where
  on : ∀ j, st.on = some j → ∃ e, s.pool.endpoints[j]? = some e ∧ e.isAvailable = true
  refused : st.IsRefused →
    s.pool.maxAttempts = 0 ∨ ∀ e ∈ s.pool.endpoints, e.isAvailable = false

/-- What a step does to the sends: one begins, or one in flight goes on. -/
inductive SendsStep (s : Sending) : SendEvent → List SendStage → Prop where
  | began {uri : Uri} {hashKey : Option Str} {j elapsed : ℕ} {st : SendStage} :
      Began s st → SendsStep s (.start uri hashKey j elapsed) (s.sends ++ [st])
  | wentOn {event : SendEvent} {k j : ℕ} {at_ : AwaitPoint} {st : SendStage} :
      event.isStart = false → s.sends[k]? = some (.inFlight j at_) →
      (∀ i, st.on = some i → i = j) → ¬ st.IsRefused → SendsStep s event (s.sends.set k st)

/-- A step of a send: the endpoints show what they showed. -/
structure Sent (s : Sending) (event : SendEvent) (s' : Sending) : Prop where
  config : s'.pool.config = s.pool.config
  shown : s'.pool.endpoints.map EndpointState.shown = s.pool.endpoints.map EndpointState.shown
  sends : SendsStep s event s'.sends

section
variable {uc : UriCrate} {s s' : Sending} {event : SendEvent} {k j : ℕ} {at_ : AwaitPoint}
  {e e' : EndpointState}

theorem shown_setEndpoint (hj : s.pool.endpoints[j]? = some e) (h : e'.shown = e.shown) :
    (s.setEndpoint j e').pool.endpoints.map EndpointState.shown =
      s.pool.endpoints.map EndpointState.shown :=
  map_replaced_same hj h

theorem shown_release (e : EndpointState) (elapsed : ℕ) :
    (e.release elapsed).2.shown = e.shown := by
  simp only [EndpointState.release]
  split <;> rfl

theorem finish_eq_some {answer : Except CoreError Response} {elapsed : ℕ}
    (h : s.finish k j answer elapsed = some s') :
    ∃ e, s.pool.endpoints[j]? = some e ∧
      s' = (s.setEndpoint j (e.release elapsed).2).setSend k
        (.ended ((e.release elapsed).1.map fun _ => answer)) := by
  unfold finish at h
  cases hj : s.pool.endpoints[j]? with
  | none =>
      rw [hj] at h
      cases h
  | some e =>
      rw [hj] at h
      exact ⟨e, rfl, (Option.some.inj h).symm⟩

/-- A send that ends, not for want of an endpoint. -/
theorem sent_finish {answer : Except CoreError Response} {elapsed : ℕ}
    (hstart : event.isStart = false) (hk : s.sends[k]? = some (.inFlight j at_))
    (hanswer : ∀ name, answer ≠ .error (.noHealthyEndpoints name))
    (hfinish : s.finish k j answer elapsed = some s') : Sent s event s' := by
  obtain ⟨e, hj, rfl⟩ := finish_eq_some hfinish
  refine ⟨rfl, shown_setEndpoint hj (shown_release e elapsed), .wentOn hstart hk nofun ?_⟩
  rintro ⟨name, hname⟩
  have hdone := SendStage.ended.inj hname
  cases hreleased : (e.release elapsed).1 with
  | error p =>
      rw [hreleased] at hdone
      cases hdone
  | ok u =>
      rw [hreleased] at hdone
      exact hanswer name (Except.ok.inj hdone)

/-- A send that goes on waiting, or is dropped. -/
theorem sent_setSend {st : SendStage} (hstart : event.isStart = false)
    (hk : s.sends[k]? = some (.inFlight j at_)) (hon : st.on = some j) :
    Sent s event (s.setSend k st) := by
  refine ⟨rfl, rfl, .wentOn hstart hk ?_ ?_⟩
  · intro i hi
    exact Option.some.inj (hi.symm.trans hon)
  · rintro ⟨name, rfl⟩
    cases hon

theorem set_last (sends : List SendStage) (st st' : SendStage) :
    (sends ++ [st]).set ((sends ++ [st]).length - 1) st' = sends ++ [st'] := by
  simp

/-- A send that begins. -/
theorem sent_start {uri : Uri} {hashKey : Option Str} {elapsed : ℕ}
    (hstart : start uc s uri hashKey j elapsed = some s') :
    Sent s (.start uri hashKey j elapsed) s' := by
  unfold start at hstart
  split at hstart
  · cases hstart
    exact ⟨rfl, rfl, .began ⟨nofun, by rintro ⟨_, ⟨⟩⟩⟩⟩
  · next counter hselect =>
      cases hstart
      exact ⟨rfl, rfl, .began ⟨nofun, fun _ => .inr (selectEndpoint_none hselect)⟩⟩
  · next picked counter hselect =>
      split at hstart
      · next hj =>
          simp only at hstart
          split at hstart
          · cases hstart
            exact ⟨rfl, rfl, .began ⟨nofun, by rintro ⟨_, ⟨⟩⟩⟩⟩
          · have hshown : (s.setEndpoint j picked.acquire).pool.endpoints.map
                EndpointState.shown = s.pool.endpoints.map EndpointState.shown :=
              shown_setEndpoint hj rfl
            split at hstart
            · -- the attempts are over before the first one
              next hnone =>
              obtain ⟨e, he, rfl⟩ := finish_eq_some hstart
              refine ⟨rfl, (map_replaced_same he (shown_release e elapsed)).trans hshown, ?_⟩
              show SendsStep s _ ((s.sends ++ [SendStage.inFlight j (.requesting 0)]).set
                ((s.sends ++ [SendStage.inFlight j (.requesting 0)]).length - 1) _)
              rw [set_last]
              exact .began ⟨by rintro _ ⟨⟩, fun _ => .inl hnone⟩
            · cases hstart
              refine ⟨rfl, hshown, .began ⟨?_, by rintro ⟨_, ⟨⟩⟩⟩⟩
              rintro i ⟨⟩
              exact ⟨picked, hj, selectEndpoint_available hselect⟩
      · cases hstart

/-- The step lemma. -/
theorem step_sent (hcheck : event.isCheck = false) (hstep : s.step uc event = some s') :
    Sent s event s' := by
  cases event with
  | start uri hashKey j elapsed => exact sent_start hstep
  | answered k outcome nanos elapsed =>
      simp only [step] at hstep
      split at hstep
      · next j attempt hk =>
          cases outcome with
          | timeout => exact sent_finish rfl hk (by rintro _ ⟨⟩) hstep
          | failed message => exact sent_finish rfl hk (by rintro _ ⟨⟩) hstep
          | response status headers =>
              simp only [answer] at hstep
              split at hstep
              · split at hstep
                · cases hstep
                  exact sent_setSend rfl hk rfl
                · cases hstep
                  exact sent_setSend rfl hk rfl
              · cases hstep
                exact sent_setSend rfl hk rfl
      · cases hstep
  | woken k =>
      simp only [step] at hstep
      split at hstep
      · next hk =>
          cases hstep
          exact sent_setSend rfl hk rfl
      · cases hstep
  | collected k body elapsed =>
      simp only [step] at hstep
      split at hstep
      · next hk =>
          cases body with
          | ok bytes => exact sent_finish rfl hk (by rintro _ ⟨⟩) hstep
          | error message => exact sent_finish rfl hk (by rintro _ ⟨⟩) hstep
      · cases hstep
  | cancel k =>
      simp only [step] at hstep
      split at hstep
      · next hk =>
          cases hstep
          exact sent_setSend rfl hk rfl
      · cases hstep
  | checked j health => cases hcheck

end

end Sending

/-! ## Sends and checks together -/

/-- `Health::as_gauge_value`. -/
def Health.asGaugeValue : Health → ℚ
  | .healthy => 1
  | .degraded => 1 / 2
  | .unhealthy => 0

/-- What the calls on an endpoint have made of it, and the state that the last round of its
loop returned and has not recorded yet. -/
structure HealthTask : Type where
  marked : EndpointHealth
  unrecorded : Option Health

/-- An upstream with its sends and its loops, and the gauge `endpoint_health` by address. -/
structure Serving : Type where
  sending : Sending
  tasks : List HealthTask
  gauge : StrMap ℚ

/-- What happens: a send takes a step, a loop makes a round and marks its endpoint, or
records the state it got back. -/
inductive ServingEvent : Type where
  | send (event : SendEvent)
  | probe (j : ℕ) (round : ProbeRound)
  | record (j : ℕ)

namespace ServingEvent

def isStart : ServingEvent → Bool
  | .send event => event.isStart
  | _ => false

/-- The call made on an endpoint. -/
def callOn (j : ℕ) : ServingEvent → Option HealthCall
  | .probe i round => if i = j then round.call else none
  | _ => none

end ServingEvent

def callsOn (j : ℕ) (events : List ServingEvent) : List HealthCall :=
  events.filterMap (ServingEvent.callOn j)

namespace Serving

/-- `UpstreamPool::new` and `spawn_health_checks`. -/
def init (name : Str) (config : UpstreamConfig) : Serving where
  sending := .init name config
  tasks := (UpstreamPool.new name config).endpoints.map fun _ => ⟨.new, none⟩
  gauge := ∅

def step (uc : UriCrate) (s : Serving) : ServingEvent → Option Serving
  | .send event =>
      if event.isCheck then none
      else (s.sending.step uc event).map fun sending => { s with sending := sending }
  | .probe j round =>
      match s.sending.pool.config.healthCheck, s.tasks[j]? with
      | some cfg, some ⟨marked, none⟩ =>
          match round.call with
          -- the request could not be built, and the loop goes on
          | none => some s
          | some call =>
              let (newState, marked) := marked.mark cfg call
              (s.sending.step uc (.checked j marked.health)).map fun sending =>
                { s with sending := sending, tasks := s.tasks.set j ⟨marked, some newState⟩ }
      | _, _ => none
  | .record j =>
      match s.tasks[j]?, s.sending.pool.endpoints[j]? with
      | some ⟨marked, some newState⟩, some endpoint =>
          some { s with
            tasks := s.tasks.set j ⟨marked, none⟩
            gauge := s.gauge.insert endpoint.address newState.asGaugeValue }
      | _, _ => none

def run (uc : UriCrate) (name : Str) (config : UpstreamConfig) (events : List ServingEvent) :
    Option Serving :=
  follow (step uc) (init name config) events

end Serving

/-! ## In rotation -/

/-- What calls make of an endpoint; without a health check there are none. -/
def markedBy (check : Option HealthCheckConfig) (calls : List HealthCall) : EndpointHealth :=
  match check with
  | some cfg => EndpointHealth.new.afterCalls cfg calls
  | none => .new

/-- No check has taken the endpoint out. -/
def InRotation (check : Option HealthCheckConfig) (calls : List HealthCall) : Prop :=
  ∀ cfg, check = some cfg → ¬ EndpointHealth.TakenOut cfg calls

theorem inRotation_iff {check : Option HealthCheckConfig} {calls : List HealthCall} :
    InRotation check calls ↔ (markedBy check calls).health ≠ .unhealthy := by
  cases check with
  | none => exact iff_of_true nofun nofun
  | some cfg =>
      show (∀ c, some cfg = some c → _) ↔ ¬ (EndpointHealth.new.afterCalls cfg calls).health = _
      rw [EndpointHealth.unhealthy_iff_takenOut]
      constructor
      · intro h
        exact h cfg rfl
      · rintro h _ ⟨rfl⟩
        exact h

theorem callsOn_concat (j : ℕ) (events : List ServingEvent) (event : ServingEvent) :
    callsOn j (events ++ [event]) = callsOn j events ++ (event.callOn j).toList := by
  rw [callsOn, List.filterMap_append]
  cases hcall : event.callOn j with
  | none => simp [callsOn, hcall]
  | some call => simp [callsOn, hcall]

theorem markedBy_concat {cfg : HealthCheckConfig} {check : Option HealthCheckConfig}
    (hcheck : check = some cfg) (calls : List HealthCall) (call : HealthCall) :
    markedBy check (calls ++ [call]) = ((markedBy check calls).mark cfg call).2 := by
  subst hcheck
  exact EndpointHealth.afterCalls_concat cfg _ calls call

namespace Serving

/-- The endpoints are in the states that the calls made of them. -/
structure FollowsChecks (name : Str) (config : UpstreamConfig) (events : List ServingEvent)
    (s : Serving) : Prop where
  configured : s.sending.pool.config = config
  addresses : s.sending.pool.endpoints.map EndpointState.address =
    (UpstreamPool.new name config).endpoints.map EndpointState.address
  health : s.sending.pool.endpoints.map EndpointState.health =
    s.tasks.map fun task => task.marked.health
  marked : ∀ j task, s.tasks[j]? = some task →
    task.marked = markedBy config.healthCheck (callsOn j events)

namespace FollowsChecks

section
variable {uc : UriCrate} {name : Str} {config : UpstreamConfig} {events : List ServingEvent}
  {s s' : Serving} {j : ℕ} {e : EndpointState}

/-- The task of an endpoint. -/
theorem task (h : FollowsChecks name config events s)
    (he : s.sending.pool.endpoints[j]? = some e) :
    ∃ task, s.tasks[j]? = some task ∧ e.health = task.marked.health := by
  have hj := congrArg (fun l => l[j]?) h.health
  simp only [List.getElem?_map, he, Option.map_some] at hj
  obtain ⟨task, htask, hhealth⟩ := Option.map_eq_some_iff.mp hj.symm
  exact ⟨task, htask, hhealth.symm⟩

theorem available_iff (h : FollowsChecks name config events s)
    (he : s.sending.pool.endpoints[j]? = some e) :
    e.isAvailable = true ↔ InRotation config.healthCheck (callsOn j events) := by
  obtain ⟨task, htask, hhealth⟩ := h.task he
  rw [inRotation_iff, ← h.marked j task htask, ← hhealth]
  simp [EndpointState.isAvailable]

theorem initial (name : Str) (config : UpstreamConfig) :
    FollowsChecks name config [] (init name config) where
  configured := rfl
  addresses := rfl
  health := by
    simp only [init, Sending.init, UpstreamPool.new, List.map_map]
    rfl
  marked := by
    intro j task htask
    obtain ⟨e, -, rfl⟩ := List.mem_map.mp (List.mem_of_getElem? htask)
    cases config.healthCheck <;> rfl

theorem send {event : SendEvent} {sending : Sending} (h : FollowsChecks name config events s)
    (hsent : Sending.Sent s.sending event sending) :
    FollowsChecks name config (events ++ [.send event]) { s with sending := sending } := by
  have hshown := hsent.shown
  refine ⟨hsent.config.trans h.configured, ?_, ?_, ?_⟩
  · have haddresses := congrArg (List.map Prod.fst) hshown
    rw [List.map_map, List.map_map] at haddresses
    exact haddresses.trans h.addresses
  · have hhealth := congrArg (List.map Prod.snd) hshown
    rw [List.map_map, List.map_map] at hhealth
    exact hhealth.trans h.health
  · intro j task htask
    rw [callsOn_concat]
    simpa [ServingEvent.callOn] using h.marked j task htask

/-- A round that makes a call: the endpoint is given the state its loop keeps of it. -/
theorem probe {cfg : HealthCheckConfig} {round : ProbeRound} {call : HealthCall}
    {marked : EndpointHealth} {unrecorded : Option Health} (h : FollowsChecks name config events s)
    (hcheck : config.healthCheck = some cfg) (hcall : round.call = some call)
    (htask : s.tasks[j]? = some ⟨marked, none⟩) (he : s.sending.pool.endpoints[j]? = some e) :
    FollowsChecks name config (events ++ [.probe j round])
      ⟨s.sending.setEndpoint j { e with health := (marked.mark cfg call).2.health },
        s.tasks.set j ⟨(marked.mark cfg call).2, unrecorded⟩, s.gauge⟩ where
  configured := h.configured
  addresses := by
    refine Eq.trans ?_ h.addresses
    exact map_replaced_same he rfl
  health := by
    show (s.sending.pool.endpoints.set j _).map EndpointState.health = (s.tasks.set j _).map _
    rw [List.map_set, List.map_set, h.health]
  marked := by
    intro i task hi
    change (s.tasks.set j _)[i]? = some task at hi
    rw [getElem?_replaced htask] at hi
    rw [callsOn_concat]
    split at hi
    · next hij =>
        cases hi
        subst hij
        have hbefore := h.marked i _ htask
        have hon : (ServingEvent.probe i round).callOn i = some call := by
          rw [ServingEvent.callOn, if_pos rfl, hcall]
        rw [hon, Option.toList_some, markedBy_concat hcheck, ← hbefore]
    · next hij =>
        have hoff : (ServingEvent.probe j round).callOn i = none := by
          rw [ServingEvent.callOn, if_neg (Ne.symm hij)]
        rw [hoff, Option.toList_none, List.append_nil]
        exact h.marked i task hi

/-- A step that marks no endpoint. -/
theorem unmarked {event : ServingEvent} {tasks : List HealthTask} {gauge : StrMap ℚ}
    (h : FollowsChecks name config events s) (hcalls : ∀ j, event.callOn j = none)
    (htasks : tasks.map HealthTask.marked = s.tasks.map HealthTask.marked) :
    FollowsChecks name config (events ++ [event]) ⟨s.sending, tasks, gauge⟩ where
  configured := h.configured
  addresses := h.addresses
  health := by
    have hhealth := congrArg (List.map EndpointHealth.health) htasks
    rw [List.map_map, List.map_map] at hhealth
    exact h.health.trans hhealth.symm
  marked := by
    intro i task hi
    have hold := congrArg (fun l => l[i]?) htasks
    simp only [List.getElem?_map, hi, Option.map_some] at hold
    obtain ⟨before, hbefore, hmarked⟩ := Option.map_eq_some_iff.mp hold.symm
    rw [callsOn_concat, hcalls, Option.toList_none, List.append_nil, ← hmarked]
    exact h.marked i before hbefore

end

end FollowsChecks

/-! ## Steps -/

/-- What a step is. -/
inductive StepCase (uc : UriCrate) (s : Serving) : ServingEvent → Serving → Prop where
  | sent {event : SendEvent} {sending : Sending} : Sending.Sent s.sending event sending →
      StepCase uc s (.send event) { s with sending := sending }
  | unbuilt {j : ℕ} {round : ProbeRound} : round.call = none → StepCase uc s (.probe j round) s
  | marked {j : ℕ} {round : ProbeRound} {cfg : HealthCheckConfig} {call : HealthCall}
      {marked : EndpointHealth} {e : EndpointState} :
      s.sending.pool.config.healthCheck = some cfg → round.call = some call →
      s.tasks[j]? = some ⟨marked, none⟩ → s.sending.pool.endpoints[j]? = some e →
      StepCase uc s (.probe j round)
        ⟨s.sending.setEndpoint j { e with health := (marked.mark cfg call).2.health },
          s.tasks.set j ⟨(marked.mark cfg call).2, some (marked.mark cfg call).1⟩, s.gauge⟩
  | recorded {j : ℕ} {marked : EndpointHealth} {newState : Health} {e : EndpointState} :
      s.tasks[j]? = some ⟨marked, some newState⟩ → s.sending.pool.endpoints[j]? = some e →
      StepCase uc s (.record j)
        ⟨s.sending, s.tasks.set j ⟨marked, none⟩,
          s.gauge.insert e.address newState.asGaugeValue⟩

theorem step_cases {uc : UriCrate} {s s' : Serving} {event : ServingEvent}
    (h : s.step uc event = some s') : StepCase uc s event s' := by
  cases event with
  | send event =>
      simp only [step] at h
      split at h
      · cases h
      · next hcheck =>
          obtain ⟨sending, hsending, rfl⟩ := Option.map_eq_some_iff.mp h
          exact .sent (Sending.step_sent (Bool.eq_false_iff.mpr hcheck) hsending)
  | probe j round =>
      simp only [step] at h
      split at h
      · next cfg marked hcheck htask =>
          cases hcall : round.call with
          | none =>
              rw [hcall] at h
              cases h
              exact .unbuilt hcall
          | some call =>
              simp only [hcall, Sending.step] at h
              cases he : s.sending.pool.endpoints[j]? with
              | none =>
                  rw [he] at h
                  cases h
              | some e =>
                  rw [he] at h
                  cases h
                  exact .marked hcheck hcall htask he
      · cases h
  | record j =>
      simp only [step] at h
      split at h
      · next htask he =>
          cases h
          exact .recorded htask he
      · cases h

theorem step_sending {uc : UriCrate} {s s' : Serving} {event : ServingEvent}
    (h : s.step uc event = some s') :
    s'.sending = s.sending ∨ ∃ e, s.sending.step uc e = some s'.sending := by
  cases event with
  | send event =>
      simp only [step] at h
      split at h
      · cases h
      · obtain ⟨sending, hsending, rfl⟩ := Option.map_eq_some_iff.mp h
        exact .inr ⟨event, hsending⟩
  | probe j round =>
      simp only [step] at h
      split at h
      · split at h
        · cases h
          exact .inl rfl
        · obtain ⟨sending, hsending, rfl⟩ := Option.map_eq_some_iff.mp h
          exact .inr ⟨_, hsending⟩
      · cases h
  | record j =>
      simp only [step] at h
      split at h
      · cases h
        exact .inl rfl
      · cases h

/-- The sends of a run are a run of the pool, with the checks as they come. -/
theorem run_sending {uc : UriCrate} {name : Str} {config : UpstreamConfig}
    {events : List ServingEvent} {s : Serving} (hrun : run uc name config events = some s) :
    ∃ sendEvents, Sending.run uc name config sendEvents = some s.sending := by
  refine follow_invariant
    (P := fun _ s => ∃ sendEvents, Sending.run uc name config sendEvents = some s.sending)
    ⟨[], rfl⟩ ?_ events s hrun
  rintro _ event t t' _ ⟨sendEvents, hsends⟩ hstep
  rcases step_sending hstep with hsame | ⟨e, he⟩
  · exact ⟨sendEvents, hsame ▸ hsends⟩
  · refine ⟨sendEvents ++ [e], ?_⟩
    rw [Sending.run, follow_concat]
    exact Option.bind_eq_some_iff.mpr ⟨_, hsends, he⟩

theorem FollowsChecks.step {uc : UriCrate} {name : Str} {config : UpstreamConfig}
    {events : List ServingEvent} {s s' : Serving} {event : ServingEvent}
    (h : FollowsChecks name config events s) (hstep : StepCase uc s event s') :
    FollowsChecks name config (events ++ [event]) s' := by
  cases hstep with
  | sent hsent => exact h.send hsent
  | unbuilt hcall =>
      refine h.unmarked ?_ rfl
      intro i
      simp only [ServingEvent.callOn, hcall]
      split <;> rfl
  | marked hcheck hcall htask he =>
      exact h.probe (h.configured ▸ hcheck) hcall htask he
  | recorded htask he => exact h.unmarked (fun _ => rfl) (map_replaced_same htask rfl)

/-! ## Where a send came from -/

/-- What the run had done when the send with this number began. -/
def BeganAfter (events : List ServingEvent) (k : ℕ) (before : List ServingEvent) : Prop :=
  ∃ event : ServingEvent, event.isStart = true ∧ before ++ [event] <+: events ∧
    before.countP ServingEvent.isStart = k

/-- A send that is on an endpoint found it in rotation when it began; one that was refused
found none there, unless it is not to make an attempt. -/
structure Accounted (config : UpstreamConfig) (s : Serving) (before : List ServingEvent)
    (st : SendStage) : Prop where
  on : ∀ j, st.on = some j → InRotation config.healthCheck (callsOn j before)
  refused : st.IsRefused → s.sending.pool.maxAttempts = 0 ∨
    ∀ j < s.sending.pool.endpoints.length, ¬ InRotation config.healthCheck (callsOn j before)

/-- Sends are numbered as they begin, and each is accounted for by what went before. -/
structure SendsAccounted (config : UpstreamConfig) (events : List ServingEvent) (s : Serving) :
    Prop where
  numbered : s.sending.sends.length = events.countP ServingEvent.isStart
  accounted : ∀ k st, s.sending.sends[k]? = some st →
    ∃ before, BeganAfter events k before ∧ Accounted config s before st

section
variable {uc : UriCrate} {name : Str} {config : UpstreamConfig} {events before : List ServingEvent}
  {event : ServingEvent} {s s' : Serving} {st : SendStage} {k : ℕ}

theorem BeganAfter.concat (h : BeganAfter events k before) :
    BeganAfter (events ++ [event]) k before := by
  obtain ⟨start, hstart, hpre, hcount⟩ := h
  exact ⟨start, hstart, hpre.trans (List.prefix_append _ _), hcount⟩

theorem Accounted.same (h : Accounted config s before st)
    (hattempts : s'.sending.pool.maxAttempts = s.sending.pool.maxAttempts)
    (hlength : s'.sending.pool.endpoints.length = s.sending.pool.endpoints.length) :
    Accounted config s' before st := by
  refine ⟨h.on, ?_⟩
  rw [hattempts, hlength]
  exact h.refused

/-- A send that begins is accounted for by the run so far. -/
theorem FollowsChecks.accounted (h : FollowsChecks name config events s)
    (hbegan : s.sending.Began st) : Accounted config s events st := by
  refine ⟨?_, ?_⟩
  · intro j hon
    obtain ⟨e, he, havailable⟩ := hbegan.on j hon
    exact (h.available_iff he).mp havailable
  · intro hrefused
    refine (hbegan.refused hrefused).imp_right ?_
    intro hnone j hj
    have he := List.getElem?_eq_getElem hj
    rw [← h.available_iff he, hnone _ (List.getElem_mem hj)]
    exact Bool.false_ne_true

/-- A step that leaves the sends. -/
theorem SendsAccounted.quiet (h : SendsAccounted config events s) (hevent : event.isStart = false)
    (hsends : s'.sending.sends = s.sending.sends)
    (hattempts : s'.sending.pool.maxAttempts = s.sending.pool.maxAttempts)
    (hlength : s'.sending.pool.endpoints.length = s.sending.pool.endpoints.length) :
    SendsAccounted config (events ++ [event]) s' := by
  refine ⟨?_, ?_⟩
  · rw [hsends, h.numbered, List.countP_append, List.countP_singleton, hevent]
    rfl
  · intro k st hk
    rw [hsends] at hk
    obtain ⟨before, hbegan, haccounted⟩ := h.accounted k st hk
    exact ⟨before, hbegan.concat, haccounted.same hattempts hlength⟩

theorem SendsAccounted.sent {event : SendEvent} {sending : Sending}
    (h : SendsAccounted config events s) (hchecks : FollowsChecks name config events s)
    (hsent : Sending.Sent s.sending event sending) :
    SendsAccounted config (events ++ [.send event]) { s with sending := sending } := by
  have hattempts : sending.pool.maxAttempts = s.sending.pool.maxAttempts :=
    (retry_of_config hsent.config).1
  have hlength : sending.pool.endpoints.length = s.sending.pool.endpoints.length := by
    simpa using congrArg List.length hsent.shown
  have hsends := hsent.sends
  generalize hmore : sending.sends = sends at hsends
  cases hsends with
  | began hbegan =>
      refine ⟨?_, ?_⟩
      · show sending.sends.length = _
        rw [hmore, List.length_append, h.numbered, List.countP_append]
        rfl
      · intro k st hk
        change sending.sends[k]? = some st at hk
        rw [hmore, getElem?_appended] at hk
        split at hk
        · next hlast =>
            cases hk
            refine ⟨events, ⟨_, rfl, List.prefix_rfl, ?_⟩, ?_⟩
            · rw [hlast, h.numbered]
            · exact (hchecks.accounted hbegan).same hattempts hlength
        · obtain ⟨before, hbefore, haccounted⟩ := h.accounted k st hk
          exact ⟨before, hbefore.concat, haccounted.same hattempts hlength⟩
  | wentOn hstart hold hon hrefused =>
      refine ⟨?_, ?_⟩
      · show sending.sends.length = _
        rw [hmore, List.length_set, h.numbered, List.countP_append, List.countP_singleton]
        simp [ServingEvent.isStart, hstart]
      · intro k st hk
        change sending.sends[k]? = some st at hk
        rw [hmore, getElem?_replaced hold] at hk
        split at hk
        · next hsame =>
            cases hk
            subst hsame
            obtain ⟨before, hbefore, haccounted⟩ := h.accounted k _ hold
            refine ⟨before, hbefore.concat, ?_, fun h => absurd h hrefused⟩
            intro i hi
            obtain rfl := hon i hi
            exact haccounted.on i rfl
        · obtain ⟨before, hbefore, haccounted⟩ := h.accounted k st hk
          exact ⟨before, hbefore.concat, haccounted.same hattempts hlength⟩

theorem SendsAccounted.step (h : SendsAccounted config events s)
    (hchecks : FollowsChecks name config events s) (hstep : StepCase uc s event s') :
    SendsAccounted config (events ++ [event]) s' := by
  cases hstep with
  | sent hsent => exact h.sent hchecks hsent
  | unbuilt hcall => exact h.quiet rfl rfl rfl rfl
  | marked hcheck hcall htask he => exact h.quiet rfl rfl rfl List.length_set
  | recorded htask he => exact h.quiet rfl rfl rfl rfl

/-- The run lemma. -/
theorem run_accounted (hrun : run uc name config events = some s) :
    FollowsChecks name config events s ∧ SendsAccounted config events s := by
  refine follow_invariant
    (P := fun events s => FollowsChecks name config events s ∧ SendsAccounted config events s)
    ⟨.initial name config, rfl, nofun⟩ ?_ events s hrun
  intro events event t t' _ ⟨hchecks, hsends⟩ hstep
  have hcase := step_cases hstep
  exact ⟨hchecks.step hcase, hsends.step hchecks hcase⟩

/-- **Traffic follows the checks.** In every state of a run, whatever the order of sends and
checks, each send that is on an endpoint found it in rotation when it began, and one that was
refused for want of an endpoint found each of them taken out on a full stretch of failures,
or the retry config allows no attempt. -/
theorem traffic_follows_probes (hrun : run uc name config events = some s)
    (hk : s.sending.sends[k]? = some st) :
    ∃ before, BeganAfter events k before ∧ Accounted config s before st :=
  (run_accounted hrun).2.accounted k st hk

end

/-- One endpoint, taken out by its first failure. -/
def strictUpstream : UpstreamConfig :=
  { UpstreamConfig.single "127.0.0.1:9000".toList with
    healthCheck := some ⟨"/health".toList, 10, 2, 2, 1⟩ }

/-- A check times out, then a request comes. -/
def requestAfterTimeout : List ServingEvent :=
  [.probe 0 ⟨20000, .timeout⟩, .send (.start ⟨none⟩ none 0 0)]

/-- The request is refused, as the check took the endpoint out. -/
theorem traffic_follows_probes_timeout :
    ∃ s st, run .plain "backend".toList strictUpstream requestAfterTimeout = some s ∧
      s.sending.sends[0]? = some st ∧ st.IsRefused ∧
      ∃ before, BeganAfter requestAfterTimeout 0 before ∧
        Accounted strictUpstream s before st := by
  obtain ⟨s, hrun, hk⟩ : ∃ s, run .plain "backend".toList strictUpstream requestAfterTimeout =
      some s ∧ s.sending.sends[0]? =
        some (.ended (.ok (.error (.noHealthyEndpoints "backend".toList)))) := ⟨_, rfl, rfl⟩
  exact ⟨s, _, hrun, hk, ⟨_, rfl⟩, traffic_follows_probes hrun hk⟩

end Serving

end Stateform
