import Stateform.Core.Concurrency
import Stateform.Library.Progress

/-!
# No deadlock at the gate

`concurrency.rs` takes the global permit before the route's, always, so that no request waits
for one that waits for it. So without any timeout some request can always be granted a permit
or drop one until all requests are gone, which takes four steps of each at most, and then
every permit is back (`gate_drains`).
-/

namespace Stateform

open Library

/-- The most steps a request still takes. -/
def GateStage.stepsLeft : GateStage → ℕ
  | .waitingGlobal => 4
  | .waitingRoute => 3
  | .running => 2
  | .dropping => 1
  | .refused _ => 0
  | .left => 0

/-- A step of a request that is there already. -/
def GateEvent.IsAct : GateEvent → Prop
  | .acquire _ => False
  | .act _ _ => True

/-- A step of the request number `i`. -/
def GateEvent.isOf (i : ℕ) : GateEvent → Bool
  | .acquire _ => false
  | .act j _ => decide (j = i)

/-- A permit is granted or dropped; nobody gives up. -/
def GateEvent.Hands : GateEvent → Prop
  | .act _ .globalReady => True
  | .act _ .routeReady => True
  | .act _ .dropGlobal => True
  | .act _ .dropRoute => True
  | _ => False

/-- Every limit lets a request through. -/
structure ConcurrencyLimiter.Positive (limiter : ConcurrencyLimiter) : Prop where
  global : 0 < limiter.global.permits
  routes : ∀ r semaphore, limiter.routes.lookup r = some semaphore → 0 < semaphore.permits

namespace Gate

/-- The steps all requests still take, at most. -/
def stepsLeft (s : Gate) : ℕ := (s.requests.map fun t => t.stage.stepsLeft).sum

/-- The most steps the request number `i` still takes. -/
def stepsLeftOf (s : Gate) (i : ℕ) : ℕ := ((s.requests[i]?).map (·.stage.stepsLeft)).getD 0

/-- Every request has been refused or has left. -/
def AllGone (s : Gate) : Prop := ∀ t ∈ s.requests, t.stage.Idle

/-- All requests are gone, and every permit is back. -/
structure Restored (limiter : ConcurrencyLimiter) (s : Gate) : Prop where
  gone : s.AllGone
  global : s.limiter.global.permits = limiter.global.permits
  routes : ∀ r semaphore, limiter.routes.lookup r = some semaphore →
    ∃ now, s.limiter.routes.lookup r = some now ∧ now.permits = semaphore.permits

/-- What a run keeps: the permits, and that only a route with a limit is waited for. -/
structure Waits (limiter : ConcurrencyLimiter) (s : Gate) : Prop where
  kept : Kept limiter s
  limited : ∀ t ∈ s.requests, t.stage = .waitingRoute →
    (limiter.routes.lookup t.routeId).isSome

section
variable {limiter : ConcurrencyLimiter} {s s' : Gate} {i : ℕ} {t : GateRequest}

/-! ## What a step uses up -/

/-- An action takes a request one stage on at least. -/
theorem act_advances {action : GateAction} (h : s.act i t action = some s') :
    ∃ t', s'.requests = s.requests.set i t' ∧ t'.routeId = t.routeId ∧
      t'.stage.stepsLeft < t.stage.stepsLeft ∧
      (t'.stage = .waitingRoute → (s.limiter.routes.lookup t.routeId).isSome) := by
  cases action with
  | globalReady =>
      simp only [act] at h
      grind [put, GateStage.stepsLeft]
  | globalTimeout =>
      simp only [act] at h
      grind [put, GateStage.stepsLeft]
  | routeReady =>
      simp only [act] at h
      grind [putBack, GateStage.stepsLeft]
  | routeTimeout =>
      simp only [act] at h
      grind [putBack, GateStage.stepsLeft]
  | cancel =>
      simp only [act] at h
      grind [put, putBack, GateStage.stepsLeft]
  | dropGlobal =>
      simp only [act] at h
      grind [putBack, GateStage.stepsLeft]
  | dropRoute =>
      simp only [act] at h
      split at h
      · next hstage =>
          have hleft : GateStage.left.stepsLeft < t.stage.stepsLeft := by
            rw [hstage]
            decide
          split at h
          · obtain ⟨now, _, rfl⟩ := Option.map_eq_some_iff.mp h
            exact ⟨_, rfl, rfl, hleft, fun hwaits => by cases hwaits⟩
          · cases h
            exact ⟨_, rfl, rfl, hleft, fun hwaits => by cases hwaits⟩
      · cases h

theorem step_lowers {event : GateEvent} (hact : event.IsAct) (h : s.step event = some s') :
    s'.stepsLeft < s.stepsLeft := by
  cases event with
  | acquire routeId => exact hact.elim
  | act i action =>
      obtain ⟨t, hfound, h⟩ := Option.bind_eq_some_iff.mp h
      obtain ⟨t', hrequests, _, hlower, _⟩ := act_advances h
      have hsum := sum_map_replaced (fun t : GateRequest => t.stage.stepsLeft) hfound t'
      unfold stepsLeft
      rw [hrequests]
      omega

/-- A step of a request lowers its own bound and no other's. -/
theorem step_lowersOf {event : GateEvent} (hact : event.IsAct) (h : s.step event = some s')
    (i : ℕ) : s'.stepsLeftOf i + (event.isOf i).toNat ≤ s.stepsLeftOf i := by
  cases event with
  | acquire routeId => exact hact.elim
  | act j action =>
      obtain ⟨t, hfound, h⟩ := Option.bind_eq_some_iff.mp h
      obtain ⟨t', hrequests, _, hlower, _⟩ := act_advances h
      unfold stepsLeftOf
      rw [hrequests]
      by_cases hij : j = i
      · subst hij
        have hset : (s.requests.set j t')[j]? = some t' := by
          rw [List.getElem?_set_self', hfound]
          rfl
        rw [hset, hfound]
        show t'.stage.stepsLeft + (decide (j = j)).toNat ≤ t.stage.stepsLeft
        rw [decide_eq_true rfl]
        exact hlower
      · rw [List.getElem?_set_ne hij]
        show _ + (decide (j = i)).toNat ≤ _
        rw [decide_eq_false hij]
        exact le_refl _

theorem Waits.initial : Waits limiter (init limiter) := ⟨Kept.initial, nofun⟩

theorem Waits.step {event : GateEvent} (h : Waits limiter s) (hstep : s.step event = some s') :
    Waits limiter s' := by
  refine ⟨h.kept.step hstep, ?_⟩
  cases event with
  | acquire routeId =>
      cases hstep
      intro u hu hstage
      rcases List.mem_append.mp hu with hu | hu
      · exact h.limited u hu hstage
      · rw [List.mem_singleton] at hu
        subst hu
        cases hstage
  | act i action =>
      obtain ⟨t, _, hact⟩ := Option.bind_eq_some_iff.mp hstep
      obtain ⟨t', hrequests, hroute, _, hwaits⟩ := act_advances hact
      intro u hu hstage
      rw [hrequests] at hu
      rcases List.mem_or_eq_of_mem_set hu with hu | rfl
      · exact h.limited u hu hstage
      · rw [hroute, ← h.kept.isSome_lookup]
        exact hwaits hstage

theorem waits_run {events : List GateEvent} (h : run limiter events = some s) :
    Waits limiter s := by
  refine follow_invariant (P := fun _ s => Waits limiter s) Waits.initial ?_ events s h
  intro as e s s' _ hwaits hstep
  exact hwaits.step hstep

/-! ## Who can go on -/

/-- A request that can act goes on. -/
theorem goesOn_of_act {action : GateAction} (hfound : s.requests[i]? = some t)
    (hhands : (GateEvent.act i action).Hands) (hact : ∃ s', s.act i t action = some s') :
    ∃ event s', event.Hands ∧ s.step event = some s' := by
  obtain ⟨s', hs'⟩ := hact
  refine ⟨.act i action, s', hhands, ?_⟩
  rw [step, hfound]
  exact hs'

/-- A request that is let through drops its permits. -/
theorem running_goesOn (h : Waits limiter s) (hfound : s.requests[i]? = some t)
    (hrunning : t.stage = .running ∨ t.stage = .dropping) :
    ∃ event s', event.Hands ∧ s.step event = some s' := by
  rcases hrunning with hstage | hstage
  · refine @goesOn_of_act s i t .dropGlobal hfound trivial ?_
    rw [act, if_pos hstage]
    exact ⟨_, rfl⟩
  · refine @goesOn_of_act s i t .dropRoute hfound trivial ?_
    rw [act, if_pos hstage]
    cases hr : t.route with
    | false =>
        rw [if_neg Bool.false_ne_true]
        exact ⟨_, rfl⟩
    | true =>
        -- it owns a permit of its route, which so has a semaphore
        have howned := (h.kept.owns t (List.mem_of_getElem? hfound)).route.mp hr
        rw [← h.kept.isSome_lookup] at howned
        obtain ⟨now, hnow⟩ := Option.isSome_iff_exists.mp howned.1
        rw [if_pos rfl, hnow]
        exact ⟨_, rfl⟩

/-- Where nobody is let through, the permits of a route are free, and one that waits for
them is granted one. -/
theorem waitingRoute_goesOn (h : Waits limiter s) (hpos : limiter.Positive)
    (hfound : s.requests[i]? = some t) (hstage : t.stage = .waitingRoute)
    (hnone : ∀ u ∈ s.requests, u.stage ≠ .running ∧ u.stage ≠ .dropping) :
    ∃ event s', event.Hands ∧ s.step event = some s' := by
  obtain ⟨semaphore, hsemaphore⟩ :=
    Option.isSome_iff_exists.mp (h.limited t (List.mem_of_getElem? hfound) hstage)
  obtain ⟨now, hnow, hbalance⟩ := h.kept.routes _ _ hsemaphore
  have hheld : s.requests.countP (·.ownsRoute t.routeId) = 0 := by
    rw [List.countP_eq_zero]
    intro u hu howns
    have hroute : u.route = true := (Bool.and_eq_true_iff.mp howns).1
    obtain ⟨_, hrunning | hdropping⟩ := (h.kept.owns u hu).route.mp hroute
    · exact (hnone u hu).1 hrunning
    · exact (hnone u hu).2 hdropping
  have hfree : now.permits ≠ 0 := by
    have hlimit := hpos.routes _ _ hsemaphore
    unfold Semaphore.Conserved at hbalance
    omega
  refine @goesOn_of_act s i t .routeReady hfound trivial ?_
  rw [act, if_pos hstage, hnow]
  dsimp only
  cases hacquire : now.acquire with
  | pending => exact absurd hacquire (Semaphore.acquire_ne_pending hfree)
  | closed => exact ⟨_, rfl⟩
  | permit rest => exact ⟨_, rfl⟩

/-- Where nobody holds a global permit, one that waits for it is granted one. -/
theorem waitingGlobal_goesOn (h : Waits limiter s) (hpos : limiter.Positive)
    (hfound : s.requests[i]? = some t) (hstage : t.stage = .waitingGlobal)
    (hnone : ∀ u ∈ s.requests, u.stage ≠ .waitingRoute ∧ u.stage ≠ .running) :
    ∃ event s', event.Hands ∧ s.step event = some s' := by
  have hheld : s.requests.countP (·.global) = 0 := by
    rw [List.countP_eq_zero]
    intro u hu hglobal
    rcases (h.kept.owns u hu).global.mp hglobal with hwaiting | hrunning
    · exact (hnone u hu).1 hwaiting
    · exact (hnone u hu).2 hrunning
  have hfree : s.limiter.global.permits ≠ 0 := by
    have hbalance : _ + _ = _ := h.kept.global
    have hlimit := hpos.global
    omega
  refine @goesOn_of_act s i t .globalReady hfound trivial ?_
  rw [act, if_pos hstage]
  cases hacquire : s.limiter.global.acquire with
  | pending => exact absurd hacquire (Semaphore.acquire_ne_pending hfree)
  | closed => exact ⟨_, rfl⟩
  | permit rest => exact ⟨_, rfl⟩

/-- **Somebody can go on**: a request that runs, else one that waits for a route, else one
that waits for the gate. -/
theorem goesOn (h : Waits limiter s) (hpos : limiter.Positive) (hover : ¬ s.AllGone) :
    ∃ event s', event.Hands ∧ s.step event = some s' := by
  by_cases hrunning : ∃ t ∈ s.requests, t.stage = .running ∨ t.stage = .dropping
  · obtain ⟨t, ht, hstage⟩ := hrunning
    obtain ⟨i, hi⟩ := List.mem_iff_getElem?.mp ht
    exact running_goesOn h hi hstage
  have hnone : ∀ u ∈ s.requests, u.stage ≠ .running ∧ u.stage ≠ .dropping := by
    intro u hu
    exact not_or.mp fun hstage => hrunning ⟨u, hu, hstage⟩
  by_cases hwaiting : ∃ t ∈ s.requests, t.stage = .waitingRoute
  · obtain ⟨t, ht, hstage⟩ := hwaiting
    obtain ⟨i, hi⟩ := List.mem_iff_getElem?.mp ht
    exact waitingRoute_goesOn h hpos hi hstage hnone
  have hnone' : ∀ u ∈ s.requests, u.stage ≠ .waitingRoute ∧ u.stage ≠ .running :=
    fun u hu => ⟨fun hstage => hwaiting ⟨u, hu, hstage⟩, (hnone u hu).1⟩
  obtain ⟨t, ht, hbusy⟩ : ∃ t ∈ s.requests, ¬ t.stage.Idle := by
    by_contra hall
    refine hover fun t ht => ?_
    by_contra hbusy
    exact hall ⟨t, ht, hbusy⟩
  have hstage : t.stage = .waitingGlobal := by
    cases hs : t.stage with
    | waitingGlobal => rfl
    | waitingRoute => exact absurd hs (hnone' t ht).1
    | running => exact absurd hs (hnone t ht).1
    | dropping => exact absurd hs (hnone t ht).2
    | refused why => exact absurd (.inr ⟨why, hs⟩) hbusy
    | left => exact absurd (.inl hs) hbusy
  obtain ⟨i, hi⟩ := List.mem_iff_getElem?.mp ht
  exact waitingGlobal_goesOn h hpos hi hstage hnone'

theorem drains (hpos : limiter.Positive) :
    Drains step (Waits limiter) GateEvent.IsAct GateEvent.Hands AllGone stepsLeft where
  eager_own := by
    intro event hhands
    cases event with
    | acquire routeId => exact hhands
    | act i action => trivial
  kept := fun _ _ _ hwaits _ hstep => hwaits.step hstep
  lower := fun _ _ _ _ hact hstep => step_lowers hact hstep
  goesOn := fun _ hwaits hover => goesOn hwaits hpos hover

/-! ## The end -/

theorem Waits.restored (h : Waits limiter s) (hgone : s.AllGone) : Restored limiter s := by
  have hfree : ∀ t ∈ s.requests, t.global = false ∧ t.route = false := by
    intro t ht
    have howns := h.kept.owns t ht
    rcases hgone t ht with hstage | ⟨why, hstage⟩
    · exact ⟨by simp [Bool.eq_false_iff, howns.global, hstage],
        by simp [Bool.eq_false_iff, howns.route, hstage]⟩
    · exact ⟨by simp [Bool.eq_false_iff, howns.global, hstage],
        by simp [Bool.eq_false_iff, howns.route, hstage]⟩
  refine ⟨hgone, ?_, ?_⟩
  · have hheld : s.requests.countP (·.global) = 0 := by
      rw [List.countP_eq_zero]
      intro t ht
      simp [(hfree t ht).1]
    have hbalance : _ + _ = _ := h.kept.global
    omega
  · intro r semaphore hr
    obtain ⟨now, hnow, hbalance⟩ := h.kept.routes r semaphore hr
    have hheld : s.requests.countP (·.ownsRoute r) = 0 := by
      rw [List.countP_eq_zero]
      intro t ht
      simp [GateRequest.ownsRoute, (hfree t ht).2]
    unfold Semaphore.Conserved at hbalance
    exact ⟨now, hnow, by omega⟩

theorem stage_stepsLeft_le (stage : GateStage) : stage.stepsLeft ≤ 4 := by
  cases stage <;> simp [GateStage.stepsLeft]

theorem stepsLeftOf_le (s : Gate) (i : ℕ) : s.stepsLeftOf i ≤ 4 := by
  unfold stepsLeftOf
  cases s.requests[i]? with
  | none => exact Nat.zero_le 4
  | some t => exact stage_stepsLeft_le t.stage

theorem stepsLeft_le (s : Gate) : s.stepsLeft ≤ 4 * s.requests.length := by
  have hstage : ∀ n ∈ s.requests.map fun t => t.stage.stepsLeft, n ≤ 4 := by
    intro n hn
    obtain ⟨t, _, rfl⟩ := List.mem_map.mp hn
    exact stage_stepsLeft_le t.stage
  have hsum := List.sum_le_card_nsmul _ 4 hstage
  rw [List.length_map, smul_eq_mul, Nat.mul_comm] at hsum
  exact hsum

end

/-- **The gate drains.** Whatever the requests at the gate do from any state it can reach,
each takes four more steps at most. Where nobody can be granted a permit or drop one any more, all
are gone and every permit is back, and grants and drops alone lead there. -/
theorem gate_drains (limiter : ConcurrencyLimiter) (hpos : limiter.Positive)
    (events : List GateEvent) (s : Gate) (h : run limiter events = some s) :
    (∀ more s', (∀ e ∈ more, e.IsAct) → follow step s more = some s' →
      (∀ i, more.countP (·.isOf i) ≤ 4) ∧ more.length ≤ 4 * s.requests.length ∧
        ((∀ e : GateEvent, e.Hands → s'.step e = none) → Restored limiter s')) ∧
      ∃ more s', (∀ e ∈ more, e.Hands) ∧ follow step s more = some s' ∧ Restored limiter s' := by
  have hwaits := waits_run h
  have hdrains := drains hpos
  constructor
  · intro more s' hacts hmore
    have hlength := hdrains.length_le hwaits hacts hmore
    have hbound := stepsLeft_le s
    refine ⟨?_, by omega, ?_⟩
    · intro i
      have hcount := countP_le (fun _ _ _ hact hstep => step_lowersOf hact hstep i) hacts hmore
      have hfour := stepsLeftOf_le s i
      omega
    · intro hstuck
      exact (hdrains.run_kept hwaits hacts hmore).restored
        (hdrains.over_of_stuck hwaits hacts hmore hstuck)
  · obtain ⟨more, s', hhands, hmore, hgone⟩ := hdrains.exists_over hwaits
    have hacts : ∀ e ∈ more, e.IsAct := fun e he => hdrains.eager_own e (hhands e he)
    exact ⟨more, s', hhands, hmore, (hdrains.run_kept hwaits hacts hmore).restored hgone⟩

/-- Two requests for a route that lets one through, both in the gate. -/
theorem gate_drains_crowded :
    ∃ s, run (.withRoute 2 "a".toList 1) [.acquire "a".toList, .acquire "a".toList,
        .act 0 .globalReady, .act 1 .globalReady, .act 0 .routeReady] = some s ∧
      ∃ more s', (∀ e ∈ more, e.Hands) ∧ follow step s more = some s' ∧
        Restored (.withRoute 2 "a".toList 1) s' := by
  refine ⟨_, rfl, (gate_drains _ ⟨by decide, ?_⟩ [.acquire "a".toList, .acquire "a".toList,
    .act 0 .globalReady, .act 1 .globalReady, .act 0 .routeReady] _ rfl).2⟩
  intro r semaphore hr
  have hmem := AList.mem_lookup_iff.mp hr
  simp only [ConcurrencyLimiter.withRoute, AList.singleton_entries, List.mem_singleton,
    Sigma.mk.injEq] at hmem
  obtain ⟨rfl, hsemaphore⟩ := hmem
  obtain rfl := eq_of_heq hsemaphore
  decide

end Gate

end Stateform
