import Stateform.Core.HotReload
import Stateform.Library.Counter
import Stateform.Library.Progress

/-!
# Reloads come to rest

Once no reload is started any more, the calls and the reload task that are under way are done
after a few steps, and the router is then one of what was announced last (`reloads_settle`).
The task never fails to build a router, and builds at most one for each announcement: what is
announced between two rounds is built once (`reloads_counted`).
-/

namespace Stateform

open Library

/-! ## What is left to do -/

/-- The steps of a call, with the round of the task that its send may cause. -/
def ReloadStage.stepsLeft : ReloadStage → ℕ
  | .started => 6
  | .validated _ => 5
  | .stored _ => 4
  | .returned _ => 0

def TaskStage.stepsLeft : TaskStage → ℕ
  | .waiting => 0
  | .woken => 2
  | .rebuilding _ => 1

/-- A step of what is under way. -/
def ReloadEvent.GoesOn : ReloadEvent → Prop
  | .start => False
  | _ => True

namespace HotReload

variable {rx : RegexCrate}

def stepsLeft (s : HotReload rx) : ℕ :=
  (s.reloads.map ReloadStage.stepsLeft).sum + s.task.stepsLeft +
    if s.notify.hasChanged then 3 else 0

/-- All is quiet, and the router is built from what the call that sent last found in the
file, or is the first one. -/
structure Settled (handle : RouterHandle rx) (events : List ReloadEvent) (s : HotReload rx) :
    Prop where
  quiet : s.Quiet
  unsent : lastSend events = none → s.handle.cfg = handle.cfg
  sent : ∀ k, lastSend events = some k → found events k = some (.ok s.handle.cfg)

section
variable {handle : RouterHandle rx} {events : List ReloadEvent} {s s' : HotReload rx}
  {e : ReloadEvent} {k : ℕ}

/-! ## Every step lowers it -/

theorem stepsLeft_reloads {old stage : ReloadStage} (hk : s.reloads[k]? = some old)
    (hlower : stage.stepsLeft < old.stepsLeft) (inner : GatewayConfig) :
    stepsLeft { s with inner := inner, reloads := s.reloads.set k stage } < s.stepsLeft := by
  have hsum := sum_map_replaced ReloadStage.stepsLeft hk stage
  unfold stepsLeft
  dsimp only
  omega

theorem step_lowers (hgoes : e.GoesOn) (hstep : s.step e = some s') :
    s'.stepsLeft < s.stepsLeft := by
  cases e with
  | start => cases hgoes
  | validate k parsed =>
      simp only [step] at hstep
      split at hstep
      · next hk =>
          cases hstep
          apply stepsLeft_reloads hk
          unfold ReloadStage.ofParsed
          split
          · exact Nat.succ_pos 5
          · exact Nat.lt_succ_self 5
      · cases hstep
  | store k =>
      simp only [step] at hstep
      split at hstep
      · next hk =>
          cases hstep
          apply stepsLeft_reloads hk
          exact Nat.lt_succ_self 4
      · cases hstep
  | send k =>
      simp only [step] at hstep
      split at hstep
      · next newCfg hk =>
          cases hstep
          -- the call is over, and a round of three steps may come
          have hsum := sum_map_replaced ReloadStage.stepsLeft hk (.returned (.ok ()))
          unfold stepsLeft
          dsimp only [ReloadStage.stepsLeft] at hsum ⊢
          split <;> omega
      · cases hstep
  | changed =>
      simp only [step] at hstep
      split at hstep
      · next htask =>
          split at hstep
          · next hchanged =>
              cases hstep
              unfold stepsLeft
              rw [htask, hchanged, Watch.hasChanged_markSeen]
              simp [TaskStage.stepsLeft]
          · cases hstep
      · cases hstep
  | borrow =>
      simp only [step] at hstep
      split at hstep
      · next htask =>
          cases hstep
          unfold stepsLeft
          rw [htask, Watch.hasChanged_markSeen]
          simp only [TaskStage.stepsLeft, Bool.false_eq_true, if_false]
          omega
      · cases hstep
  | rebuild =>
      simp only [step] at hstep
      split at hstep
      · next newCfg htask =>
          cases hstep
          unfold stepsLeft
          rw [htask]
          dsimp only [TaskStage.stepsLeft]
          omega
      · cases hstep

/-! ## Something can be done -/

/-- A call that has not returned can go on. -/
theorem reload_goesOn {stage : ReloadStage} (hk : s.reloads[k]? = some stage)
    (hbusy : ¬ ∃ answer, stage = .returned answer) :
    ∃ e s', e.GoesOn ∧ s.step e = some s' := by
  cases stage with
  | started => exact ⟨.validate k (.ok s.inner), _, trivial, step_validate _ hk⟩
  | validated newCfg => exact ⟨.store k, _, trivial, step_store hk⟩
  | stored newCfg => exact ⟨.send k, _, trivial, step_send hk⟩
  | returned answer => exact absurd ⟨answer, rfl⟩ hbusy

theorem goesOn (hbusy : ¬ s.Quiet) : ∃ e s', e.GoesOn ∧ s.step e = some s' := by
  by_cases hreturned : ∀ call ∈ s.reloads, ∃ answer, call = .returned answer
  · cases htask : s.task with
    | woken => exact ⟨.borrow, _, trivial, by simp only [step, htask]; rfl⟩
    | rebuilding newCfg => exact ⟨.rebuild, _, trivial, by simp only [step, htask]; rfl⟩
    | waiting =>
        cases hchanged : s.notify.hasChanged with
        | false => exact absurd ⟨hreturned, htask, hchanged⟩ hbusy
        | true => exact ⟨.changed, _, trivial, by simp only [step, htask, hchanged]; rfl⟩
  · push Not at hreturned
    obtain ⟨stage, hmem, hbusy⟩ := hreturned
    obtain ⟨k, hk⟩ := List.mem_iff_getElem?.mp hmem
    apply reload_goesOn hk
    rintro ⟨answer, rfl⟩
    exact hbusy answer rfl

theorem drains (rx : RegexCrate) :
    Drains (fun (s : HotReload rx) e => s.step e) (fun _ => True) ReloadEvent.GoesOn
      ReloadEvent.GoesOn Quiet stepsLeft where
  eager_own := fun _ hgoes => hgoes
  kept := fun _ _ _ _ _ _ => trivial
  lower := fun _ _ _ _ hgoes hstep => step_lowers hgoes hstep
  goesOn := fun _ _ hbusy => goesOn hbusy

/-! ## The end -/

theorem stepsLeft_le (s : HotReload rx) : s.stepsLeft ≤ 6 * s.reloads.length + 5 := by
  have hstage : ∀ n ∈ s.reloads.map ReloadStage.stepsLeft, n ≤ 6 := by
    intro n hn
    obtain ⟨stage, _, rfl⟩ := List.mem_map.mp hn
    cases stage <;> simp [ReloadStage.stepsLeft]
  have hsum := List.sum_le_card_nsmul _ 6 hstage
  rw [List.length_map, smul_eq_mul, Nat.mul_comm] at hsum
  have htask : s.task.stepsLeft ≤ 2 := by
    cases s.task <;> simp [TaskStage.stepsLeft]
  unfold stepsLeft
  split <;> omega

theorem settled_of_quiet (hrun : run handle events = some s) (hquiet : s.Quiet) :
    Settled handle events s := by
  obtain ⟨htraced, hfollowing⟩ := traced_run hrun
  have hbuilt := hfollowing.waiting hquiet.waiting hquiet.seen
  refine ⟨hquiet, ?_, ?_⟩
  · intro hnone
    rw [hbuilt, htraced.unsent hnone]
  · intro k hk
    rw [hbuilt]
    exact htraced.sent k hk

end

/-- **Reloads come to rest.** From any state the watcher and its task can reach, if no more
reloads are started, each call that is under way leads to six steps at most. Where none can be
taken all calls have returned, and the router is built from what was announced last; and there
is a way to get there. -/
theorem reloads_settle (rx : RegexCrate) (handle : RouterHandle rx) (events : List ReloadEvent)
    (s : HotReload rx) (hrun : run handle events = some s) :
    (∀ more s', (∀ e ∈ more, e.GoesOn) → follow step s more = some s' →
      more.length ≤ 6 * s.reloads.length + 5 ∧
        ((∀ e : ReloadEvent, e.GoesOn → s'.step e = none) →
          Settled handle (events ++ more) s')) ∧
      ∃ more s', (∀ e ∈ more, e.GoesOn) ∧ follow step s more = some s' ∧
        Settled handle (events ++ more) s' := by
  have hrun_append : ∀ {more s'}, follow step s more = some s' →
      run handle (events ++ more) = some s' := by
    intro more s' hmore
    show follow step (init handle) (events ++ more) = some s'
    rw [follow_append]
    exact Option.bind_eq_some_iff.mpr ⟨s, hrun, hmore⟩
  constructor
  · intro more s' hgoes hmore
    have hlength := (drains rx).length_le trivial hgoes hmore
    have hbound := stepsLeft_le s
    refine ⟨by omega, ?_⟩
    intro hstuck
    have hquiet : s'.Quiet := (drains rx).over_of_stuck trivial hgoes hmore hstuck
    exact settled_of_quiet (hrun_append hmore) hquiet
  · obtain ⟨more, s', hgoes, hmore, hquiet⟩ := (drains rx).exists_over (s := s) trivial
    exact ⟨more, s', hgoes, hmore, settled_of_quiet (hrun_append hmore) hquiet⟩

/-- Two calls under way, one of which has found a file. -/
theorem reloads_settle_started :
    ∃ (handle : RouterHandle .literal) (s : HotReload .literal),
      run handle [.start, .start, .validate 0 (.ok movedConfig)] = some s ∧
        ∃ more s', (∀ e ∈ more, e.GoesOn) ∧ follow step s more = some s' ∧
          Settled handle ([.start, .start, .validate 0 (.ok movedConfig)] ++ more) s' := by
  obtain ⟨router, hrouter, -⟩ := load_build minimalConfig_valid
  refine ⟨⟨minimalConfig, router, hrouter⟩, _, rfl, ?_⟩
  exact (reloads_settle .literal ⟨minimalConfig, router, hrouter⟩
    [.start, .start, .validate 0 (.ok movedConfig)] _ rfl).2

/-! ## What the counter shows -/

/-- The label `config_reloads_total` has for a round of the task. -/
def resultLabel : Except RouterError Unit → Str
  | .ok () => "success".toList
  | .error _ => "failure".toList

end HotReload

/-- The watcher and its task, with `config_reloads_total` by result. -/
structure CountedReload (rx : RegexCrate) : Type where
  reload : HotReload rx
  reloadsTotal : CounterVec Str

def ReloadEvent.isSend : ReloadEvent → Bool
  | .send _ => true
  | _ => false

/-- A round of the task is under way. -/
def TaskStage.isBusy : TaskStage → Bool
  | .waiting => false
  | _ => true

namespace CountedReload

variable {rx : RegexCrate}

def init (handle : RouterHandle rx) : CountedReload rx := ⟨.init handle, ∅⟩

/-- A rebuild is recorded by its result. -/
def record (s : CountedReload rx) (e : ReloadEvent) : CounterVec Str :=
  match e, s.reload.task with
  | .rebuild, .rebuilding newCfg =>
      s.reloadsTotal.inc (HotReload.resultLabel (s.reload.handle.rebuild newCfg).1)
  | _, _ => s.reloadsTotal

def step (s : CountedReload rx) (e : ReloadEvent) : Option (CountedReload rx) :=
  (s.reload.step e).map fun reload => ⟨reload, s.record e⟩

def run (handle : RouterHandle rx) (events : List ReloadEvent) : Option (CountedReload rx) :=
  follow step (init handle) events

/-- `config_reloads_total` with a result. -/
def count (s : CountedReload rx) (result : Str) : ℕ := (s.reloadsTotal.lookup result).getD 0

/-- The rounds of the task that are under way or to come. -/
def pending (s : HotReload rx) : ℕ := s.task.isBusy.toNat + s.notify.hasChanged.toNat

/-- What holds after some events: no failure, and one success for each round that is over, each
of which, like the one under way and the one to come, is for a send of its own. -/
structure Tallied (handle : RouterHandle rx) (events : List ReloadEvent) (s : CountedReload rx) :
    Prop where
  run : HotReload.run handle events = some s.reload
  failures : s.count "failure".toList = 0
  rounds : s.count "success".toList + pending s.reload ≤ events.countP ReloadEvent.isSend
  followed : 0 < events.countP ReloadEvent.isSend →
    0 < s.count "success".toList + pending s.reload

section
variable {handle : RouterHandle rx} {events : List ReloadEvent} {s s' : CountedReload rx}
  {reload : HotReload rx} {e : ReloadEvent}

theorem Tallied.initial : Tallied handle [] (init handle) := ⟨rfl, rfl, le_refl 0, nofun⟩

/-- Steps that neither announce nor end a round. -/
theorem Tallied.unmoved (h : Tallied handle events s)
    (hrun : HotReload.run handle (events ++ [e]) = some reload)
    (hrecord : s.record e = s.reloadsTotal) (hsend : e.isSend = false)
    (hle : pending reload ≤ pending s.reload)
    (hstays : 0 < pending s.reload → 0 < pending reload) :
    Tallied handle (events ++ [e]) ⟨reload, s.record e⟩ := by
  have hsends : (events ++ [e]).countP ReloadEvent.isSend = events.countP ReloadEvent.isSend := by
    rw [List.countP_append, List.countP_singleton, hsend]
    rfl
  have hrounds := h.rounds
  refine ⟨hrun, ?_, ?_, ?_⟩
  · rw [hrecord]
    exact h.failures
  · rw [hrecord, hsends]
    show s.count "success".toList + pending reload ≤ _
    omega
  · rw [hrecord, hsends]
    intro hsent
    have hfollowed := h.followed hsent
    show 0 < s.count "success".toList + pending reload
    omega

/-- A send is a round to come, at most. -/
theorem Tallied.sent (h : Tallied handle events s)
    (hrun : HotReload.run handle (events ++ [e]) = some reload)
    (hrecord : s.record e = s.reloadsTotal) (hsend : e.isSend = true)
    (htask : reload.task = s.reload.task) (hchanged : reload.notify.hasChanged = true) :
    Tallied handle (events ++ [e]) ⟨reload, s.record e⟩ := by
  have hsends : (events ++ [e]).countP ReloadEvent.isSend =
      events.countP ReloadEvent.isSend + 1 := by
    rw [List.countP_append, List.countP_singleton, hsend]
    rfl
  have hrounds := h.rounds
  have hpending : pending reload = s.reload.task.isBusy.toNat + 1 := by
    rw [pending, htask, hchanged]
    rfl
  have hle : s.reload.task.isBusy.toNat ≤ pending s.reload := Nat.le_add_right _ _
  refine ⟨hrun, ?_, ?_, ?_⟩
  · rw [hrecord]
    exact h.failures
  · rw [hrecord, hsends]
    show s.count "success".toList + pending reload ≤ _
    omega
  · intro _
    show 0 < _ + pending reload
    omega

/-- A round that ends has built a router. -/
theorem Tallied.built (h : Tallied handle events s) {newCfg : GatewayConfig}
    (hstep : s.reload.step .rebuild = some reload) (htask : s.reload.task = .rebuilding newCfg)
    (hrun : HotReload.run handle (events ++ [ReloadEvent.rebuild]) = some reload) :
    Tallied handle (events ++ [ReloadEvent.rebuild]) ⟨reload, s.record .rebuild⟩ := by
  obtain ⟨⟨router, hbuild⟩, -⟩ := (HotReload.traced_run h.run).2.rebuilding newCfg htask
  have hok : (s.reload.handle.rebuild newCfg).1 = .ok () := by
    have hbare := congrArg Prod.fst (s.reload.handle.rebuild_router newCfg)
    simpa [Router.rebuild, hbuild] using hbare
  have hrecord : s.record .rebuild = s.reloadsTotal.inc "success".toList := by
    simp only [record, htask, hok]
    rfl
  simp only [HotReload.step, htask] at hstep
  cases hstep
  have hsends : (events ++ [ReloadEvent.rebuild]).countP ReloadEvent.isSend =
      events.countP ReloadEvent.isSend := by
    rw [List.countP_append]
    rfl
  have hfailure : (s.reloadsTotal.inc "success".toList).lookup "failure".toList =
      s.reloadsTotal.lookup "failure".toList := AList.lookup_insert_ne (by decide)
  have hsuccess : (s.reloadsTotal.inc "success".toList).lookup "success".toList =
      some (s.count "success".toList + 1) := AList.lookup_insert _
  have hrounds := h.rounds
  unfold pending at hrounds
  rw [htask] at hrounds
  refine ⟨hrun, ?_, ?_, ?_⟩
  · rw [hrecord, count, hfailure]
    exact h.failures
  · rw [hrecord, hsends, count, hsuccess]
    show s.count "success".toList + 1 + (0 + s.reload.notify.hasChanged.toNat) ≤ _
    dsimp only [TaskStage.isBusy, Bool.toNat_true] at hrounds
    omega
  · intro _
    rw [hrecord, count, hsuccess]
    show 0 < s.count "success".toList + 1 + _
    omega

/-- The step lemma. -/
theorem Tallied.step (h : Tallied handle events s) (hstep : s.step e = some s') :
    Tallied handle (events ++ [e]) s' := by
  obtain ⟨reload, hreload, rfl⟩ := Option.map_eq_some_iff.mp hstep
  have hrun : HotReload.run handle (events ++ [e]) = some reload := by
    show follow HotReload.step (HotReload.init handle) (events ++ [e]) = some reload
    rw [follow_concat]
    exact Option.bind_eq_some_iff.mpr ⟨s.reload, h.run, hreload⟩
  cases e with
  | start =>
      cases hreload
      exact h.unmoved hrun rfl rfl (le_refl _) id
  | validate k parsed =>
      simp only [HotReload.step] at hreload
      split at hreload
      · cases hreload
        exact h.unmoved hrun rfl rfl (le_refl _) id
      · cases hreload
  | store k =>
      simp only [HotReload.step] at hreload
      split at hreload
      · cases hreload
        exact h.unmoved hrun rfl rfl (le_refl _) id
      · cases hreload
  | send k =>
      simp only [HotReload.step] at hreload
      split at hreload
      · cases hreload
        exact h.sent hrun rfl rfl rfl (Watch.hasChanged_send _ _)
      · cases hreload
  | changed =>
      simp only [HotReload.step] at hreload
      split at hreload
      · next htask =>
          split at hreload
          · next hchanged =>
              cases hreload
              have hsame : pending { s.reload with
                  notify := s.reload.notify.markSeen, task := .woken } = pending s.reload := by
                rw [pending, pending, htask, hchanged, Watch.hasChanged_markSeen]
                rfl
              exact h.unmoved hrun rfl rfl hsame.le fun hpos => hsame ▸ hpos
          · cases hreload
      · cases hreload
  | borrow =>
      simp only [HotReload.step] at hreload
      split at hreload
      · next htask =>
          cases hreload
          -- what was announced since the task woke is built in this round
          have hone : pending { s.reload with
              notify := s.reload.notify.markSeen
              task := .rebuilding s.reload.notify.value } = 1 := by
            rw [pending, Watch.hasChanged_markSeen]
            rfl
          have hbusy : 1 ≤ pending s.reload := by
            rw [pending, htask]
            exact Nat.le_add_right 1 _
          exact h.unmoved hrun rfl rfl (hone.trans_le hbusy) fun _ => hone ▸ Nat.one_pos
      · cases hreload
  | rebuild =>
      have hstep := hreload
      simp only [HotReload.step] at hreload
      split at hreload
      · next newCfg htask => exact h.built hstep htask hrun
      · cases hreload

/-- Counting hinders nothing. -/
theorem exists_counted {t : HotReload rx} (hrun : follow HotReload.step s.reload events = some t) :
    ∃ s', follow step s events = some s' ∧ s'.reload = t := by
  induction events generalizing s with
  | nil => exact ⟨s, rfl, Option.some.inj hrun⟩
  | cons e events ih =>
      rw [follow_cons] at hrun
      obtain ⟨reload, hreload, hrest⟩ := Option.bind_eq_some_iff.mp hrun
      obtain ⟨s', hs', rfl⟩ := ih (s := ⟨reload, s.record e⟩) hrest
      refine ⟨s', ?_, rfl⟩
      rw [follow_cons, step, hreload]
      exact hs'

/-- The run lemma. -/
theorem tallied_run (hrun : run handle events = some s) : Tallied handle events s :=
  follow_invariant (P := Tallied handle) .initial (fun _ _ _ _ _ h hstep => h.step hstep) events s
    hrun

end

end CountedReload

/-- **The reload counter.** However reloads and rounds of the task interleave, no failure is ever
counted, no more successes than announcements, and once all is quiet at least one if anything
was announced. -/
theorem reloads_counted (rx : RegexCrate) (handle : RouterHandle rx) (events : List ReloadEvent)
    (s : CountedReload rx) (hrun : CountedReload.run handle events = some s) :
    s.count "failure".toList = 0 ∧
      s.count "success".toList ≤ events.countP ReloadEvent.isSend ∧
      (s.reload.Quiet → 0 < events.countP ReloadEvent.isSend → 0 < s.count "success".toList) := by
  have htallied := CountedReload.tallied_run hrun
  have hrounds := htallied.rounds
  refine ⟨htallied.failures, by omega, ?_⟩
  intro hquiet hsent
  have hnone : CountedReload.pending s.reload = 0 := by
    rw [CountedReload.pending, hquiet.waiting, hquiet.seen]
    rfl
  have hfollowed := htallied.followed hsent
  omega

/-- Two reloads, and one round of the task for both. -/
theorem reloads_counted_overlapping :
    ∃ (handle : RouterHandle .literal) (s : CountedReload .literal),
      CountedReload.run handle (HotReload.overlapping movedConfig movedConfig) = some s ∧
        s.count "failure".toList = 0 ∧ s.count "success".toList ≤ 2 ∧
        0 < s.count "success".toList := by
  obtain ⟨router, hrouter, -⟩ := load_build minimalConfig_valid
  have hmoved : validate .literal movedConfig = .ok () := by decide
  obtain ⟨t, hrun, hquiet, -⟩ :=
    HotReload.run_overlapping ⟨minimalConfig, router, hrouter⟩ hmoved hmoved
  obtain ⟨s, hcounted, rfl⟩ := CountedReload.exists_counted
    (s := CountedReload.init ⟨minimalConfig, router, hrouter⟩) hrun
  obtain ⟨hfailures, hsuccesses, hfollowed⟩ := reloads_counted _ _ _ s hcounted
  exact ⟨_, s, hcounted, hfailures, hsuccesses, hfollowed hquiet Nat.two_pos⟩

end Stateform
