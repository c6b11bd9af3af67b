import Stateform.Library.Numbered
import Stateform.Library.Watch
import Stateform.Core.Server

/-!
# Overlapping reloads

`hot_reload.rs` and the reload task of `server.rs`, step by step. Any number of
`ConfigWatcher::reload` calls overlap, each of which stores its config in one step
and announces it in the next, while the reload task rebuilds the router from the
config announced last. So the config and the router agree in the end exactly if the
reload that stores last and the one that announces last found the same file
(`current_eq_built_iff`). A call that runs without interruption is the `reload` of
the running server (`uninterrupted_reload`).
-/

namespace Stateform

open Library

/-! ## The router in use -/

/-- `RouterHandle`: the active router, and the config it was last built from. -/
structure RouterHandle (rx : RegexCrate) : Type where
  cfg : GatewayConfig
  router : Router
  built : Router.build rx cfg = .ok router

namespace RouterHandle

variable {rx : RegexCrate}

/-- `RouterHandle::rebuild`. -/
def rebuild (handle : RouterHandle rx) (cfg : GatewayConfig) :
    Except RouterError Unit × RouterHandle rx :=
  match h : Router.build rx cfg with
  | .error e => (.error e, handle)
  | .ok router => (.ok (), ⟨cfg, router, h⟩)

/-- The same as on the bare router. -/
theorem rebuild_router (handle : RouterHandle rx) (cfg : GatewayConfig) :
    ((handle.rebuild cfg).1, (handle.rebuild cfg).2.router) = handle.router.rebuild rx cfg := by
  unfold rebuild Router.rebuild
  split
  · next h => rw [h]
  · next router h =>
      show (Except.ok (), router) = _
      rw [h]

theorem rebuild_of_build {handle : RouterHandle rx} {cfg : GatewayConfig} {router : Router}
    (h : Router.build rx cfg = .ok router) : (handle.rebuild cfg).2 = ⟨cfg, router, h⟩ := by
  unfold rebuild
  split
  · next h' => cases h'.symm.trans h
  · next h' =>
      cases h'.symm.trans h
      rfl

end RouterHandle

/-! ## Reload calls and the reload task -/

/-- Where a `reload` call is: before it reads the file, before the store, before the
send, or at its end. -/
inductive ReloadStage : Type where
  | started
  | validated (newCfg : GatewayConfig)
  | stored (newCfg : GatewayConfig)
  | returned (answer : Except ConfigError Unit)

/-- What a call makes of the file. -/
def ReloadStage.ofParsed (rx : RegexCrate) (parsed : Except ConfigError GatewayConfig) :
    ReloadStage :=
  match parseAndValidate rx parsed with
  | .error e => .returned (.error e)
  | .ok newCfg => .validated newCfg

namespace ReloadStage

variable {rx : RegexCrate} {parsed : Except ConfigError GatewayConfig} {newCfg : GatewayConfig}

/-- Only a valid config gets past the start of a call. -/
theorem ofParsed_validated (h : ofParsed rx parsed = .validated newCfg) :
    parsed = .ok newCfg ∧ ValidConfig rx newCfg := by
  unfold ofParsed at h
  split at h
  · cases h
  · next hok =>
      cases h
      exact parseAndValidate_eq_ok hok

theorem ofParsed_ne_started (parsed : Except ConfigError GatewayConfig) :
    ofParsed rx parsed ≠ .started := by
  unfold ofParsed
  split <;> rintro ⟨⟩

theorem ofParsed_ne_stored (parsed : Except ConfigError GatewayConfig) :
    ofParsed rx parsed ≠ .stored newCfg := by
  unfold ofParsed
  split <;> rintro ⟨⟩

theorem ofParsed_of_validate (h : validate rx newCfg = .ok ()) :
    ofParsed rx (.ok newCfg) = .validated newCfg := by
  simp [ofParsed, parseAndValidate, h, bind, Except.bind, pure, Except.pure]

end ReloadStage

/-- Where the reload task is: at `changed`, at `borrow_and_update`, or at `rebuild`. -/
inductive TaskStage : Type where
  | waiting
  | woken
  | rebuilding (newCfg : GatewayConfig)

/-- The watcher with its calls, numbered as they came, the task and the router. -/
structure HotReload (rx : RegexCrate) : Type where
  inner : GatewayConfig
  notify : Watch GatewayConfig
  reloads : List ReloadStage
  task : TaskStage
  handle : RouterHandle rx

/-- `validate` comes with what the call reads and parses. -/
inductive ReloadEvent : Type where
  | start
  | validate (k : ℕ) (parsed : Except ConfigError GatewayConfig)
  | store (k : ℕ)
  | send (k : ℕ)
  | changed
  | borrow
  | rebuild

namespace HotReload

variable {rx : RegexCrate}

/-- A watcher and a router of the config it has loaded. -/
def init (handle : RouterHandle rx) : HotReload rx where
  inner := handle.cfg
  notify := .new handle.cfg
  reloads := []
  task := .waiting
  handle := handle

def step (s : HotReload rx) : ReloadEvent → Option (HotReload rx)
  | .start => some { s with reloads := s.reloads ++ [.started] }
  | .validate k parsed =>
      match s.reloads[k]? with
      | some .started => some { s with reloads := s.reloads.set k (.ofParsed rx parsed) }
      | _ => none
  | .store k =>
      match s.reloads[k]? with
      | some (.validated newCfg) =>
          some { s with inner := newCfg, reloads := s.reloads.set k (.stored newCfg) }
      | _ => none
  | .send k =>
      match s.reloads[k]? with
      | some (.stored newCfg) =>
          some { s with
            notify := s.notify.send newCfg
            reloads := s.reloads.set k (.returned (.ok ())) }
      | _ => none
  | .changed =>
      match s.task with
      | .waiting =>
          if s.notify.hasChanged then some { s with notify := s.notify.markSeen, task := .woken }
          else none
      | _ => none
  | .borrow =>
      match s.task with
      | .woken =>
          some { s with notify := s.notify.markSeen, task := .rebuilding s.notify.value }
      | _ => none
  | .rebuild =>
      match s.task with
      | .rebuilding newCfg =>
          some { s with task := .waiting, handle := (s.handle.rebuild newCfg).2 }
      | _ => none

def run (handle : RouterHandle rx) (events : List ReloadEvent) : Option (HotReload rx) :=
  follow step (init handle) events

/-- The watcher as the running server has it: what is announced is unread. -/
def watcher (s : HotReload rx) : ConfigWatcher :=
  ⟨s.inner, if s.notify.hasChanged then some s.notify.value else none⟩

/-! ## Reading a run -/

/-- What call `k` found in the file. -/
def found (events : List ReloadEvent) (k : ℕ) : Option (Except ConfigError GatewayConfig) :=
  events.findSome? fun e =>
    match e with
    | .validate j parsed => if j = k then some parsed else none
    | _ => none

/-- The call that stores last. -/
def lastStore : List ReloadEvent → Option ℕ :=
  lastOf fun
    | .store k => some k
    | _ => none

/-- The call that sends last. -/
def lastSend : List ReloadEvent → Option ℕ :=
  lastOf fun
    | .send k => some k
    | _ => none

section
variable {as : List ReloadEvent} {e : ReloadEvent} {k : ℕ}
  {parsed : Except ConfigError GatewayConfig}

theorem found_snoc (hnone : found [e] k = none) : found (as ++ [e]) k = found as k := by
  unfold found at hnone ⊢
  rw [List.findSome?_append, hnone, Option.or_none]

theorem found_snoc_self (hnone : found as k = none) :
    found (as ++ [ReloadEvent.validate k parsed]) k = some parsed := by
  unfold found at hnone ⊢
  rw [List.findSome?_append, hnone]
  simp

end

/-! ## What is stored and what is announced -/

section
variable {handle : RouterHandle rx} {as events : List ReloadEvent} {s s' : HotReload rx}
  {e : ReloadEvent} {k : ℕ} {newCfg : GatewayConfig}

/-- What holds after some events: a call that waits to store or to send holds the valid
config it found, the watcher holds that of the last store, and the channel that of the
last send. -/
structure Traced (handle : RouterHandle rx) (events : List ReloadEvent) (s : HotReload rx) :
    Prop where
  fresh : ∀ k, s.reloads[k]? = none ∨ s.reloads[k]? = some .started → found events k = none
  holds : ∀ k newCfg, s.reloads[k]? = some (.validated newCfg) ∨
    s.reloads[k]? = some (.stored newCfg) →
      found events k = some (.ok newCfg) ∧ ValidConfig rx newCfg
  unstored : lastStore events = none →
    s.inner = handle.cfg ∧ lastSend events = none ∧
      ∀ (k : ℕ) (newCfg : GatewayConfig), s.reloads[k]? ≠ some (.stored newCfg)
  stored : ∀ j, lastStore events = some j →
    found events j = some (.ok s.inner) ∧
      (lastSend events = none → ∃ newCfg, s.reloads[j]? = some (.stored newCfg))
  unsent : lastSend events = none → s.notify.value = handle.cfg
  sent : ∀ k, lastSend events = some k → found events k = some (.ok s.notify.value)

theorem Traced.initial : Traced handle [] (init handle) where
  fresh := fun _ _ => rfl
  holds := by
    rintro k newCfg (hk | hk)
    · cases hk
    · cases hk
  unstored := fun _ => ⟨rfl, rfl, nofun⟩
  stored := nofun
  unsent := fun _ => rfl
  sent := nofun

/-- The steps of the task change nothing of this. -/
theorem Traced.of_task (h : Traced handle as s) (hfound : ∀ k, found (as ++ [e]) k = found as k)
    (hstore : lastStore (as ++ [e]) = lastStore as) (hsend : lastSend (as ++ [e]) = lastSend as)
    (hinner : s'.inner = s.inner) (hvalue : s'.notify.value = s.notify.value)
    (hreloads : s'.reloads = s.reloads) : Traced handle (as ++ [e]) s' where
  fresh := by
    intro k hk
    rw [hreloads] at hk
    rw [hfound]
    exact h.fresh k hk
  holds := by
    intro k newCfg hk
    rw [hreloads] at hk
    rw [hfound]
    exact h.holds k newCfg hk
  unstored := by
    rw [hstore, hsend, hinner, hreloads]
    exact h.unstored
  stored := by
    intro j hj
    rw [hstore] at hj
    rw [hsend, hinner, hreloads, hfound]
    exact h.stored j hj
  unsent := by
    rw [hsend, hvalue]
    exact h.unsent
  sent := by
    intro k hk
    rw [hsend] at hk
    rw [hvalue, hfound]
    exact h.sent k hk

theorem Traced.start (h : Traced handle as s) :
    Traced handle (as ++ [ReloadEvent.start]) { s with reloads := s.reloads ++ [.started] } := by
  have hfound : ∀ k, found (as ++ [ReloadEvent.start]) k = found as k := fun k => found_snoc rfl
  have hstore : lastStore (as ++ [ReloadEvent.start]) = lastStore as := lastOf_snoc_none rfl
  have hsend : lastSend (as ++ [ReloadEvent.start]) = lastSend as := lastOf_snoc_none rfl
  -- the new call is at its start
  have hold : ∀ {k : ℕ} {stage : ReloadStage},
      (s.reloads ++ [ReloadStage.started])[k]? = some stage → stage ≠ .started →
      s.reloads[k]? = some stage := by
    intro k stage hk hne
    rw [getElem?_appended] at hk
    split at hk
    · cases hk
      exact absurd rfl hne
    · exact hk
  refine ⟨?_, ?_, ?_, ?_, ?_, ?_⟩
  · intro k hk
    rw [hfound]
    apply h.fresh
    rw [getElem?_appended] at hk
    split at hk
    · next hlen =>
        rw [hlen]
        exact .inl (List.getElem?_eq_none le_rfl)
    · exact hk
  · intro k newCfg hk
    rw [hfound]
    apply h.holds
    rcases hk with hk | hk
    · exact .inl (hold hk nofun)
    · exact .inr (hold hk nofun)
  · intro hnone
    rw [hstore] at hnone
    obtain ⟨hinner, hnone', hcalls⟩ := h.unstored hnone
    rw [hsend]
    exact ⟨hinner, hnone', fun k newCfg hk => hcalls k newCfg (hold hk nofun)⟩
  · intro j hj
    rw [hstore] at hj
    rw [hsend, hfound]
    refine ⟨(h.stored j hj).1, ?_⟩
    intro hnone
    obtain ⟨newCfg, hk⟩ := (h.stored j hj).2 hnone
    exact ⟨newCfg, getElem?_appended_of_some _ hk⟩
  · rw [hsend]
    exact h.unsent
  · intro k hk
    rw [hsend] at hk
    rw [hfound]
    exact h.sent k hk

theorem Traced.validate (h : Traced handle as s) {parsed : Except ConfigError GatewayConfig}
    (hstarted : s.reloads[k]? = some .started) :
    Traced handle (as ++ [ReloadEvent.validate k parsed])
      { s with reloads := s.reloads.set k (.ofParsed rx parsed) } := by
  have hself : found (as ++ [ReloadEvent.validate k parsed]) k = some parsed :=
    found_snoc_self (h.fresh k (.inr hstarted))
  have hother : ∀ {j : ℕ}, j ≠ k →
      found (as ++ [ReloadEvent.validate k parsed]) j = found as j := by
    intro j hjk
    apply found_snoc
    simp [found, Ne.symm hjk]
  have hstore : lastStore (as ++ [ReloadEvent.validate k parsed]) = lastStore as :=
    lastOf_snoc_none rfl
  have hsend : lastSend (as ++ [ReloadEvent.validate k parsed]) = lastSend as :=
    lastOf_snoc_none rfl
  -- what a call has found is not found again
  have hkeep : ∀ {j : ℕ} {cfg : GatewayConfig}, found as j = some (.ok cfg) →
      found (as ++ [ReloadEvent.validate k parsed]) j = some (.ok cfg) := by
    intro j cfg hj
    rw [hother, hj]
    rintro rfl
    cases hj.symm.trans (h.fresh _ (.inr hstarted))
  refine ⟨?_, ?_, ?_, ?_, ?_, ?_⟩
  · intro j hj
    rw [getElem?_replaced hstarted] at hj
    split at hj
    · rcases hj with hj | hj
      · cases hj
      · exact absurd (Option.some.inj hj) (ReloadStage.ofParsed_ne_started parsed)
    · next hjk =>
        rw [hother hjk]
        exact h.fresh j hj
  · intro j newCfg hj
    rw [getElem?_replaced hstarted] at hj
    split at hj
    · next hjk =>
        subst hjk
        rcases hj with hj | hj
        · obtain ⟨hparsed, hvalid⟩ := ReloadStage.ofParsed_validated (Option.some.inj hj)
          exact ⟨hself.trans (congrArg some hparsed), hvalid⟩
        · exact absurd (Option.some.inj hj) (ReloadStage.ofParsed_ne_stored parsed)
    · exact ⟨hkeep (h.holds j newCfg hj).1, (h.holds j newCfg hj).2⟩
  · intro hnone
    rw [hstore] at hnone
    obtain ⟨hinner, hnone', hcalls⟩ := h.unstored hnone
    rw [hsend]
    refine ⟨hinner, hnone', ?_⟩
    intro j newCfg hj
    rw [getElem?_replaced hstarted] at hj
    split at hj
    · exact absurd (Option.some.inj hj) (ReloadStage.ofParsed_ne_stored parsed)
    · exact hcalls j newCfg hj
  · intro j hj
    rw [hstore] at hj
    rw [hsend]
    refine ⟨hkeep (h.stored j hj).1, ?_⟩
    intro hnone
    obtain ⟨newCfg, hk⟩ := (h.stored j hj).2 hnone
    have hjk : j ≠ k := by
      rintro rfl
      cases hk.symm.trans hstarted
    exact ⟨newCfg, (getElem?_replaced_ne hstarted _ hjk).trans hk⟩
  · rw [hsend]
    exact h.unsent
  · intro j hj
    rw [hsend] at hj
    exact hkeep (h.sent j hj)

theorem Traced.store (h : Traced handle as s) (hk : s.reloads[k]? = some (.validated newCfg)) :
    Traced handle (as ++ [ReloadEvent.store k])
      { s with inner := newCfg, reloads := s.reloads.set k (.stored newCfg) } := by
  have hfound : ∀ j, found (as ++ [ReloadEvent.store k]) j = found as j := fun j => found_snoc rfl
  have hstore : lastStore (as ++ [ReloadEvent.store k]) = some k := lastOf_snoc_some rfl
  have hsend : lastSend (as ++ [ReloadEvent.store k]) = lastSend as := lastOf_snoc_none rfl
  refine ⟨?_, ?_, ?_, ?_, ?_, ?_⟩
  · intro j hj
    rw [hfound]
    rw [getElem?_replaced hk] at hj
    split at hj
    · rcases hj with hj | hj <;> cases hj
    · exact h.fresh j hj
  · intro j cfg hj
    rw [hfound]
    rw [getElem?_replaced hk] at hj
    split at hj
    · next hjk =>
        subst hjk
        rcases hj with hj | hj
        · cases hj
        · cases hj
          exact h.holds j newCfg (.inl hk)
    · exact h.holds j cfg hj
  · rw [hstore]
    nofun
  · intro j hj
    cases hstore.symm.trans hj
    rw [hfound]
    exact ⟨(h.holds k newCfg (.inl hk)).1, fun _ => ⟨newCfg, getElem?_replaced_self hk _⟩⟩
  · rw [hsend]
    exact h.unsent
  · intro j hj
    rw [hsend] at hj
    rw [hfound]
    exact h.sent j hj

theorem Traced.send (h : Traced handle as s) (hk : s.reloads[k]? = some (.stored newCfg)) :
    Traced handle (as ++ [ReloadEvent.send k])
      { s with
        notify := s.notify.send newCfg
        reloads := s.reloads.set k (.returned (.ok ())) } := by
  have hfound : ∀ j, found (as ++ [ReloadEvent.send k]) j = found as j := fun j => found_snoc rfl
  have hstore : lastStore (as ++ [ReloadEvent.send k]) = lastStore as := lastOf_snoc_none rfl
  have hsend : lastSend (as ++ [ReloadEvent.send k]) = some k := lastOf_snoc_some rfl
  refine ⟨?_, ?_, ?_, ?_, ?_, ?_⟩
  · intro j hj
    rw [hfound]
    rw [getElem?_replaced hk] at hj
    split at hj
    · rcases hj with hj | hj <;> cases hj
    · exact h.fresh j hj
  · intro j cfg hj
    rw [hfound]
    rw [getElem?_replaced hk] at hj
    split at hj
    · rcases hj with hj | hj <;> cases hj
    · exact h.holds j cfg hj
  · intro hnone
    rw [hstore] at hnone
    exact absurd hk ((h.unstored hnone).2.2 k newCfg)
  · intro j hj
    rw [hstore] at hj
    rw [hsend, hfound]
    exact ⟨(h.stored j hj).1, nofun⟩
  · rw [hsend]
    nofun
  · intro j hj
    cases hsend.symm.trans hj
    rw [hfound]
    exact (h.holds k newCfg (.inr hk)).1

/-! ## What the task follows -/

/-- What is announced can be built, and with nothing left to see the task has built it
or is about to. -/
structure Following (s : HotReload rx) : Prop where
  announced : ∃ router, Router.build rx s.notify.value = .ok router
  waiting : s.task = .waiting → s.notify.hasChanged = false → s.handle.cfg = s.notify.value
  rebuilding : ∀ newCfg, s.task = .rebuilding newCfg →
    (∃ router, Router.build rx newCfg = .ok router) ∧
      (s.notify.hasChanged = false → newCfg = s.notify.value)

theorem Following.initial : Following (init handle) where
  announced := ⟨handle.router, handle.built⟩
  waiting := fun _ _ => rfl
  rebuilding := nofun

theorem Following.send (h : Following s) (hvalid : ValidConfig rx newCfg)
    (reloads : List ReloadStage) :
    Following { s with notify := s.notify.send newCfg, reloads := reloads } where
  announced := hvalid.build
  waiting := by
    intro _ hseen
    cases (Watch.hasChanged_send _ _).symm.trans hseen
  rebuilding := by
    intro cfg htask
    refine ⟨(h.rebuilding cfg htask).1, ?_⟩
    intro hseen
    cases (Watch.hasChanged_send _ _).symm.trans hseen

theorem Following.borrow (h : Following s) :
    Following { s with notify := s.notify.markSeen, task := .rebuilding s.notify.value } where
  announced := h.announced
  waiting := nofun
  rebuilding := by
    rintro cfg ⟨rfl⟩
    exact ⟨h.announced, fun _ => rfl⟩

theorem Following.rebuild (h : Following s) (htask : s.task = .rebuilding newCfg) :
    Following { s with task := .waiting, handle := (s.handle.rebuild newCfg).2 } where
  announced := h.announced
  waiting := by
    intro _ hseen
    obtain ⟨⟨router, hbuild⟩, hlast⟩ := h.rebuilding newCfg htask
    show (s.handle.rebuild newCfg).2.cfg = s.notify.value
    rw [RouterHandle.rebuild_of_build hbuild]
    exact hlast hseen
  rebuilding := nofun

/-- The step lemma. -/
theorem Traced.step (h : Traced handle as s) (hfollowing : Following s)
    (hstep : s.step e = some s') : Traced handle (as ++ [e]) s' ∧ Following s' := by
  cases e with
  | start =>
      cases hstep
      exact ⟨h.start, ⟨hfollowing.announced, hfollowing.waiting, hfollowing.rebuilding⟩⟩
  | validate k parsed =>
      simp only [HotReload.step] at hstep
      split at hstep
      · next hstarted =>
          cases hstep
          exact ⟨h.validate hstarted,
            ⟨hfollowing.announced, hfollowing.waiting, hfollowing.rebuilding⟩⟩
      · cases hstep
  | store k =>
      simp only [HotReload.step] at hstep
      split at hstep
      · next hk =>
          cases hstep
          exact ⟨h.store hk, ⟨hfollowing.announced, hfollowing.waiting, hfollowing.rebuilding⟩⟩
      · cases hstep
  | send k =>
      simp only [HotReload.step] at hstep
      split at hstep
      · next newCfg hk =>
          cases hstep
          exact ⟨h.send hk, hfollowing.send (h.holds k newCfg (.inr hk)).2 _⟩
      · cases hstep
  | changed =>
      simp only [HotReload.step] at hstep
      split at hstep
      · split at hstep
        · cases hstep
          refine ⟨h.of_task (fun k => found_snoc rfl) (lastOf_snoc_none rfl)
            (lastOf_snoc_none rfl) rfl rfl rfl, ?_⟩
          exact ⟨hfollowing.announced, nofun, nofun⟩
        · cases hstep
      · cases hstep
  | borrow =>
      simp only [HotReload.step] at hstep
      split at hstep
      · cases hstep
        exact ⟨h.of_task (fun k => found_snoc rfl) (lastOf_snoc_none rfl)
          (lastOf_snoc_none rfl) rfl rfl rfl, hfollowing.borrow⟩
      · cases hstep
  | rebuild =>
      simp only [HotReload.step] at hstep
      split at hstep
      · next newCfg htask =>
          cases hstep
          exact ⟨h.of_task (fun k => found_snoc rfl) (lastOf_snoc_none rfl)
            (lastOf_snoc_none rfl) rfl rfl rfl, hfollowing.rebuild htask⟩
      · cases hstep

/-- The run lemma. -/
theorem traced_run (hrun : run handle events = some s) : Traced handle events s ∧ Following s := by
  refine follow_invariant (P := fun events s => Traced handle events s ∧ Following s)
    ⟨.initial, .initial⟩ ?_ events s hrun
  intro as e t t' _ hboth hstep
  exact hboth.1.step hboth.2 hstep

end

/-! ## Agreement in the end -/

/-- All calls have returned, and the task has nothing left to do. -/
structure Quiet (s : HotReload rx) : Prop where
  returned : ∀ call ∈ s.reloads, ∃ answer, call = .returned answer
  waiting : s.task = .waiting
  seen : s.notify.hasChanged = false

/-- **When the config and the router agree.** Once all reloads and notifications are
processed, the current config is the one the router was last built from exactly if the
call that stored last and the call that sent last found the same file; in particular
if they are the same call. -/
theorem current_eq_built_iff (rx : RegexCrate) (handle : RouterHandle rx)
    (events : List ReloadEvent) (s : HotReload rx) (hrun : run handle events = some s)
    (hquiet : s.Quiet) :
    s.inner = s.handle.cfg ↔
      ∀ j k, lastStore events = some j → lastSend events = some k →
        found events j = found events k := by
  obtain ⟨htraced, hfollowing⟩ := traced_run hrun
  have hbuilt := hfollowing.waiting hquiet.waiting hquiet.seen
  constructor
  · intro hagree j k hj hk
    rw [(htraced.stored j hj).1, htraced.sent k hk, hagree, hbuilt]
  · intro hsame
    rw [hbuilt]
    cases hstore : lastStore events with
    | none =>
        obtain ⟨hinner, hnone, _⟩ := htraced.unstored hstore
        rw [hinner, htraced.unsent hnone]
    | some j =>
        obtain ⟨hfound, hunsent⟩ := htraced.stored j hstore
        cases hsend : lastSend events with
        | none =>
            obtain ⟨newCfg, hj⟩ := hunsent hsend
            obtain ⟨answer, hreturned⟩ := hquiet.returned _ (List.mem_of_getElem? hj)
            cases hreturned
        | some k =>
            have heq := (hfound.symm.trans (hsame j k hstore hsend)).trans (htraced.sent k hsend)
            exact Except.ok.inj (Option.some.inj heq)

/-- Two calls that store in one order and send in the other, and then a round of the
task. -/
def overlapping (first second : GatewayConfig) : List ReloadEvent :=
  [.start, .start, .validate 0 (.ok first), .validate 1 (.ok second), .store 0, .store 1,
    .send 1, .send 0, .changed, .borrow, .rebuild]

theorem run_overlapping (handle : RouterHandle rx) {first second : GatewayConfig}
    (hfirst : validate rx first = .ok ()) (hsecond : validate rx second = .ok ()) :
    ∃ s, run handle (overlapping first second) = some s ∧ s.Quiet ∧ s.inner = second ∧
      s.handle.cfg = first := by
  have hvalidate : follow step (init handle) [.start, .start, .validate 0 (.ok first),
      .validate 1 (.ok second)] =
        some { init handle with reloads := [.validated first, .validated second] } := by
    rw [← ReloadStage.ofParsed_of_validate hfirst, ← ReloadStage.ofParsed_of_validate hsecond]
    rfl
  have hrun : run handle (overlapping first second) =
      some ⟨second, ⟨first, 2, 2, le_rfl⟩, [.returned (.ok ()), .returned (.ok ())], .waiting,
        (handle.rebuild first).2⟩ := by
    show follow step (init handle) ([_, _, _, _] ++ _) = _
    rw [follow_append, hvalidate]
    rfl
  refine ⟨_, hrun, ⟨?_, rfl, rfl⟩, rfl, ?_⟩
  · intro call hcall
    refine ⟨.ok (), ?_⟩
    simpa using hcall
  · obtain ⟨router, hbuild⟩ := (validate_eq_ok_iff.mp hfirst).build
    show (handle.rebuild first).2.cfg = first
    rw [RouterHandle.rebuild_of_build hbuild]

/-- One call stores before another and sends after it: the router is then built from
a config that is not the current one. -/
theorem overlapping_reloads_diverge :
    ¬ ∀ (rx : RegexCrate) (handle : RouterHandle rx) (events : List ReloadEvent)
      (s : HotReload rx), run handle events = some s → s.Quiet → s.inner = s.handle.cfg := by
  intro hall
  obtain ⟨router, hrouter, -⟩ := load_build minimalConfig_valid
  have hmoved : validate .literal movedConfig = .ok () := by decide
  have hgrown : validate .literal grownConfig = .ok () := by decide
  obtain ⟨s, hrun, hquiet, hinner, hbuilt⟩ :=
    run_overlapping ⟨minimalConfig, router, hrouter⟩ hmoved hgrown
  have hsame := hall .literal _ _ s hrun hquiet
  rw [hinner, hbuilt] at hsame
  exact absurd (congrArg GatewayConfig.routes hsame) (by decide)

/-- Two calls that found the same file may overlap in any way. -/
theorem current_eq_built_iff_same_file :
    ∃ (handle : RouterHandle .literal) (s : HotReload .literal),
      run handle (overlapping movedConfig movedConfig) = some s ∧ s.inner = s.handle.cfg := by
  obtain ⟨router, hrouter, -⟩ := load_build minimalConfig_valid
  have hmoved : validate .literal movedConfig = .ok () := by decide
  obtain ⟨s, hrun, hquiet, -⟩ := run_overlapping ⟨minimalConfig, router, hrouter⟩ hmoved hmoved
  refine ⟨_, s, hrun, (current_eq_built_iff _ _ _ s hrun hquiet).mpr ?_⟩
  intro j k hj hk
  cases hj
  cases hk
  rfl

/-! ## Calls and rounds without interruption -/

/-- The steps of one call. -/
def wholeReload (rx : RegexCrate) (k : ℕ) (parsed : Except ConfigError GatewayConfig) :
    List ReloadEvent :=
  match parseAndValidate rx parsed with
  | .error _ => [.start, .validate k parsed]
  | .ok _ => [.start, .validate k parsed, .store k, .send k]

/-- The running server as these steps have it. -/
structure Shows (server : GatewayServer) (s : HotReload rx) : Prop where
  config : server.config = s.watcher
  router : server.pipeline.router = s.handle.router

section
variable {s : HotReload rx} {k : ℕ} {newCfg : GatewayConfig}

theorem step_validate (parsed : Except ConfigError GatewayConfig)
    (hk : s.reloads[k]? = some .started) :
    s.step (.validate k parsed) =
      some { s with reloads := s.reloads.set k (.ofParsed rx parsed) } := by
  simp only [step, hk]

theorem step_store (hk : s.reloads[k]? = some (.validated newCfg)) :
    s.step (.store k) =
      some { s with inner := newCfg, reloads := s.reloads.set k (.stored newCfg) } := by
  simp only [step, hk]

theorem step_send (hk : s.reloads[k]? = some (.stored newCfg)) :
    s.step (.send k) =
      some { s with
        notify := s.notify.send newCfg
        reloads := s.reloads.set k (.returned (.ok ())) } := by
  simp only [step, hk]

end

/-- **A call that nothing interrupts** is a reload of the running server. -/
theorem uninterrupted_reload (uc : UriCrate) {server : GatewayServer} {s : HotReload rx}
    (h : Shows server s) (parsed : Except ConfigError GatewayConfig) :
    ∃ s', follow step s (wholeReload rx s.reloads.length parsed) = some s' ∧
      Shows (server.step rx uc (.reload parsed)).2 s' := by
  -- the call, at its start
  let t : HotReload rx := { s with reloads := s.reloads ++ [.started] }
  have hstarted : t.reloads[s.reloads.length]? = some .started := List.getElem?_concat_length
  have hvalidated := getElem?_replaced_self hstarted (.ofParsed rx parsed)
  cases hparsed : parseAndValidate rx parsed with
  | error e =>
      refine ⟨{ t with reloads := t.reloads.set s.reloads.length (.ofParsed rx parsed) }, ?_, ?_,
        h.router⟩
      · rw [wholeReload, hparsed]
        show follow step t [_] = _
        rw [follow_cons, step_validate parsed hstarted]
        rfl
      · show (server.config.reload rx parsed).2 = s.watcher
        rw [ConfigWatcher.reload, hparsed]
        exact h.config
  | ok newCfg =>
      have hstage : ReloadStage.ofParsed rx parsed = .validated newCfg := by
        rw [ReloadStage.ofParsed, hparsed]
      have hvalidate := step_validate parsed hstarted
      rw [hstage] at hvalidated hvalidate
      have hstored := getElem?_replaced_self hvalidated (.stored newCfg)
      refine ⟨⟨newCfg, s.notify.send newCfg, ((t.reloads.set s.reloads.length
        (.validated newCfg)).set s.reloads.length (.stored newCfg)).set s.reloads.length
        (.returned (.ok ())), s.task, s.handle⟩, ?_, ?_, h.router⟩
      · rw [wholeReload, hparsed]
        show follow step t [_, _, _] = _
        rw [follow_cons, hvalidate, Option.bind_some, follow_cons, step_store hvalidated,
          Option.bind_some, follow_cons, step_send hstored]
        rfl
      · show (server.config.reload rx parsed).2 = ⟨newCfg, if _ then _ else _⟩
        rw [ConfigWatcher.reload, hparsed, if_pos (Watch.hasChanged_send s.notify newCfg)]
        rfl

/-- **A round that nothing interrupts** is one of the running server. -/
theorem uninterrupted_round (uc : UriCrate) {server : GatewayServer} {s : HotReload rx}
    (h : Shows server s) (htask : s.task = .waiting) (hchanged : s.notify.hasChanged = true) :
    ∃ s', follow step s [.changed, .borrow, .rebuild] = some s' ∧
      Shows (server.step rx uc .applyReload).2 s' := by
  have hwoken : s.step .changed = some { s with notify := s.notify.markSeen, task := .woken } := by
    rw [step, htask]
    exact if_pos hchanged
  have hannounced : server.config.announced = some s.notify.value := by
    rw [h.config, watcher]
    exact if_pos hchanged
  have happly : (server.step rx uc .applyReload).2 = server.applyReload rx := rfl
  refine ⟨⟨s.inner, s.notify.markSeen.markSeen, s.reloads, .waiting,
    (s.handle.rebuild s.notify.value).2⟩, ?_, ?_, ?_⟩
  · rw [follow_cons, hwoken]
    rfl
  · rw [happly, GatewayServer.applyReload, hannounced]
    show ConfigWatcher.mk server.config.inner none = ⟨s.inner, if _ then _ else _⟩
    rw [h.config, if_neg (Bool.eq_false_iff.mp (Watch.hasChanged_markSeen _))]
    rfl
  · rw [happly, GatewayServer.applyReload, hannounced]
    show (server.pipeline.router.rebuild rx s.notify.value).2 = _
    rw [h.router, ← RouterHandle.rebuild_router]

end HotReload

end Stateform
