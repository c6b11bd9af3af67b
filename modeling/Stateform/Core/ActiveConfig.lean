import Stateform.Core.HotReload

/-!
# What reloads let through

In every run of the watcher, its reload calls and the reload task, what is stored,
what is announced and what the task rebuilds from is a config `validate` accepted,
and the router is built from one that was announced. A call that finds a bad file
ends there and touches none of it (`active_config_valid`).
-/

namespace Stateform.HotReload

open Library

variable {rx : RegexCrate} {handle : RouterHandle rx} {as events : List ReloadEvent}
  {s s' : HotReload rx} {e : ReloadEvent} {k : ℕ} {newCfg : GatewayConfig}

/-! ## Validity -/

/-- Every config the watcher, its calls and the task hold is valid. -/
structure Valid (s : HotReload rx) : Prop where
  inner : ValidConfig rx s.inner
  announced : ValidConfig rx s.notify.value
  validated : ∀ (k : ℕ) (newCfg : GatewayConfig), s.reloads[k]? = some (.validated newCfg) →
    ValidConfig rx newCfg
  stored : ∀ (k : ℕ) (newCfg : GatewayConfig), s.reloads[k]? = some (.stored newCfg) →
    ValidConfig rx newCfg
  rebuilding : ∀ newCfg, s.task = .rebuilding newCfg → ValidConfig rx newCfg

theorem Valid.initial (h : ValidConfig rx handle.cfg) : Valid (init handle) where
  inner := h
  announced := h
  validated := nofun
  stored := nofun
  rebuilding := nofun

/-- A call that moves on holds a valid config, or none. -/
theorem Valid.replaced (h : Valid s) {old stage : ReloadStage} (hk : s.reloads[k]? = some old)
    (hvalidated : ∀ cfg, stage = .validated cfg → ValidConfig rx cfg)
    (hstored : ∀ cfg, stage = .stored cfg → ValidConfig rx cfg) :
    Valid { s with reloads := s.reloads.set k stage } where
  inner := h.inner
  announced := h.announced
  validated := by
    intro j cfg hj
    rw [getElem?_replaced hk] at hj
    split at hj
    · exact hvalidated cfg (Option.some.inj hj)
    · exact h.validated j cfg hj
  stored := by
    intro j cfg hj
    rw [getElem?_replaced hk] at hj
    split at hj
    · exact hstored cfg (Option.some.inj hj)
    · exact h.stored j cfg hj
  rebuilding := h.rebuilding

theorem Valid.start (h : Valid s) : Valid { s with reloads := s.reloads ++ [.started] } where
  inner := h.inner
  announced := h.announced
  validated := by
    intro j cfg hj
    rw [getElem?_appended] at hj
    split at hj
    · cases hj
    · exact h.validated j cfg hj
  stored := by
    intro j cfg hj
    rw [getElem?_appended] at hj
    split at hj
    · cases hj
    · exact h.stored j cfg hj
  rebuilding := h.rebuilding

/-- The step lemma. -/
theorem Valid.step (h : Valid s) (hstep : s.step e = some s') : Valid s' := by
  cases e with
  | start =>
      cases hstep
      exact h.start
  | validate k parsed =>
      simp only [HotReload.step] at hstep
      split at hstep
      · next hstarted =>
          cases hstep
          exact h.replaced hstarted (fun _ hok => (ReloadStage.ofParsed_validated hok).2)
            (fun _ hstored => absurd hstored (ReloadStage.ofParsed_ne_stored parsed))
      · cases hstep
  | store k =>
      simp only [HotReload.step] at hstep
      split at hstep
      · next newCfg hk =>
          cases hstep
          have hvalid := h.validated k newCfg hk
          have hmoved : Valid { s with reloads := s.reloads.set k (.stored newCfg) } := by
            apply h.replaced hk
            · rintro cfg ⟨⟩
            · rintro cfg ⟨rfl⟩
              exact hvalid
          exact ⟨hvalid, hmoved.announced, hmoved.validated, hmoved.stored, hmoved.rebuilding⟩
      · cases hstep
  | send k =>
      simp only [HotReload.step] at hstep
      split at hstep
      · next newCfg hk =>
          cases hstep
          have hmoved : Valid { s with reloads := s.reloads.set k (.returned (.ok ())) } := by
            apply h.replaced hk
            · rintro cfg ⟨⟩
            · rintro cfg ⟨⟩
          exact ⟨hmoved.inner, h.stored k newCfg hk, hmoved.validated, hmoved.stored,
            hmoved.rebuilding⟩
      · cases hstep
  | changed =>
      simp only [HotReload.step] at hstep
      split at hstep
      · split at hstep
        · cases hstep
          refine ⟨h.inner, h.announced, h.validated, h.stored, ?_⟩
          rintro cfg ⟨⟩
        · cases hstep
      · cases hstep
  | borrow =>
      simp only [HotReload.step] at hstep
      split at hstep
      · cases hstep
        refine ⟨h.inner, h.announced, h.validated, h.stored, ?_⟩
        rintro cfg ⟨rfl⟩
        exact h.announced
      · cases hstep
  | rebuild =>
      simp only [HotReload.step] at hstep
      split at hstep
      · cases hstep
        refine ⟨h.inner, h.announced, h.validated, h.stored, ?_⟩
        rintro cfg ⟨⟩
      · cases hstep

theorem valid_run (hstart : ValidConfig rx handle.cfg) (hrun : run handle events = some s) :
    Valid s :=
  follow_invariant (P := fun _ s => Valid s) (.initial hstart)
    (fun _ _ _ _ _ h hstep => h.step hstep) events s hrun

/-! ## Where the router comes from -/

/-- The config was on the channel at some point of the run. -/
def Delivered (handle : RouterHandle rx) (events : List ReloadEvent) (cfg : GatewayConfig) : Prop :=
  ∃ before t, before <+: events ∧ run handle before = some t ∧ t.notify.value = cfg

theorem Delivered.snoc {cfg : GatewayConfig} (h : Delivered handle as cfg) :
    Delivered handle (as ++ [e]) cfg := by
  obtain ⟨before, t, hpre, hrun, hvalue⟩ := h
  exact ⟨before, t, hpre.trans (List.prefix_append as [e]), hrun, hvalue⟩

/-- The router is built from a delivered config, and so will the next one be. -/
structure Sourced (handle : RouterHandle rx) (events : List ReloadEvent) (s : HotReload rx) :
    Prop where
  built : Delivered handle events s.handle.cfg
  rebuilding : ∀ newCfg, s.task = .rebuilding newCfg → Delivered handle events newCfg

theorem Sourced.snoc (h : Sourced handle as s) (htask : s'.task = s.task)
    (hhandle : s'.handle = s.handle) : Sourced handle (as ++ [e]) s' where
  built := by
    rw [hhandle]
    exact h.built.snoc
  rebuilding := by
    intro cfg hcfg
    rw [htask] at hcfg
    exact (h.rebuilding cfg hcfg).snoc

/-- The step lemma. -/
theorem Sourced.step (h : Sourced handle as s) (hvalid : Valid s) (hrun : run handle as = some s)
    (hstep : s.step e = some s') : Sourced handle (as ++ [e]) s' := by
  cases e with
  | start =>
      cases hstep
      exact h.snoc rfl rfl
  | validate k parsed =>
      simp only [HotReload.step] at hstep
      split at hstep
      · cases hstep
        exact h.snoc rfl rfl
      · cases hstep
  | store k =>
      simp only [HotReload.step] at hstep
      split at hstep
      · cases hstep
        exact h.snoc rfl rfl
      · cases hstep
  | send k =>
      simp only [HotReload.step] at hstep
      split at hstep
      · cases hstep
        exact h.snoc rfl rfl
      · cases hstep
  | changed =>
      simp only [HotReload.step] at hstep
      split at hstep
      · split at hstep
        · cases hstep
          refine ⟨h.built.snoc, ?_⟩
          rintro cfg ⟨⟩
        · cases hstep
      · cases hstep
  | borrow =>
      simp only [HotReload.step] at hstep
      split at hstep
      · cases hstep
        refine ⟨h.built.snoc, ?_⟩
        rintro cfg ⟨rfl⟩
        exact ⟨as, s, List.prefix_append as _, hrun, rfl⟩
      · cases hstep
  | rebuild =>
      simp only [HotReload.step] at hstep
      split at hstep
      · next newCfg htask =>
          cases hstep
          refine ⟨?_, ?_⟩
          · obtain ⟨router, hbuild⟩ := (hvalid.rebuilding newCfg htask).build
            show Delivered handle _ (s.handle.rebuild newCfg).2.cfg
            rw [RouterHandle.rebuild_of_build hbuild]
            exact (h.rebuilding newCfg htask).snoc
          · rintro cfg ⟨⟩
      · cases hstep

theorem sourced_run (hstart : ValidConfig rx handle.cfg) (hrun : run handle events = some s) :
    Sourced handle events s := by
  refine follow_invariant (P := Sourced handle) ?_ ?_ events s hrun
  · exact ⟨⟨[], _, List.prefix_rfl, rfl, rfl⟩, nofun⟩
  · intro as e t t' hbefore h hstep
    exact h.step (valid_run hstart hbefore) hbefore hstep

/-! ## Calls that fail -/

section
variable {answer : Except ConfigError Unit}

/-- A call that has returned takes no further step. -/
theorem returned_step (hk : s.reloads[k]? = some (.returned answer)) (hstep : s.step e = some s') :
    s'.reloads[k]? = some (.returned answer) ∧ e ≠ .store k ∧ e ≠ .send k := by
  -- the other calls move on without it
  have hother : ∀ {j : ℕ} {old : ReloadStage} (stage : ReloadStage), s.reloads[j]? = some old →
      old ≠ .returned answer →
        (s.reloads.set j stage)[k]? = some (.returned answer) ∧ j ≠ k := by
    intro j old stage hj hne
    have hjk : k ≠ j := by
      rintro rfl
      exact hne (Option.some.inj (hj.symm.trans hk))
    exact ⟨(getElem?_replaced_ne hj _ hjk).trans hk, hjk.symm⟩
  cases e with
  | start =>
      cases hstep
      refine ⟨getElem?_appended_of_some _ hk, ?_, ?_⟩
      · rintro ⟨⟩
      · rintro ⟨⟩
  | validate j parsed =>
      simp only [HotReload.step] at hstep
      split at hstep
      · next hj =>
          cases hstep
          refine ⟨(hother _ hj ?_).1, ?_, ?_⟩
          · rintro ⟨⟩
          · rintro ⟨⟩
          · rintro ⟨⟩
      · cases hstep
  | store j =>
      simp only [HotReload.step] at hstep
      split at hstep
      · next hj =>
          cases hstep
          obtain ⟨hkept, hjk⟩ := hother (.stored _) hj (by rintro ⟨⟩)
          refine ⟨hkept, fun h => hjk (ReloadEvent.store.inj h), ?_⟩
          rintro ⟨⟩
      · cases hstep
  | send j =>
      simp only [HotReload.step] at hstep
      split at hstep
      · next hj =>
          cases hstep
          obtain ⟨hkept, hjk⟩ := hother (.returned (.ok ())) hj (by rintro ⟨⟩)
          refine ⟨hkept, ?_, fun h => hjk (ReloadEvent.send.inj h)⟩
          rintro ⟨⟩
      · cases hstep
  | changed =>
      simp only [HotReload.step] at hstep
      split at hstep
      · split at hstep
        · cases hstep
          refine ⟨hk, ?_, ?_⟩
          · rintro ⟨⟩
          · rintro ⟨⟩
        · cases hstep
      · cases hstep
  | borrow =>
      simp only [HotReload.step] at hstep
      split at hstep
      · cases hstep
        refine ⟨hk, ?_, ?_⟩
        · rintro ⟨⟩
        · rintro ⟨⟩
      · cases hstep
  | rebuild =>
      simp only [HotReload.step] at hstep
      split at hstep
      · cases hstep
        refine ⟨hk, ?_, ?_⟩
        · rintro ⟨⟩
        · rintro ⟨⟩
      · cases hstep

theorem returned_run (hk : s.reloads[k]? = some (.returned answer)) {later : List ReloadEvent}
    (hlater : follow step s later = some s') :
    ReloadEvent.store k ∉ later ∧ ReloadEvent.send k ∉ later := by
  induction later generalizing s with
  | nil => exact ⟨List.not_mem_nil, List.not_mem_nil⟩
  | cons e later ih =>
      rw [follow_cons] at hlater
      obtain ⟨t, hstep, hrest⟩ := Option.bind_eq_some_iff.mp hlater
      obtain ⟨hkept, hstore, hsend⟩ := returned_step hk hstep
      obtain ⟨hstores, hsends⟩ := ih hkept hrest
      exact ⟨List.not_mem_cons_of_ne_of_not_mem hstore.symm hstores,
        List.not_mem_cons_of_ne_of_not_mem hsend.symm hsends⟩

end

/-- A call that finds a bad file ends there, and touches nothing. -/
theorem failed_reload {parsed : Except ConfigError GatewayConfig} {err : ConfigError}
    (hbad : parseAndValidate rx parsed = .error err)
    (hstep : s.step (.validate k parsed) = some s') :
    s'.inner = s.inner ∧ s'.notify = s.notify ∧ s'.handle = s.handle ∧ s'.task = s.task ∧
      s'.reloads[k]? = some (.returned (.error err)) := by
  simp only [HotReload.step] at hstep
  split at hstep
  · next hstarted =>
      cases hstep
      refine ⟨rfl, rfl, rfl, rfl, ?_⟩
      rw [getElem?_replaced_self hstarted, ReloadStage.ofParsed, hbad]
  · cases hstep

/-- **Only valid configs are in use.** From a config that loaded, in every run of reload
calls and the reload task: what is stored and what is announced is valid, the router is
built from a config that was announced, a call that fails changes nothing (the config, the
channel, the router, and no later step is its), and a valid config always builds. -/
theorem active_config_valid (rx : RegexCrate) (file : Except ConfigError GatewayConfig)
    (handle : RouterHandle rx) (hload : parseAndValidate rx file = .ok handle.cfg)
    (events : List ReloadEvent) (s : HotReload rx) (hrun : run handle events = some s) :
    validate rx s.inner = .ok () ∧ validate rx s.notify.value = .ok () ∧
      (∃ before t, before <+: events ∧ run handle before = some t ∧
        validate rx t.notify.value = .ok () ∧
        Router.build rx t.notify.value = .ok s.handle.router) ∧
      (∀ k parsed err s', parseAndValidate rx parsed = .error err →
        s.step (.validate k parsed) = some s' →
          s'.inner = s.inner ∧ s'.notify = s.notify ∧ s'.handle = s.handle ∧
            s'.reloads[k]? = some (.returned (.error err)) ∧
            ∀ later t, follow step s' later = some t →
              ReloadEvent.store k ∉ later ∧ ReloadEvent.send k ∉ later) ∧
      ∀ cfg, validate rx cfg = .ok () → ∃ router, Router.build rx cfg = .ok router := by
  have hstart : ValidConfig rx handle.cfg := (parseAndValidate_eq_ok hload).2
  have hvalid := valid_run hstart hrun
  refine ⟨validate_eq_ok_iff.mpr hvalid.inner, validate_eq_ok_iff.mpr hvalid.announced,
    ?_, ?_, ?_⟩
  · obtain ⟨before, t, hpre, hbefore, hvalue⟩ := (sourced_run hstart hrun).built
    refine ⟨before, t, hpre, hbefore,
      validate_eq_ok_iff.mpr (valid_run hstart hbefore).announced, ?_⟩
    rw [hvalue]
    exact s.handle.built
  · intro k parsed err s' hbad hstep
    obtain ⟨hinner, hnotify, hhandle, _, hreturned⟩ := failed_reload hbad hstep
    exact ⟨hinner, hnotify, hhandle, hreturned, fun later t => returned_run hreturned⟩
  · intro cfg hcfg
    exact (validate_eq_ok_iff.mp hcfg).build

/-- A reload that the task picks up, and one that cannot read the file. -/
theorem active_config_valid_moved :
    ∃ (handle : RouterHandle .literal) (s : HotReload .literal),
      run handle [.start, .validate 0 (.ok movedConfig), .store 0, .send 0, .changed, .borrow,
        .rebuild, .start, .validate 1 (.error (.io "not found".toList))] = some s ∧
      s.inner = movedConfig ∧ validate .literal s.inner = .ok () := by
  obtain ⟨router, hrouter, -⟩ := load_build minimalConfig_valid
  let handle : RouterHandle .literal := ⟨minimalConfig, router, hrouter⟩
  have hload : parseAndValidate .literal (.ok minimalConfig) = .ok minimalConfig := by
    simp [parseAndValidate, minimalConfig_valid, bind, Except.bind, pure, Except.pure]
  have hmoved : validate .literal movedConfig = .ok () := by decide
  have hvalidate : follow step (init handle) [.start, .validate 0 (.ok movedConfig)] =
      some { init handle with reloads := [.validated movedConfig] } := by
    rw [← ReloadStage.ofParsed_of_validate hmoved]
    rfl
  have hrun : run handle [.start, .validate 0 (.ok movedConfig), .store 0, .send 0, .changed,
      .borrow, .rebuild, .start, .validate 1 (.error (.io "not found".toList))] =
        some ⟨movedConfig, ⟨movedConfig, 1, 1, le_rfl⟩,
          [.returned (.ok ()), .returned (.error (.io "not found".toList))], .waiting,
          (handle.rebuild movedConfig).2⟩ := by
    show follow step (init handle) ([_, _] ++ _) = _
    rw [follow_append, hvalidate]
    rfl
  exact ⟨handle, _, hrun, rfl, (active_config_valid _ _ handle hload _ _ hrun).1⟩

end Stateform.HotReload
