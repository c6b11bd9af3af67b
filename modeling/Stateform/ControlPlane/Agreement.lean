import Stateform.Library.Versions
import Stateform.ControlPlane.DataPlane
import Stateform.ControlPlane.Progress

/-!
# What the data planes agree on

A snapshot is made of what the loader holds at one point, and travels on while the loader
goes on. Still the version names the config: whatever is sent on any two streams under one
version is the same validated text (`subscribers_agree`). And where all handlers have
returned, every stream that is still open has been sent what the loader holds
(`streams_current`).
-/

namespace Stateform.ControlPlane

open Library

/-! ## The loader as a versioned value -/

section
variable {unmarshal : Str → Option GatewayConfig} {s s' : Loading} {e : LoadEvent}

/-- A step leaves the loader alone, or some call installs the next version. -/
theorem Loading.step_loader (hstep : s.step unmarshal e = some s') :
    s'.loader = s.loader ∨
      s'.loader.version = s.loader.version + 1 ∧
        ∃ k : ℕ, s'.reloads[k]? = some (.installed s'.loader.version) := by
  cases e with
  | write file =>
      cases hstep
      exact .inl rfl
  | start =>
      cases hstep
      exact .inl rfl
  | read k =>
      simp only [Loading.step] at hstep
      split at hstep
      · cases hstep
        exact .inl rfl
      · cases hstep
  | install k =>
      simp only [Loading.step] at hstep
      split at hstep
      · next raw cfg hloaded =>
          cases hstep
          exact .inr ⟨rfl, k, getElem?_replaced_self hloaded _⟩
      · cases hstep

end

namespace Server

variable {unmarshal : Str → Option GatewayConfig} {file : Option Str} {loader : Loader}
  {s s' : Server} {events : List Event} {event : Event}

theorem Step.installs (hstep : Step unmarshal s event s') :
    s'.loading.loader = s.loading.loader ∨
      s'.loading.loader.version = s.loading.loader.version + 1 ∧
        ∃ k : ℕ, s'.loading.reloads[k]? = some (.installed s'.loading.loader.version) := by
  cases hstep with
  | load _ hload => exact Loading.step_loader hload
  | _ => exact .inl rfl

/-- The loader changes only under a higher version. -/
theorem versioned (unmarshal : Str → Option GatewayConfig) :
    Versioned (step unmarshal) (fun s => s.loading.loader) Loader.version where
  changes := by
    intro s event s' hstep
    rcases (step_cases hstep).2.installs with hsame | ⟨hnext, _⟩
    · exact .inl hsame
    · right
      omega

/-! ## Snapshots of the loader -/

/-- The snapshot is of what the loader held at some point of the run. -/
def Genuine (unmarshal : Str → Option GatewayConfig) (file : Option Str) (loader : Loader)
    (events : List Event) (p : Snapshot) : Prop :=
  ∃ l, Held (step unmarshal) (fun s => s.loading.loader) (init file loader) events l ∧
    p.version = l.version ∧ p.configYaml = l.rawYaml

theorem Genuine.append {p : Snapshot} (h : Genuine unmarshal file loader events p)
    (more : List Event) : Genuine unmarshal file loader (events ++ more) p := by
  obtain ⟨l, hheld, hp⟩ := h
  exact ⟨l, hheld.append more, hp⟩

theorem genuine_current (hrun : run unmarshal file loader events = some s) (reason : Str) :
    Genuine unmarshal file loader events (s.currentSnapshot reason) :=
  ⟨_, held_now hrun, rfl, rfl⟩

/-- Every snapshot that a handler has read, a call is to send or a stream was sent. -/
structure AllGenuine (unmarshal : Str → Option GatewayConfig) (file : Option Str)
    (loader : Loader) (events : List Event) (s : Server) : Prop where
  read : ∀ k p, s.snapshot? k = some p → Genuine unmarshal file loader events p
  initial : ∀ (c : ℕ) (call : SubscribeCall) p, s.calls[c]? = some call →
    call.stage = .sendingInitial p → Genuine unmarshal file loader events p
  sent : ∀ (c : ℕ) (call : SubscribeCall), s.calls[c]? = some call →
    ∀ p ∈ call.sent, Genuine unmarshal file loader events p

theorem AllGenuine.append (h : AllGenuine unmarshal file loader events s) (more : List Event) :
    AllGenuine unmarshal file loader (events ++ more) s where
  read := fun k p hp => (h.read k p hp).append more
  initial := fun c call p hcall hstage => (h.initial c call p hcall hstage).append more
  sent := fun c call hcall p hp => (h.sent c call hcall p hp).append more

/-- What a step delivers was pending, and so it was read. -/
theorem AllGenuine.delivers {c : ℕ} {p : Snapshot} (h : AllGenuine unmarshal file loader events s)
    (hdelivers : s.Delivers c event p) : Genuine unmarshal file loader events p := by
  cases hdelivers with
  | initial hcall hstage => exact h.initial c _ p hcall hstage
  | broadcast hb hsender => exact h.read _ _ (snapshot?_of_broadcast? hb)

/-- The step lemma. -/
theorem AllGenuine.step (h : AllGenuine unmarshal file loader events s)
    (hrun : run unmarshal file loader events = some s) (hstep : Step unmarshal s event s') :
    AllGenuine unmarshal file loader events s' where
  read := by
    intro k p hp
    rcases hstep.snapshot k with hsame | ⟨reason, _, _, _, hread⟩
    · exact h.read k p (hsame.symm.trans hp)
    · cases hread.symm.trans hp
      exact genuine_current hrun reason
  initial := by
    intro c call p hcall hstage
    rcases hstep.call hcall with hsame | ⟨old, hold, hbecomes⟩ | ⟨id, _, _, rfl⟩
    · exact h.initial c call p hsame hstage
    · cases hbecomes with
      | current _ =>
          cases hstage
          exact genuine_current hrun _
      | sent _ _ => exact h.initial c old p hold hstage
      | failed _ => exact h.initial c old p hold hstage
      | closed _ _ => exact h.initial c old p hold hstage
      | disconnected => exact h.initial c old p hold hstage
      | _ => cases hstage
    · cases hstage
  sent := by
    intro c call hcall p hp
    rcases hstep.sent hcall with hnil | ⟨old, hold, hsame | ⟨q, hdelivers, hmore⟩⟩
    · rw [hnil] at hp
      cases hp
    · rw [hsame] at hp
      exact h.sent c old hold p hp
    · rw [hmore] at hp
      rcases List.mem_append.mp hp with hp | hp
      · exact h.sent c old hold p hp
      · rw [List.mem_singleton.mp hp]
        exact h.delivers hdelivers

/-- The run lemma. -/
theorem allGenuine_run (hrun : run unmarshal file loader events = some s) :
    AllGenuine unmarshal file loader events s := by
  refine follow_invariant (P := AllGenuine unmarshal file loader) ?_ ?_ events s hrun
  · exact ⟨nofun, nofun, nofun⟩
  · intro as e t t' hrun' hgenuine hstep
    exact (hgenuine.step hrun' (step_cases hstep).2).append [e]

/-- Whatever the loader has held is the validated parse of its text. -/
theorem held_parses {l : Loader} (hnew : Loader.new unmarshal file = .ok loader)
    (hheld : Held (step unmarshal) (fun s => s.loading.loader) (init file loader) events l) :
    Parses unmarshal l.rawYaml l.current := by
  obtain ⟨done, _, t, _, hdone, rfl⟩ := hheld
  exact current_parses hnew (run_loading hdone)

/-- **The subscribers agree.** Two snapshots sent on any streams under one version carry the
same text; it parses to a config that `validate` accepts, and under the version the loader
has it is the loader's. -/
theorem subscribers_agree (unmarshal : Str → Option GatewayConfig) (file : Option Str)
    (loader : Loader) (hnew : Loader.new unmarshal file = .ok loader) (events : List Event)
    (s : Server) (hrun : run unmarshal file loader events = some s) (c : ℕ) (call : SubscribeCall)
    (hcall : s.calls[c]? = some call) (p : Snapshot) (hp : p ∈ call.sent) :
    (∀ (c' : ℕ) (call' : SubscribeCall), s.calls[c']? = some call' → ∀ q ∈ call'.sent,
      q.version = p.version → q.configYaml = p.configYaml) ∧
      (∃ cfg, Parses unmarshal p.configYaml cfg) ∧
      (p.version = s.loading.loader.version → p.configYaml = s.loading.loader.rawYaml) := by
  have hgenuine := allGenuine_run hrun
  obtain ⟨l, hheld, hversion, hyaml⟩ := hgenuine.sent c call hcall p hp
  have hversions := versioned unmarshal
  refine ⟨?_, ⟨l.current, ?_⟩, ?_⟩
  · intro c' call' hcall' q hq hsame
    obtain ⟨l', hheld', hversion', hyaml'⟩ := hgenuine.sent c' call' hcall' q hq
    rw [hyaml, hyaml', hversions.eq_of_version hheld' hheld (by omega)]
  · rw [hyaml]
    exact held_parses hnew hheld
  · intro hcurrent
    rw [hyaml, hversions.eq_of_version hheld (held_now hrun) (hversion.symm.trans hcurrent)]

/-- One data plane is there before a reload, another comes after it. -/
def twoPlanesRun : List Event :=
  [.subscribe "x".toList, .call 0 .current, .call 0 (.sendInitial true),
    .load (.write (some newYaml)), .reload .admin, .load (.read 0), .load (.install 0),
    .handler 0 .current, .handler 0 .list, .handler 0 (.sender 0 (.send true)),
    .handler 0 .finish, .subscribe "y".toList, .call 1 .current, .call 1 (.sendInitial true)]

theorem subscribers_agree_reloaded :
    ∃ s, run unmarshalBoth (some oldYaml) oldLoader twoPlanesRun = some s ∧
      ∃ call, s.calls[1]? = some call ∧
        ∀ q ∈ call.sent, q.version = 2 → q.configYaml = newYaml := by
  refine ⟨_, rfl, _, rfl, ?_⟩
  exact (subscribers_agree unmarshalBoth (some oldYaml) oldLoader rfl twoPlanesRun _ rfl 0 _ rfl
    ⟨2, newYaml, "admin api reload".toList⟩ (by decide)).1 1 _ rfl

/-! ## What streams end with -/

/-- The version the loader has is the one it began with, or some call has installed it. -/
theorem installed_run (hrun : run unmarshal file loader events = some s) :
    s.loading.loader.version = loader.version ∨
      ∃ k : ℕ, s.loading.reloads[k]? = some (.installed s.loading.loader.version) := by
  refine follow_invariant (P := fun _ s => s.loading.loader.version = loader.version ∨
    ∃ k : ℕ, s.loading.reloads[k]? = some (.installed s.loading.loader.version)) (.inl rfl) ?_
    events s hrun
  intro as e t t' _ hold hstep
  have hcases := (step_cases hstep).2
  rcases hcases.installs with hsame | ⟨_, hinstalled⟩
  · rw [hsame]
    refine hold.imp_right ?_
    rintro ⟨k, hk⟩
    exact ⟨k, hcases.version.kept k _ hk⟩
  · exact .inr hinstalled

/-- A call that is blocked has been sent its first snapshot. -/
theorem first_sent_run (hrun : run unmarshal file loader events = some s) {c : ℕ}
    {call : SubscribeCall} (hcall : s.calls[c]? = some call) (hblocked : call.stage = .blocked) :
    call.sent ≠ [] := by
  refine follow_invariant (P := fun _ s => ∀ (c : ℕ) (call : SubscribeCall),
    s.calls[c]? = some call → call.stage = .blocked → call.sent ≠ []) ?_ ?_ events s hrun c call
    hcall hblocked
  · intro c call hcall
    cases hcall
  · intro as e t t' _ hsent hstep c call hcall hblocked
    rcases (step_cases hstep).2.call hcall with hsame | ⟨old, hold, hbecomes⟩ | ⟨id, _, _, rfl⟩
    · exact hsent c call hsame hblocked
    · cases hbecomes with
      | sent _ _ => simp
      | initialSent _ => simp
      | failed _ => exact hsent c old hold hblocked
      | closed _ _ => exact hsent c old hold hblocked
      | disconnected => exact hsent c old hold hblocked
      | _ => cases hblocked
    · cases hblocked

/-- A broadcast that is complete has reached every call that is blocked and had no failed
`Send`, or something as new has. -/
theorem Serving.reached (h : s.Serving) (hsettled : s.Settled) {k c : ℕ} {handler : Handler}
    {b : Broadcast} {call : SubscribeCall} (hfound : s.handlers[k]? = some handler)
    (hfinished : handler.stage = .finished b) (hcall : s.calls[c]? = some call)
    (hblocked : call.stage = .blocked) (hfailed : call.failed = false) :
    ∃ p ∈ call.sent, b.snapshot.version ≤ p.version := by
  have hb : s.broadcast? k = some b := by
    rw [broadcast?_of_found hfound, Handler.broadcast?, hfinished]
  have hattached : call.attached = true := by
    simp [SubscribeCall.attached, hblocked, hfailed, CallStage.isOpen]
  cases h k b hb c call hcall hattached with
  | later hstage => cases hstage.symm.trans hblocked
  | initial hstage _ => cases hstage.symm.trans hblocked
  | sent hmem hle => exact ⟨_, hmem, hle⟩
  | sending hb' hsender =>
      cases hb'.symm.trans hb
      cases List.all_eq_true.mp (hsettled k handler b hfound hfinished) _
        (List.mem_of_getElem? hsender)

/-- Something as new as the loader was sent to each of them. -/
theorem reached_run (hrun : run unmarshal file loader events = some s)
    (hnodup : (subscribedIds events).Nodup)
    (hreturned : ∀ k h, s.handlers[k]? = some h → s.Returned k h) {c : ℕ} {call : SubscribeCall}
    (hcall : s.calls[c]? = some call) (hblocked : call.stage = .blocked)
    (hfailed : call.failed = false) : ∃ p ∈ call.sent, s.loading.loader.version ≤ p.version := by
  rcases installed_run hrun with hfirst | ⟨k, hinstalled⟩
  · -- nothing else has been installed
    obtain ⟨p, hp⟩ := List.exists_mem_of_ne_nil _ (first_sent_run hrun hcall hblocked)
    obtain ⟨l, hheld, hversion, _⟩ := (allGenuine_run hrun).sent c call hcall p hp
    have hold := ((versioned unmarshal).version_mem hrun hheld).1
    refine ⟨p, hp, ?_⟩
    rw [hfirst, hversion]
    exact hold
  · obtain ⟨h, hfound⟩ : ∃ h, s.handlers[k]? = some h := by
      have hlt := (List.getElem?_eq_some_iff.mp hinstalled).1
      rw [← paired_run hrun] at hlt
      exact ⟨_, List.getElem?_eq_getElem hlt⟩
    rcases hreturned k h hfound with ⟨b, hfinished⟩ | ⟨e, he⟩
    · obtain ⟨p, hp, hle⟩ := (serving_run hrun hnodup).reached (settled_run hrun) hfound hfinished
        hcall hblocked hfailed
      have hsnapshot : s.snapshot? k = some b.snapshot := by
        rw [snapshot?_of_found hfound, Handler.snapshot?, hfinished]
      obtain ⟨v, hv, hvb⟩ := ((dated_run hrun).read k _ hsnapshot).2
      cases hv.symm.trans hinstalled
      exact ⟨p, hp, hvb.trans hle⟩
    · cases he.symm.trans hinstalled

/-- **The streams are current.** With distinct ids, once all handlers have returned, every
call that is blocked and had no failed `Send` was sent what the loader holds; and in a run in
which no `Send` overtook an older snapshot, that is the last it was sent. -/
theorem streams_current (unmarshal : Str → Option GatewayConfig) (file : Option Str)
    (loader : Loader) (events : List Event) (s : Server)
    (hrun : run unmarshal file loader events = some s) (hnodup : (subscribedIds events).Nodup)
    (hreturned : ∀ k h, s.handlers[k]? = some h → s.Returned k h) (c : ℕ) (call : SubscribeCall)
    (hcall : s.calls[c]? = some call) (hblocked : call.stage = .blocked)
    (hfailed : call.failed = false) :
    (∃ p ∈ call.sent, p.version = s.loading.loader.version ∧
      p.configYaml = s.loading.loader.rawYaml) ∧
      (Meets (step unmarshal) NotOvertaking (init file loader) events →
        ∃ last, call.sent.getLast? = some last ∧ last.version = s.loading.loader.version ∧
          last.configYaml = s.loading.loader.rawYaml) := by
  have hcurrent : ∀ p ∈ call.sent, s.loading.loader.version ≤ p.version →
      p.version = s.loading.loader.version ∧ p.configYaml = s.loading.loader.rawYaml := by
    intro p hp hle
    obtain ⟨l, hheld, hversion, hyaml⟩ := (allGenuine_run hrun).sent c call hcall p hp
    have hsame : p.version = s.loading.loader.version :=
      ((dated_run hrun).sent c call hcall p hp).antisymm hle
    rw [hyaml, (versioned unmarshal).eq_of_version hheld (held_now hrun)
      (hversion.symm.trans hsame)]
    exact ⟨hsame, rfl⟩
  obtain ⟨p, hp, hle⟩ := reached_run hrun hnodup hreturned hcall hblocked hfailed
  refine ⟨⟨p, hp, hcurrent p hp hle⟩, ?_⟩
  intro hok
  obtain ⟨before, last, hsent⟩ := List.eq_nil_or_concat call.sent |>.resolve_left
    (List.ne_nil_of_mem hp)
  rw [List.concat_eq_append] at hsent
  refine ⟨last, by rw [hsent, List.getLast?_concat], hcurrent last (by simp [hsent]) ?_⟩
  have hordered := (ordered_run hrun hok).sent c call hcall
  rw [hsent, List.pairwise_append] at hordered
  rw [hsent] at hp
  rcases List.mem_append.mp hp with hp | hp
  · exact hle.trans (hordered.2.2 p hp last (List.mem_singleton_self last))
  · rw [← List.mem_singleton.mp hp]
    exact hle

theorem streams_current_reloaded :
    ∃ s, run unmarshalBoth (some oldYaml) oldLoader twoPlanesRun = some s ∧
      ∃ call, s.calls[0]? = some call ∧ ∃ p ∈ call.sent, p.version = s.loading.loader.version ∧
        p.configYaml = s.loading.loader.rawYaml := by
  refine ⟨_, rfl, _, rfl, ?_⟩
  refine (streams_current unmarshalBoth (some oldYaml) oldLoader twoPlanesRun _ rfl (by decide) ?_
    0 _ rfl rfl rfl).1
  intro k h hfound
  cases k with
  | zero =>
      cases hfound
      exact .inl ⟨_, rfl⟩
  | succ k => cases hfound

end Server

end Stateform.ControlPlane
