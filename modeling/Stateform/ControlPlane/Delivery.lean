import Stateform.ControlPlane.Registration

/-!
# What a stream is sent

A snapshot is read from the loader in one step and sent in another. Until then
it is pending: as the first snapshot of its call, in a handler that is about to
list the subscribers, or in a goroutine that has not sent yet. As long as no
`Send` overtakes an older pending snapshot, the versions on every stream are in
order (`versions_in_order`). That no version is lost needs no such condition
(`no_lost_update`): a call registers before it reads, and a handler installs and
reads before it lists.
-/

namespace Stateform.ControlPlane

open Library

namespace Server

variable {unmarshal : Str → Option GatewayConfig} {s s' : Server} {event : Event}

/-! ## Versions -/

theorem Step.version (hstep : Step unmarshal s event s') : s.loading.Grows s'.loading := by
  have hsame : s.loading.Grows s.loading := ⟨le_rfl, fun _ _ h => h, fun _ _ h => .inl h⟩
  cases hstep with
  | load _ hload => exact Loading.step_grows hload
  | reload source => exact s.loading.grows_start
  | _ => exact hsame

/-- No snapshot is newer than the loader, and none is older than what its handler
installed. -/
structure Dated (s : Server) : Prop where
  installed : ∀ (k v : ℕ), s.loading.reloads[k]? = some (.installed v) →
    v ≤ s.loading.loader.version
  read : ∀ (k : ℕ) p, s.snapshot? k = some p →
    p.version ≤ s.loading.loader.version ∧
      ∃ v, s.loading.reloads[k]? = some (.installed v) ∧ v ≤ p.version
  initial : ∀ (c : ℕ) (call : SubscribeCall) p, s.calls[c]? = some call →
    call.stage = .sendingInitial p → p.version ≤ s.loading.loader.version
  sent : ∀ (c : ℕ) (call : SubscribeCall), s.calls[c]? = some call →
    ∀ p ∈ call.sent, p.version ≤ s.loading.loader.version

/-- The snapshot of a broadcast is the one its handler has read. -/
theorem snapshot?_of_broadcast? {k : ℕ} {b : Broadcast} (h : s.broadcast? k = some b) :
    s.snapshot? k = some b.snapshot := by
  obtain ⟨handler, hfound, hb⟩ := Option.bind_eq_some_iff.mp h
  rw [snapshot?, hfound]
  show handler.snapshot? = some b.snapshot
  unfold Handler.broadcast? at hb
  unfold Handler.snapshot?
  split at hb <;> simp_all

theorem Dated.step (h : s.Dated) (hstep : Step unmarshal s event s') : s'.Dated where
  installed := by
    intro k v hk
    rcases hstep.version.latest k v hk with hold | hnew
    · exact (h.installed k v hold).trans hstep.version.version
    · exact hnew.le
  read := by
    intro k p hp
    rcases hstep.snapshot k with hsame | ⟨reason, v, _, hinstalled, hread⟩
    · rw [hsame] at hp
      obtain ⟨hle, v, hv, hvp⟩ := h.read k p hp
      exact ⟨hle.trans hstep.version.version, v, hstep.version.kept k v hv, hvp⟩
    · cases hread.symm.trans hp
      exact ⟨hstep.version.version, v, hstep.version.kept k v hinstalled,
        h.installed k v hinstalled⟩
  initial := by
    intro c call p hcall hstage
    rcases hstep.call hcall with hsame | ⟨old, hold, hbecomes⟩ | ⟨id, _, _, rfl⟩
    · exact (h.initial c call p hsame hstage).trans hstep.version.version
    · cases hbecomes with
      | current _ =>
          cases hstage
          exact hstep.version.version
      | sent _ _ => exact (h.initial c old p hold hstage).trans hstep.version.version
      | failed _ => exact (h.initial c old p hold hstage).trans hstep.version.version
      | closed _ _ => exact (h.initial c old p hold hstage).trans hstep.version.version
      | disconnected => exact (h.initial c old p hold hstage).trans hstep.version.version
      | _ => cases hstage
    · cases hstage
  sent := by
    intro c call hcall p hp
    rcases hstep.call hcall with hsame | ⟨old, hold, hbecomes⟩ | ⟨id, _, _, rfl⟩
    · exact (h.sent c call hsame p hp).trans hstep.version.version
    · refine le_trans ?_ hstep.version.version
      cases hbecomes with
      | sent hb _ =>
          rcases List.mem_append.mp hp with hp | hp
          · exact h.sent c old hold p hp
          · rw [List.mem_singleton.mp hp]
            exact (h.read _ _ (snapshot?_of_broadcast? hb)).1
      | initialSent hstage =>
          rcases List.mem_append.mp hp with hp | hp
          · exact h.sent c old hold p hp
          · rw [List.mem_singleton.mp hp]
            exact h.initial c old _ hold hstage
      | _ => exact h.sent c old hold p hp
    · cases hp

theorem dated_run {file : Option Str} {loader : Loader} {events : List Event}
    (hrun : run unmarshal file loader events = some s) : s.Dated := by
  refine follow_invariant (P := fun _ s => s.Dated) ?_ ?_ events s hrun
  · exact ⟨nofun, nofun, nofun, nofun⟩
  · intro as e t t' _ hdated hstep
    exact hdated.step (step_cases hstep).2

/-! ## Snapshots on their way -/

/-- A snapshot was read for stream `c` and is still to be sent on it. -/
inductive Pending (s : Server) (c : ℕ) (p : Snapshot) : Prop where
  | initial {call : SubscribeCall} (hcall : s.calls[c]? = some call)
      (hstage : call.stage = .sendingInitial p)
  | read {k : ℕ} {id : Str} (hread : s.snapshot? k = some p) (hb : s.broadcast? k = none)
      (hlookup : s.subscribers.lookup id = some c)
  | sending {k j : ℕ} {b : Broadcast} (hb : s.broadcast? k = some b)
      (hsender : b.senders[j]? = some ⟨c, .sending⟩) (hsnapshot : b.snapshot = p)

/-- The step sends a snapshot on stream `c`. -/
inductive Delivers (s : Server) (c : ℕ) : Event → Snapshot → Prop where
  | initial {call : SubscribeCall} {p : Snapshot} (hcall : s.calls[c]? = some call)
      (hstage : call.stage = .sendingInitial p) : Delivers s c (.call c (.sendInitial true)) p
  | broadcast {k j : ℕ} {b : Broadcast} (hb : s.broadcast? k = some b)
      (hsender : b.senders[j]? = some ⟨c, .sending⟩) :
      Delivers s c (.handler k (.sender j (.send true))) b.snapshot

theorem Delivers.pending {c : ℕ} {p : Snapshot} (h : s.Delivers c event p) : s.Pending c p := by
  cases h with
  | initial hcall hstage => exact .initial hcall hstage
  | broadcast hb hsender => exact .sending hb hsender rfl

theorem Pending.version_le {c : ℕ} {p : Snapshot} (h : s.Pending c p) (hdated : s.Dated) :
    p.version ≤ s.loading.loader.version := by
  cases h with
  | initial hcall hstage => exact hdated.initial c _ p hcall hstage
  | read hread _ _ => exact (hdated.read _ p hread).1
  | sending hb _ hsnapshot =>
      subst hsnapshot
      exact (hdated.read _ _ (snapshot?_of_broadcast? hb)).1

/-- What was sent on a stream is what had been sent, and perhaps one more. -/
theorem Step.sent (hstep : Step unmarshal s event s') {c : ℕ} {call' : SubscribeCall}
    (hfound : s'.calls[c]? = some call') :
    call'.sent = [] ∨ ∃ call, s.calls[c]? = some call ∧
      (call'.sent = call.sent ∨ ∃ p, s.Delivers c event p ∧ call'.sent = call.sent ++ [p]) := by
  rcases hstep.call hfound with hsame | ⟨call, hcall, hbecomes⟩ | ⟨id, _, _, rfl⟩
  · exact .inr ⟨call', hsame, .inl rfl⟩
  · refine .inr ⟨call, hcall, ?_⟩
    cases hbecomes with
    | sent hb hsender => exact .inr ⟨_, .broadcast hb hsender, rfl⟩
    | initialSent hstage => exact .inr ⟨_, .initial hcall hstage, rfl⟩
    | _ => exact .inl rfl
  · exact .inl rfl

/-- A pending snapshot was pending before, or it is for a new stream, or it is
read now. -/
theorem Step.pending (hstep : Step unmarshal s event s') {c : ℕ} {p : Snapshot}
    (h : s'.Pending c p) :
    s.Pending c p ∨ s.calls[c]? = none ∨ p.version = s.loading.loader.version := by
  cases h with
  | initial hcall hstage =>
      rcases hstep.call hcall with hsame | ⟨old, hold, hbecomes⟩ | ⟨id, _, _, rfl⟩
      · exact .inl (.initial hsame hstage)
      · cases hbecomes with
        | current _ =>
            cases hstage
            exact .inr (.inr rfl)
        | sent _ _ => exact .inl (.initial hold hstage)
        | failed _ => exact .inl (.initial hold hstage)
        | closed _ _ => exact .inl (.initial hold hstage)
        | disconnected => exact .inl (.initial hold hstage)
        | _ => cases hstage
      · cases hstage
  | @read k id hread hb hlookup =>
      rcases hstep.snapshot k with hsame | ⟨reason, v, _, _, hnow⟩
      · rcases hstep.lookup id with hsame' | ⟨_, hnew⟩ | ⟨_, hnone⟩
        · refine .inl (.read (hsame.symm.trans hread) ?_ (hsame'.symm.trans hlookup))
          rcases hstep.broadcast k with hsame'' | ⟨_, _, _, b', _, _, _, hb'⟩ | ⟨_, hnone, _⟩
          · exact hsame''.symm.trans hb
          · cases hb'.symm.trans hb
          · exact hnone
        · cases hnew.symm.trans hlookup
          exact .inr (.inl (List.getElem?_eq_none le_rfl))
        · cases hnone.symm.trans hlookup
      · cases hnow.symm.trans hread
        exact .inr (.inr rfl)
  | @sending k j b hb hsender hsnapshot =>
      subst hsnapshot
      rcases hstep.broadcast k with hsame | ⟨old, j', action, b', _, hold, hgoes, hb'⟩ |
        ⟨_, hnone, snapshot, hread, hb'⟩
      · exact .inl (.sending (hsame.symm.trans hb) hsender rfl)
      · cases hb'.symm.trans hb
        cases hgoes with
        | on hsender' _ hmoves =>
            rw [show (old.senders.set j' _)[j]? = _ from getElem?_replaced hsender' _ j] at hsender
            split at hsender
            · exact absurd (congrArg Sender.stage (Option.some.inj hsender)) hmoves.ne_sending
            · exact .inl (.sending hold hsender rfl)
      · cases hb'.symm.trans hb
        obtain ⟨id, hlookup⟩ := lookup_of_begun hsender
        exact .inl (.read hread hnone hlookup)

/-! ## Order on a stream -/

/-- The versions on each stream are in order, and those on their way to it come
after them. -/
structure Ordered (s : Server) : Prop where
  sent : ∀ (c : ℕ) (call : SubscribeCall), s.calls[c]? = some call →
    call.sent.Pairwise (·.version ≤ ·.version)
  pending : ∀ (c : ℕ) (call : SubscribeCall) (p : Snapshot), s.calls[c]? = some call →
    s.Pending c p → ∀ x ∈ call.sent, x.version ≤ p.version

/-- The step sends no snapshot on a stream to which an older one is on its way. -/
def NotOvertaking (s : Server) (event : Event) : Prop :=
  ∀ c v p, s.Delivers c event v → s.Pending c p → v.version ≤ p.version

/-- The step lemma: a step that does not overtake keeps the order. -/
theorem Ordered.step (h : s.Ordered) (hdated : s.Dated) (hok : s.NotOvertaking event)
    (hstep : Step unmarshal s event s') : s'.Ordered where
  sent := by
    intro c call' hcall'
    rcases hstep.sent hcall' with hnil | ⟨call, hcall, hsame | ⟨p, hdelivers, hmore⟩⟩
    · rw [hnil]
      exact .nil
    · rw [hsame]
      exact h.sent c call hcall
    · rw [hmore, List.pairwise_append]
      refine ⟨h.sent c call hcall, List.pairwise_singleton _ _, ?_⟩
      intro x hx y hy
      rw [List.mem_singleton.mp hy]
      exact h.pending c call p hcall hdelivers.pending x hx
  pending := by
    intro c call' p hcall' hpending x hx
    rcases hstep.sent hcall' with hnil | ⟨call, hcall, hsent⟩
    · rw [hnil] at hx
      cases hx
    rcases hstep.pending hpending with hold | hnone | hnow
    · rcases hsent with hsame | ⟨v, hdelivers, hmore⟩
      · rw [hsame] at hx
        exact h.pending c call p hcall hold x hx
      · rw [hmore] at hx
        rcases List.mem_append.mp hx with hx | hx
        · exact h.pending c call p hcall hold x hx
        · rw [List.mem_singleton.mp hx]
          exact hok c v p hdelivers hold
    · cases hnone.symm.trans hcall
    · -- nothing sent so far is newer than the loader
      rw [hnow]
      rcases hsent with hsame | ⟨v, hdelivers, hmore⟩
      · rw [hsame] at hx
        exact hdated.sent c call hcall x hx
      · rw [hmore] at hx
        rcases List.mem_append.mp hx with hx | hx
        · exact hdated.sent c call hcall x hx
        · rw [List.mem_singleton.mp hx]
          exact hdelivers.pending.version_le hdated

/-- The run lemma. -/
theorem ordered_run {file : Option Str} {loader : Loader} {events : List Event}
    (hrun : run unmarshal file loader events = some s)
    (hok : Meets (step unmarshal) NotOvertaking (init file loader) events) : s.Ordered := by
  refine meets_invariant (P := fun _ s => s.Ordered) ?_ ?_ events s hok hrun
  · exact ⟨nofun, nofun⟩
  · intro as e t t' hrun' hordered hok' hstep
    exact hordered.step (dated_run hrun') hok' (step_cases hstep).2

/-! ## The condition is exact -/

/-- The goroutines of the broadcasts that have finished are over. -/
def Settled (s : Server) : Prop :=
  ∀ (k : ℕ) (h : Handler) (b : Broadcast), s.handlers[k]? = some h → h.stage = .finished b →
    b.senders.all Sender.over = true

theorem settled_run {file : Option Str} {loader : Loader} {events : List Event}
    (hrun : run unmarshal file loader events = some s) : s.Settled := by
  refine follow_invariant (P := fun _ s => s.Settled) nofun ?_ events s hrun
  intro as e t t' _ hsettled hstep k h b hfound hstage
  rcases (step_cases hstep).2.finished hfound hstage with hsame | hover
  · exact hsettled k h b hsame hstage
  · exact hover

theorem Settled.broadcasting (hsettled : s.Settled) {k j : ℕ} {b : Broadcast} {sender : Sender}
    (hb : s.broadcast? k = some b) (hsender : b.senders[j]? = some sender)
    (hunder : sender.over = false) : ∃ h, s.handlers[k]? = some h ∧ h.stage = .broadcasting b := by
  obtain ⟨h, hfound, hb⟩ := Option.bind_eq_some_iff.mp hb
  unfold Handler.broadcast? at hb
  split at hb
  · next hstage =>
      cases hb
      exact ⟨h, hfound, hstage⟩
  · next hstage =>
      cases hb
      have hover := List.all_eq_true.mp (hsettled k h b hfound hstage) _
        (List.mem_of_getElem? hsender)
      cases hover.symm.trans hunder
  · cases hb

/-- A goroutine that has not sent can send. -/
theorem sending_arrives (unmarshal : Str → Option GatewayConfig) (hlive : s.panicked = false)
    {k j c : ℕ} {h : Handler} {b : Broadcast} {call : SubscribeCall}
    (hfound : s.handlers[k]? = some h) (hstage : h.stage = .broadcasting b)
    (hsender : b.senders[j]? = some ⟨c, .sending⟩) (hcall : s.calls[c]? = some call) :
    ∃ s' call', s.step unmarshal (.handler k (.sender j (.send true))) = some s' ∧
      s'.calls[c]? = some call' ∧ call'.sent = call.sent ++ [b.snapshot] := by
  refine ⟨(s.setSender k h b j ⟨c, .sent⟩).setCall c _,
    { call with sent := call.sent ++ [b.snapshot] }, ?_, getElem?_replaced_self hcall _, rfl⟩
  rw [step_sender hlive hfound hstage hsender hcall]
  rfl

/-- A pending snapshot may arrive before anything else does. -/
theorem Pending.arrives (unmarshal : Str → Option GatewayConfig) {c : ℕ} {p : Snapshot}
    (hpending : s.Pending c p) (hsettled : s.Settled) (hlive : s.panicked = false)
    {call : SubscribeCall} (hcall : s.calls[c]? = some call) :
    ∃ more s' call', follow (step unmarshal) s more = some s' ∧ s'.calls[c]? = some call' ∧
      call'.sent = call.sent ++ [p] := by
  cases hpending with
  | @initial old hold hstage =>
      cases hold.symm.trans hcall
      refine ⟨[.call c (.sendInitial true)], s.setCall c _,
        { call with stage := .blocked, sent := call.sent ++ [p] }, ?_,
        getElem?_replaced_self hcall _, rfl⟩
      rw [follow_cons, step, if_neg (Bool.eq_false_iff.mp hlive), hcall]
      show (s.callStep c call (.sendInitial true)).bind _ = _
      rw [callStep, hstage]
      rfl
  | @read k id hread hb hlookup =>
      obtain ⟨h, hfound, hp⟩ := Option.bind_eq_some_iff.mp hread
      have hstage : h.stage = .snapshotRead p := by
        have hnone : h.broadcast? = none := by
          rw [broadcast?, hfound] at hb
          exact hb
        unfold Handler.snapshot? at hp
        unfold Handler.broadcast? at hnone
        split at hp <;> simp_all
      obtain ⟨b, j, hlisted, rfl, hsender⟩ := listed_of_lookup hlookup p
      have hlist : s.step unmarshal (.handler k .list) =
          some (s.setStage k h (.broadcasting b)) := by
        rw [step_handler hlive hfound, handlerStep, hstage, ← hlisted]
      have hfound' := getElem?_replaced_self hfound { h with stage := .broadcasting b }
      rcases sending_arrives (s := s.setStage k h (.broadcasting b)) unmarshal hlive hfound' rfl
        hsender hcall with ⟨s', call', hsend, hcall', hsent⟩
      refine ⟨[.handler k .list, .handler k (.sender j (.send true))], s', call', ?_, hcall', hsent⟩
      rw [follow_cons, hlist]
      show (step unmarshal _ _).bind _ = _
      rw [hsend]
      rfl
  | @sending k j b hb hsender hsnapshot =>
      subst hsnapshot
      obtain ⟨h, hfound, hstage⟩ := hsettled.broadcasting hb hsender rfl
      obtain ⟨s', call', hsend, hcall', hsent⟩ :=
        sending_arrives unmarshal hlive hfound hstage hsender hcall
      refine ⟨[.handler k (.sender j (.send true))], s', call', ?_, hcall', hsent⟩
      rw [follow_cons, hsend]
      rfl

/-- Another snapshot's arrival leaves a pending one pending. -/
theorem Pending.persists {c : ℕ} {p v : Snapshot} (hpending : s.Pending c p)
    (hdelivers : s.Delivers c event v) (hne : p ≠ v) (hstep : Step unmarshal s event s') :
    s'.Pending c p := by
  cases hpending with
  | @initial call hcall hstage =>
      obtain ⟨call', hcall'⟩ := hstep.call_exists hcall
      rcases hstep.call hcall' with hsame | ⟨old, hold, hbecomes⟩ | ⟨id, hevent, _, _⟩
      · cases hsame.symm.trans hcall
        exact .initial hcall' hstage
      · cases hold.symm.trans hcall
        cases hbecomes with
        | sent _ _ => exact .initial hcall' hstage
        | initialSent hstage' =>
            cases hstage'.symm.trans hstage
            cases hdelivers with
            | initial hcall₀ hstage₀ =>
                cases hcall₀.symm.trans hcall
                cases hstage₀.symm.trans hstage
                exact absurd rfl hne
        | _ => cases hdelivers
      · subst hevent
        cases hdelivers
  | @read k id hread hb hlookup =>
      have hread' : s'.snapshot? k = some p := by
        rcases hstep.snapshot k with hsame | ⟨_, _, hevent, _⟩
        · exact hsame.trans hread
        · subst hevent
          cases hdelivers
      have hb' : s'.broadcast? k = none := by
        rcases hstep.broadcast k with hsame | ⟨b, _, _, _, _, hb', _⟩ | ⟨hevent, _⟩
        · exact hsame.trans hb
        · cases hb.symm.trans hb'
        · subst hevent
          cases hdelivers
      have hlookup' : s'.subscribers.lookup id = some c := by
        rcases hstep.lookup id with hsame | ⟨hevent, _⟩ |
          ⟨⟨_, _, hevent, _⟩ | ⟨_, _, _, hevent, _⟩, _⟩
        · exact hsame.trans hlookup
        all_goals
          subst hevent
          cases hdelivers
      exact .read hread' hb' hlookup'
  | @sending k j b hb hsender hsnapshot =>
      rcases hstep.broadcast k with hsame | ⟨old, j', action, b', hevent, hold, hgoes, hb'⟩ |
        ⟨hevent, _⟩
      · exact .sending (hsame.trans hb) hsender hsnapshot
      · cases hold.symm.trans hb
        have hj : j ≠ j' := by
          rintro rfl
          subst hevent
          cases hdelivers with
          | broadcast hb₀ hsender₀ =>
              cases hb₀.symm.trans hb
              exact hne hsnapshot.symm
        cases hgoes with
        | on hsender' _ _ =>
            exact .sending hb' ((getElem?_replaced_ne hsender' _ hj).trans hsender) hsnapshot
      · subst hevent
        cases hdelivers

theorem Delivers.mem_sent {c : ℕ} {p : Snapshot} (h : s.Delivers c event p)
    (hstep : Step unmarshal s event s') : ∃ call, s'.calls[c]? = some call ∧ p ∈ call.sent := by
  cases h with
  | initial hcall hstage =>
      cases hstep with
      | initialOk hcall' hstage' =>
          cases hcall.symm.trans hcall'
          cases hstage.symm.trans hstage'
          exact ⟨_, getElem?_replaced_self hcall _, by simp⟩
  | broadcast hb hsender =>
      cases hstep with
      | sendOk hfound hstage hsender' hcall _ =>
          cases hb.symm.trans (broadcast?_of_stage hfound hstage)
          cases hsender.symm.trans hsender'
          exact ⟨_, getElem?_replaced_self hcall _, by simp⟩

/-- **The condition is exact**: after a `Send` that overtakes a pending snapshot, that
one may arrive next, and then the versions on the stream have decreased. -/
theorem overtaking_decreases {file : Option Str} {loader : Loader} {events : List Event}
    (hrun : run unmarshal file loader events = some s)
    (hstep : s.step unmarshal event = some s') (hovertakes : ¬ s.NotOvertaking event) :
    ∃ (more : List Event) (s'' : Server) (c : ℕ) (call : SubscribeCall),
      follow (step unmarshal) s' more = some s'' ∧ s''.calls[c]? = some call ∧
        ¬ call.sent.Pairwise (·.version ≤ ·.version) := by
  simp only [NotOvertaking, not_forall, not_le] at hovertakes
  obtain ⟨c, v, p, hdelivers, hpending, holder⟩ := hovertakes
  have hcases := (step_cases hstep).2
  have hlive : s'.panicked = false := by
    rw [← (step_cases hstep).1]
    cases hdelivers <;> cases hcases <;> rfl
  obtain ⟨call, hcall, hsent⟩ := hdelivers.mem_sent hcases
  have hpersists := hpending.persists hdelivers (by rintro rfl; omega) hcases
  obtain ⟨more, s'', call', hfollow, hcall', hmore⟩ :=
    hpersists.arrives unmarshal (settled_run (run_snoc hrun hstep)) hlive hcall
  refine ⟨more, s'', c, call', hfollow, hcall', ?_⟩
  intro hpairwise
  rw [hmore, List.pairwise_append] at hpairwise
  have hle := hpairwise.2.2 v hsent p (List.mem_singleton_self p)
  omega

/-- **The versions on every stream are in order**, in every run in which no `Send`
overtakes a pending older snapshot; so the last one sent is the newest. -/
theorem versions_in_order (unmarshal : Str → Option GatewayConfig) (file : Option Str)
    (loader : Loader) (events : List Event) (s : Server)
    (hrun : run unmarshal file loader events = some s)
    (hok : Meets (step unmarshal) NotOvertaking (init file loader) events) :
    ∀ (c : ℕ) (call : SubscribeCall), s.calls[c]? = some call →
      call.sent.Pairwise (·.version ≤ ·.version) ∧
        ∀ last, call.sent.getLast? = some last → ∀ p ∈ call.sent, p.version ≤ last.version := by
  intro c call hcall
  have hordered := (ordered_run hrun hok).sent c call hcall
  refine ⟨hordered, ?_⟩
  intro last hlast p hp
  obtain ⟨before, hsent⟩ := List.getLast?_eq_some_iff.mp hlast
  rw [hsent] at hp hordered
  rcases List.mem_append.mp hp with hp | hp
  · exact (List.pairwise_append.mp hordered).2.2 p hp last (List.mem_singleton_self last)
  · rw [List.mem_singleton.mp hp]

/-- The first snapshot of a call is read, then the config is reloaded and broadcast,
and the first snapshot is sent after that. -/
def overtakenRun : List Event :=
  [.subscribe "x".toList, .call 0 .current, .load (.write (some newYaml)), .reload .admin,
    .load (.read 0), .load (.install 0), .handler 0 .current, .handler 0 .list,
    .handler 0 (.sender 0 (.send true)), .call 0 (.sendInitial true)]

theorem initial_snapshot_rolls_back :
    ¬ ∀ (unmarshal : Str → Option GatewayConfig) (file : Option Str) (loader : Loader)
      (events : List Event) (s : Server), run unmarshal file loader events = some s →
      ∀ (c : ℕ) (call : SubscribeCall), s.calls[c]? = some call →
        call.sent.Pairwise (·.version ≤ ·.version) := by
  intro hall
  have hordered := hall unmarshalBoth (some oldYaml) oldLoader overtakenRun _ rfl 0 _ rfl
  exact absurd hordered (by decide)

/-- What a step sends, and on which stream. -/
def delivered (s : Server) : Event → Option (ℕ × Snapshot)
  | .call c (.sendInitial true) =>
      (s.calls[c]?).bind fun call =>
        match call.stage with
        | .sendingInitial p => some (c, p)
        | _ => none
  | .handler k (.sender j (.send true)) =>
      (s.broadcast? k).bind fun b => (b.senders[j]?).map fun sender => (sender.call, b.snapshot)
  | _ => none

theorem delivered_of_delivers {c : ℕ} {v : Snapshot} (h : s.Delivers c event v) :
    s.delivered event = some (c, v) := by
  cases h with
  | initial hcall hstage =>
      show (s.calls[c]?).bind _ = _
      rw [hcall, Option.bind_some, hstage]
  | broadcast hb hsender =>
      show (s.broadcast? _).bind _ = _
      rw [hb, Option.bind_some, hsender]
      rfl

/-- The snapshots on their way to stream `c`, and those a handler may yet send to it. -/
def pendings (s : Server) (c : ℕ) : List Snapshot :=
  (s.calls[c]?).toList.flatMap (fun call =>
    match call.stage with
    | .sendingInitial p => [p]
    | _ => []) ++
  s.handlers.flatMap fun h =>
    match h.broadcast? with
    | none => h.snapshot?.toList
    | some b => if b.senders.any (fun sender => sender = ⟨c, .sending⟩) then [b.snapshot] else []

theorem mem_pendings {c : ℕ} {p : Snapshot} (h : s.Pending c p) : p ∈ s.pendings c := by
  cases h with
  | initial hcall hstage =>
      refine List.mem_append_left _ (List.mem_flatMap.mpr ⟨_, Option.mem_toList.mpr hcall, ?_⟩)
      rw [hstage]
      exact List.mem_singleton.mpr rfl
  | @read k id hread hb _ =>
      obtain ⟨handler, hfound, hsnapshot⟩ := Option.bind_eq_some_iff.mp hread
      have hnone : handler.broadcast? = none := by
        rw [broadcast?, hfound] at hb
        exact hb
      refine List.mem_append_right _
        (List.mem_flatMap.mpr ⟨handler, List.mem_of_getElem? hfound, ?_⟩)
      rw [hnone]
      exact Option.mem_toList.mpr hsnapshot
  | @sending k j b hb hsender hsnapshot =>
      obtain ⟨handler, hfound, hsome⟩ := Option.bind_eq_some_iff.mp hb
      have hany : b.senders.any (fun sender => sender = ⟨c, .sending⟩) = true :=
        List.any_eq_true.mpr ⟨_, List.mem_of_getElem? hsender, decide_eq_true rfl⟩
      refine List.mem_append_right _
        (List.mem_flatMap.mpr ⟨handler, List.mem_of_getElem? hfound, ?_⟩)
      rw [hsome]
      show p ∈ if _ then _ else _
      rw [if_pos hany, hsnapshot]
      exact List.mem_singleton.mpr rfl

/-- A test for `NotOvertaking`. -/
def newestLast (s : Server) (event : Event) : Bool :=
  (s.delivered event).all fun sent => (s.pendings sent.1).all fun p => sent.2.version ≤ p.version

theorem notOvertaking_of_newestLast (s : Server) (event : Event)
    (h : s.newestLast event = true) : s.NotOvertaking event := by
  intro c v p hdelivers hpending
  rw [newestLast, delivered_of_delivers hdelivers, Option.all_some] at h
  exact of_decide_eq_true (List.all_eq_true.mp h p (mem_pendings hpending))

/-- The file is rewritten twice, and both reloads reach the stream after its first snapshot. -/
def threeVersionsRun : List Event :=
  [.subscribe "x".toList, .call 0 .current, .call 0 (.sendInitial true),
    .load (.write (some newYaml)), .reload .admin, .load (.read 0), .load (.install 0),
    .handler 0 .current, .handler 0 .list, .handler 0 (.sender 0 (.send true)),
    .load (.write (some oldYaml)), .reload (.grpc "ops".toList), .load (.read 1),
    .load (.install 1), .handler 1 .current, .handler 0 .finish, .handler 1 .list,
    .handler 1 (.sender 0 (.send true)), .handler 1 .finish]

theorem versions_in_order_three :
    ∃ s call, run unmarshalBoth (some oldYaml) oldLoader threeVersionsRun = some s ∧
      s.calls[0]? = some call ∧ call.sent.map (·.version) = [1, 2, 3] ∧
        call.sent.Pairwise (·.version ≤ ·.version) := by
  have hok : Meets (step unmarshalBoth) NotOvertaking (init (some oldYaml) oldLoader)
      threeVersionsRun :=
    meets_of_tested notOvertaking_of_newestLast _ _ rfl
  refine ⟨_, _, rfl, rfl, rfl, ?_⟩
  exact (versions_in_order _ _ _ _ _ rfl hok 0 _ rfl).1

/-! ## No update is lost -/

/-- Version `v`, which handler `k` broadcasts, is not lost on the stream of call `c`:
the call will still read the loader, or it has read or been sent something as new,
or the broadcast will still send to it. -/
inductive Served (s : Server) (k c : ℕ) (call : SubscribeCall) (v : ℕ) : Prop where
  | later (hstage : call.stage = .registered)
  | initial {p : Snapshot} (hstage : call.stage = .sendingInitial p) (hle : v ≤ p.version)
  | sent {p : Snapshot} (hmem : p ∈ call.sent) (hle : v ≤ p.version)
  | sending {j : ℕ} {b : Broadcast} (hb : s.broadcast? k = some b)
      (hsender : b.senders[j]? = some ⟨c, .sending⟩)

/-- No version that was broadcast is lost on the streams of attached calls. -/
def Serving (s : Server) : Prop :=
  ∀ (k : ℕ) (b : Broadcast), s.broadcast? k = some b →
    ∀ (c : ℕ) (call : SubscribeCall), s.calls[c]? = some call → call.attached = true →
      s.Served k c call b.snapshot.version

/-- A goroutine that sends delivers the snapshot, or leaves its call detached. -/
theorem Served.of_sender {k j c : ℕ} {b b' : Broadcast} {call' : SubscribeCall}
    {action : SenderAction} (hstep : Step unmarshal s event s') (hb : s.broadcast? k = some b)
    (hsender : b.senders[j]? = some ⟨c, .sending⟩) (hb' : s'.broadcast? k = some b')
    (hcall' : s'.calls[c]? = some call') (hattached : call'.attached = true)
    (hevent : event = .handler k (.sender j action)) :
    s'.Served k c call' b.snapshot.version := by
  subst hevent
  cases hstep with
  | sendOk hfound hstage hsender' hcall hsending =>
      cases hb.symm.trans (broadcast?_of_stage hfound hstage)
      cases hsender.symm.trans hsender'
      cases (getElem?_replaced_self hcall _).symm.trans hcall'
      exact .sent (List.mem_append_right _ (List.mem_singleton_self _)) le_rfl
  | sendErr hfound hstage hsender' hcall hsending =>
      cases hb.symm.trans (broadcast?_of_stage hfound hstage)
      cases hsender.symm.trans hsender'
      cases (getElem?_replaced_self hcall _).symm.trans hcall'
      simp [SubscribeCall.attached] at hattached
  | push hfound hstage hsender' _ hpushing _ =>
      cases hb.symm.trans (broadcast?_of_stage hfound hstage)
      cases hsender.symm.trans hsender'
      cases hpushing
  | close hfound hstage hsender' _ hclosing _ =>
      cases hb.symm.trans (broadcast?_of_stage hfound hstage)
      cases hsender.symm.trans hsender'
      cases hclosing
  | closeAgain hfound hstage hsender' _ hclosing _ =>
      cases hb.symm.trans (broadcast?_of_stage hfound hstage)
      cases hsender.symm.trans hsender'
      cases hclosing

/-- What serves a call serves it after a step, or something else does. -/
theorem Served.step {k c : ℕ} {b b' : Broadcast} {call call' : SubscribeCall}
    (h : s.Served k c call b.snapshot.version) (hdated : s.Dated)
    (hstep : Step unmarshal s event s') (hb : s.broadcast? k = some b)
    (hb' : s'.broadcast? k = some b') (hcall : s.calls[c]? = some call)
    (hcall' : s'.calls[c]? = some call') (hattached : call'.attached = true) :
    s'.Served k c call' b.snapshot.version := by
  have hbecomes : call' = call ∨ s.Becomes c call event call' := by
    rcases hstep.call hcall' with hsame | ⟨old, hold, hbecomes⟩ | ⟨id, _, hc, _⟩
    · cases hsame.symm.trans hcall
      exact .inl rfl
    · cases hold.symm.trans hcall
      exact .inr hbecomes
    · rw [hc, List.getElem?_eq_none le_rfl] at hcall
      cases hcall
  cases h with
  | later hstage =>
      rcases hbecomes with rfl | hbecomes
      · exact .later hstage
      · cases hbecomes with
        | current _ => exact .initial rfl (hdated.read k _ (snapshot?_of_broadcast? hb)).1
        | sent _ _ => exact .later hstage
        | failed _ => exact .later hstage
        | closed _ _ => exact .later hstage
        | disconnected => exact .later hstage
        | initialSent hstage' => cases hstage.symm.trans hstage'
        | _ => simp [SubscribeCall.attached, CallStage.isOpen] at hattached
  | initial hstage hle =>
      rcases hbecomes with rfl | hbecomes
      · exact .initial hstage hle
      · cases hbecomes with
        | current hstage' => cases hstage.symm.trans hstage'
        | sent _ _ => exact .initial hstage hle
        | failed _ => exact .initial hstage hle
        | closed _ _ => exact .initial hstage hle
        | disconnected => exact .initial hstage hle
        | initialSent hstage' =>
            cases hstage.symm.trans hstage'
            exact .sent (List.mem_append_right _ (List.mem_singleton_self _)) hle
        | _ => simp [SubscribeCall.attached, CallStage.isOpen] at hattached
  | sent hmem hle =>
      rcases hbecomes with rfl | hbecomes
      · exact .sent hmem hle
      · refine .sent ?_ hle
        cases hbecomes with
        | sent _ _ => exact List.mem_append_left _ hmem
        | initialSent _ => exact List.mem_append_left _ hmem
        | _ => exact hmem
  | @sending j b₀ hb₀ hsender =>
      cases hb₀.symm.trans hb
      rcases hstep.broadcast k with hsame | ⟨old, j', action, b'', hevent, hold, hgoes, hb''⟩ |
        ⟨_, hnone, _⟩
      · exact .sending (hsame.trans hb) hsender
      · cases hold.symm.trans hb
        by_cases hj : j = j'
        · subst hj
          exact .of_sender hstep hb hsender hb' hcall' hattached hevent
        · cases hgoes with
          | on hsender' _ _ =>
              exact .sending hb'' ((getElem?_replaced_ne hsender' _ hj).trans hsender)
      · cases hb.symm.trans hnone

/-- The step lemma. A broadcast that begins lists every attached call, since these
are all registered. -/
theorem Serving.step (h : s.Serving) (hdated : s.Dated)
    (hplaces : Enrolled SubscribeCall.attached s) (hstep : Step unmarshal s event s') :
    s'.Serving := by
  intro k b' hb' c call' hcall' hattached
  -- a call that begins now will read the loader
  rcases hstep.calls hcall' with ⟨call, hcall, hev⟩ | ⟨id, _, _, rfl⟩
  · rcases hstep.broadcast k with hsame | ⟨b, _, _, b'', _, hb, hgoes, hb''⟩ |
      ⟨hevent, _, snapshot, _, hbegun⟩
    · have hb := hsame.symm.trans hb'
      exact (h k b' hb c call hcall (hev.attached hattached)).step hdated hstep hb hb' hcall hcall'
        hattached
    · cases hb''.symm.trans hb'
      have hsnapshot : b'.snapshot = b.snapshot := by
        cases hgoes
        rfl
      rw [hsnapshot]
      exact (h k b hb c call hcall (hev.attached hattached)).step hdated hstep hb hb' hcall hcall'
        hattached
    · have hplace := hplaces c call hcall (hev.attached hattached)
      obtain ⟨j, hj⟩ := begun_of_lookup hplace snapshot
      exact .sending hbegun hj
  · exact .later rfl

theorem serving_run {file : Option Str} {loader : Loader} {events : List Event}
    (hrun : run unmarshal file loader events = some s) (hnodup : (subscribedIds events).Nodup) :
    s.Serving := by
  refine follow_invariant (P := fun events s => (subscribedIds events).Nodup → s.Serving) ?_ ?_
    events s hrun hnodup
  · intro _ k b hb
    cases hb
  · intro as e t t' hrun' hserving hstep hnodup'
    rw [subscribedIds_append] at hnodup'
    have hbefore := hnodup'.of_append_left
    exact (hserving hbefore).step (dated_run hrun') (enrolled_of_nodup hrun' hbefore)
      (step_cases hstep).2

/-- Every `Reload` call is one of a handler. -/
theorem paired_run {file : Option Str} {loader : Loader} {events : List Event}
    (hrun : run unmarshal file loader events = some s) :
    s.handlers.length = s.loading.reloads.length := by
  refine follow_invariant (P := fun _ s => s.handlers.length = s.loading.reloads.length) rfl ?_
    events s hrun
  intro as e t t' _ hpaired hstep
  cases (step_cases hstep).2 with
  | load hne hload => exact hpaired.trans (Loading.step_length hne hload).symm
  | reload source =>
      show (_ ++ [_]).length = (_ ++ [_]).length
      rw [List.length_append, List.length_append, hpaired]
      rfl
  | _ => simpa using hpaired

/-- A handler that has returned: its broadcast is complete, or its reload failed. -/
def Returned (s : Server) (k : ℕ) (h : Handler) : Prop :=
  (∃ b, h.stage = .finished b) ∨ ∃ e, s.loading.reloads[k]? = some (.failed e)

/-- **No update is lost**: with distinct ids, once all handlers have returned, a call
that is still blocked and had no failed `Send` was sent a version at least as new as
every one that a reload installed. -/
theorem no_lost_update (unmarshal : Str → Option GatewayConfig) (file : Option Str)
    (loader : Loader) (events : List Event) (s : Server)
    (hrun : run unmarshal file loader events = some s) (hnodup : (subscribedIds events).Nodup)
    (hreturned : ∀ k h, s.handlers[k]? = some h → s.Returned k h) :
    ∀ (k v : ℕ), s.loading.reloads[k]? = some (.installed v) →
      ∀ (c : ℕ) (call : SubscribeCall), s.calls[c]? = some call → call.stage = .blocked →
        call.failed = false → ∃ p ∈ call.sent, v ≤ p.version := by
  intro k v hinstalled c call hcall hblocked hfailed
  obtain ⟨h, hfound⟩ : ∃ h, s.handlers[k]? = some h := by
    have hlt := (List.getElem?_eq_some_iff.mp hinstalled).1
    rw [← paired_run hrun] at hlt
    exact ⟨_, List.getElem?_eq_getElem hlt⟩
  obtain ⟨b, hfinished⟩ : ∃ b, h.stage = .finished b := by
    rcases hreturned k h hfound with hfinished | ⟨e, he⟩
    · exact hfinished
    · cases he.symm.trans hinstalled
  have hb : s.broadcast? k = some b := by
    rw [broadcast?, hfound]
    show h.broadcast? = some b
    rw [Handler.broadcast?, hfinished]
  have hle : v ≤ b.snapshot.version := by
    obtain ⟨v', hv', hle⟩ := ((dated_run hrun).read k _ (snapshot?_of_broadcast? hb)).2
    cases hv'.symm.trans hinstalled
    exact hle
  have hattached : call.attached = true := by
    simp [SubscribeCall.attached, hblocked, hfailed, CallStage.isOpen]
  cases serving_run hrun hnodup k b hb c call hcall hattached with
  | later hstage => cases hstage.symm.trans hblocked
  | initial hstage _ => cases hstage.symm.trans hblocked
  | sent hmem hle' => exact ⟨_, hmem, hle.trans hle'⟩
  | sending hb' hsender =>
      cases hb'.symm.trans hb
      have hover := List.all_eq_true.mp (settled_run hrun k h b hfound hfinished) _
        (List.mem_of_getElem? hsender)
      cases hover

theorem no_lost_update_overtaken :
    ∃ s, run unmarshalBoth (some oldYaml) oldLoader (overtakenRun ++ [.handler 0 .finish]) =
        some s ∧
      ∃ call, s.calls[0]? = some call ∧ ∃ p ∈ call.sent, 2 ≤ p.version := by
  refine ⟨_, rfl, _, rfl, ?_⟩
  refine no_lost_update unmarshalBoth (some oldYaml) oldLoader
    (overtakenRun ++ [.handler 0 .finish]) _ rfl (by decide) ?_ 0 2 rfl 0 _ rfl rfl rfl
  intro k h hfound
  cases k with
  | zero =>
      cases hfound
      exact .inl ⟨_, rfl⟩
  | succ k => cases hfound

end Server

end Stateform.ControlPlane
