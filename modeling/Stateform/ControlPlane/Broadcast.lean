import Stateform.ControlPlane.Delivery

/-!
# Failed sends and the channels they close

The goroutine of a subscriber whose `Send` fails pushes the id into the channel of
its broadcast, which always has room, and then closes the subscriber's `done`
channel. Every broadcast does so for itself: as long as no second `Send` to a
subscriber fails, each channel is closed once (`closes_once`), and a second failure
can always be followed by the panic (`second_failure_panics`).
-/

namespace Stateform.ControlPlane

open Library

/-- The goroutine has yet to push, if its `Send` fails or has failed. -/
def Sender.mayPush (sender : Sender) : Bool :=
  sender.stage = .sending || sender.stage = .pushing

namespace Server

variable {unmarshal : Str → Option GatewayConfig} {s s' : Server} {event : Event}

/-! ## Room in the channel -/

/-- Each channel has room for all who may still push. -/
def Roomy (s : Server) : Prop :=
  ∀ k b, s.broadcast? k = some b →
    b.failed.length + b.senders.countP Sender.mayPush ≤ b.senders.length

theorem Goes.roomy {b b' : Broadcast} {j : ℕ} {action : SenderAction} (hgoes : s.Goes b j action b')
    (h : b.failed.length + b.senders.countP Sender.mayPush ≤ b.senders.length) :
    b'.failed.length + b'.senders.countP Sender.mayPush ≤ b'.senders.length := by
  cases hgoes with
  | @on sender call stage hsender _ hmoves =>
      have hcount := countP_replaced Sender.mayPush hsender { sender with stage := stage }
      show (b.failed ++ _).length + _ ≤ (b.senders.set j _).length
      rw [List.length_append, List.length_set]
      obtain ⟨c, stage₀⟩ := sender
      cases hmoves <;> simp [Sender.mayPush] at hcount ⊢ <;> omega

theorem roomy_run {file : Option Str} {loader : Loader} {events : List Event}
    (hrun : run unmarshal file loader events = some s) : s.Roomy := by
  refine follow_invariant (P := fun _ s => s.Roomy) ?_ ?_ events s hrun
  · intro k b hb
    cases hb
  · intro as e t t' _ hroomy hstep k b hb
    rcases (step_cases hstep).2.broadcast k with hsame | ⟨old, _, _, _, _, hold, hgoes, hb'⟩ |
      ⟨_, _, snapshot, _, hb'⟩
    · exact hroomy k b (hsame.symm.trans hb)
    · cases hb'.symm.trans hb
      exact hgoes.roomy (hroomy k old hold)
    · cases hb'.symm.trans hb
      show 0 + _ ≤ _
      rw [Nat.zero_add]
      exact List.countP_le_length

theorem Roomy.room (h : s.Roomy) {k j : ℕ} {b : Broadcast} {sender : Sender}
    (hb : s.broadcast? k = some b) (hsender : b.senders[j]? = some sender)
    (hpushing : sender.stage = .pushing) : b.failed.length < b.senders.length := by
  have hpos : 0 < b.senders.countP Sender.mayPush := by
    rw [List.countP_pos_iff]
    refine ⟨sender, List.mem_of_getElem? hsender, ?_⟩
    rw [Sender.mayPush, hpushing]
    rfl
  have := h k b hb
  omega

/-! ## Closed channels -/

/-- A goroutine that has closed a channel closed it before, or does so now, when it
is still open. -/
theorem Step.closed_sender (hstep : Step unmarshal s event s') {k j c : ℕ}
    (hsender : s'.sender? k j = some ⟨c, .closed⟩) :
    s.sender? k j = some ⟨c, .closed⟩ ∨
      (event = .handler k (.sender j .close) ∧ s.sender? k j = some ⟨c, .closing⟩ ∧
        (∃ call, s.calls[c]? = some call ∧ call.done = false) ∧
        ∃ call, s'.calls[c]? = some call ∧ call.done = true) := by
  rcases hstep.sender k j with hsame | ⟨⟨c₀, stage⟩, action, stage', hevent, hold, hmoves, hafter⟩ |
    ⟨_, _, hsending⟩
  · exact .inl (hsame.symm.trans hsender)
  · cases hafter.symm.trans hsender
    cases hmoves with
    | closed =>
        refine .inr ⟨hevent, hold, ?_⟩
        subst hevent
        cases hstep with
        | close hfound hstage hsender' hcall _ hopen =>
            cases (sender?_of_stage hfound hstage hsender').symm.trans hold
            exact ⟨⟨_, hcall, hopen⟩, _, getElem?_replaced_self hcall _, rfl⟩
        | closeAgain hfound hstage hsender' hcall _ _ =>
            have hsame : s.sender? k j = some ⟨c₀, .closed⟩ := hafter
            cases hsame.symm.trans hold
  · cases hsending _ hsender

/-- The closed channels and the goroutines that closed them. -/
structure Closed (s : Server) : Prop where
  done : ∀ k j c, s.sender? k j = some ⟨c, .closed⟩ →
    ∃ call, s.calls[c]? = some call ∧ call.done = true
  sender : ∀ (c : ℕ) (call : SubscribeCall), s.calls[c]? = some call → call.done = true →
    ∃ k j, s.sender? k j = some ⟨c, .closed⟩
  once : ∀ k j k' j' c, s.sender? k j = some ⟨c, .closed⟩ → s.sender? k' j' = some ⟨c, .closed⟩ →
    k = k' ∧ j = j'

theorem Step.keeps_closed (hstep : Step unmarshal s event s') {k j c : ℕ}
    (hsender : s.sender? k j = some ⟨c, .closed⟩) : s'.sender? k j = some ⟨c, .closed⟩ := by
  rcases hstep.sender k j with hsame | ⟨old, action, stage', _, hold, hmoves, _⟩ | ⟨_, hnone, _⟩
  · exact hsame.trans hsender
  · cases hold.symm.trans hsender
    cases hmoves
  · rw [sender?, hnone] at hsender
    cases hsender

theorem Closed.step (h : s.Closed) (hstep : Step unmarshal s event s') : s'.Closed where
  done := by
    intro k j c hsender
    rcases hstep.closed_sender hsender with hold | ⟨_, _, _, hdone⟩
    · obtain ⟨call, hcall, hdone⟩ := h.done k j c hold
      obtain ⟨call', hcall', hev⟩ := hstep.keeps hcall
      exact ⟨call', hcall', hev.done hdone⟩
    · exact hdone
  sender := by
    intro c call' hcall' hdone
    have hold : ∀ {call : SubscribeCall}, s.calls[c]? = some call → call.done = true →
        ∃ k j, s'.sender? k j = some ⟨c, .closed⟩ := by
      intro call hcall hdone
      obtain ⟨k, j, hsender⟩ := h.sender c call hcall hdone
      exact ⟨k, j, hstep.keeps_closed hsender⟩
    rcases hstep.call hcall' with hsame | ⟨call, hcall, hbecomes⟩ | ⟨id, _, _, rfl⟩
    · exact hold hsame hdone
    · cases hbecomes with
      | @closed k j hsender hopen =>
          refine ⟨k, j, ?_⟩
          cases hstep with
          | close hfound hstage hsender' _ _ _ =>
              cases (sender?_of_stage hfound hstage hsender').symm.trans hsender
              exact sender?_of_stage (getElem?_replaced_self hfound _) rfl
                (getElem?_replaced_self hsender' _)
          | closeAgain hfound hstage hsender' hcall₀ _ hclosed =>
              cases (sender?_of_stage hfound hstage hsender').symm.trans hsender
              cases hcall₀.symm.trans hcall
              cases hopen.symm.trans hclosed
      | _ => exact hold hcall hdone
    · cases hdone
  once := by
    intro k j k' j' c hsender hsender'
    rcases hstep.closed_sender hsender with hold | ⟨hevent, hclosing, ⟨call, hcall, hopen⟩, _⟩
    · rcases hstep.closed_sender hsender' with hold' | ⟨_, _, ⟨call, hcall, hopen⟩, _⟩
      · exact h.once k j k' j' c hold hold'
      · obtain ⟨call', hcall', hdone⟩ := h.done k j c hold
        cases hcall'.symm.trans hcall
        cases hopen.symm.trans hdone
    · rcases hstep.closed_sender hsender' with hold' | ⟨hevent', _⟩
      · obtain ⟨call', hcall', hdone⟩ := h.done k' j' c hold'
        cases hcall'.symm.trans hcall
        cases hopen.symm.trans hdone
      · cases hevent.symm.trans hevent'
        exact ⟨rfl, rfl⟩

theorem closed_run {file : Option Str} {loader : Loader} {events : List Event}
    (hrun : run unmarshal file loader events = some s) : s.Closed := by
  refine follow_invariant (P := fun _ s => s.Closed) ?_ ?_ events s hrun
  · refine ⟨?_, nofun, ?_⟩
    · intro k j c hsender
      cases hsender
    · intro k j k' j' c hsender
      cases hsender
  · intro as e t t' _ hclosed hstep
    exact hclosed.step (step_cases hstep).2

/-! ## One failure for each subscriber -/

/-- No two failed sends of broadcasts are to the same call. -/
def Apart (s : Server) : Prop :=
  ∀ k j k' j' sender sender', s.sender? k j = some sender → s.sender? k' j' = some sender' →
    sender.call = sender'.call → sender.stage.hasFailed = true → sender'.stage.hasFailed = true →
    k = k' ∧ j = j'

/-- A `Send` of a broadcast fails only if none to the same call has failed. -/
def FailsFirst (s : Server) (event : Event) : Prop :=
  ∀ k j c, event = .handler k (.sender j (.send false)) → s.sender? k j = some ⟨c, .sending⟩ →
    ∀ k' j' sender, s.sender? k' j' = some sender → sender.call = c →
      sender.stage.hasFailed = false

/-- The step lemma. -/
theorem Apart.step (h : s.Apart) (hfirst : s.FailsFirst event)
    (hstep : Step unmarshal s event s') : s'.Apart := by
  intro k j k' j' sender sender' hsender hsender' hcall hfailed hfailed'
  rcases hstep.failed_sender hsender hfailed with ⟨old, hold, hc, hf⟩ | ⟨hevent, hnow⟩
  · rcases hstep.failed_sender hsender' hfailed' with ⟨old', hold', hc', hf'⟩ | ⟨hevent', hnow'⟩
    · exact h k j k' j' old old' hold hold' ((hc.trans hcall).trans hc'.symm) hf hf'
    · rw [hfirst k' j' _ hevent' hnow' k j old hold (hc.trans hcall)] at hf
      cases hf
  · rcases hstep.failed_sender hsender' hfailed' with ⟨old', hold', hc', hf'⟩ | ⟨hevent', _⟩
    · rw [hfirst k j _ hevent hnow k' j' old' hold' (hc'.trans hcall.symm)] at hf'
      cases hf'
    · cases hevent.symm.trans hevent'
      exact ⟨rfl, rfl⟩

/-- Only a second close panics, and it takes two failed sends to the same call. -/
theorem Apart.no_panic (h : s.Apart) (hclosed : s.Closed) (hlive : s.panicked = false)
    (hstep : Step unmarshal s event s') : s'.panicked = false := by
  cases hstep with
  | @closeAgain k j handler b sender call hfound hstage hsender hcall hclosing hdone =>
      obtain ⟨k', j', hsender'⟩ := hclosed.sender sender.call call hcall hdone
      have hsender? := sender?_of_stage hfound hstage hsender
      have hfailed : sender.stage.hasFailed = true := by
        rw [hclosing]
        rfl
      obtain ⟨rfl, rfl⟩ := h k j k' j' sender _ hsender? hsender' rfl hfailed rfl
      have hstage' := congrArg Sender.stage (Option.some.inj (hsender?.symm.trans hsender'))
      cases hclosing.symm.trans hstage'
  | _ => exact hlive

/-- The run lemma. -/
theorem apart_run {file : Option Str} {loader : Loader} {events : List Event}
    (hrun : run unmarshal file loader events = some s)
    (hfirst : Meets (step unmarshal) FailsFirst (init file loader) events) :
    s.Apart ∧ s.panicked = false := by
  refine meets_invariant (P := fun _ s => s.Apart ∧ s.panicked = false) ?_ ?_ events s hfirst hrun
  · refine ⟨?_, rfl⟩
    intro k j k' j' sender sender' hsender
    cases hsender
  · intro as e t t' hrun' happart hok hstep
    have hcases := (step_cases hstep).2
    exact ⟨happart.1.step hok hcases, happart.1.no_panic (closed_run hrun') happart.2 hcases⟩

/-- **Every `done` channel is closed at most once, and no goroutine blocks on the
channel of its broadcast**, in every run in which no `Send` of a broadcast fails after
another one to the same call has failed. -/
theorem closes_once (unmarshal : Str → Option GatewayConfig) (file : Option Str)
    (loader : Loader) (events : List Event) (s : Server)
    (hrun : run unmarshal file loader events = some s)
    (hfirst : Meets (step unmarshal) FailsFirst (init file loader) events) :
    s.panicked = false ∧
      ∀ (k j : ℕ) (b : Broadcast) (sender : Sender), s.broadcast? k = some b →
        b.senders[j]? = some sender → sender.stage = .pushing →
        b.failed.length < b.senders.length := by
  refine ⟨(apart_run hrun hfirst).2, ?_⟩
  intro k j b sender hb hsender hpushing
  exact (roomy_run hrun).room hb hsender hpushing

/-- Two broadcasts list the same data plane, whose stream dies before either has sent
to it. -/
def twoFailuresRun : List Event :=
  [.subscribe "x".toList, .call 0 .current, .call 0 (.sendInitial true),
    .reload .admin, .load (.read 0), .load (.install 0),
    .reload (.k8s "k8s endpoints updated: default/api".toList), .load (.read 1), .load (.install 1),
    .handler 0 .current, .handler 1 .current, .handler 0 .list, .handler 1 .list,
    .call 0 .disconnect, .handler 0 (.sender 0 (.send false)), .handler 0 (.sender 0 .push),
    .handler 0 (.sender 0 .close), .handler 1 (.sender 0 (.send false)),
    .handler 1 (.sender 0 .push), .handler 1 (.sender 0 .close)]

theorem dead_subscriber_closed_twice :
    ¬ ∀ (unmarshal : Str → Option GatewayConfig) (file : Option Str) (loader : Loader)
      (events : List Event) (s : Server), run unmarshal file loader events = some s →
      s.panicked = false := by
  intro hall
  exact absurd (hall unmarshalBoth (some oldYaml) oldLoader twoFailuresRun _ rfl) (by decide)

/-- The goroutines of all broadcasts. -/
def senders (s : Server) : List Sender :=
  s.handlers.flatMap fun h => h.broadcast?.toList.flatMap (·.senders)

theorem mem_senders {k j : ℕ} {sender : Sender} (h : s.sender? k j = some sender) :
    sender ∈ s.senders := by
  obtain ⟨b, hb, hsender⟩ := Option.bind_eq_some_iff.mp h
  obtain ⟨handler, hfound, hsome⟩ := Option.bind_eq_some_iff.mp hb
  refine List.mem_flatMap.mpr ⟨handler, List.mem_of_getElem? hfound, ?_⟩
  exact List.mem_flatMap.mpr ⟨b, Option.mem_toList.mpr hsome, List.mem_of_getElem? hsender⟩

/-- A test for `FailsFirst`. -/
def firstFailing (s : Server) : Event → Bool
  | .handler k (.sender j (.send false)) =>
      (s.sender? k j).all fun sender => s.senders.all fun other =>
        decide (other.call ≠ sender.call) || !other.stage.hasFailed
  | _ => true

theorem failsFirst_of_firstFailing (s : Server) (event : Event)
    (h : s.firstFailing event = true) : s.FailsFirst event := by
  rintro k j c rfl hsender k' j' other hother rfl
  rw [firstFailing, hsender, Option.all_some] at h
  have hone := List.all_eq_true.mp h other (mem_senders hother)
  simpa using hone

/-- Two broadcasts list the same two data planes. The `Send`s of the first fail on `x`, those
of the second on `y`, and each closes the channel of the one it failed on. -/
def oneFailureEachRun : List Event :=
  [.subscribe "x".toList, .call 0 .current, .call 0 (.sendInitial true),
    .subscribe "y".toList, .call 1 .current, .call 1 (.sendInitial true),
    .reload .admin, .load (.read 0), .load (.install 0),
    .reload (.k8s "k8s endpoints updated: default/api".toList), .load (.read 1), .load (.install 1),
    .handler 0 .current, .handler 1 .current, .handler 0 .list, .handler 1 .list,
    .handler 1 (.sender 1 (.send true)), .call 0 .disconnect, .handler 0 (.sender 1 (.send false)),
    .handler 0 (.sender 0 (.send true)), .call 1 .disconnect, .handler 1 (.sender 0 (.send false)),
    .handler 0 (.sender 1 .push), .handler 1 (.sender 0 .push), .handler 1 (.sender 0 .close),
    .handler 0 (.sender 1 .close)]

theorem closes_once_each :
    ∃ s, run unmarshalBoth (some oldYaml) oldLoader oneFailureEachRun = some s ∧
      s.calls.map (·.done) = [true, true] ∧ s.panicked = false := by
  have hfirst : Meets (step unmarshalBoth) FailsFirst (init (some oldYaml) oldLoader)
      oneFailureEachRun :=
    meets_of_tested failsFirst_of_firstFailing _ _ rfl
  exact ⟨_, rfl, rfl, (closes_once _ _ _ _ _ rfl hfirst).1⟩

/-! ## The condition is exact -/

/-- Of the goroutines, only this one has moved, and it is at the stage. -/
structure Moved (s s' : Server) (k j c : ℕ) (stage : SenderStage) : Prop where
  self : s'.sender? k j = some ⟨c, stage⟩
  others : ∀ k' j', ¬ (k' = k ∧ j' = j) → s'.sender? k' j' = s.sender? k' j'

theorem Moved.trans {s'' : Server} {k j c : ℕ} {stage stage' : SenderStage}
    (h : Moved s s' k j c stage) (h' : Moved s' s'' k j c stage') : Moved s s'' k j c stage' where
  self := h'.self
  others := fun k' j' hne => (h'.others k' j' hne).trans (h.others k' j' hne)

theorem others_of_step {k j k' j' : ℕ} {action : SenderAction}
    (hstep : s.step unmarshal (.handler k (.sender j action)) = some s')
    (hne : ¬ (k' = k ∧ j' = j)) : s'.sender? k' j' = s.sender? k' j' := by
  rcases (step_cases hstep).2.sender k' j' with hsame | ⟨_, _, _, hevent, _⟩ | ⟨hevent, _⟩
  · exact hsame
  · cases hevent
    exact absurd ⟨rfl, rfl⟩ hne
  · cases hevent

theorem running_of_sender (hsettled : s.Settled) {k j : ℕ} {sender : Sender}
    (hsender : s.sender? k j = some sender) (hunder : sender.over = false) :
    ∃ h b, s.handlers[k]? = some h ∧ h.stage = .broadcasting b ∧ b.senders[j]? = some sender := by
  obtain ⟨b, hb, hj⟩ := Option.bind_eq_some_iff.mp hsender
  obtain ⟨h, hfound, hstage⟩ := hsettled.broadcasting hb hj hunder
  exact ⟨h, b, hfound, hstage, hj⟩

/-- After the push comes the close, or the panic. -/
theorem closing_closes (unmarshal : Str → Option GatewayConfig) (hsettled : s.Settled)
    (hmarked : s.Marked) (hlive : s.panicked = false) {k j c : ℕ}
    (hsender : s.sender? k j = some ⟨c, .closing⟩) :
    ∃ s', s.step unmarshal (.handler k (.sender j .close)) = some s' ∧
      (s'.panicked = true ∨ s'.panicked = false ∧ Moved s s' k j c .closed) := by
  obtain ⟨h, b, hfound, hstage, hj⟩ := running_of_sender hsettled hsender rfl
  obtain ⟨call, hcall, _⟩ := hmarked.senders k j _ hsender rfl
  have hstep : s.step unmarshal (.handler k (.sender j .close)) = _ :=
    step_sender hlive hfound hstage hj hcall .close
  cases hdone : call.done with
  | true =>
      refine ⟨{ s with panicked := true }, ?_, .inl rfl⟩
      rw [hstep, senderStep, if_pos rfl, if_pos hdone]
  | false =>
      have hclose : s.step unmarshal (.handler k (.sender j .close)) =
          some ((s.setSender k h b j ⟨c, .closed⟩).setCall c { call with done := true }) := by
        rw [hstep, senderStep, if_pos rfl, if_neg (Bool.eq_false_iff.mp hdone)]
      refine ⟨_, hclose, .inr ⟨hlive, ?_, fun k' j' hne => others_of_step hclose hne⟩⟩
      exact sender?_of_stage (getElem?_replaced_self hfound _) rfl (getElem?_replaced_self hj _)

theorem pushing_pushes (unmarshal : Str → Option GatewayConfig) (hsettled : s.Settled)
    (hmarked : s.Marked) (hroomy : s.Roomy) (hlive : s.panicked = false) {k j c : ℕ}
    (hsender : s.sender? k j = some ⟨c, .pushing⟩) :
    ∃ s', s.step unmarshal (.handler k (.sender j .push)) = some s' ∧ s'.panicked = false ∧
      Moved s s' k j c .closing := by
  obtain ⟨h, b, hfound, hstage, hj⟩ := running_of_sender hsettled hsender rfl
  obtain ⟨call, hcall, _⟩ := hmarked.senders k j _ hsender rfl
  have hroom := hroomy.room (broadcast?_of_stage hfound hstage) hj rfl
  have hpush : s.step unmarshal (.handler k (.sender j .push)) =
      some (s.setSender k h { b with failed := b.failed ++ [call.id] } j ⟨c, .closing⟩) := by
    rw [step_sender hlive hfound hstage hj hcall, senderStep, if_pos ⟨rfl, hroom⟩]
  refine ⟨_, hpush, hlive, ?_, fun k' j' hne => others_of_step hpush hne⟩
  exact sender?_of_stage (getElem?_replaced_self hfound _) rfl (getElem?_replaced_self hj _)

/-- A goroutine whose `Send` has failed can go on until it has closed the channel, or
the process has panicked. -/
theorem failed_sender_closes {file : Option Str} {loader : Loader} {events : List Event}
    (hrun : run unmarshal file loader events = some s) (hlive : s.panicked = false) {k j c : ℕ}
    {stage : SenderStage} (hsender : s.sender? k j = some ⟨c, stage⟩)
    (hfailed : stage.hasFailed = true) :
    ∃ more s', run unmarshal file loader (events ++ more) = some s' ∧
      (s'.panicked = true ∨ s'.panicked = false ∧ Moved s s' k j c .closed) := by
  cases stage with
  | sending => cases hfailed
  | sent => cases hfailed
  | pushing =>
      rcases pushing_pushes unmarshal (settled_run hrun) (marked_run hrun) (roomy_run hrun) hlive
        hsender with ⟨s₁, hpush, hlive₁, hmoved₁⟩
      have hrun₁ := run_snoc hrun hpush
      rcases closing_closes unmarshal (settled_run hrun₁) (marked_run hrun₁) hlive₁ hmoved₁.self
        with ⟨s₂, hclose, hend⟩
      refine ⟨[.handler k (.sender j .push), .handler k (.sender j .close)], s₂, ?_,
        hend.imp_right fun h => ⟨h.1, hmoved₁.trans h.2⟩⟩
      rw [List.append_cons]
      exact run_snoc hrun₁ hclose
  | closing =>
      obtain ⟨s₁, hclose, hend⟩ :=
        closing_closes unmarshal (settled_run hrun) (marked_run hrun) hlive hsender
      exact ⟨[_], s₁, run_snoc hrun hclose, hend⟩
  | closed =>
      refine ⟨[], s, ?_, .inr ⟨hlive, hsender, fun _ _ _ => rfl⟩⟩
      rw [List.append_nil]
      exact hrun

/-- **The condition is exact**: after a second failed `Send` to the same call the
process may panic. -/
theorem second_failure_panics {file : Option Str} {loader : Loader} {events : List Event}
    (hrun : run unmarshal file loader events = some s)
    (hstep : s.step unmarshal event = some s') (hsecond : ¬ s.FailsFirst event) :
    ∃ more s'', run unmarshal file loader (events ++ [event] ++ more) = some s'' ∧
      s''.panicked = true := by
  simp only [FailsFirst, not_forall, Bool.not_eq_false] at hsecond
  obtain ⟨k, j, c, rfl, hsending, k', j', ⟨c', stage'⟩, hsender', rfl, hfailed'⟩ := hsecond
  have hne : ¬ (k' = k ∧ j' = j) := by
    rintro ⟨rfl, rfl⟩
    cases hsender'.symm.trans hsending
    cases hfailed'
  have hrun₁ := run_snoc hrun hstep
  obtain ⟨hlive₁, hself₁⟩ : s'.panicked = false ∧ s'.sender? k j = some ⟨c', .pushing⟩ := by
    obtain ⟨hlive, hcases⟩ := step_cases hstep
    cases hcases with
    | sendErr hfound hstage hj _ _ =>
        cases (sender?_of_stage hfound hstage hj).symm.trans hsending
        exact ⟨hlive, sender?_of_stage (getElem?_replaced_self hfound _) rfl
          (getElem?_replaced_self hj _)⟩
  have hother₁ := (others_of_step hstep hne).trans hsender'
  rcases failed_sender_closes hrun₁ hlive₁ hother₁ hfailed' with
    ⟨more, s₂, hrun₂, hpanic | ⟨hlive₂, hmoved₂⟩⟩
  · exact ⟨more, s₂, hrun₂, hpanic⟩
  have hself₂ := (hmoved₂.others k j fun h => hne ⟨h.1.symm, h.2.symm⟩).trans hself₁
  rcases failed_sender_closes hrun₂ hlive₂ hself₂ rfl with
    ⟨more', s₃, hrun₃, hpanic | ⟨hlive₃, hmoved₃⟩⟩
  · refine ⟨more ++ more', s₃, ?_, hpanic⟩
    rw [← List.append_assoc]
    exact hrun₃
  · -- both have closed the channel, which cannot be
    have hother₃ := (hmoved₃.others k' j' hne).trans hmoved₂.self
    exact absurd ((closed_run hrun₃).once k' j' k j c' hother₃ hmoved₃.self) hne

end Server

end Stateform.ControlPlane
