import Stateform.ControlPlane.Broadcast
import Stateform.Library.Progress

/-!
# The control plane comes to rest

A `Reload` call, a reload handler, a goroutine of a broadcast and a `Subscribe` call each
take a bounded number of steps, and none waits for another but a broadcast for its goroutines
and a call for its stream. So unless the process panics, every handler returns and every call
returns or is left blocked on an open stream (`control_plane_rests`).
-/

namespace Stateform.ControlPlane

open Library

/-! ## Steps to go -/

def ReloadCall.stepsLeft : ReloadCall → ℕ
  | .started => 2
  | .loaded _ _ => 1
  | .installed _ => 0
  | .failed _ => 0

def SenderStage.stepsLeft : SenderStage → ℕ
  | .sending => 3
  | .pushing => 2
  | .closing => 1
  | .sent => 0
  | .closed => 0

def Broadcast.stepsLeft (b : Broadcast) : ℕ :=
  (b.senders.map fun sender => sender.stage.stepsLeft).sum + 1

/-- Of a handler, where `n` subscribers are registered. -/
def HandlerStage.stepsLeft (n : ℕ) : HandlerStage → ℕ
  | .reloading => 3 * n + 3
  | .snapshotRead _ => 3 * n + 2
  | .broadcasting b => b.stepsLeft
  | .finished _ => 0

def CallStage.stepsLeft : CallStage → ℕ
  | .registered => 4
  | .sendingInitial _ => 3
  | .blocked => 2
  | .leaving => 1
  | .returned => 0

/-- A step of the control plane's own: nobody comes, asks for a reload, writes the file or
cuts a stream off. -/
def Event.IsOwn : Event → Prop
  | .load (.read _) => True
  | .load (.install _) => True
  | .handler _ _ => True
  | .call _ .disconnect => False
  | .call _ _ => True
  | _ => False

/-- Such a step, and if it is a `Send`, one that succeeds. -/
def Event.Succeeds : Event → Prop
  | .handler _ (.sender _ (.send ok)) => ok = true
  | .call _ (.sendInitial ok) => ok = true
  | e => e.IsOwn

theorem Event.Succeeds.isOwn {e : Event} (h : e.Succeeds) : e.IsOwn := by
  cases e with
  | load e => exact h
  | reload source => exact h
  | handler k action => trivial
  | subscribe id => exact h
  | call c action =>
      cases action with
      | disconnect => exact h
      | _ => trivial

namespace Server

/-- The most steps all goroutines still take. -/
def stepsLeft (s : Server) : ℕ :=
  (s.loading.reloads.map ReloadCall.stepsLeft).sum +
    (s.handlers.map fun h => h.stage.stepsLeft s.subscribers.entries.length).sum +
    (s.calls.map fun call => call.stage.stepsLeft).sum + (!s.panicked).toNat

/-- The call has returned, or waits for what may never come. -/
def Waiting (call : SubscribeCall) : Prop :=
  call.stage = .returned ∨
    call.stage = .blocked ∧ call.done = false ∧ call.disconnected = false

/-- Every handler has returned, and every call has or is blocked. -/
structure AtRest (s : Server) : Prop where
  handlers : ∀ (k : ℕ) (h : Handler), s.handlers[k]? = some h → s.Returned k h
  calls : ∀ (c : ℕ) (call : SubscribeCall), s.calls[c]? = some call → Waiting call

variable {unmarshal : Str → Option GatewayConfig} {s s' : Server} {event : Event}

/-! ## What a step uses up -/

theorem stepsLeft_mono {n m : ℕ} (h : n ≤ m) (stage : HandlerStage) :
    stage.stepsLeft n ≤ stage.stepsLeft m := by
  cases stage <;> simp only [HandlerStage.stepsLeft] <;> omega

theorem handlers_mono {n m : ℕ} (h : n ≤ m) (handlers : List Handler) :
    (handlers.map fun h => h.stage.stepsLeft n).sum ≤
      (handlers.map fun h => h.stage.stepsLeft m).sum :=
  List.sum_le_sum fun handler _ => stepsLeft_mono h handler.stage

theorem length_erase_le (m : StrMap ℕ) (id : Str) :
    (m.erase id).entries.length ≤ m.entries.length :=
  (List.kerase_sublist id m.entries).length_le

theorem length_eraseAll_le (ids : List Str) (m : StrMap ℕ) :
    (ids.foldl (fun m id => m.erase id) m).entries.length ≤ m.entries.length := by
  induction ids generalizing m with
  | nil => exact le_rfl
  | cons id ids ih => exact (ih _).trans (length_erase_le m id)

/-- A broadcast that begins has three steps to go for each subscriber. -/
theorem stepsLeft_listed (s : Server) (snapshot : Snapshot) :
    (s.listed snapshot).stepsLeft s.subscribers.entries.length <
      3 * s.subscribers.entries.length + 2 := by
  unfold listed
  split
  · show 0 < _
    omega
  · show (s.begun snapshot).stepsLeft < _
    have hsum : ((s.begun snapshot).senders.map fun sender => sender.stage.stepsLeft).sum =
        3 * s.subscribers.entries.length := by
      simp [begun, SenderStage.stepsLeft, Function.comp_def, Nat.mul_comm]
    rw [Broadcast.stepsLeft, hsum]
    omega

/-- A handler that moves on, while the rest stays. -/
theorem handlers_lower {k : ℕ} {h : Handler} {old : HandlerStage} (stage : HandlerStage)
    (hfound : s.handlers[k]? = some h) (hstage : h.stage = old)
    (hlower : stage.stepsLeft s.subscribers.entries.length <
      old.stepsLeft s.subscribers.entries.length) :
    ((s.handlers.set k { h with stage := stage }).map fun h =>
        h.stage.stepsLeft s.subscribers.entries.length).sum <
      (s.handlers.map fun h => h.stage.stepsLeft s.subscribers.entries.length).sum := by
  subst hstage
  have hsum := sum_map_replaced
    (fun h : Handler => h.stage.stepsLeft s.subscribers.entries.length) hfound
    { h with stage := stage }
  dsimp only at hsum ⊢
  omega

/-- A goroutine of a broadcast that moves on. -/
theorem senders_lower {k j : ℕ} {h : Handler} {b : Broadcast} {sender : Sender}
    {old : SenderStage} (stage : SenderStage) (failed : List Str)
    (hfound : s.handlers[k]? = some h) (hbroadcast : h.stage = .broadcasting b)
    (hsender : b.senders[j]? = some sender) (hstage : sender.stage = old)
    (hlower : stage.stepsLeft < old.stepsLeft) :
    ((s.handlers.set k ⟨h.source, .broadcasting
      ⟨b.snapshot, b.senders.set j ⟨sender.call, stage⟩, failed⟩⟩).map fun h =>
        h.stage.stepsLeft s.subscribers.entries.length).sum <
      (s.handlers.map fun h => h.stage.stepsLeft s.subscribers.entries.length).sum := by
  subst hstage
  refine handlers_lower (.broadcasting _) hfound hbroadcast ?_
  have hsum := sum_map_replaced (fun sender : Sender => sender.stage.stepsLeft) hsender
    { sender with stage := stage }
  simp only [HandlerStage.stepsLeft, Broadcast.stepsLeft] at hsum ⊢
  omega

theorem calls_same {c : ℕ} {call : SubscribeCall} {calls : List SubscribeCall}
    (new : SubscribeCall) (hcall : calls[c]? = some call) (hstage : new.stage = call.stage) :
    ((calls.set c new).map fun call => call.stage.stepsLeft).sum =
      (calls.map fun call => call.stage.stepsLeft).sum := by
  have hsum := sum_map_replaced (fun call : SubscribeCall => call.stage.stepsLeft) hcall new
  rw [hstage] at hsum
  omega

theorem calls_lower {c : ℕ} {call : SubscribeCall} {calls : List SubscribeCall} {old : CallStage}
    (new : SubscribeCall) (hcall : calls[c]? = some call) (hstage : call.stage = old)
    (hlower : new.stage.stepsLeft < old.stepsLeft) :
    ((calls.set c new).map fun call => call.stage.stepsLeft).sum <
      (calls.map fun call => call.stage.stepsLeft).sum := by
  subst hstage
  have hsum := sum_map_replaced (fun call : SubscribeCall => call.stage.stepsLeft) hcall new
  omega

/-- A step of a `Reload` call brings it on. -/
theorem reloads_lower {e : LoadEvent} {loading : Loading} (hown : (Event.load e).IsOwn)
    (hload : s.loading.step unmarshal e = some loading) :
    (loading.reloads.map ReloadCall.stepsLeft).sum <
      (s.loading.reloads.map ReloadCall.stepsLeft).sum := by
  cases e with
  | write file => exact hown.elim
  | start => exact hown.elim
  | read k =>
      simp only [Loading.step] at hload
      split at hload
      · next hstarted =>
          cases hload
          have hsum := sum_map_replaced ReloadCall.stepsLeft hstarted
            (s.loading.readFile unmarshal)
          have hread : (s.loading.readFile unmarshal).stepsLeft ≤ 1 := by
            rcases @Loading.readFile_cases unmarshal s.loading with ⟨e, he⟩ | ⟨raw, cfg, hr, _⟩
            · rw [he]
              exact Nat.zero_le 1
            · rw [hr]
              exact le_rfl
          simp only [ReloadCall.stepsLeft] at hsum hread ⊢
          omega
      · cases hload
  | install k =>
      simp only [Loading.step] at hload
      split at hload
      · next raw cfg hloaded =>
          cases hload
          have hsum := sum_map_replaced ReloadCall.stepsLeft hloaded
            (.installed (s.loading.loader.version + 1))
          simp only [ReloadCall.stepsLeft] at hsum ⊢
          omega
      · cases hload

/-- **Every own step is used up.** -/
theorem Step.lowers (hstep : Step unmarshal s event s') (hlive : s.panicked = false)
    (hown : event.IsOwn) : s'.stepsLeft < s.stepsLeft := by
  unfold stepsLeft
  cases hstep with
  | load hne hload =>
      have hreloads := reloads_lower hown hload
      dsimp only
      omega
  | reload source => exact hown.elim
  | subscribe id => exact hown.elim
  | disconnect hcall => exact hown.elim
  | @current k v h hfound hstage hnil =>
      have hhandlers := handlers_lower (.snapshotRead (s.currentSnapshot h.source.reason))
        hfound hstage (Nat.lt_succ_self _)
      dsimp only [setStage]
      omega
  | @list k h snapshot hfound hstage =>
      have hhandlers := handlers_lower (s.listed snapshot) hfound hstage
        (s.stepsLeft_listed snapshot)
      dsimp only [setStage]
      omega
  | @sendOk k j h b sender call hfound hstage hsender hcall hsending =>
      have hhandlers := senders_lower .sent b.failed hfound hstage hsender hsending (by decide)
      have hcalls := calls_same { call with sent := call.sent ++ [b.snapshot] } hcall rfl
      dsimp only [setCall, setSender, setStage]
      omega
  | @sendErr k j h b sender call hfound hstage hsender hcall hsending =>
      have hhandlers := senders_lower .pushing b.failed hfound hstage hsender hsending (by decide)
      have hcalls := calls_same { call with failed := true } hcall rfl
      dsimp only [setCall, setSender, setStage]
      omega
  | @push k j h b sender call hfound hstage hsender hcall hpushing hroom =>
      have hhandlers := senders_lower .closing (b.failed ++ [call.id]) hfound hstage hsender
        hpushing (by decide)
      dsimp only [setSender, setStage]
      omega
  | @close k j h b sender call hfound hstage hsender hcall hclosing hopen =>
      have hhandlers := senders_lower .closed b.failed hfound hstage hsender hclosing (by decide)
      have hcalls := calls_same { call with done := true } hcall rfl
      dsimp only [setCall, setSender, setStage]
      omega
  | closeAgain hfound hstage hsender hcall hclosing hclosed =>
      dsimp only
      rw [hlive]
      exact Nat.lt_succ_self _
  | @finish k h b hfound hstage hover =>
      have hlength := length_eraseAll_le b.failed s.subscribers
      have hmono := handlers_mono hlength (s.handlers.set k { h with stage := .finished b })
      have hhandlers := handlers_lower (.finished b) hfound hstage (Nat.succ_pos _)
      dsimp only [setStage]
      omega
  | @callCurrent c call hcall hstage =>
      have hcalls := calls_lower
        { call with stage := .sendingInitial (s.currentSnapshot "startup".toList) } hcall hstage
        (Nat.lt_succ_self _)
      dsimp only [setCall]
      omega
  | @initialOk c call snapshot hcall hstage =>
      have hcalls := calls_lower { call with stage := .blocked, sent := call.sent ++ [snapshot] }
        hcall hstage (Nat.lt_succ_self _)
      dsimp only [setCall]
      omega
  | @initialErr c call snapshot hcall hstage =>
      have hcalls := calls_lower { call with stage := .leaving, failed := true } hcall hstage
        (show 1 < 3 by decide)
      dsimp only [setCall]
      omega
  | @wake c call hcall hstage hwoken =>
      have hcalls := calls_lower { call with stage := .leaving } hcall hstage (Nat.lt_succ_self _)
      dsimp only [setCall]
      omega
  | @remove c call hcall hstage =>
      have hcalls := calls_lower { call with stage := .returned } hcall hstage (Nat.lt_succ_self _)
      have hhandlers := handlers_mono (length_erase_le s.subscribers call.id) s.handlers
      dsimp only [setCall]
      omega

/-! ## What can still be done -/

/-- The goroutines of a broadcast are those of calls that are there. -/
def Addressed (s : Server) : Prop :=
  ∀ k j sender, s.sender? k j = some sender → ∃ call, s.calls[sender.call]? = some call

theorem Addressed.step (h : s.Addressed) (hmapped : s.Mapped)
    (hstep : Step unmarshal s event s') : s'.Addressed := by
  have hkeeps : ∀ {c : ℕ}, (∃ call, s.calls[c]? = some call) →
      ∃ call, s'.calls[c]? = some call := by
    rintro c ⟨call, hcall⟩
    exact hstep.call_exists hcall
  intro k j sender hsender
  rcases hstep.sender k j with hsame | ⟨old, _, stage, _, hold, _, hafter⟩ | ⟨_, hnone, _⟩
  · exact hkeeps (h k j sender (hsame.symm.trans hsender))
  · cases hafter.symm.trans hsender
    exact hkeeps (h k j old hold)
  · obtain ⟨b, hb, hj⟩ := Option.bind_eq_some_iff.mp hsender
    rcases hstep.broadcast k with hsame | ⟨_, _, _, _, _, hsome, _⟩ | ⟨_, _, snapshot, _, hbegun⟩
    · cases (hsame.trans hnone).symm.trans hb
    · cases hsome.symm.trans hnone
    · cases hbegun.symm.trans hb
      obtain ⟨id, hlookup⟩ := lookup_of_begun hj
      obtain ⟨call, hcall, _⟩ := hmapped id sender.call hlookup
      exact hkeeps ⟨call, hcall⟩

theorem addressed_run {file : Option Str} {loader : Loader} {events : List Event}
    (hrun : run unmarshal file loader events = some s) : s.Addressed := by
  refine follow_invariant (P := fun _ s => s.Addressed) ?_ ?_ events s hrun
  · intro k j sender hsender
    cases hsender
  · intro as e t t' hrun' haddressed hstep
    exact haddressed.step (mapped_run hrun') (step_cases hstep).2

theorem step_call (hlive : s.panicked = false) {c : ℕ} {call : SubscribeCall}
    (hcall : s.calls[c]? = some call) (action : CallAction) :
    s.step unmarshal (.call c action) = s.callStep c call action := by
  rw [step, if_neg (Bool.eq_false_iff.mp hlive), hcall]
  rfl

/-- A goroutine can go on, with a `Send` that succeeds if it is to send. -/
def GoesOn (unmarshal : Str → Option GatewayConfig) (s : Server) : Prop :=
  ∃ e, Event.Succeeds e ∧ (s.step unmarshal e).isSome

/-- A goroutine that is not over goes on; its channel has room. -/
theorem sender_goesOn (unmarshal : Str → Option GatewayConfig) (hlive : s.panicked = false)
    (haddressed : s.Addressed) (hroomy : s.Roomy) {k j : ℕ} {h : Handler} {b : Broadcast}
    {sender : Sender} (hfound : s.handlers[k]? = some h) (hstage : h.stage = .broadcasting b)
    (hsender : b.senders[j]? = some sender) (hunder : sender.over = false) :
    s.GoesOn unmarshal := by
  obtain ⟨call, hcall⟩ := haddressed k j sender (sender?_of_stage hfound hstage hsender)
  have hstep (action : SenderAction) : s.step unmarshal (.handler k (.sender j action)) =
      s.senderStep k h b j sender call action :=
    step_sender hlive hfound hstage hsender hcall action
  cases hsending : sender.stage with
  | sending =>
      refine ⟨.handler k (.sender j (.send true)), rfl, ?_⟩
      rw [hstep, senderStep, if_pos hsending]
      rfl
  | pushing =>
      have hroom := hroomy.room (broadcast?_of_stage hfound hstage) hsender hsending
      refine ⟨.handler k (.sender j .push), trivial, ?_⟩
      rw [hstep, senderStep, if_pos ⟨hsending, hroom⟩]
      rfl
  | closing =>
      refine ⟨.handler k (.sender j .close), trivial, ?_⟩
      rw [hstep, senderStep, if_pos hsending]
      split <;> rfl
  | sent => simp [Sender.over, hsending] at hunder
  | closed => simp [Sender.over, hsending] at hunder

theorem reload_goesOn (hlive : s.panicked = false) {e : LoadEvent} (hown : (Event.load e).IsOwn)
    (hload : (s.loading.step unmarshal e).isSome) : s.GoesOn unmarshal := by
  refine ⟨.load e, hown, ?_⟩
  cases e with
  | start => exact hown.elim
  | _ =>
      show (if s.panicked then none else (s.loading.step unmarshal _).map _).isSome
      rw [if_neg (Bool.eq_false_iff.mp hlive), Option.isSome_map]
      exact hload

/-- A handler that has not returned goes on, or its `Reload` does, or one of its
goroutines. -/
theorem handler_goesOn (unmarshal : Str → Option GatewayConfig) (hlive : s.panicked = false)
    (hpaired : s.handlers.length = s.loading.reloads.length) (haddressed : s.Addressed)
    (hroomy : s.Roomy) {k : ℕ} {h : Handler} (hfound : s.handlers[k]? = some h)
    (hgoing : ¬ s.Returned k h) : s.GoesOn unmarshal := by
  cases hstage : h.stage with
  | reloading =>
      obtain ⟨reload, hreload⟩ : ∃ reload, s.loading.reloads[k]? = some reload := by
        have hlt := (List.getElem?_eq_some_iff.mp hfound).1
        rw [hpaired] at hlt
        exact ⟨_, List.getElem?_eq_getElem hlt⟩
      cases reload with
      | started =>
          refine @reload_goesOn _ _ hlive (.read k) trivial ?_
          rw [Loading.step, if_pos hreload]
          rfl
      | loaded raw cfg =>
          refine @reload_goesOn _ _ hlive (.install k) trivial ?_
          rw [Loading.step, hreload]
          rfl
      | installed v =>
          refine ⟨.handler k .current, trivial, ?_⟩
          rw [step_handler hlive hfound, handlerStep, hstage, hreload]
          rfl
      | failed e => exact absurd (.inr ⟨e, hreload⟩) hgoing
  | snapshotRead snapshot =>
      refine ⟨.handler k .list, trivial, ?_⟩
      rw [step_handler hlive hfound, handlerStep, hstage]
      rfl
  | broadcasting b =>
      by_cases hover : b.senders.all Sender.over = true
      · refine ⟨.handler k .finish, trivial, ?_⟩
        rw [step_handler hlive hfound, handlerStep, hstage]
        exact Option.isSome_of_eq_some (if_pos hover)
      · rw [List.all_eq_true] at hover
        push Not at hover
        obtain ⟨sender, hmem, hunder⟩ := hover
        obtain ⟨j, hsender⟩ := List.mem_iff_getElem?.mp hmem
        exact sender_goesOn unmarshal hlive haddressed hroomy hfound hstage hsender
          (Bool.eq_false_iff.mpr hunder)
  | finished b => exact absurd (.inl ⟨b, hstage⟩) hgoing

theorem call_goesOn (unmarshal : Str → Option GatewayConfig) (hlive : s.panicked = false) {c : ℕ}
    {call : SubscribeCall} (hcall : s.calls[c]? = some call) (hgoing : ¬ Waiting call) :
    s.GoesOn unmarshal := by
  have hstep (action : CallAction) : s.step unmarshal (.call c action) = s.callStep c call action :=
    step_call hlive hcall action
  cases hstage : call.stage with
  | registered =>
      refine ⟨.call c .current, trivial, ?_⟩
      rw [hstep, callStep, if_pos hstage]
      rfl
  | sendingInitial snapshot =>
      refine ⟨.call c (.sendInitial true), rfl, ?_⟩
      rw [hstep, callStep, hstage]
      rfl
  | blocked =>
      have hwoken : call.done = true ∨ call.disconnected = true := by
        by_contra hnot
        push Not at hnot
        exact hgoing (.inr ⟨hstage, Bool.eq_false_iff.mpr hnot.1, Bool.eq_false_iff.mpr hnot.2⟩)
      refine ⟨.call c .wake, trivial, ?_⟩
      rw [hstep, callStep, if_pos ⟨hstage, hwoken⟩]
      rfl
  | leaving =>
      refine ⟨.call c .remove, trivial, ?_⟩
      rw [hstep, callStep, if_pos hstage]
      rfl
  | returned => exact absurd (.inl hstage) hgoing

/-- Own steps use up what is left, and unless all is at rest one can be taken. -/
theorem drains (unmarshal : Str → Option GatewayConfig) (file : Option Str) (loader : Loader) :
    Drains (step unmarshal) (fun s => ∃ events, run unmarshal file loader events = some s)
      Event.IsOwn Event.Succeeds (fun s => s.panicked = true ∨ s.AtRest) stepsLeft where
  eager_own := fun _ h => h.isOwn
  kept := by
    rintro s a s' ⟨events, hrun⟩ _ hstep
    exact ⟨events ++ [a], run_snoc hrun hstep⟩
  lower := by
    intro s a s' _ hown hstep
    exact (step_cases hstep).2.lowers (step_cases hstep).1 hown
  goesOn := by
    rintro s ⟨events, hrun⟩ hover
    push Not at hover
    have hlive := Bool.eq_false_iff.mpr hover.1
    have hon : s.GoesOn unmarshal := by
      by_contra hnone
      refine hover.2 ⟨?_, ?_⟩
      · intro k h hfound
        by_contra hgoing
        exact hnone (handler_goesOn unmarshal hlive (paired_run hrun) (addressed_run hrun)
          (roomy_run hrun) hfound hgoing)
      · intro c call hcall
        by_contra hgoing
        exact hnone (call_goesOn unmarshal hlive hcall hgoing)
    obtain ⟨e, heager, hsome⟩ := hon
    obtain ⟨s', hstep⟩ := Option.isSome_iff_exists.mp hsome
    exact ⟨e, s', heager, hstep⟩

/-- **The control plane comes to rest.** Whatever its goroutines do from any state it can
reach, they take at most the steps that are left. Where none can go on, the process has
panicked, or every handler has returned and every call has returned or is blocked on an open
stream; and they get there where every `Send` succeeds. -/
theorem control_plane_rests (unmarshal : Str → Option GatewayConfig) (file : Option Str)
    (loader : Loader) (events : List Event) (s : Server)
    (hrun : run unmarshal file loader events = some s) :
    (∀ more s', (∀ e ∈ more, Event.IsOwn e) → follow (step unmarshal) s more = some s' →
      more.length ≤ s.stepsLeft ∧
        ((∀ e : Event, e.Succeeds → s'.step unmarshal e = none) →
          s'.panicked = true ∨ s'.AtRest)) ∧
      ∃ more s', (∀ e ∈ more, Event.Succeeds e) ∧ follow (step unmarshal) s more = some s' ∧
        (s'.panicked = true ∨ s'.AtRest) := by
  have hdrains := drains unmarshal file loader
  have hinv : ∃ events, run unmarshal file loader events = some s := ⟨events, hrun⟩
  refine ⟨?_, hdrains.exists_over hinv⟩
  intro more s' hown hmore
  have hlength := hdrains.length_le hinv hown hmore
  exact ⟨by omega, hdrains.over_of_stuck hinv hown hmore⟩

/-- A call that has not read the loader yet, and a reload that has not read the file. -/
theorem control_plane_rests_startup :
    ∃ s, run unmarshalBoth (some oldYaml) oldLoader [.subscribe "x".toList, .reload .admin] =
        some s ∧
      ∃ more s', (∀ e ∈ more, Event.Succeeds e) ∧
        follow (step unmarshalBoth) s more = some s' ∧ (s'.panicked = true ∨ s'.AtRest) :=
  ⟨_, rfl, (control_plane_rests unmarshalBoth (some oldYaml) oldLoader
    [.subscribe "x".toList, .reload .admin] _ rfl).2⟩

end Server

end Stateform.ControlPlane
