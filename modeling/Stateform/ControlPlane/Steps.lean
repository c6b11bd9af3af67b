import Stateform.Library.Numbered
import Stateform.ControlPlane.Server

/-!
# Steps of the snapshot server

What one step can do (`step_cases`), and what it makes of each part of the state: of
a broadcast and its goroutines, of the snapshot a handler has read, of a `Subscribe`
call, and of the loader. The invariants of runs are derived from these alone.
-/

namespace Stateform.ControlPlane

open Library

namespace Server

/-! ## What a step can do -/

/-- The steps, one constructor for each way an event can happen. -/
inductive Step (unmarshal : Str → Option GatewayConfig) (s : Server) :
    Event → Server → Prop where
  | load {e : LoadEvent} {loading : Loading} (hne : e ≠ .start)
      (hload : s.loading.step unmarshal e = some loading) :
      Step unmarshal s (.load e) { s with loading := loading }
  | reload (source : ReloadSource) :
      Step unmarshal s (.reload source)
        { s with
          loading := { s.loading with reloads := s.loading.reloads ++ [.started] }
          handlers := s.handlers ++ [⟨source, .reloading⟩] }
  | current {k v : ℕ} {h : Handler} (hfound : s.handlers[k]? = some h)
      (hstage : h.stage = .reloading) (hnil : s.loading.reloads[k]? = some (.installed v)) :
      Step unmarshal s (.handler k .current)
        (s.setStage k h (.snapshotRead (s.currentSnapshot h.source.reason)))
  | list {k : ℕ} {h : Handler} {snapshot : Snapshot} (hfound : s.handlers[k]? = some h)
      (hstage : h.stage = .snapshotRead snapshot) :
      Step unmarshal s (.handler k .list) (s.setStage k h (s.listed snapshot))
  | sendOk {k j : ℕ} {h : Handler} {b : Broadcast} {sender : Sender} {call : SubscribeCall}
      (hfound : s.handlers[k]? = some h) (hstage : h.stage = .broadcasting b)
      (hsender : b.senders[j]? = some sender) (hcall : s.calls[sender.call]? = some call)
      (hsending : sender.stage = .sending) :
      Step unmarshal s (.handler k (.sender j (.send true)))
        ((s.setSender k h b j { sender with stage := .sent }).setCall sender.call
          { call with sent := call.sent ++ [b.snapshot] })
  | sendErr {k j : ℕ} {h : Handler} {b : Broadcast} {sender : Sender} {call : SubscribeCall}
      (hfound : s.handlers[k]? = some h) (hstage : h.stage = .broadcasting b)
      (hsender : b.senders[j]? = some sender) (hcall : s.calls[sender.call]? = some call)
      (hsending : sender.stage = .sending) :
      Step unmarshal s (.handler k (.sender j (.send false)))
        ((s.setSender k h b j { sender with stage := .pushing }).setCall sender.call
          { call with failed := true })
  | push {k j : ℕ} {h : Handler} {b : Broadcast} {sender : Sender} {call : SubscribeCall}
      (hfound : s.handlers[k]? = some h) (hstage : h.stage = .broadcasting b)
      (hsender : b.senders[j]? = some sender) (hcall : s.calls[sender.call]? = some call)
      (hpushing : sender.stage = .pushing) (hroom : b.failed.length < b.senders.length) :
      Step unmarshal s (.handler k (.sender j .push))
        (s.setSender k h { b with failed := b.failed ++ [call.id] } j
          { sender with stage := .closing })
  | close {k j : ℕ} {h : Handler} {b : Broadcast} {sender : Sender} {call : SubscribeCall}
      (hfound : s.handlers[k]? = some h) (hstage : h.stage = .broadcasting b)
      (hsender : b.senders[j]? = some sender) (hcall : s.calls[sender.call]? = some call)
      (hclosing : sender.stage = .closing) (hopen : call.done = false) :
      Step unmarshal s (.handler k (.sender j .close))
        ((s.setSender k h b j { sender with stage := .closed }).setCall sender.call
          { call with done := true })
  | closeAgain {k j : ℕ} {h : Handler} {b : Broadcast} {sender : Sender} {call : SubscribeCall}
      (hfound : s.handlers[k]? = some h) (hstage : h.stage = .broadcasting b)
      (hsender : b.senders[j]? = some sender) (hcall : s.calls[sender.call]? = some call)
      (hclosing : sender.stage = .closing) (hclosed : call.done = true) :
      Step unmarshal s (.handler k (.sender j .close)) { s with panicked := true }
  | finish {k : ℕ} {h : Handler} {b : Broadcast} (hfound : s.handlers[k]? = some h)
      (hstage : h.stage = .broadcasting b) (hover : b.senders.all Sender.over = true) :
      Step unmarshal s (.handler k .finish)
        { s.setStage k h (.finished b) with
          subscribers := b.failed.foldl (fun m id => m.erase id) s.subscribers }
  | subscribe (id : Str) :
      Step unmarshal s (.subscribe id)
        { s with
          subscribers := s.subscribers.insert id s.calls.length
          calls := s.calls ++ [.new id] }
  | callCurrent {c : ℕ} {call : SubscribeCall} (hcall : s.calls[c]? = some call)
      (hstage : call.stage = .registered) :
      Step unmarshal s (.call c .current)
        (s.setCall c { call with stage := .sendingInitial (s.currentSnapshot "startup".toList) })
  | initialOk {c : ℕ} {call : SubscribeCall} {snapshot : Snapshot}
      (hcall : s.calls[c]? = some call) (hstage : call.stage = .sendingInitial snapshot) :
      Step unmarshal s (.call c (.sendInitial true))
        (s.setCall c { call with stage := .blocked, sent := call.sent ++ [snapshot] })
  | initialErr {c : ℕ} {call : SubscribeCall} {snapshot : Snapshot}
      (hcall : s.calls[c]? = some call) (hstage : call.stage = .sendingInitial snapshot) :
      Step unmarshal s (.call c (.sendInitial false))
        (s.setCall c { call with stage := .leaving, failed := true })
  | disconnect {c : ℕ} {call : SubscribeCall} (hcall : s.calls[c]? = some call) :
      Step unmarshal s (.call c .disconnect) (s.setCall c { call with disconnected := true })
  | wake {c : ℕ} {call : SubscribeCall} (hcall : s.calls[c]? = some call)
      (hstage : call.stage = .blocked) (hwoken : call.done = true ∨ call.disconnected = true) :
      Step unmarshal s (.call c .wake) (s.setCall c { call with stage := .leaving })
  | remove {c : ℕ} {call : SubscribeCall} (hcall : s.calls[c]? = some call)
      (hstage : call.stage = .leaving) :
      Step unmarshal s (.call c .remove)
        { s.setCall c { call with stage := .returned } with
          subscribers := s.subscribers.erase call.id }

section
variable {unmarshal : Str → Option GatewayConfig} {s s' : Server}

theorem senderStep_cases {k j : ℕ} {h : Handler} {b : Broadcast} {sender : Sender}
    {call : SubscribeCall} {action : SenderAction} (hfound : s.handlers[k]? = some h)
    (hstage : h.stage = .broadcasting b) (hsender : b.senders[j]? = some sender)
    (hcall : s.calls[sender.call]? = some call)
    (hstep : s.senderStep k h b j sender call action = some s') :
    Step unmarshal s (.handler k (.sender j action)) s' := by
  cases action with
  | send ok =>
      simp only [senderStep] at hstep
      split at hstep
      · next hsending =>
          cases ok with
          | true =>
              cases hstep
              exact .sendOk hfound hstage hsender hcall hsending
          | false =>
              cases hstep
              exact .sendErr hfound hstage hsender hcall hsending
      · cases hstep
  | push =>
      simp only [senderStep] at hstep
      split at hstep
      · next hpushing =>
          cases hstep
          exact .push hfound hstage hsender hcall hpushing.1 hpushing.2
      · cases hstep
  | close =>
      simp only [senderStep] at hstep
      split at hstep
      · next hclosing =>
          split at hstep
          · next hclosed =>
              cases hstep
              exact .closeAgain hfound hstage hsender hcall hclosing hclosed
          · next hopen =>
              cases hstep
              exact .close hfound hstage hsender hcall hclosing (by simpa using hopen)
      · cases hstep

theorem handlerStep_cases {k : ℕ} {h : Handler} {action : HandlerAction}
    (hfound : s.handlers[k]? = some h) (hstep : s.handlerStep k h action = some s') :
    Step unmarshal s (.handler k action) s' := by
  cases action with
  | current =>
      simp only [handlerStep] at hstep
      split at hstep
      · next hstage hnil =>
          cases hstep
          exact .current hfound hstage hnil
      · cases hstep
  | list =>
      simp only [handlerStep] at hstep
      split at hstep
      · next hstage =>
          cases hstep
          exact .list hfound hstage
      · cases hstep
  | sender j action =>
      simp only [handlerStep] at hstep
      split at hstep
      · next b hstage =>
          obtain ⟨sender, hsender, hstep⟩ := Option.bind_eq_some_iff.mp hstep
          obtain ⟨call, hcall, hstep⟩ := Option.bind_eq_some_iff.mp hstep
          exact senderStep_cases hfound hstage hsender hcall hstep
      · cases hstep
  | finish =>
      simp only [handlerStep] at hstep
      split at hstep
      · next b hstage =>
          split at hstep
          · next hover =>
              cases hstep
              exact .finish hfound hstage hover
          · cases hstep
      · cases hstep

theorem callStep_cases {c : ℕ} {call : SubscribeCall} {action : CallAction}
    (hcall : s.calls[c]? = some call) (hstep : s.callStep c call action = some s') :
    Step unmarshal s (.call c action) s' := by
  cases action with
  | current =>
      simp only [callStep] at hstep
      split at hstep
      · next hstage =>
          cases hstep
          exact .callCurrent hcall hstage
      · cases hstep
  | sendInitial ok =>
      simp only [callStep] at hstep
      split at hstep
      · next snapshot hstage =>
          cases ok with
          | true =>
              cases hstep
              exact .initialOk hcall hstage
          | false =>
              cases hstep
              exact .initialErr hcall hstage
      · cases hstep
  | disconnect =>
      cases hstep
      exact .disconnect hcall
  | wake =>
      simp only [callStep] at hstep
      split at hstep
      · next hwake =>
          cases hstep
          exact .wake hcall hwake.1 hwake.2
      · cases hstep
  | remove =>
      simp only [callStep] at hstep
      split at hstep
      · next hstage =>
          cases hstep
          exact .remove hcall hstage
      · cases hstep

/-- **Every step is one of these**, and nothing steps after a panic. -/
theorem step_cases {event : Event} (hstep : s.step unmarshal event = some s') :
    s.panicked = false ∧ Step unmarshal s event s' := by
  unfold step at hstep
  split at hstep
  · cases hstep
  · next hlive =>
      refine ⟨by simpa using hlive, ?_⟩
      cases event with
      | load e =>
          cases e with
          | start => cases hstep
          | write file =>
              obtain ⟨loading, hload, rfl⟩ := Option.map_eq_some_iff.mp hstep
              exact .load nofun hload
          | read k =>
              obtain ⟨loading, hload, rfl⟩ := Option.map_eq_some_iff.mp hstep
              exact .load nofun hload
          | install k =>
              obtain ⟨loading, hload, rfl⟩ := Option.map_eq_some_iff.mp hstep
              exact .load nofun hload
      | reload source =>
          cases hstep
          exact .reload source
      | handler k action =>
          obtain ⟨h, hfound, hstep⟩ := Option.bind_eq_some_iff.mp hstep
          exact handlerStep_cases hfound hstep
      | subscribe id =>
          cases hstep
          exact .subscribe id
      | call c action =>
          obtain ⟨call, hcall, hstep⟩ := Option.bind_eq_some_iff.mp hstep
          exact callStep_cases hcall hstep

end

/-! ## Steps as they are taken -/

section
variable {unmarshal : Str → Option GatewayConfig} {s : Server} {k j : ℕ} {h : Handler}
  {b : Broadcast} {sender : Sender} {call : SubscribeCall}

theorem run_snoc {file : Option Str} {loader : Loader} {events : List Event} {event : Event}
    {s' : Server} (hrun : run unmarshal file loader events = some s)
    (hstep : s.step unmarshal event = some s') :
    run unmarshal file loader (events ++ [event]) = some s' := by
  have hfollow : follow (step unmarshal) (init file loader) events = some s := hrun
  rw [run, follow_concat, hfollow]
  exact hstep

theorem step_handler (hlive : s.panicked = false) (hfound : s.handlers[k]? = some h)
    (action : HandlerAction) :
    s.step unmarshal (.handler k action) = s.handlerStep k h action := by
  rw [step, if_neg (Bool.eq_false_iff.mp hlive), hfound]
  rfl

theorem step_sender (hlive : s.panicked = false) (hfound : s.handlers[k]? = some h)
    (hstage : h.stage = .broadcasting b) (hsender : b.senders[j]? = some sender)
    (hcall : s.calls[sender.call]? = some call) (action : SenderAction) :
    s.step unmarshal (.handler k (.sender j action)) =
      s.senderStep k h b j sender call action := by
  rw [step_handler hlive hfound, handlerStep, hstage]
  show (b.senders[j]?).bind _ = _
  rw [hsender]
  show (s.calls[sender.call]?).bind _ = _
  rw [hcall]
  rfl

end

/-! ## Frames -/

section
variable (s : Server) (c k j : ℕ) (call : SubscribeCall) (h : Handler) (b : Broadcast)
  (sender : Sender) (stage : HandlerStage)

@[simp] theorem setCall_calls : (s.setCall c call).calls = s.calls.set c call := rfl

@[simp] theorem setCall_handlers : (s.setCall c call).handlers = s.handlers := rfl

@[simp] theorem setCall_loading : (s.setCall c call).loading = s.loading := rfl

@[simp] theorem setStage_calls : (s.setStage k h stage).calls = s.calls := rfl

@[simp] theorem setStage_handlers :
    (s.setStage k h stage).handlers = s.handlers.set k { h with stage := stage } := rfl

@[simp] theorem setStage_loading : (s.setStage k h stage).loading = s.loading := rfl

@[simp] theorem setSender_calls : (s.setSender k h b j sender).calls = s.calls := rfl

@[simp] theorem setSender_handlers :
    (s.setSender k h b j sender).handlers = s.handlers.set k
      { h with stage := .broadcasting { b with senders := b.senders.set j sender } } := rfl

@[simp] theorem setSender_loading : (s.setSender k h b j sender).loading = s.loading := rfl

end

/-! ## Handlers along a step -/

/-- The broadcast of handler `k`. -/
def broadcast? (s : Server) (k : ℕ) : Option Broadcast := (s.handlers[k]?).bind Handler.broadcast?

/-- The snapshot handler `k` has read. -/
def snapshot? (s : Server) (k : ℕ) : Option Snapshot := (s.handlers[k]?).bind Handler.snapshot?

/-- Goroutine `j` of the broadcast of handler `k`. -/
def sender? (s : Server) (k j : ℕ) : Option Sender := (s.broadcast? k).bind fun b => b.senders[j]?

/-- How a goroutine moves on. -/
inductive Moves : SenderStage → SenderAction → SenderStage → Prop where
  | sent : Moves .sending (.send true) .sent
  | failed : Moves .sending (.send false) .pushing
  | pushed : Moves .pushing .push .closing
  | closed : Moves .closing .close .closed

theorem Moves.ne_sending {stage stage' : SenderStage} {action : SenderAction}
    (h : Moves stage action stage') : stage' ≠ .sending := by
  cases h <;> nofun

/-- What goroutine `j` makes of its broadcast. -/
inductive Goes (s : Server) (b : Broadcast) (j : ℕ) (action : SenderAction) : Broadcast → Prop where
  | on {sender : Sender} {call : SubscribeCall} {stage : SenderStage}
      (hsender : b.senders[j]? = some sender) (hcall : s.calls[sender.call]? = some call)
      (hmoves : Moves sender.stage action stage) :
      Goes s b j action
        { b with
          senders := b.senders.set j { sender with stage := stage }
          failed := b.failed ++ if action = .push then [call.id] else [] }

/-- What a step makes of the stage of handler `k`, if it changes it. -/
inductive Advances (s : Server) (k : ℕ) (h : Handler) : Event → HandlerStage → Prop where
  | current {v : ℕ} (hstage : h.stage = .reloading)
      (hnil : s.loading.reloads[k]? = some (.installed v)) :
      Advances s k h (.handler k .current) (.snapshotRead (s.currentSnapshot h.source.reason))
  | list {snapshot : Snapshot} (hstage : h.stage = .snapshotRead snapshot) :
      Advances s k h (.handler k .list) (s.listed snapshot)
  | goes {j : ℕ} {b b' : Broadcast} {action : SenderAction} (hstage : h.stage = .broadcasting b)
      (hgoes : s.Goes b j action b') :
      Advances s k h (.handler k (.sender j action)) (.broadcasting b')
  | finished {b : Broadcast} (hstage : h.stage = .broadcasting b)
      (hover : b.senders.all Sender.over = true) :
      Advances s k h (.handler k .finish) (.finished b)

section
variable {s : Server} {k : ℕ} {h : Handler} {b : Broadcast}

theorem broadcast?_of_found (hfound : s.handlers[k]? = some h) :
    s.broadcast? k = h.broadcast? := by
  rw [broadcast?, hfound]
  rfl

theorem snapshot?_of_found (hfound : s.handlers[k]? = some h) :
    s.snapshot? k = h.snapshot? := by
  rw [snapshot?, hfound]
  rfl

theorem broadcast?_of_stage (hfound : s.handlers[k]? = some h)
    (hstage : h.stage = .broadcasting b) : s.broadcast? k = some b := by
  rw [broadcast?_of_found hfound, Handler.broadcast?, hstage]

theorem sender?_of_stage {j : ℕ} {sender : Sender} (hfound : s.handlers[k]? = some h)
    (hstage : h.stage = .broadcasting b) (hsender : b.senders[j]? = some sender) :
    s.sender? k j = some sender := by
  rw [sender?, broadcast?_of_stage hfound hstage]
  exact hsender

theorem broadcast?_listed (snapshot : Snapshot) :
    Handler.broadcast? { h with stage := s.listed snapshot } = some (s.begun snapshot) := by
  unfold listed
  split <;> rfl

theorem snapshot?_listed (snapshot : Snapshot) :
    Handler.snapshot? { h with stage := s.listed snapshot } = some snapshot := by
  unfold listed
  split <;> rfl

/-- A broadcast to nobody is over as it begins. -/
theorem over_of_listed {snapshot : Snapshot} (h : s.listed snapshot = .finished b) :
    b.senders.all Sender.over = true := by
  unfold listed at h
  split at h
  · next hnone =>
      cases h
      rw [hnone]
      rfl
  · cases h

theorem Goes.snapshot {j : ℕ} {action : SenderAction} {b' : Broadcast}
    (h : s.Goes b j action b') : b'.snapshot = b.snapshot := by
  cases h
  rfl

theorem begun_sending {snapshot : Snapshot} {sender : Sender}
    (h : sender ∈ (s.begun snapshot).senders) : sender.stage = .sending := by
  obtain ⟨e, _, rfl⟩ := List.mem_map.mp h
  rfl

end

section
variable {unmarshal : Str → Option GatewayConfig} {s s' : Server} {event : Event}

/-- A handler after a step is what it was, or moved on, or is the new one. -/
theorem Step.handler (hstep : Step unmarshal s event s') (k : ℕ) :
    s'.handlers[k]? = s.handlers[k]? ∨
      (∃ h stage, s.handlers[k]? = some h ∧ s.Advances k h event stage ∧
        s'.handlers[k]? = some { h with stage := stage }) ∨
      ∃ source, event = .reload source ∧ s.handlers[k]? = none ∧
        s'.handlers[k]? = some ⟨source, .reloading⟩ := by
  have hset : ∀ {i : ℕ} {h : Handler} {stage : HandlerStage}, s.handlers[i]? = some h →
      s'.handlers = s.handlers.set i { h with stage := stage } → s.Advances i h event stage →
      s'.handlers[k]? = s.handlers[k]? ∨
        (∃ h stage, s.handlers[k]? = some h ∧ s.Advances k h event stage ∧
          s'.handlers[k]? = some { h with stage := stage }) ∨
        ∃ source, event = .reload source ∧ s.handlers[k]? = none ∧
          s'.handlers[k]? = some ⟨source, .reloading⟩ := by
    intro i h stage hfound hhandlers hadvances
    rw [hhandlers, getElem?_replaced hfound]
    split
    · next hk =>
        subst hk
        exact .inr (.inl ⟨h, stage, hfound, hadvances, rfl⟩)
    · exact .inl rfl
  cases hstep with
  | reload source =>
      show (s.handlers ++ [_])[k]? = _ ∨ _
      rw [getElem?_appended]
      split
      · next hk =>
          refine .inr (.inr ⟨source, rfl, ?_, rfl⟩)
          rw [hk]
          exact List.getElem?_eq_none le_rfl
      · exact .inl rfl
  | current hfound hstage hnil => exact hset hfound rfl (.current hstage hnil)
  | list hfound hstage => exact hset hfound rfl (.list hstage)
  | sendOk hfound hstage hsender hcall hsending =>
      have hon := Goes.on hsender hcall (hsending ▸ Moves.sent)
      rw [if_neg nofun, List.append_nil] at hon
      exact hset hfound rfl (.goes hstage hon)
  | sendErr hfound hstage hsender hcall hsending =>
      have hon := Goes.on hsender hcall (hsending ▸ Moves.failed)
      rw [if_neg nofun, List.append_nil] at hon
      exact hset hfound rfl (.goes hstage hon)
  | push hfound hstage hsender hcall hpushing hroom =>
      have hon := Goes.on hsender hcall (hpushing ▸ Moves.pushed)
      rw [if_pos rfl] at hon
      exact hset hfound rfl (.goes hstage hon)
  | close hfound hstage hsender hcall hclosing hopen =>
      have hon := Goes.on hsender hcall (hclosing ▸ Moves.closed)
      rw [if_neg nofun, List.append_nil] at hon
      exact hset hfound rfl (.goes hstage hon)
  | finish hfound hstage hover => exact hset hfound rfl (.finished hstage hover)
  | _ => exact .inl rfl

/-- What a step does to a broadcast: nothing, or one of its goroutines moves, or
it begins. -/
theorem Step.broadcast (hstep : Step unmarshal s event s') (k : ℕ) :
    s'.broadcast? k = s.broadcast? k ∨
      (∃ b j action b', event = .handler k (.sender j action) ∧ s.broadcast? k = some b ∧
        s.Goes b j action b' ∧ s'.broadcast? k = some b') ∨
      (event = .handler k .list ∧ s.broadcast? k = none ∧
        ∃ snapshot, s.snapshot? k = some snapshot ∧
          s'.broadcast? k = some (s.begun snapshot)) := by
  rcases hstep.handler k with hsame | ⟨h, stage, hfound, hadvances, hfound'⟩ |
    ⟨source, _, hnone, hfound'⟩
  · left
    rw [broadcast?, hsame]
    rfl
  · rw [broadcast?_of_found hfound, broadcast?_of_found hfound', snapshot?_of_found hfound]
    cases hadvances with
    | current hstage hnil =>
        left
        rw [Handler.broadcast?, Handler.broadcast?, hstage]
    | @list snapshot hstage =>
        refine .inr (.inr ⟨rfl, ?_, snapshot, ?_, broadcast?_listed snapshot⟩)
        · rw [Handler.broadcast?, hstage]
        · rw [Handler.snapshot?, hstage]
    | @goes j b b' action hstage hgoes =>
        refine .inr (.inl ⟨b, j, action, b', rfl, ?_, hgoes, rfl⟩)
        rw [Handler.broadcast?, hstage]
    | finished hstage hover =>
        left
        rw [Handler.broadcast?, Handler.broadcast?, hstage]
  · left
    rw [broadcast?_of_found hfound', broadcast?, hnone]
    rfl

theorem sender?_of_goes {k j : ℕ} {b b' : Broadcast} {action : SenderAction}
    (hb : s.broadcast? k = some b) (hb' : s'.broadcast? k = some b') (hgoes : s.Goes b j action b')
    (j' : ℕ) :
    ∃ sender stage, s.sender? k j = some sender ∧ Moves sender.stage action stage ∧
      s'.sender? k j' = if j' = j then some { sender with stage := stage } else s.sender? k j' := by
  cases hgoes with
  | on hsender hcall hmoves =>
      refine ⟨_, _, ?_, hmoves, ?_⟩
      · rw [sender?, hb]
        exact hsender
      · rw [sender?, sender?, hb, hb']
        exact getElem?_replaced hsender _ j'

/-- The same of one goroutine. -/
theorem Step.sender (hstep : Step unmarshal s event s') (k j : ℕ) :
    s'.sender? k j = s.sender? k j ∨
      (∃ sender action stage, event = .handler k (.sender j action) ∧
        s.sender? k j = some sender ∧ Moves sender.stage action stage ∧
        s'.sender? k j = some { sender with stage := stage }) ∨
      (event = .handler k .list ∧ s.broadcast? k = none ∧
        ∀ sender, s'.sender? k j = some sender → sender.stage = .sending) := by
  rcases hstep.broadcast k with hsame | ⟨b, j₀, action, b', hevent, hb, hgoes, hb'⟩ |
    ⟨hevent, hnone, snapshot, _, hb'⟩
  · left
    rw [sender?, hsame]
    rfl
  · obtain ⟨sender, stage, hsender, hmoves, hafter⟩ := sender?_of_goes hb hb' hgoes j
    rw [hafter]
    split
    · next hj =>
        subst hj
        exact .inr (.inl ⟨sender, action, stage, hevent, hsender, hmoves, rfl⟩)
    · exact .inl rfl
  · refine .inr (.inr ⟨hevent, hnone, ?_⟩)
    intro sender hsender
    rw [sender?, hb'] at hsender
    exact begun_sending (List.mem_of_getElem? hsender)

/-- What a step does to the snapshot of a handler: nothing, or it is read now. -/
theorem Step.snapshot (hstep : Step unmarshal s event s') (k : ℕ) :
    s'.snapshot? k = s.snapshot? k ∨
      ∃ reason v, event = .handler k .current ∧ s.loading.reloads[k]? = some (.installed v) ∧
        s'.snapshot? k = some (s.currentSnapshot reason) := by
  rcases hstep.handler k with hsame | ⟨h, stage, hfound, hadvances, hfound'⟩ |
    ⟨source, _, hnone, hfound'⟩
  · left
    rw [snapshot?, hsame]
    rfl
  · rw [snapshot?_of_found hfound, snapshot?_of_found hfound']
    cases hadvances with
    | @current v hstage hnil => exact .inr ⟨h.source.reason, v, rfl, hnil, rfl⟩
    | list hstage =>
        left
        rw [snapshot?_listed, Handler.snapshot?, hstage]
    | goes hstage hgoes =>
        left
        rw [Handler.snapshot?, Handler.snapshot?, hstage]
        exact congrArg some hgoes.snapshot
    | finished hstage hover =>
        left
        rw [Handler.snapshot?, Handler.snapshot?, hstage]
  · left
    rw [snapshot?_of_found hfound', snapshot?, hnone]
    rfl

/-- A handler that has finished had all its goroutines over. -/
theorem Step.finished (hstep : Step unmarshal s event s') {k : ℕ} {h' : Handler} {b : Broadcast}
    (hfound : s'.handlers[k]? = some h') (hstage : h'.stage = .finished b) :
    s.handlers[k]? = some h' ∨ b.senders.all Sender.over = true := by
  rcases hstep.handler k with hsame | ⟨h, stage, _, hadvances, hfound'⟩ | ⟨source, _, _, hfound'⟩
  · exact .inl (hsame ▸ hfound)
  · right
    rw [hfound] at hfound'
    cases hfound'
    cases hadvances with
    | current _ _ => cases hstage
    | list _ => exact over_of_listed hstage
    | goes _ _ => cases hstage
    | finished _ hover =>
        cases hstage
        exact hover
  · rw [hfound] at hfound'
    cases hfound'
    cases hstage

end

/-! ## Calls along a step -/

/-- What a step makes of `Subscribe` call `c`, if it changes it. -/
inductive Becomes (s : Server) (c : ℕ) (call : SubscribeCall) : Event → SubscribeCall → Prop where
  | sent {k j : ℕ} {b : Broadcast} (hb : s.broadcast? k = some b)
      (hsender : b.senders[j]? = some ⟨c, .sending⟩) :
      Becomes s c call (.handler k (.sender j (.send true)))
        { call with sent := call.sent ++ [b.snapshot] }
  | failed {k j : ℕ} (hsender : s.sender? k j = some ⟨c, .sending⟩) :
      Becomes s c call (.handler k (.sender j (.send false))) { call with failed := true }
  | closed {k j : ℕ} (hsender : s.sender? k j = some ⟨c, .closing⟩) (hopen : call.done = false) :
      Becomes s c call (.handler k (.sender j .close)) { call with done := true }
  | current (hstage : call.stage = .registered) :
      Becomes s c call (.call c .current)
        { call with stage := .sendingInitial (s.currentSnapshot "startup".toList) }
  | initialSent {snapshot : Snapshot} (hstage : call.stage = .sendingInitial snapshot) :
      Becomes s c call (.call c (.sendInitial true))
        { call with stage := .blocked, sent := call.sent ++ [snapshot] }
  | initialFailed {snapshot : Snapshot} (hstage : call.stage = .sendingInitial snapshot) :
      Becomes s c call (.call c (.sendInitial false))
        { call with stage := .leaving, failed := true }
  | disconnected : Becomes s c call (.call c .disconnect) { call with disconnected := true }
  | woken (hstage : call.stage = .blocked) :
      Becomes s c call (.call c .wake) { call with stage := .leaving }
  | removed (hstage : call.stage = .leaving) :
      Becomes s c call (.call c .remove) { call with stage := .returned }

section
variable {unmarshal : Str → Option GatewayConfig} {s s' : Server} {event : Event}

/-- A call after a step is what it was, or became it, or is the new one. -/
theorem Step.call (hstep : Step unmarshal s event s') {c : ℕ} {call' : SubscribeCall}
    (hfound : s'.calls[c]? = some call') :
    s.calls[c]? = some call' ∨
      (∃ call, s.calls[c]? = some call ∧ s.Becomes c call event call') ∨
      ∃ id, event = .subscribe id ∧ c = s.calls.length ∧ call' = .new id := by
  have hset : ∀ {i : ℕ} {call new : SubscribeCall}, s.calls[i]? = some call →
      s'.calls = s.calls.set i new → s.Becomes i call event new →
      s.calls[c]? = some call' ∨
        (∃ call, s.calls[c]? = some call ∧ s.Becomes c call event call') ∨
        ∃ id, event = .subscribe id ∧ c = s.calls.length ∧ call' = .new id := by
    intro i call new hcall hcalls hbecomes
    rw [hcalls, getElem?_replaced hcall] at hfound
    split at hfound
    · next hci =>
        cases hfound
        subst hci
        exact .inr (.inl ⟨call, hcall, hbecomes⟩)
    · exact .inl hfound
  cases hstep with
  | subscribe id =>
      rw [show (s.calls ++ [.new id])[c]? = _ from getElem?_appended _ _ _] at hfound
      split at hfound
      · next hc =>
          cases hfound
          exact .inr (.inr ⟨id, rfl, hc, rfl⟩)
      · exact .inl hfound
  | @sendOk k j h b sender call hstage hfound' hsender hcall hsending =>
      have hj : b.senders[j]? = some ⟨sender.call, .sending⟩ := hsending ▸ hsender
      exact hset hcall rfl (.sent (broadcast?_of_stage hstage hfound') hj)
  | @sendErr k j h b sender call hstage hfound' hsender hcall hsending =>
      have hj : b.senders[j]? = some ⟨sender.call, .sending⟩ := hsending ▸ hsender
      exact hset hcall rfl (.failed (sender?_of_stage hstage hfound' hj))
  | @close k j h b sender call hstage hfound' hsender hcall hclosing hopen =>
      have hj : b.senders[j]? = some ⟨sender.call, .closing⟩ := hclosing ▸ hsender
      exact hset hcall rfl (.closed (sender?_of_stage hstage hfound' hj) hopen)
  | callCurrent hcall hstage => exact hset hcall rfl (.current hstage)
  | initialOk hcall hstage => exact hset hcall rfl (.initialSent hstage)
  | initialErr hcall hstage => exact hset hcall rfl (.initialFailed hstage)
  | disconnect hcall => exact hset hcall rfl .disconnected
  | wake hcall hstage _ => exact hset hcall rfl (.woken hstage)
  | remove hcall hstage => exact hset hcall rfl (.removed hstage)
  | _ => exact .inl hfound

/-- No call is dropped. -/
theorem Step.call_exists (hstep : Step unmarshal s event s') {c : ℕ} {call : SubscribeCall}
    (hcall : s.calls[c]? = some call) : ∃ call', s'.calls[c]? = some call' := by
  have hlt : c < s.calls.length := (List.getElem?_eq_some_iff.mp hcall).1
  have hlength : s.calls.length ≤ s'.calls.length := by
    cases hstep <;> simp
  exact ⟨_, List.getElem?_eq_getElem (by omega)⟩

end

/-! ## The loader inside -/

/-- The events of a run that concern the loader. -/
def loadEvents : List Event → List LoadEvent
  | [] => []
  | .load e :: rest => e :: loadEvents rest
  | .reload _ :: rest => .start :: loadEvents rest
  | _ :: rest => loadEvents rest

theorem loadEvents_append (as bs : List Event) :
    loadEvents (as ++ bs) = loadEvents as ++ loadEvents bs := by
  induction as with
  | nil => rfl
  | cons a as ih =>
      cases a with
      | load e => exact congrArg (e :: ·) ih
      | reload source => exact congrArg (LoadEvent.start :: ·) ih
      | handler k action => exact ih
      | subscribe id => exact ih
      | call c action => exact ih

section
variable {unmarshal : Str → Option GatewayConfig} {s s' : Server} {event : Event}

/-- A step of the control plane is a step of the loader, or none. -/
theorem Step.loading (h : Step unmarshal s event s') :
    follow (Loading.step unmarshal) s.loading (loadEvents [event]) = some s'.loading := by
  cases h with
  | load hne hload =>
      show follow _ _ [_] = _
      rw [follow_cons, hload]
      rfl
  | reload source => rfl
  | _ => rfl

/-- **A run of the control plane is a run of its loader.** -/
theorem run_loading {file : Option Str} {loader : Loader} {events : List Event}
    (h : run unmarshal file loader events = some s) :
    Loading.run unmarshal file loader (loadEvents events) = some s.loading := by
  refine follow_invariant
    (P := fun events s => Loading.run unmarshal file loader (loadEvents events) = some s.loading)
    rfl ?_ events s h
  intro as e t t' _ hrun hstep
  show Loading.run unmarshal file loader (loadEvents (as ++ [e])) = _
  have hrun' : follow (Loading.step unmarshal) (.init file loader) (loadEvents as) =
      some t.loading := hrun
  rw [loadEvents_append, Loading.run, follow_append, hrun']
  exact (step_cases hstep).2.loading

end

end Server

end Stateform.ControlPlane
