import Mathlib.Tactic.IntervalCases
import Stateform.Library.Run

/-!
# Shutdown

The tasks of `server.rs`, `shutdown.rs` and `main.rs` that a shutdown signal
concerns, in any interleaving: the signal task (`ShutdownCoordinator::shutdown`),
the accept loop with the connections it spawned, and the main task, whose return
drops whatever still runs. Times are in milliseconds.
-/

namespace Stateform

open Library

/-! ## The tasks -/

/-- The task that waits for the signal and then drains. -/
inductive SignalTask : Type where
  | waiting
  | received
  | sent
  | polling (start : ℕ)
  | sleeping (start wake : ℕ)
  | done (start : ℕ)
deriving DecidableEq

/-- The `start` of the drain loop, once it was taken. -/
def SignalTask.drainStart : SignalTask → Option ℕ
  | .polling start => some start
  | .sleeping start _ => some start
  | .done start => some start
  | _ => none

/-- `run` up to its listener, then `accept_loop`. -/
inductive AcceptLoop : Type where
  | starting
  | selecting
  | backingOff (wake : ℕ)
  | stopped
deriving DecidableEq

/-- `main`, around `GatewayServer::run`. -/
inductive MainTask : Type where
  | running
  | returned
  | exited
deriving DecidableEq

/-- The process. `flag` is the value of the watch channel, `counter` the number
the drain loop polls, `guards` the connections that hold a `DrainGuard`, and
`cutOff` those the end of the runtime dropped. -/
structure Process : Type where
  now : ℕ
  flag : Bool
  counter : ℕ
  guards : List ℕ
  signal : SignalTask
  acceptLoop : AcceptLoop
  main : MainTask
  cutOff : List ℕ
deriving DecidableEq

/-- A process with its signal handler installed. -/
def Process.init : Process := ⟨0, false, 0, [], .waiting, .starting, .running, []⟩

inductive ShutdownEvent : Type where
  | tick (d : ℕ)
  | osSignal
  | send
  | startDrain
  | poll
  | wake
  | listen
  | startFails
  | accept (conn : ℕ)
  | acceptFails
  | retry
  | stop
  | close (conn : ℕ)
  | runReturns
  | mainReturns
deriving DecidableEq

/-- `DRAIN_TIMEOUT`. -/
def drainTimeout : ℕ := 30000

namespace Process

/-- One step of the task an event belongs to, if that task can take it. -/
def step (s : Process) (event : ShutdownEvent) : Option Process :=
  -- nothing runs once the runtime is gone
  if s.main = .exited then none
  else match event with
  | .tick d => some { s with now := s.now + d }
  | .osSignal => if s.signal = .waiting then some { s with signal := .received } else none
  | .send =>
      if s.signal = .received then some { s with signal := .sent, flag := true } else none
  | .startDrain => if s.signal = .sent then some { s with signal := .polling s.now } else none
  | .poll =>
      match s.signal with
      | .polling start =>
          if s.counter = 0 then some { s with signal := .done start }
          else if drainTimeout ≤ s.now - start then some { s with signal := .done start }
          else some { s with signal := .sleeping start (s.now + 50) }
      | _ => none
  | .wake =>
      match s.signal with
      | .sleeping start wake =>
          if wake ≤ s.now then some { s with signal := .polling start } else none
      | _ => none
  | .listen =>
      if s.acceptLoop = .starting then some { s with acceptLoop := .selecting } else none
  | .startFails =>
      if s.acceptLoop = .starting then some { s with acceptLoop := .stopped, main := .returned }
      else none
  | .accept conn =>
      if s.acceptLoop = .selecting ∧ conn ∉ s.guards then
        some { s with counter := s.counter + 1, guards := conn :: s.guards }
      else none
  | .acceptFails =>
      if s.acceptLoop = .selecting then some { s with acceptLoop := .backingOff (s.now + 10) }
      else none
  | .retry =>
      match s.acceptLoop with
      | .backingOff wake => if wake ≤ s.now then some { s with acceptLoop := .selecting } else none
      | _ => none
  | .stop =>
      if s.acceptLoop = .selecting ∧ s.flag = true then some { s with acceptLoop := .stopped }
      else none
  | .close conn =>
      if conn ∈ s.guards then
        some { s with counter := s.counter - 1, guards := s.guards.erase conn }
      else none
  | .runReturns =>
      if s.acceptLoop = .stopped ∧ s.main = .running then some { s with main := .returned }
      else none
  | .mainReturns =>
      if s.main = .returned then
        some { s with main := .exited, counter := 0, guards := [], cutOff := s.guards }
      else none

/-- The process after a list of events, if the tasks can take them in this
order. -/
def run (events : List ShutdownEvent) : Option Process := follow step init events

/-- `DRAIN_TIMEOUT` has passed since the drain loop started. -/
def TimedOut (s : Process) : Prop :=
  ∃ start, s.signal.drainStart = some start ∧ drainTimeout ≤ s.now - start

/-- The drain phase has nothing left to wait for. -/
def DrainOver (s : Process) : Prop := s.guards = [] ∨ s.TimedOut

/-- `run` has returned only with the drain over, and the end of the runtime cut
off no connection before the timeout. -/
structure Graceful (s : Process) : Prop where
  returned : s.main = .returned → s.DrainOver
  cutOff : s.cutOff = [] ∨ s.TimedOut

end Process

/-- Every state on the way is graceful. -/
def ReturnsDrained (events : List ShutdownEvent) : Prop :=
  ∀ before s, before <+: events → Process.run before = some s → s.Graceful

/-- The accept loop takes its shutdown branch only where the drain is over. -/
def StopsDrained (events : List ShutdownEvent) : Prop :=
  ∀ before s, before ++ [.stop] <+: events → Process.run before = some s → s.DrainOver

namespace Process

section
variable {s s' : Process} {event : ShutdownEvent}

/-! ## What a step changes -/

/-- The clock goes on, and a drain loop keeps its start. -/
theorem step_clock (hstep : s.step event = some s') :
    s.now ≤ s'.now ∧ ∀ start, s.signal.drainStart = some start →
      s'.signal.drainStart = some start := by
  unfold step at hstep
  cases event <;> grind [SignalTask.drainStart]

/-- New guards come from the accept loop alone; only the end of the runtime cuts
connections off. -/
theorem step_guards (hstep : s.step event = some s') :
    (s'.guards ⊆ s.guards ∨ ∃ conn, event = .accept conn ∧ s.acceptLoop = .selecting) ∧
      (s'.cutOff = s.cutOff ∨ (s.main = .returned ∧ s'.cutOff = s.guards)) := by
  unfold step at hstep
  cases event <;> grind [List.erase_subset]

theorem step_counter (hcounter : s.counter = s.guards.length) (hstep : s.step event = some s') :
    s'.counter = s'.guards.length := by
  unfold step at hstep
  cases event <;> grind

/-- The accept loop stops for good, on the signal or because it never started. -/
theorem step_acceptLoop (hstep : s.step event = some s') :
    (s.acceptLoop = .stopped → s'.acceptLoop = .stopped) ∧
      (s'.acceptLoop = .starting → s.acceptLoop = .starting) ∧
      (s'.acceptLoop = .stopped → s.acceptLoop = .stopped ∨ event = .stop ∨
        s.acceptLoop = .starting) := by
  unfold step at hstep
  cases event <;> grind

/-- `run` returns once the accept loop has stopped. -/
theorem step_main (hstep : s.step event = some s') :
    s'.main = .running ∨ s'.acceptLoop = .stopped ∨ s'.main = s.main ∨ s.main = .returned := by
  unfold step at hstep
  cases event <;> grind

theorem TimedOut.step (h : s.TimedOut) (hstep : s.step event = some s') : s'.TimedOut := by
  obtain ⟨start, hstart, hpast⟩ := h
  rcases step_clock hstep with ⟨hnow, hkept⟩
  exact ⟨start, hkept start hstart, by omega⟩

/-- Once no guard can be added, the drain stays over. -/
theorem DrainOver.step (h : s.DrainOver) (hclosed : s.acceptLoop ≠ .selecting ∨ event = .stop)
    (hstep : s.step event = some s') : s'.DrainOver := by
  rcases h with hnone | htimeout
  · rcases (step_guards hstep).1 with hsub | ⟨conn, rfl, hselecting⟩
    · exact .inl (List.subset_nil.mp (hnone ▸ hsub))
    · simp [hselecting] at hclosed
  · exact .inr (htimeout.step hstep)

/-! ## The drain loop -/

/-- What the tasks keep in any interleaving. -/
structure Consistent (s : Process) : Prop where
  counter : s.counter = s.guards.length
  starting : s.acceptLoop = .starting → s.guards = []
  returned : s.main ≠ .running → s.acceptLoop = .stopped

theorem Consistent.step (h : s.Consistent) (hstep : s.step event = some s') : s'.Consistent where
  counter := step_counter h.counter hstep
  starting := by
    intro hstarting
    have hbefore := (step_acceptLoop hstep).2.1 hstarting
    rcases (step_guards hstep).1 with hsub | ⟨conn, -, hselecting⟩
    · exact List.subset_nil.mp (h.starting hbefore ▸ hsub)
    · simp [hbefore] at hselecting
  returned := by
    intro hmain
    rcases step_main hstep with hrunning | hstopped | hsame | hreturned
    · exact absurd hrunning hmain
    · exact hstopped
    · exact (step_acceptLoop hstep).1 (h.returned (hsame ▸ hmain))
    · exact (step_acceptLoop hstep).1 (h.returned (by simp [hreturned]))

theorem init_consistent : init.Consistent := ⟨rfl, fun _ => rfl, nofun⟩

theorem run_consistent {events : List ShutdownEvent} (hrun : run events = some s) :
    s.Consistent :=
  follow_invariant (P := fun _ t => t.Consistent) init_consistent
    (fun _ _ _ _ _ hkept hstep => hkept.step hstep) events s hrun

/-- The signal task itself keeps its promise: `shutdown` ends only when no guard
is live or the timeout has passed. -/
theorem poll_done {events : List ShutdownEvent} {start : ℕ} (hrun : run events = some s)
    (hstep : s.step .poll = some s') (hdone : s'.signal = .done start) : s.DrainOver := by
  have hcounter := (run_consistent hrun).counter
  unfold Process.step at hstep
  cases hsignal : s.signal with
  | polling start' =>
      by_cases hzero : s.counter = 0
      · left
        rw [hcounter, List.length_eq_zero_iff] at hzero
        exact hzero
      by_cases hpast : drainTimeout ≤ s.now - start'
      · exact .inr ⟨start', by simp [hsignal, SignalTask.drainStart], hpast⟩
      · simp only [hsignal, hzero, hpast, ↓reduceIte, Option.ite_none_left_eq_some,
          Option.some.injEq] at hstep
        simp [← hstep.2] at hdone
  | _ => simp [hsignal] at hstep

/-! ## Who waits for the drain -/

/-- What a process keeps whose accept loop stops only where the drain is
over. -/
structure WaitsForDrain (s : Process) : Prop extends Consistent s where
  stopped : s.acceptLoop = .stopped → s.DrainOver
  cutOff : s.cutOff = [] ∨ s.TimedOut

theorem WaitsForDrain.step (h : s.WaitsForDrain) (hstop : event = .stop → s.DrainOver)
    (hstep : s.step event = some s') : s'.WaitsForDrain where
  toConsistent := h.toConsistent.step hstep
  stopped := by
    intro hstopped
    rcases (step_acceptLoop hstep).2.2 hstopped with hbefore | rfl | hstarting
    · exact (h.stopped hbefore).step (.inl (by simp [hbefore])) hstep
    · exact (hstop rfl).step (.inr rfl) hstep
    · exact DrainOver.step (.inl (h.starting hstarting)) (.inl (by simp [hstarting])) hstep
  cutOff := by
    rcases (step_guards hstep).2 with hsame | ⟨hreturned, hcut⟩
    · rcases h.cutOff with hnone | htimeout
      · exact .inl (hsame.trans hnone)
      · exact .inr (htimeout.step hstep)
    · rcases h.stopped (h.returned (by simp [hreturned])) with hnone | htimeout
      · exact .inl (hcut.trans hnone)
      · exact .inr (htimeout.step hstep)

theorem WaitsForDrain.graceful (h : s.WaitsForDrain) : s.Graceful where
  returned := by
    intro hmain
    exact h.stopped (h.returned (by simp [hmain]))
  cutOff := h.cutOff

/-- The shutdown branch is taken by a running `run`, which may return right
after. -/
theorem stop_returns {events : List ShutdownEvent} (hrun : run events = some s)
    (hstep : s.step .stop = some s') :
    run (events ++ [.stop, .runReturns]) =
      some { s with acceptLoop := .stopped, main := .returned } := by
  have hconsistent := run_consistent hrun
  simp only [Process.step, Option.ite_none_left_eq_some, Option.ite_none_right_eq_some,
    Option.some.injEq] at hstep
  obtain ⟨-, ⟨hselecting, hflag⟩, -⟩ := hstep
  have hmain : s.main = .running := by
    by_contra hmain
    have hstopped := hconsistent.returned hmain
    rw [hselecting] at hstopped
    cases hstopped
  have hfollow : follow Process.step init events = some s := hrun
  rw [run, follow_append, hfollow]
  simp [follow, Process.step, hselecting, hflag, hmain]

theorem run_waitsForDrain {events before : List ShutdownEvent} (hstops : StopsDrained events)
    (hrun : run before = some s) (hbefore : before <+: events) : s.WaitsForDrain := by
  refine follow_invariant (P := fun past t => past <+: events → t.WaitsForDrain)
    (fun _ => ⟨init_consistent, nofun, .inl rfl⟩) ?_ before s hrun hbefore
  intro past event t t' hpast hkept hstep hnext
  refine (hkept ((List.prefix_append _ _).trans hnext)).step ?_ hstep
  rintro rfl
  exact hstops past t hnext hpast

end

end Process

/-- **A process drains before it returns as far as its accept loop stops only
where the drain is over.** Where it stops earlier, `run` may return at once. -/
theorem returnsDrained (events : List ShutdownEvent) :
    (StopsDrained events → ReturnsDrained events) ∧
      ∀ s s', Process.run events = some s → s.step .stop = some s' → ¬ s.DrainOver →
        ¬ ReturnsDrained (events ++ [.stop, .runReturns]) := by
  constructor
  · intro hstops before s hbefore hrun
    exact (Process.run_waitsForDrain hstops hrun hbefore).graceful
  · intro s s' hrun hstep hlive hall
    have hgraceful := hall _ _ (List.prefix_refl _) (Process.stop_returns hrun hstep)
    exact hlive (hgraceful.returned rfl)

/-- One connection, closed between the signal and the shutdown branch. -/
def drainedRun : List ShutdownEvent :=
  [.listen, .accept 0, .osSignal, .send, .startDrain, .close 0, .stop, .runReturns, .mainReturns]

theorem drainedRun_returnsDrained : ReturnsDrained drainedRun := by
  apply (returnsDrained drainedRun).1
  intro before s hbefore hrun
  obtain ⟨rest, hrest⟩ := hbefore
  have hindex : drainedRun[before.length]? = some .stop := by simp [← hrest]
  have htake : before = drainedRun.take before.length := by simp [← hrest]
  have hlength : before.length = 6 := by
    have hlt : before.length < 9 := (List.getElem?_eq_some_iff.mp hindex).1
    generalize before.length = k at hindex hlt
    interval_cases k <;> first | rfl | simp [drainedRun] at hindex
  rw [htake, hlength] at hrun
  have hstate : Process.run (drainedRun.take 6) =
      some ⟨0, true, 0, [], .polling 0, .selecting, .running, []⟩ := by decide
  rw [hstate, Option.some.injEq] at hrun
  exact .inl (hrun ▸ rfl)

/-- The same without the close. -/
def cutOffRun : List ShutdownEvent :=
  [.listen, .accept 0, .osSignal, .send, .startDrain, .stop, .runReturns, .mainReturns]

/-- The accept loop stops, `run` and `main` return, and the connection is dropped
with no time passed. -/
theorem live_connection_cutOff :
    Process.run cutOffRun = some ⟨0, true, 0, [], .polling 0, .stopped, .exited, [0]⟩ ∧
      ¬ ReturnsDrained cutOffRun := by
  have hrun : Process.run cutOffRun =
      some ⟨0, true, 0, [], .polling 0, .stopped, .exited, [0]⟩ := by decide
  refine ⟨hrun, ?_⟩
  intro hall
  have hgraceful := hall _ _ (List.prefix_refl _) hrun
  rcases hgraceful.cutOff with hnone | ⟨start, hstart, hpast⟩
  · cases hnone
  · obtain rfl : 0 = start := Option.some.inj hstart
    simp [drainTimeout] at hpast

end Stateform
