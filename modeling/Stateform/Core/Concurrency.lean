import Stateform.Library.Numbered
import Stateform.Library.Run
import Stateform.Library.Semaphore
import Stateform.Core.Pipeline

/-!
# The concurrency gate

`concurrency.rs`: the global semaphore and the semaphores of the routes, with
any number of requests that acquire from them, wait, time out, are cancelled,
run and drop their permits, in any interleaving. An event is what one request
does without being interrupted. A wait may end in any order the semaphores
choose, and its timeout may fire at any time.
-/

namespace Stateform

open Library

/-! ## The limiter -/

/-- `Semaphore::MAX_PERMITS`, `usize::MAX >> 3`. -/
def maxPermits : ℕ := 2 ^ 61 - 1

/-- `Semaphore::new` panics above `MAX_PERMITS`. -/
inductive SemaphorePanic : Type where
  | tooManyPermits (permits : ℕ)
deriving DecidableEq

def newSemaphore (permits : ℕ) : Except SemaphorePanic Semaphore :=
  if permits ≤ maxPermits then .ok ⟨permits, false⟩ else .error (.tooManyPermits permits)

structure ConcurrencyLimiter : Type where
  global : Semaphore
  routes : StrMap Semaphore
  acquireTimeoutMs : ℕ

namespace ConcurrencyLimiter

/-- The semaphores of the routes with a limit, collected in order: a later route
replaces an earlier one of the same id. -/
def collectRoutes : List RouteConfig → StrMap Semaphore → Except SemaphorePanic (StrMap Semaphore)
  | [], routes => .ok routes
  | r :: rest, routes =>
      match r.maxConcurrentRequests with
      | none => collectRoutes rest routes
      | some limit => do
          let semaphore ← newSemaphore limit
          collectRoutes rest (routes.insert r.id semaphore)

/-- `ConcurrencyLimiter::build`. -/
def build (cfg : GatewayConfig) : Except SemaphorePanic ConcurrencyLimiter := do
  let routes ← collectRoutes cfg.routes ∅
  let global ← newSemaphore cfg.listener.maxConcurrentRequests
  return ⟨global, routes, cfg.listener.concurrencyAcquireTimeoutMs⟩

end ConcurrencyLimiter

/-! ## Requests at the gate -/

/-- Where a request is. `dropping` has dropped the first field of its
`ConcurrencyPermit` and not yet the second. -/
inductive GateStage : Type where
  | waitingGlobal
  | waitingRoute
  | running
  | dropping
  | refused (why : AcquireRefusal)
  | left
deriving DecidableEq

/-- A request, with the permits it owns. -/
structure GateRequest : Type where
  routeId : Str
  stage : GateStage
  global : Bool
  route : Bool
deriving DecidableEq

/-- What `acquire` has returned to a request, if it has. -/
def GateRequest.answer (t : GateRequest) : Option (Except AcquireRefusal Unit) :=
  match t.stage with
  | .refused why => some (.error why)
  | .running => some (.ok ())
  | .dropping => some (.ok ())
  | _ => none

theorem GateRequest.stage_of_error {t : GateRequest} {why : AcquireRefusal}
    (h : t.answer = some (.error why)) : t.stage = .refused why := by
  unfold GateRequest.answer at h
  split at h <;> simp_all

/-- The limiter and the requests, numbered as they came. -/
structure Gate : Type where
  limiter : ConcurrencyLimiter
  requests : List GateRequest

def Gate.init (limiter : ConcurrencyLimiter) : Gate := ⟨limiter, []⟩

/-- What a request does next: a wait that ends, a timeout, a future that is
dropped while it waits, or a permit that is dropped field by field. -/
inductive GateAction : Type where
  | globalReady
  | globalTimeout
  | routeReady
  | routeTimeout
  | cancel
  | dropGlobal
  | dropRoute
deriving DecidableEq

inductive GateEvent : Type where
  | acquire (routeId : Str)
  | act (i : ℕ) (action : GateAction)
deriving DecidableEq

namespace Gate

/-- The request becomes another, owning what it owned. -/
def put (s : Gate) (i : ℕ) (t : GateRequest) : Gate := { s with requests := s.requests.set i t }

/-- The request gives its global permit back. -/
def putBack (s : Gate) (i : ℕ) (t : GateRequest) : Gate :=
  { limiter := { s.limiter with global := s.limiter.global.release }
    requests := s.requests.set i { t with global := false } }

/-- The request `t`, number `i`, does something. -/
def act (s : Gate) (i : ℕ) (t : GateRequest) : GateAction → Option Gate
  | .globalReady =>
      if t.stage = .waitingGlobal then
        match s.limiter.global.acquire with
        | .closed => some (s.put i { t with stage := .refused .shuttingDown })
        | .pending => none
        | .permit rest =>
            -- a route without a limit is not in the map, and its request runs at once
            let stage := if (s.limiter.routes.lookup t.routeId).isSome then .waitingRoute
              else .running
            some ⟨{ s.limiter with global := rest },
              s.requests.set i { t with stage := stage, global := true }⟩
      else none
  | .globalTimeout =>
      if t.stage = .waitingGlobal then some (s.put i { t with stage := .refused .globalLimit })
      else none
  | .routeReady =>
      if t.stage = .waitingRoute then
        match s.limiter.routes.lookup t.routeId with
        | none => none
        | some semaphore =>
            match semaphore.acquire with
            | .closed => some (s.putBack i { t with stage := .refused .shuttingDown })
            | .pending => none
            | .permit rest =>
                some ⟨{ s.limiter with routes := s.limiter.routes.insert t.routeId rest },
                  s.requests.set i { t with stage := .running, route := true }⟩
      else none
  | .routeTimeout =>
      if t.stage = .waitingRoute then
        some (s.putBack i { t with stage := .refused .routeLimit })
      else none
  | .cancel =>
      if t.stage = .waitingGlobal then some (s.put i { t with stage := .left })
      else if t.stage = .waitingRoute then some (s.putBack i { t with stage := .left })
      else none
  | .dropGlobal =>
      if t.stage = .running then some (s.putBack i { t with stage := .dropping }) else none
  | .dropRoute =>
      if t.stage = .dropping then
        if t.route then
          (s.limiter.routes.lookup t.routeId).map fun semaphore =>
            ⟨{ s.limiter with routes := s.limiter.routes.insert t.routeId semaphore.release },
              s.requests.set i { t with stage := .left, route := false }⟩
        else some (s.put i { t with stage := .left })
      else none

/-- One step of the gate, if it can be taken. -/
def step (s : Gate) : GateEvent → Option Gate
  | .acquire routeId =>
      some { s with requests := s.requests ++ [⟨routeId, .waitingGlobal, false, false⟩] }
  | .act i action => (s.requests[i]?).bind fun t => s.act i t action

/-- The gate after a list of events, if each could be taken. -/
def run (limiter : ConcurrencyLimiter) (events : List GateEvent) : Option Gate :=
  follow step (init limiter) events

end Gate

/-! ## Conservation -/

/-- A request owns the permits of its stage. -/
structure GateRequest.Owns (limited : Bool) (t : GateRequest) : Prop where
  global : t.global = true ↔ t.stage = .waitingRoute ∨ t.stage = .running
  route : t.route = true ↔ limited = true ∧ (t.stage = .running ∨ t.stage = .dropping)

section
variable {limited : Bool} {t : GateRequest}

theorem GateRequest.Owns.waitingGlobal (h : t.Owns limited)
    (hstage : t.stage = .waitingGlobal) : t.global = false ∧ t.route = false := by
  constructor
  · simp [Bool.eq_false_iff, h.global, hstage]
  · simp [Bool.eq_false_iff, h.route, hstage]

theorem GateRequest.Owns.waitingRoute (h : t.Owns limited)
    (hstage : t.stage = .waitingRoute) : t.global = true ∧ t.route = false := by
  constructor
  · simp [h.global, hstage]
  · simp [Bool.eq_false_iff, h.route, hstage]

/-- A stage in which a request owns nothing. -/
def GateStage.Idle (stage : GateStage) : Prop := stage = .left ∨ ∃ why, stage = .refused why

theorem owns_idle (hidle : t.stage.Idle) (hg : t.global = false)
    (hr : t.route = false) : t.Owns limited := by
  rcases hidle with hstage | ⟨why, hstage⟩
  · exact ⟨by simp [hg, hstage], by simp [hr, hstage]⟩
  · exact ⟨by simp [hg, hstage], by simp [hr, hstage]⟩

end

def GateRequest.ownsRoute (r : Str) (t : GateRequest) : Bool := t.route && decide (t.routeId = r)

/-- Free and owned permits make up the limits the gate began with. -/
structure Gate.Kept (limiter : ConcurrencyLimiter) (s : Gate) : Prop where
  global : s.limiter.global.Conserved limiter.global.permits (s.requests.countP (·.global))
  routes : ∀ r semaphore, limiter.routes.lookup r = some semaphore →
    ∃ now, s.limiter.routes.lookup r = some now ∧
      now.Conserved semaphore.permits (s.requests.countP (·.ownsRoute r))
  unlimited : ∀ r, limiter.routes.lookup r = none → s.limiter.routes.lookup r = none
  owns : ∀ t ∈ s.requests, t.Owns (limiter.routes.lookup t.routeId).isSome

namespace Gate

variable {limiter : ConcurrencyLimiter} {s s' : Gate} {i : ℕ} {t t' : GateRequest}

theorem Kept.initial : Kept limiter (init limiter) where
  global := rfl
  routes := by
    intro r semaphore h
    exact ⟨semaphore, h, rfl⟩
  unlimited := by
    intro r h
    exact h
  owns := nofun

theorem Kept.isSome_lookup (h : Kept limiter s) (r : Str) :
    (s.limiter.routes.lookup r).isSome = (limiter.routes.lookup r).isSome := by
  cases hr : limiter.routes.lookup r with
  | none => rw [h.unlimited r hr]
  | some semaphore =>
      obtain ⟨now, hnow, _⟩ := h.routes r semaphore hr
      rw [hnow]
      rfl

/-- One request moves: what it takes or gives back is what the semaphores lose or
gain. -/
structure Moves (s s' : Gate) (i : ℕ) (t t' : GateRequest) : Prop where
  found : s.requests[i]? = some t
  requests : s'.requests = s.requests.set i t'
  routeId : t'.routeId = t.routeId
  global : s'.limiter.global.permits + t'.global.toNat = s.limiter.global.permits + t.global.toNat
  others : ∀ r, r ≠ t.routeId → s'.limiter.routes.lookup r = s.limiter.routes.lookup r
  unlimited : s.limiter.routes.lookup t.routeId = none →
    s'.limiter.routes.lookup t.routeId = none ∧ t'.route = t.route
  limited : ∀ now, s.limiter.routes.lookup t.routeId = some now →
    ∃ next, s'.limiter.routes.lookup t.routeId = some next ∧
      next.permits + t'.route.toNat = now.permits + t.route.toNat

theorem ite_toNat (b : Bool) : (if b = true then 1 else 0) = b.toNat := by cases b <;> rfl

/-- A move keeps the balance. -/
theorem Kept.moves (h : Kept limiter s) (hm : Moves s s' i t t')
    (howns : t'.Owns (limiter.routes.lookup t.routeId).isSome) : Kept limiter s' := by
  refine ⟨?_, ?_, ?_, ?_⟩
  · have hold := h.global
    have hcount := countP_replaced (fun u : GateRequest => u.global) hm.found t'
    have hbalance := hm.global
    rw [ite_toNat, ite_toNat] at hcount
    unfold Semaphore.Conserved at hold ⊢
    rw [hm.requests]
    omega
  · intro r semaphore hr
    obtain ⟨now, hnow, hold⟩ := h.routes r semaphore hr
    have hcount := countP_replaced (fun u : GateRequest => u.ownsRoute r) hm.found t'
    rw [hm.requests]
    by_cases hrt : r = t.routeId
    · subst hrt
      obtain ⟨next, hnext, hbalance⟩ := hm.limited now hnow
      refine ⟨next, hnext, ?_⟩
      simp only [GateRequest.ownsRoute, hm.routeId, decide_true, Bool.and_true, ite_toNat]
        at hcount
      unfold Semaphore.Conserved at hold ⊢
      unfold GateRequest.ownsRoute at hold ⊢
      omega
    · refine ⟨now, by rw [hm.others r hrt, hnow], ?_⟩
      have hne : t.routeId ≠ r := fun heq => hrt heq.symm
      have hsame : (s.requests.set i t').countP (·.ownsRoute r) =
          s.requests.countP (·.ownsRoute r) := by
        apply countP_replaced_same hm.found
        simp [GateRequest.ownsRoute, hm.routeId, hne]
      rw [hsame]
      exact hold
  · intro r hr
    have hold := h.unlimited r hr
    by_cases hrt : r = t.routeId
    · subst hrt
      exact (hm.unlimited hold).1
    · rw [hm.others r hrt, hold]
  · intro u hu
    rw [hm.requests] at hu
    rcases List.mem_or_eq_of_mem_set hu with hu | rfl
    · exact h.owns u hu
    · rw [hm.routeId]
      exact howns

theorem moves_put (hfound : s.requests[i]? = some t) (hroute : t'.routeId = t.routeId)
    (hg : t'.global = t.global) (hr : t'.route = t.route) : Moves s (s.put i t') i t t' where
  found := hfound
  requests := rfl
  routeId := hroute
  global := by rw [hg]; rfl
  others := fun _ _ => rfl
  unlimited := fun h => ⟨h, hr⟩
  limited := fun now h => ⟨now, h, by rw [hr]⟩

theorem moves_putBack (hfound : s.requests[i]? = some t) (howned : t.global = true)
    (hroute : t'.routeId = t.routeId) (hr : t'.route = t.route) :
    Moves s (s.putBack i t') i t { t' with global := false } where
  found := hfound
  requests := rfl
  routeId := hroute
  global := by rw [howned]; rfl
  others := fun _ _ => rfl
  unlimited := fun h => ⟨h, hr⟩
  limited := fun now h => ⟨now, h, by rw [← hr]⟩

theorem moves_global {rest : Semaphore} (hfound : s.requests[i]? = some t)
    (howned : t.global = false) (hpermit : s.limiter.global.acquire = .permit rest)
    (stage : GateStage) :
    Moves s ⟨{ s.limiter with global := rest },
      s.requests.set i { t with stage := stage, global := true }⟩ i t
      { t with stage := stage, global := true } where
  found := hfound
  requests := rfl
  routeId := rfl
  global := by
    rw [howned, (Semaphore.acquire_eq_permit hpermit).1]
    rfl
  others := fun _ _ => rfl
  unlimited := fun h => ⟨h, rfl⟩
  limited := fun now h => ⟨now, h, rfl⟩

theorem moves_route {now next : Semaphore} (hfound : s.requests[i]? = some t)
    (hlookup : s.limiter.routes.lookup t.routeId = some now) (hroute : t'.routeId = t.routeId)
    (hg : t'.global = t.global)
    (hbalance : next.permits + t'.route.toNat = now.permits + t.route.toNat) :
    Moves s ⟨{ s.limiter with routes := s.limiter.routes.insert t.routeId next },
      s.requests.set i t'⟩ i t t' where
  found := hfound
  requests := rfl
  routeId := hroute
  global := by rw [hg]
  others := by
    intro r hr
    exact AList.lookup_insert_ne hr
  unlimited := by
    intro hnone
    rw [hlookup] at hnone
    cases hnone
  limited := by
    intro now' hnow'
    rw [hlookup] at hnow'
    cases hnow'
    exact ⟨next, AList.lookup_insert _, hbalance⟩

/-- Out of the first wait a request goes with nothing. -/
theorem leaves_waitingGlobal {limited : Bool} {stage : GateStage}
    (hfound : s.requests[i]? = some t) (howns : t.Owns limited)
    (hstage : t.stage = .waitingGlobal) (hidle : stage.Idle) :
    ∃ t', Moves s (s.put i { t with stage := stage }) i t t' ∧ t'.Owns limited := by
  obtain ⟨hg, hr⟩ := howns.waitingGlobal hstage
  exact ⟨_, moves_put hfound rfl rfl rfl, owns_idle hidle hg hr⟩

/-- Out of the second it gives its global permit back. -/
theorem leaves_waitingRoute {limited : Bool} {stage : GateStage}
    (hfound : s.requests[i]? = some t) (howns : t.Owns limited)
    (hstage : t.stage = .waitingRoute) (hidle : stage.Idle) :
    ∃ t', Moves s (s.putBack i { t with stage := stage }) i t t' ∧ t'.Owns limited := by
  obtain ⟨hg, hr⟩ := howns.waitingRoute hstage
  exact ⟨_, moves_putBack hfound hg rfl rfl, owns_idle hidle rfl hr⟩

/-- **What an action does.** It moves one request, which then owns the permits of
its new stage. -/
theorem act_moves {action : GateAction} {limited : Bool} (h : s.act i t action = some s')
    (hfound : s.requests[i]? = some t) (howns : t.Owns limited)
    (hlimited : (s.limiter.routes.lookup t.routeId).isSome = limited) :
    ∃ t', Moves s s' i t t' ∧ t'.Owns limited := by
  cases action with
  | globalReady =>
      simp only [act] at h
      split at h
      · next hstage =>
          split at h
          · cases h
            exact leaves_waitingGlobal hfound howns hstage (.inr ⟨_, rfl⟩)
          · cases h
          · next rest hpermit =>
              obtain ⟨hg, hr⟩ := howns.waitingGlobal hstage
              cases h
              refine ⟨_, moves_global hfound hg hpermit _, ?_, ?_⟩
              · cases limited <;> simp [hlimited]
              · cases limited <;> simp [hlimited, hr]
      · cases h
  | globalTimeout =>
      simp only [act] at h
      split at h
      · next hstage =>
          cases h
          exact leaves_waitingGlobal hfound howns hstage (.inr ⟨_, rfl⟩)
      · cases h
  | routeReady =>
      simp only [act] at h
      split at h
      · next hstage =>
          obtain ⟨hg, hr⟩ := howns.waitingRoute hstage
          split at h
          · cases h
          · next now hnow =>
              rw [hnow] at hlimited
              split at h
              · cases h
                exact leaves_waitingRoute hfound howns hstage (.inr ⟨_, rfl⟩)
              · cases h
              · next rest hpermit =>
                  cases h
                  refine ⟨_, moves_route hfound hnow rfl rfl ?_, ?_, ?_⟩
                  · rw [hr, (Semaphore.acquire_eq_permit hpermit).1]
                    rfl
                  · simp [hg]
                  · simp [← hlimited]
      · cases h
  | routeTimeout =>
      simp only [act] at h
      split at h
      · next hstage =>
          cases h
          exact leaves_waitingRoute hfound howns hstage (.inr ⟨_, rfl⟩)
      · cases h
  | cancel =>
      simp only [act] at h
      split at h
      · next hstage =>
          cases h
          exact leaves_waitingGlobal hfound howns hstage (.inl rfl)
      · split at h
        · next hstage =>
            cases h
            exact leaves_waitingRoute hfound howns hstage (.inl rfl)
        · cases h
  | dropGlobal =>
      simp only [act] at h
      split at h
      · next hstage =>
          have hg : t.global = true := by simp [howns.global, hstage]
          cases h
          refine ⟨_, moves_putBack hfound hg rfl rfl, ?_, ?_⟩
          · simp
          · simp [howns.route, hstage]
      · cases h
  | dropRoute =>
      simp only [act] at h
      split at h
      · next hstage =>
          have hg : t.global = false := by simp [Bool.eq_false_iff, howns.global, hstage]
          split at h
          · next hr =>
              obtain ⟨now, hnow, rfl⟩ := Option.map_eq_some_iff.mp h
              refine ⟨_, moves_route hfound hnow rfl rfl ?_, owns_idle (.inl rfl) hg rfl⟩
              rw [hr]
              rfl
          · next hr =>
              cases h
              have hr' : t.route = false := by simpa using hr
              exact ⟨_, moves_put hfound rfl rfl rfl, owns_idle (.inl rfl) hg hr'⟩
      · cases h

/-- The step lemma. -/
theorem Kept.step {event : GateEvent} (h : Kept limiter s) (hstep : s.step event = some s') :
    Kept limiter s' := by
  cases event with
  | acquire routeId =>
      cases hstep
      have hnew : ∀ p : GateRequest → Bool, p ⟨routeId, .waitingGlobal, false, false⟩ = false →
          List.countP p (s.requests ++ [⟨routeId, .waitingGlobal, false, false⟩]) =
            s.requests.countP p := by
        intro p hp
        rw [List.countP_append, List.countP_singleton, hp, if_neg Bool.false_ne_true, add_zero]
      refine ⟨?_, ?_, h.unlimited, ?_⟩
      · show Semaphore.Conserved _ s.limiter.global _
        rw [hnew (·.global) rfl]
        exact h.global
      · intro r semaphore hr
        obtain ⟨now, hnow, hold⟩ := h.routes r semaphore hr
        refine ⟨now, hnow, ?_⟩
        rw [hnew (·.ownsRoute r) rfl]
        exact hold
      · intro t ht
        rcases List.mem_append.mp ht with ht | ht
        · exact h.owns t ht
        · rw [List.mem_singleton] at ht
          subst ht
          constructor <;> simp
  | act i action =>
      obtain ⟨t, hfound, hact⟩ := Option.bind_eq_some_iff.mp hstep
      have howns := h.owns t (List.mem_of_getElem? hfound)
      obtain ⟨t', hmoves, howns'⟩ := act_moves hact hfound howns (h.isSome_lookup t.routeId)
      exact h.moves hmoves howns'

/-- The run lemma. -/
theorem kept_run (limiter : ConcurrencyLimiter) (events : List GateEvent) {s : Gate}
    (h : run limiter events = some s) : Kept limiter s := by
  refine follow_invariant (P := fun _ s => Kept limiter s) Kept.initial ?_ events s h
  intro as e s s' _ hkept hstep
  exact hkept.step hstep

/-- What the gate promises of its permits. -/
structure PermitsConserved (limiter : ConcurrencyLimiter) (s : Gate) : Prop where
  global : s.limiter.global.permits + s.requests.countP (·.global) = limiter.global.permits
  globalOwners : ∀ t ∈ s.requests, t.global = true ↔ t.stage = .waitingRoute ∨ t.stage = .running
  route : ∀ r semaphore, limiter.routes.lookup r = some semaphore →
    ∃ now, s.limiter.routes.lookup r = some now ∧
      now.permits + s.requests.countP (·.ownsRoute r) = semaphore.permits
  running : s.requests.countP (fun t => decide (t.stage = .running)) ≤ limiter.global.permits
  runningOn : ∀ r semaphore, limiter.routes.lookup r = some semaphore →
    s.requests.countP (fun t => decide (t.stage = .running) && decide (t.routeId = r)) ≤
      semaphore.permits
  refused : ∀ t ∈ s.requests, ∀ why, t.answer = some (.error why) →
    t.global = false ∧ t.route = false

/-- **No permit is lost or made up**, in whatever order requests acquire, wait, time
out, are cancelled and drop what they hold. -/
theorem permits_conserved (limiter : ConcurrencyLimiter) (events : List GateEvent) (s : Gate)
    (h : run limiter events = some s) : PermitsConserved limiter s := by
  have hkept := kept_run limiter events h
  have howns : ∀ t ∈ s.requests, t.stage = .running → t.global = true := by
    intro t ht hrunning
    exact (hkept.owns t ht).global.mpr (.inr hrunning)
  refine ⟨hkept.global, fun t ht => (hkept.owns t ht).global, hkept.routes, ?_, ?_, ?_⟩
  · have hle : s.requests.countP (fun t => decide (t.stage = .running)) ≤
        s.requests.countP (·.global) := by
      apply List.countP_mono_left
      intro t ht hrunning
      exact howns t ht (by simpa using hrunning)
    have hbalance : _ + _ = _ := hkept.global
    omega
  · intro r semaphore hr
    obtain ⟨now, _, hbalance⟩ := hkept.routes r semaphore hr
    have hle : s.requests.countP
          (fun t => decide (t.stage = .running) && decide (t.routeId = r)) ≤
        s.requests.countP (·.ownsRoute r) := by
      apply List.countP_mono_left
      intro t ht hrunning
      simp only [Bool.and_eq_true, decide_eq_true_eq] at hrunning
      obtain ⟨hrunning, hroute⟩ := hrunning
      have hlimited : (limiter.routes.lookup t.routeId).isSome = true := by
        rw [hroute, hr]
        rfl
      have howned := (hkept.owns t ht).route.mpr ⟨hlimited, .inl hrunning⟩
      simp [GateRequest.ownsRoute, howned, hroute]
    unfold Semaphore.Conserved at hbalance
    omega
  · intro t ht why hwhy
    have ho := hkept.owns t ht
    have hstage := GateRequest.stage_of_error hwhy
    constructor
    · simp [Bool.eq_false_iff, ho.global, hstage]
    · simp [Bool.eq_false_iff, ho.route, hstage]

end Gate

/-! ## Two requests at a gate of one -/

/-- A global limit, and one route with a limit. -/
def ConcurrencyLimiter.withRoute (globalLimit : ℕ) (routeId : Str) (limit : ℕ) :
    ConcurrencyLimiter :=
  ⟨⟨globalLimit, false⟩, AList.singleton routeId ⟨limit, false⟩, 100⟩

namespace Gate

/-- The second request times out on the route while the first runs, which then leaves. -/
def timeoutRun : List GateEvent :=
  [.acquire "a".toList, .acquire "a".toList, .act 0 .globalReady, .act 1 .globalReady,
    .act 0 .routeReady, .act 1 .routeTimeout, .act 0 .dropGlobal, .act 0 .dropRoute]

theorem permits_conserved_timeout :
    ∃ s, run (.withRoute 2 "a".toList 1) timeoutRun = some s ∧
      PermitsConserved (.withRoute 2 "a".toList 1) s := by
  refine ⟨_, rfl, ?_⟩
  exact permits_conserved _ timeoutRun _ rfl

end Gate

/-! ## Isolation -/

/-- The limit configured for a route id: that of the last route which has one. -/
def routeLimit (routes : List RouteConfig) (r : Str) : Option ℕ :=
  (routes.filterMap fun route =>
    if route.id = r then route.maxConcurrentRequests else none).getLast?

theorem except_bind_eq_ok {ε α β : Type} {a : Except ε α} {f : α → Except ε β} {b : β}
    (h : a.bind f = .ok b) : ∃ x, a = .ok x ∧ f x = .ok b := by
  cases a with
  | error e => cases h
  | ok x => exact ⟨x, rfl, h⟩

theorem newSemaphore_eq_ok {permits : ℕ} {semaphore : Semaphore}
    (h : newSemaphore permits = .ok semaphore) : semaphore = ⟨permits, false⟩ := by
  unfold newSemaphore at h
  split at h
  · cases h
    rfl
  · cases h

namespace ConcurrencyLimiter

theorem collectRoutes_lookup {routes : List RouteConfig} {start m : StrMap Semaphore}
    (h : collectRoutes routes start = .ok m) (r : Str) :
    m.lookup r =
      match routeLimit routes r with
      | some limit => some ⟨limit, false⟩
      | none => start.lookup r := by
  induction routes generalizing start with
  | nil =>
      cases h
      rfl
  | cons route rest ih =>
      unfold collectRoutes at h
      cases hlimit : route.maxConcurrentRequests with
      | none =>
          rw [hlimit] at h
          rw [ih h]
          have hskip : routeLimit (route :: rest) r = routeLimit rest r := by
            simp [routeLimit, hlimit]
          rw [hskip]
      | some limit =>
          rw [hlimit] at h
          obtain ⟨semaphore, hnew, hrest⟩ := except_bind_eq_ok h
          rw [ih hrest]
          by_cases hr : route.id = r
          · have hlast : routeLimit (route :: rest) r = some ((routeLimit rest r).getD limit) := by
              simp [routeLimit, hlimit, hr, List.getLast?_cons]
            rw [hlast]
            cases routeLimit rest r with
            | none =>
                show (AList.insert route.id semaphore start).lookup r = _
                rw [hr, AList.lookup_insert, newSemaphore_eq_ok hnew]
                rfl
            | some later => rfl
          · have hskip : routeLimit (route :: rest) r = routeLimit rest r := by
              simp [routeLimit, hr]
            have hother : (AList.insert route.id semaphore start).lookup r = start.lookup r :=
              AList.lookup_insert_ne fun heq => hr heq.symm
            rw [hskip, hother]

/-- What `build` makes of the limits of a config. -/
theorem build_eq_ok {cfg : GatewayConfig} {limiter : ConcurrencyLimiter}
    (h : build cfg = .ok limiter) :
    limiter.global = ⟨cfg.listener.maxConcurrentRequests, false⟩ ∧
      ∀ r, limiter.routes.lookup r = (routeLimit cfg.routes r).map fun limit => ⟨limit, false⟩ := by
  obtain ⟨routes, hroutes, h⟩ := except_bind_eq_ok h
  obtain ⟨global, hglobal, h⟩ := except_bind_eq_ok h
  cases h
  refine ⟨newSemaphore_eq_ok hglobal, ?_⟩
  intro r
  show routes.lookup r = _
  rw [collectRoutes_lookup hroutes r]
  cases routeLimit cfg.routes r <;> rfl

end ConcurrencyLimiter

namespace Gate

/-- The global permits held on behalf of requests to a route. -/
def heldFor (s : Gate) (r : Str) : ℕ :=
  s.requests.countP fun t => t.global && decide (t.routeId = r)

/-- No permit of the route is free. -/
def Saturated (s : Gate) (r : Str) : Prop :=
  ∃ now, s.limiter.routes.lookup r = some now ∧ now.permits = 0

/-- The requests to a route hold global permits, nobody else does, and `acquire` for any other
route finds none and waits for its timeout. -/
structure Starves (s : Gate) (r : Str) : Prop where
  holds : 0 < s.heldFor r
  alone : ∀ t ∈ s.requests, t.global = true → t.routeId = r
  waits : ∀ other, other ≠ r →
    follow step s [.acquire other, .act s.requests.length .globalReady] = none

/-- What the bulkheads promise: no route with a limit holds more global permits than its
limit, and requests to a saturated one do not make `acquire` fail for the others. -/
structure Isolated (limiter : ConcurrencyLimiter) (s : Gate) : Prop where
  held : ∀ r semaphore, limiter.routes.lookup r = some semaphore → s.heldFor r ≤ semaphore.permits
  others : ∀ r semaphore, limiter.routes.lookup r = some semaphore →
    s.Saturated r → ¬ s.Starves r

/-! ## Requests to one route -/

/-- A request that has come. -/
def asked (r : Str) : GateRequest := ⟨r, .waitingGlobal, false, false⟩

/-- A request to a route with a limit, holding a global permit while it waits. -/
def queued (r : Str) : GateRequest := ⟨r, .waitingRoute, true, false⟩

/-- One that has dropped its global permit and not yet that of its route. -/
def leaving (r : Str) : GateRequest := ⟨r, .dropping, false, true⟩

/-- `n` more requests to one route, each past the global step. -/
def flood (s : Gate) (r : Str) (n : ℕ) : List GateEvent :=
  (List.range n).flatMap fun k => [.acquire r, .act (s.requests.length + k) .globalReady]

/-- The gate after a flood of `n`. -/
def flooded (s : Gate) (r : Str) (n : ℕ) : Gate where
  limiter := { s.limiter with
    global := { s.limiter.global with permits := s.limiter.global.permits - n } }
  requests := s.requests ++ List.replicate n (queued r)

/-- `n` requests to one route, one after the other let through and about to drop the second
permit. -/
def occupy (r : Str) (n : ℕ) : List GateEvent :=
  (List.range n).flatMap fun k =>
    [.acquire r, .act k .globalReady, .act k .routeReady, .act k .dropGlobal]

section
variable {limiter : ConcurrencyLimiter} {s : Gate} {r : Str} {semaphore : Semaphore}

/-- The last request does something. -/
theorem step_last (t : GateRequest) (action : GateAction) :
    step ⟨limiter, s.requests ++ [t]⟩ (.act s.requests.length action) =
      act ⟨limiter, s.requests ++ [t]⟩ s.requests.length t action := by
  have hfound : (s.requests ++ [t])[s.requests.length]? = some t := by simp
  show ((s.requests ++ [t])[s.requests.length]?).bind _ = _
  rw [hfound]
  rfl

theorem set_last (t u : GateRequest) :
    (s.requests ++ [t]).set s.requests.length u = s.requests ++ [u] := by simp

theorem follow_asked (other : Str) (action : GateAction) :
    follow step s [.acquire other, .act s.requests.length action] =
      act ⟨s.limiter, s.requests ++ [asked other]⟩ s.requests.length (asked other) action := by
  rw [← step_last]
  exact follow_concat [GateEvent.acquire other] (GateEvent.act s.requests.length action)

/-- A free global permit is taken before the route's is asked for. -/
theorem follow_admitted (hopen : s.limiter.global.closed = false)
    (hfree : 0 < s.limiter.global.permits) (hr : s.limiter.routes.lookup r = some semaphore) :
    follow step s [.acquire r, .act s.requests.length .globalReady] = some (flooded s r 1) := by
  have hstage : (asked r).stage = .waitingGlobal := rfl
  have hlimited : (s.limiter.routes.lookup (asked r).routeId).isSome = true := by
    show (s.limiter.routes.lookup r).isSome = true
    rw [hr]
    rfl
  rw [follow_asked]
  simp only [act, hstage, if_true, Semaphore.acquire_of_pos hopen hfree, hlimited]
  rw [set_last]
  rfl

theorem follow_waits (hopen : s.limiter.global.closed = false)
    (hnone : s.limiter.global.permits = 0) (other : Str) :
    follow step s [.acquire other, .act s.requests.length .globalReady] = none := by
  have hstage : (asked other).stage = .waitingGlobal := rfl
  rw [follow_asked]
  simp only [act, hstage, if_true, Semaphore.acquire_pending hopen hnone]

/-- Requests to one route take global permits as long as there are any. -/
theorem follow_flood (hopen : s.limiter.global.closed = false)
    (hr : s.limiter.routes.lookup r = some semaphore) {n : ℕ}
    (hn : n ≤ s.limiter.global.permits) :
    follow step s (flood s r n) = some (flooded s r n) := by
  induction n with
  | zero =>
      show some s = some ⟨s.limiter, s.requests ++ []⟩
      rw [List.append_nil]
  | succ n ih =>
      have hsplit : flood s r (n + 1) =
          flood s r n ++ [.acquire r, .act (flooded s r n).requests.length .globalReady] := by
        simp [flood, flooded, List.range_succ]
      have hfree : 0 < (flooded s r n).limiter.global.permits := Nat.sub_pos_of_lt hn
      have hone : flooded (flooded s r n) r 1 = flooded s r (n + 1) := by
        simp [flooded, Nat.sub_sub, List.replicate_succ']
      rw [hsplit, follow_append, ih (by omega), ← hone]
      exact follow_admitted hopen hfree hr

/-- A request that is let through and drops the first of its permits keeps the second. -/
theorem follow_leaving (hopen : s.limiter.global.closed = false)
    (hfree : 0 < s.limiter.global.permits) (hr : s.limiter.routes.lookup r = some semaphore)
    (hropen : semaphore.closed = false) (hrfree : 0 < semaphore.permits) :
    follow step s [.acquire r, .act s.requests.length .globalReady,
        .act s.requests.length .routeReady, .act s.requests.length .dropGlobal] =
      some ⟨{ s.limiter with
          routes := s.limiter.routes.insert r { semaphore with permits := semaphore.permits - 1 } },
        s.requests ++ [leaving r]⟩ := by
  have hadmitted := follow_admitted hopen hfree hr
  have hback : s.limiter.global.permits - 1 + 1 = s.limiter.global.permits := by omega
  have hstage : (queued r).stage = .waitingRoute := rfl
  have hlookup : s.limiter.routes.lookup (queued r).routeId = some semaphore := hr
  show follow step s ([.acquire r, .act s.requests.length .globalReady] ++
    [.act s.requests.length .routeReady, .act s.requests.length .dropGlobal]) = _
  rw [follow_append, hadmitted]
  show (step ⟨(flooded s r 1).limiter, s.requests ++ [queued r]⟩
    (.act s.requests.length .routeReady)).bind _ = _
  rw [step_last]
  simp only [act, hstage, if_true, flooded, hlookup, Semaphore.acquire_of_pos hropen hrfree]
  rw [set_last]
  show (step ⟨_, s.requests ++ [_]⟩ (.act s.requests.length .dropGlobal)).bind _ = _
  rw [step_last]
  simp only [act, if_true, putBack, set_last, Semaphore.release, hback]
  rfl

/-- Permits of a route stay taken while the global ones are back. -/
theorem run_occupy (hopen : limiter.global.closed = false) (hpos : 0 < limiter.global.permits)
    (hr : limiter.routes.lookup r = some semaphore) (hropen : semaphore.closed = false) {n : ℕ}
    (hn : n ≤ semaphore.permits) :
    ∃ s, run limiter (occupy r n) = some s ∧ s.limiter.global = limiter.global ∧
      s.limiter.routes.lookup r = some { semaphore with permits := semaphore.permits - n } ∧
        s.requests = List.replicate n (leaving r) := by
  induction n with
  | zero => exact ⟨init limiter, rfl, rfl, hr, rfl⟩
  | succ n ih =>
      obtain ⟨s, hrun, hglobal, hlookup, hrequests⟩ := ih (by omega)
      have hsplit : occupy r (n + 1) = occupy r n ++ [.acquire r, .act n .globalReady,
          .act n .routeReady, .act n .dropGlobal] := by
        simp [occupy, List.range_succ]
      have hlength : s.requests.length = n := by rw [hrequests, List.length_replicate]
      have hrfree : 0 < semaphore.permits - n := by omega
      have hleaving := follow_leaving (hglobal ▸ hopen) (hglobal ▸ hpos) hlookup hropen hrfree
      rw [hlength] at hleaving
      let next : Semaphore := ⟨semaphore.permits - n - 1, semaphore.closed⟩
      refine ⟨⟨{ s.limiter with routes := s.limiter.routes.insert r next },
        s.requests ++ [leaving r]⟩, ?_, hglobal, ?_, ?_⟩
      · unfold run at hrun ⊢
        rw [hsplit, follow_append, hrun]
        exact hleaving
      · show (AList.insert r _ s.limiter.routes).lookup r = _
        rw [AList.lookup_insert]
        rfl
      · show s.requests ++ [leaving r] = _
        rw [hrequests]
        exact List.replicate_succ'.symm

theorem heldFor_flooded (n : ℕ) : (flooded s r n).heldFor r = s.heldFor r + n := by
  unfold heldFor flooded
  rw [List.countP_append, List.countP_replicate]
  simp [queued]

end

/-- The global permits held on behalf of one route are some of those held at all. -/
theorem heldFor_le {limiter : ConcurrencyLimiter} {s : Gate} (h : Kept limiter s) (r : Str) :
    s.heldFor r ≤ limiter.global.permits := by
  have hle : s.heldFor r ≤ s.requests.countP (·.global) := by
    apply List.countP_mono_left
    intro t _ ht
    simp only [Bool.and_eq_true] at ht
    exact ht.1
  have hbalance : _ + _ = _ := h.global
  omega

/-- **How far the limits reach.** The requests to a route hold as many global permits as there
are: a route's limit bounds them only if the global limit does. -/
theorem heldFor_bounded_iff (cfg : GatewayConfig) (limiter : ConcurrencyLimiter)
    (h : ConcurrencyLimiter.build cfg = .ok limiter) :
    (∀ events s, run limiter events = some s →
      ∀ r limit, routeLimit cfg.routes r = some limit → s.heldFor r ≤ limit) ↔
      ∀ r limit, routeLimit cfg.routes r = some limit →
        cfg.listener.maxConcurrentRequests ≤ limit := by
  obtain ⟨hglobal, hroutes⟩ := ConcurrencyLimiter.build_eq_ok h
  have hpermits : limiter.global.permits = cfg.listener.maxConcurrentRequests := by rw [hglobal]
  constructor
  · intro hall r limit hlimit
    have hr : (init limiter).limiter.routes.lookup r = some ⟨limit, false⟩ := by
      show limiter.routes.lookup r = _
      rw [hroutes, hlimit]
      rfl
    have hopen : (init limiter).limiter.global.closed = false := by
      show limiter.global.closed = false
      rw [hglobal]
    have hbound := hall _ _ (follow_flood hopen hr (le_refl limiter.global.permits)) r _ hlimit
    rw [heldFor_flooded, hpermits] at hbound
    exact le_trans (Nat.le_add_left _ _) hbound
  · intro hlimits events s hrun r limit hlimit
    have hle := heldFor_le (kept_run limiter events hrun) r
    have hglobalLe := hlimits r limit hlimit
    omega

/-- **A saturated route starves the others**, whatever its limit: its permits are with requests
that are about to drop them, and those that wait for one hold every global permit. -/
theorem saturated_starves {limiter : ConcurrencyLimiter} {r : Str} {semaphore : Semaphore}
    (hopen : limiter.global.closed = false) (hpos : 0 < limiter.global.permits)
    (hr : limiter.routes.lookup r = some semaphore) (hropen : semaphore.closed = false) :
    ∃ events s, run limiter events = some s ∧ s.Saturated r ∧ s.Starves r := by
  obtain ⟨s, hrun, hglobal, hlookup, hrequests⟩ :=
    run_occupy hopen hpos hr hropen (le_refl semaphore.permits)
  have hsopen : s.limiter.global.closed = false := by rw [hglobal, hopen]
  have hflood := follow_flood hsopen hlookup (le_refl s.limiter.global.permits)
  refine ⟨occupy r semaphore.permits ++ flood s r s.limiter.global.permits,
    flooded s r s.limiter.global.permits, ?_, ⟨_, hlookup, Nat.sub_self _⟩, ?_, ?_, ?_⟩
  · unfold run at hrun ⊢
    rw [follow_append, hrun]
    exact hflood
  · rw [heldFor_flooded, hglobal]
    omega
  · intro t ht _
    rcases List.mem_append.mp ht with ht | ht
    · rw [hrequests] at ht
      rw [List.eq_of_mem_replicate ht]
      rfl
    · rw [List.eq_of_mem_replicate ht]
      rfl
  · intro other _
    exact @follow_waits (flooded s r s.limiter.global.permits) hsopen (Nat.sub_self _) other

/-- Two permits for all, one for the route `a`, and a route `b` without a limit. -/
def crowdedConfig : GatewayConfig :=
  { GatewayConfig.withRoutes
      [{ RouteConfig.onPath "a".toList (.prefixPath "/a".toList) with
          maxConcurrentRequests := some 1 },
        RouteConfig.onPath "b".toList (.prefixPath "/b".toList)] with
    listener := ⟨4 * 1024 * 1024, 2, 100⟩ }

def crowdedLimiter : ConcurrencyLimiter := .withRoute 2 "a".toList 1

theorem crowdedConfig_build : ConcurrencyLimiter.build crowdedConfig = .ok crowdedLimiter := rfl

/-- One request of `a` runs, the next one waits for it with the last global permit. -/
def crowdedRun : List GateEvent :=
  [.acquire "a".toList, .acquire "a".toList, .act 0 .globalReady, .act 1 .globalReady,
    .act 0 .routeReady]

/-- A third request, to the route `b`, gets no permit in time. -/
example : ((run crowdedLimiter (crowdedRun ++
    [.acquire "b".toList, .act 2 .globalTimeout])).bind fun s =>
      (s.requests[2]?).bind (·.answer)) = some (.error .globalLimit) := rfl

end Gate

end Stateform
