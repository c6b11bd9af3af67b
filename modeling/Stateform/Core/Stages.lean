import Stateform.Core.Concurrency
import Stateform.Core.Connections

/-!
# The gate and the upstream, for one request

`ConcurrencyLimiter::acquire` and `UpstreamPool::send` as functions of what they find,
with what they leave. Each is a run of the machine that has any number of them in
flight (`acquire_run`, `exchange_run`).
-/

namespace Stateform

open Library

/-! ## The gate, for one request -/

/-- Whether the timeout of a wait fires although a permit is free: others wait for it. -/
structure GateEnv : Type where
  globalTimeout : Bool
  routeTimeout : Bool

/-- `ConcurrencyPermit`: the global permit, and the one of the route if it has a limit. -/
structure ConcurrencyPermit : Type where
  route : Bool
deriving DecidableEq

namespace ConcurrencyLimiter

/-- The second step of `acquire`: a refusal drops the global permit. -/
def acquireRoute (limiter : ConcurrencyLimiter) (env : GateEnv) (routeId : Str) :
    Except AcquireRefusal ConcurrencyPermit × ConcurrencyLimiter :=
  match limiter.routes.lookup routeId with
  | none => (.ok ⟨false⟩, limiter)
  | some semaphore =>
      match semaphore.acquire with
      | .closed => (.error .shuttingDown, { limiter with global := limiter.global.release })
      | .pending => (.error .routeLimit, { limiter with global := limiter.global.release })
      | .permit rest =>
          if env.routeTimeout then
            (.error .routeLimit, { limiter with global := limiter.global.release })
          else (.ok ⟨true⟩, { limiter with routes := limiter.routes.insert routeId rest })

/-- `ConcurrencyLimiter::acquire`. -/
def acquire (limiter : ConcurrencyLimiter) (env : GateEnv) (routeId : Str) :
    Except AcquireRefusal ConcurrencyPermit × ConcurrencyLimiter :=
  match limiter.global.acquire with
  | .closed => (.error .shuttingDown, limiter)
  | .pending => (.error .globalLimit, limiter)
  | .permit rest =>
      if env.globalTimeout then (.error .globalLimit, limiter)
      else { limiter with global := rest }.acquireRoute env routeId

/-- The drop of a permit. -/
def dropPermit (limiter : ConcurrencyLimiter) (routeId : Str) (permit : ConcurrencyPermit) :
    ConcurrencyLimiter :=
  let limiter := { limiter with global := limiter.global.release }
  if permit.route then
    match limiter.routes.lookup routeId with
    | some semaphore =>
        { limiter with routes := limiter.routes.insert routeId semaphore.release }
    | none => limiter
  else limiter

/-- A permit is out: of all permits there is one less, and of those of the route if it has a
limit. -/
structure Lent (before held : ConcurrencyLimiter) (routeId : Str) (permit : ConcurrencyPermit) :
    Prop where
  global : before.global.permits = held.global.permits + 1
  route : permit.route = (before.routes.lookup routeId).isSome
  limited : ∀ semaphore, before.routes.lookup routeId = some semaphore →
    ∃ rest, held.routes.lookup routeId = some rest ∧ semaphore.permits = rest.permits + 1

/-- What `acquire` gives out is missing from the limiter. -/
theorem acquire_lent {before held : ConcurrencyLimiter} {env : GateEnv} {routeId : Str}
    {permit : ConcurrencyPermit} (h : before.acquire env routeId = (.ok permit, held)) :
    before.Lent held routeId permit := by
  unfold acquire at h
  cases hpoll : before.global.acquire with
  | closed =>
      rw [hpoll] at h
      cases h
  | pending =>
      rw [hpoll] at h
      cases h
  | permit rest =>
  simp only [hpoll, acquireRoute] at h
  have hglobal := (Semaphore.acquire_eq_permit hpoll).1
  split at h
  · cases h
  · cases hroute : before.routes.lookup routeId with
    | none =>
        simp only [hroute] at h
        cases h
        refine ⟨hglobal, by rw [hroute]; rfl, ?_⟩
        intro semaphore hsemaphore
        rw [hroute] at hsemaphore
        cases hsemaphore
    | some semaphore =>
        simp only [hroute] at h
        cases hpoll' : semaphore.acquire with
        | closed =>
            rw [hpoll'] at h
            cases h
        | pending =>
            rw [hpoll'] at h
            cases h
        | permit rest' =>
            simp only [hpoll'] at h
            split at h
            · cases h
            · cases h
              refine ⟨hglobal, by rw [hroute]; rfl, ?_⟩
              intro semaphore' hsemaphore
              cases hroute.symm.trans hsemaphore
              exact ⟨rest', AList.lookup_insert _, (Semaphore.acquire_eq_permit hpoll').1⟩

/-- The one request of a gate was answered so, and the limiter is left so. -/
structure Answered (s : Gate)
    (result : Except AcquireRefusal ConcurrencyPermit × ConcurrencyLimiter) : Prop where
  request : ∃ t, s.requests = [t] ∧ t.answer = some (result.1.map fun _ => ())
  limiter : s.limiter = result.2

theorem acquireRoute_step (limiter : ConcurrencyLimiter) (env : GateEnv) (routeId : Str)
    {semaphore : Semaphore} (hroute : limiter.routes.lookup routeId = some semaphore) :
    ∃ action s, Gate.step ⟨limiter, [⟨routeId, .waitingRoute, true, false⟩]⟩ (.act 0 action) =
      some s ∧ Answered s (limiter.acquireRoute env routeId) := by
  unfold acquireRoute
  simp only [hroute]
  cases hpoll : semaphore.acquire with
  | closed =>
      refine ⟨.routeReady, ⟨{ limiter with global := limiter.global.release },
        [⟨routeId, .refused .shuttingDown, false, false⟩]⟩, ?_, ⟨_, rfl, rfl⟩, rfl⟩
      simp [Gate.step, Gate.act, hroute, hpoll, Gate.putBack]
  | pending => exact ⟨.routeTimeout, _, rfl, ⟨_, rfl, rfl⟩, rfl⟩
  | permit rest =>
      simp only
      split
      · exact ⟨.routeTimeout, _, rfl, ⟨_, rfl, rfl⟩, rfl⟩
      · refine ⟨.routeReady, ⟨{ limiter with routes := limiter.routes.insert routeId rest },
          [⟨routeId, .running, true, true⟩]⟩, ?_, ⟨_, rfl, rfl⟩, rfl⟩
        simp [Gate.step, Gate.act, hroute, hpoll]

/-- `acquire` is a run of the gate. -/
theorem acquire_run (limiter : ConcurrencyLimiter) (env : GateEnv) (routeId : Str) :
    ∃ events s, Gate.run limiter (.acquire routeId :: events) = some s ∧
      Answered s (limiter.acquire env routeId) := by
  unfold acquire
  cases hpoll : limiter.global.acquire with
  | closed =>
      refine ⟨[.act 0 .globalReady], ⟨limiter, [⟨routeId, .refused .shuttingDown, false, false⟩]⟩,
        ?_, ⟨_, rfl, rfl⟩, rfl⟩
      simp [Gate.run, Gate.init, follow, Gate.step, Gate.act, Gate.put, hpoll]
  | pending => exact ⟨[.act 0 .globalTimeout], _, rfl, ⟨_, rfl, rfl⟩, rfl⟩
  | permit rest =>
  simp only
  split
  · exact ⟨[.act 0 .globalTimeout], _, rfl, ⟨_, rfl, rfl⟩, rfl⟩
  · cases hroute : limiter.routes.lookup routeId with
    | none =>
        refine ⟨[.act 0 .globalReady], ⟨{ limiter with global := rest },
          [⟨routeId, .running, true, false⟩]⟩, ?_, ?_⟩
        · simp [Gate.run, Gate.init, follow, Gate.step, Gate.act, hpoll, hroute]
        · unfold acquireRoute
          simp only [hroute]
          exact ⟨⟨_, rfl, rfl⟩, rfl⟩
    | some semaphore =>
        obtain ⟨action, s, hstep, hanswered⟩ :=
          acquireRoute_step { limiter with global := rest } env routeId hroute
        refine ⟨[.act 0 .globalReady, .act 0 action], s, ?_, hanswered⟩
        have hready : Gate.run limiter [.acquire routeId, .act 0 .globalReady] = some
            ⟨{ limiter with global := rest }, [⟨routeId, .waitingRoute, true, false⟩]⟩ := by
          simp [Gate.run, Gate.init, follow, Gate.step, Gate.act, hpoll, hroute]
        show follow Gate.step (Gate.init limiter)
          ([.acquire routeId, .act 0 .globalReady] ++ [.act 0 action]) = some s
        rw [follow_concat]
        show (Gate.run limiter [.acquire routeId, .act 0 .globalReady]).bind _ = some s
        rw [hready]
        exact hstep

end ConcurrencyLimiter

/-! ## The upstream, for one request -/

/-- What the client gives an attempt; a response has its body still to be read. -/
inductive AttemptReply : Type where
  | timeout
  | failed (message : Str)
  | response (status : ℕ) (headers : HeaderMap) (body : Except Str (List UInt8))

/-- What a send does on the way: an attempt, which ends so, or a sleep. -/
inductive SendAct : Type where
  | attempt (reply : AttemptReply)
  | sleep (ms : ℕ)

/-- What one `send` meets: which endpoint it is among those in the same state, the
replies to its attempts, the clock after each, and the time the send took. -/
structure WireEnv : Type where
  endpoint : ℕ
  reply : ℕ → EndpointState → Request → AttemptReply
  nanos : ℕ → ℕ
  elapsed : ℕ

namespace UpstreamPool

/-- `send_with_retry`, from an attempt on: what it does on the way, and what it returns when
every sleep of it is over. -/
def sendWithRetry (pool : UpstreamPool) (profile : Profile) (env : WireEnv)
    (endpoint : EndpointState) (req : Request) :
    (left attempt : ℕ) → List SendAct × Except Panic (Except CoreError Response)
  | 0, _ => ([], .ok (.error (.noHealthyEndpoints pool.name)))
  | left + 1, attempt =>
      match env.reply attempt endpoint req with
      | .timeout =>
          ([.attempt .timeout], .ok (.error (.upstreamTimeout pool.config.timeouts.request)))
      | .failed message =>
          ([.attempt (.failed message)], .ok (.error (.upstream endpoint.address message)))
      | .response status headers body =>
          if status ∈ pool.retryStatuses ∧ attempt + 1 < pool.maxAttempts then
            match sleepMsIn profile pool.baseBackoff attempt (env.nanos attempt) with
            | .error p => ([.attempt (.response status headers body)], .error p)
            | .ok ms =>
                let (acts, result) := sendWithRetry pool profile env endpoint req left (attempt + 1)
                (.attempt (.response status headers body) :: .sleep ms :: acts, result)
          else
            match body with
            | .ok bytes =>
                ([.attempt (.response status headers body)], .ok (.ok ⟨status, headers, bytes⟩))
            | .error message =>
                ([.attempt (.response status headers body)],
                  .ok (.error (.upstream endpoint.address message)))

/-- The number of the endpoint a send picked. -/
def position (pool : UpstreamPool) (env : WireEnv) (picked : EndpointState) : ℕ :=
  if pool.endpoints[env.endpoint]? = some picked then env.endpoint else pool.endpoints.idxOf picked

def setEndpoint (pool : UpstreamPool) (j : ℕ) (e : EndpointState) : UpstreamPool :=
  { pool with endpoints := pool.endpoints.set j e }

/-- `UpstreamPool::send`, with the pool it leaves. A panic leaves what came before it. -/
def exchange (uc : UriCrate) (pool : UpstreamPool) (env : WireEnv) (req : Request)
    (hashKey : Option Str) : Except Panic (Except CoreError Response) × UpstreamPool :=
  match selectEndpoint pool.endpoints pool.config.loadBalancing hashKey pool.rrCounter with
  | .error p => (.error p, pool)
  | .ok (none, counter) =>
      (.ok (.error (.noHealthyEndpoints pool.name)), { pool with rrCounter := counter })
  | .ok (some picked, counter) =>
      let counted := { pool with rrCounter := counter }
      match rewriteUri uc picked.address req.uri with
      | .error p => (.error p, counted)
      | .ok uri =>
          let j := pool.position env picked
          let sending := counted.setEndpoint j picked.acquire
          let sent := pool.sendWithRetry .checked env picked { req with uri := uri }
            pool.maxAttempts 0
          match sent.2 with
          | .error p => (.error p, sending)
          | .ok result =>
              let (done, released) := picked.acquire.release env.elapsed
              (done.map fun _ => result, sending.setEndpoint j released)

end UpstreamPool

/-! ## What selection picks from -/

theorem pickWeighted_mem {pos acc : ℕ} {endpoints : List EndpointState} {picked : EndpointState}
    (h : pickWeighted pos acc endpoints = .ok (some picked)) : picked ∈ endpoints := by
  induction endpoints generalizing acc with
  | nil => cases h
  | cons ep rest ih =>
      rw [pickWeighted] at h
      cases hadd : addU32 acc ep.effectiveWeight with
      | error p =>
          rw [hadd] at h
          cases h
      | ok acc' =>
          simp only [hadd, bind, Except.bind] at h
          split at h
          · cases h
            exact List.mem_cons_self
          · exact List.mem_cons_of_mem _ (ih h)

theorem selectEndpoint_mem {endpoints : List EndpointState} {algorithm : LoadBalancingConfig}
    {hashKey : Option Str} {counter counter' : ℕ} {picked : EndpointState}
    (h : selectEndpoint endpoints algorithm hashKey counter = .ok (some picked, counter')) :
    picked ∈ endpoints := by
  have hmem : ∀ e, e ∈ endpoints.filter EndpointState.isAvailable → e ∈ endpoints :=
    fun e he => List.mem_of_mem_filter he
  unfold selectEndpoint at h
  cases havailable : endpoints.filter EndpointState.isAvailable with
  | nil =>
      rw [havailable] at h
      cases h
  | cons first rest =>
  rw [havailable] at hmem
  simp only [havailable] at h
  cases algorithm with
  | leastConnections =>
      simp only [Except.ok.injEq, Prod.mk.injEq] at h
      exact hmem _ (List.argmin_mem (by rw [h.1]; rfl))
  | weightedRoundRobin =>
      cases hsum : sumU32 0 ((first :: rest).map EndpointState.effectiveWeight) with
      | error p =>
          simp only [hsum, bind, Except.bind] at h
          cases h
      | ok total =>
      simp only [hsum, bind, Except.bind] at h
      split at h
      · cases h
        exact hmem _ List.mem_cons_self
      · cases hpick : pickWeighted (counter % 2 ^ 32 % total) 0 (first :: rest) with
        | error p =>
            simp only [hpick] at h
            cases h
        | ok found =>
            simp only [hpick, pure, Except.pure, Except.ok.injEq, Prod.mk.injEq] at h
            cases found with
            | none =>
                obtain rfl : first = picked := by simpa using h.1
                exact hmem _ List.mem_cons_self
            | some e =>
                obtain rfl : e = picked := by simpa using h.1
                exact hmem _ (pickWeighted_mem hpick)
  | consistentHashing hashHeader virtualNodes =>
      cases hring : mulUsize (first :: rest).length virtualNodes with
      | error p =>
          simp only [hring, bind, Except.bind] at h
          cases h
      | ok ringSize =>
      cases hrem : remUsize (fnv1a64 (utf8 (hashKey.getD "default".toList))).toNat ringSize with
      | error p =>
          simp only [hring, hrem, bind, Except.bind] at h
          cases h
      | ok idx =>
          simp only [hring, hrem, bind, Except.bind, pure, Except.pure, Except.ok.injEq,
            Prod.mk.injEq] at h
          exact hmem _ (List.mem_of_getElem? h.1)

theorem UpstreamPool.getElem?_position {pool : UpstreamPool} {picked : EndpointState}
    (env : WireEnv) (h : picked ∈ pool.endpoints) :
    pool.endpoints[pool.position env picked]? = some picked := by
  unfold UpstreamPool.position
  split
  · assumption
  · exact List.getElem?_idxOf h

/-! ## A send is a run of the pool -/

section
variable {uc : UriCrate} {pool pool' : UpstreamPool} {env : WireEnv} {picked : EndpointState}
  {req : Request} {j : ℕ} {st : SendStage}

/-- A pool with one send, whose attempts have come to this. A panic leaves the count. -/
def afterAttempts (pool : UpstreamPool) (j : ℕ) (e : EndpointState) (elapsed : ℕ) :
    Except Panic (Except CoreError Response) → Sending
  | .error _ => ⟨pool, [.dropped j]⟩
  | .ok result => ⟨pool.setEndpoint j (e.release elapsed).2,
      [.ended ((e.release elapsed).1.map fun _ => result)]⟩

theorem finish_eq {e : EndpointState} (hj : pool.endpoints[j]? = some e)
    (answer : Except CoreError Response) (elapsed : ℕ) :
    Sending.finish ⟨pool, [st]⟩ 0 j answer elapsed =
      some (afterAttempts pool j e elapsed (.ok answer)) := by
  simp only [Sending.finish, hj]
  rfl

/-- What the retry loop reads of a pool is in its configuration. -/
theorem retry_of_config (h : pool'.config = pool.config) :
    pool'.maxAttempts = pool.maxAttempts ∧ pool'.retryStatuses = pool.retryStatuses ∧
      pool'.baseBackoff = pool.baseBackoff := by
  unfold UpstreamPool.maxAttempts UpstreamPool.retryStatuses UpstreamPool.baseBackoff
  rw [h]
  exact ⟨rfl, rfl, rfl⟩

variable (uc env req) in
/-- The step an attempt leads to, and from there the attempts that are left. -/
theorem sendWithRetry_run (hconfig : pool'.config = pool.config)
    (hj : pool'.endpoints[j]? = some picked.acquire) :
    ∀ left attempt, 0 < left → attempt + left = pool.maxAttempts →
      ∃ events, follow (Sending.step uc) ⟨pool', [.inFlight j (.requesting attempt)]⟩ events =
        some (afterAttempts pool' j picked.acquire env.elapsed
          (pool.sendWithRetry .checked env picked req left attempt).2) := by
  obtain ⟨hmax, hstatuses, hbackoff⟩ := retry_of_config hconfig
  have haddress : ((pool'.endpoints[j]?).map EndpointState.address).getD [] = picked.address := by
    rw [hj]
    rfl
  intro left
  induction left with
  | zero =>
      intro attempt hpos
      exact absurd hpos (Nat.lt_irrefl 0)
  | succ left ih =>
  intro attempt _ hleft
  have hanswered : ∀ outcome, follow (Sending.step uc)
      ⟨pool', [.inFlight j (.requesting attempt)]⟩
        [.answered 0 outcome (env.nanos attempt) env.elapsed] =
      Sending.answer ⟨pool', [.inFlight j (.requesting attempt)]⟩ 0 j attempt outcome
        (env.nanos attempt) env.elapsed := by
    intro outcome
    simp [follow, Sending.step]
  unfold UpstreamPool.sendWithRetry
  cases env.reply attempt picked req with
  | timeout =>
      refine ⟨[.answered 0 .timeout (env.nanos attempt) env.elapsed], ?_⟩
      rw [hanswered, Sending.answer, finish_eq hj, hconfig]
  | failed message =>
      refine ⟨[.answered 0 (.failed message) (env.nanos attempt) env.elapsed], ?_⟩
      rw [hanswered, Sending.answer, finish_eq hj, haddress]
  | response status headers body =>
  have hresponse := hanswered (.response status headers)
  simp only [Sending.answer, hstatuses, hmax, hbackoff] at hresponse ⊢
  by_cases hretry : status ∈ pool.retryStatuses ∧ attempt + 1 < pool.maxAttempts
  · rw [if_pos hretry] at hresponse ⊢
    rw [show sleepMsIn .checked = sleepMs from rfl]
    cases hsleep : sleepMs pool.baseBackoff attempt (env.nanos attempt) with
    | error p =>
        refine ⟨_, hresponse.trans ?_⟩
        rw [hsleep]
        rfl
    | ok ms =>
        rw [hsleep] at hresponse
        obtain ⟨events, hrest⟩ := ih (attempt + 1) (by omega) (by omega)
        refine ⟨[.answered 0 (.response status headers) (env.nanos attempt) env.elapsed] ++
          .woken 0 :: events, ?_⟩
        rw [follow_append, hresponse, Option.bind_some, follow_cons]
        exact hrest
  · rw [if_neg hretry] at hresponse ⊢
    have hcollected : ∀ result : Except Str (List UInt8), follow (Sending.step uc)
        ⟨pool', [.inFlight j (.requesting attempt)]⟩
          ([.answered 0 (.response status headers) (env.nanos attempt) env.elapsed] ++
            [.collected 0 result env.elapsed]) =
        Sending.step uc ⟨pool', [.inFlight j (.collecting status headers)]⟩
          (.collected 0 result env.elapsed) := by
      intro result
      rw [follow_append, hresponse]
      simp [follow, Sending.setSend]
    refine ⟨_, (hcollected body).trans ?_⟩
    cases body with
    | ok bytes => exact finish_eq hj _ _
    | error message =>
        simp only [Sending.step, List.getElem?_cons_zero, haddress]
        exact finish_eq hj _ _

variable (uc env req) in
/-- From where a send is counted: without an attempt it ends there. -/
theorem counted_run {start : Sending} {before : List SendEvent} (hname : pool'.name = pool.name)
    (hconfig : pool'.config = pool.config)
    (hj : pool'.endpoints[j]? = some picked.acquire)
    (hcounted : follow (Sending.step uc) start before =
      if pool'.maxAttempts = 0 then
        Sending.finish ⟨pool', [.inFlight j (.requesting 0)]⟩ 0 j
          (.error (.noHealthyEndpoints pool'.name)) env.elapsed
      else some ⟨pool', [.inFlight j (.requesting 0)]⟩) :
    ∃ events, follow (Sending.step uc) start events =
      some (afterAttempts pool' j picked.acquire env.elapsed
        (pool.sendWithRetry .checked env picked req pool.maxAttempts 0).2) := by
  rw [hname, (retry_of_config hconfig).1] at hcounted
  by_cases hzero : pool.maxAttempts = 0
  · rw [if_pos hzero, finish_eq hj] at hcounted
    refine ⟨before, hcounted.trans ?_⟩
    rw [hzero]
    rfl
  · rw [if_neg hzero] at hcounted
    obtain ⟨events, hevents⟩ := sendWithRetry_run uc env req hconfig hj
      pool.maxAttempts 0 (Nat.pos_of_ne_zero hzero) (Nat.zero_add _)
    refine ⟨before ++ events, ?_⟩
    rw [follow_append, hcounted]
    exact hevents

/-- **A send on its own.** `exchange` is a run of the pool with one send, which ends with
its answer, or is unwound by a panic on the way. -/
theorem exchange_run (uc : UriCrate) (pool : UpstreamPool) (env : WireEnv) (req : Request)
    (hashKey : Option Str) :
    ∃ events s st, follow (Sending.step uc) ⟨pool, []⟩ events = some s ∧
      s.pool = (pool.exchange uc env req hashKey).2 ∧ s.sends = [st] ∧
      (st = .ended (pool.exchange uc env req hashKey).1 ∨
        ∃ p j, (pool.exchange uc env req hashKey).1 = .error p ∧ st = .dropped j) := by
  have hone : ∀ event, follow (Sending.step uc) ⟨pool, []⟩ [event] =
      Sending.step uc ⟨pool, []⟩ event := by
    intro event
    simp [follow]
  unfold UpstreamPool.exchange
  cases hselect : selectEndpoint pool.endpoints pool.config.loadBalancing hashKey
    pool.rrCounter with
  | error p =>
      refine ⟨[.start req.uri hashKey 0 env.elapsed], ⟨pool, [.ended (.error p)]⟩, _, ?_, rfl, rfl,
        .inl rfl⟩
      rw [hone]
      simp [Sending.step, Sending.start, hselect]
  | ok selected =>
  obtain ⟨picked, counter⟩ := selected
  cases picked with
  | none =>
      refine ⟨[.start req.uri hashKey 0 env.elapsed], ⟨{ pool with rrCounter := counter },
        [.ended (.ok (.error (.noHealthyEndpoints pool.name)))]⟩, _, ?_, rfl, rfl, .inl rfl⟩
      rw [hone]
      simp [Sending.step, Sending.start, hselect]
  | some picked =>
  have hpicked : pool.endpoints[pool.position env picked]? = some picked :=
    UpstreamPool.getElem?_position env (selectEndpoint_mem hselect)
  have hstart := hone (.start req.uri hashKey (pool.position env picked) env.elapsed)
  simp only [Sending.step, Sending.start, hselect, hpicked, ↓reduceIte] at hstart ⊢
  cases huri : rewriteUri uc picked.address req.uri with
  | error p =>
      rw [huri] at hstart
      exact ⟨_, _, _, hstart, rfl, rfl, .inl rfl⟩
  | ok uri =>
  simp only [huri] at hstart ⊢
  -- the pool once the send is counted on its endpoint
  generalize hpool' : UpstreamPool.setEndpoint { pool with rrCounter := counter }
    (pool.position env picked) picked.acquire = pool'
  have hj : pool'.endpoints[pool.position env picked]? = some picked.acquire := by
    rw [← hpool']
    exact getElem?_replaced_self hpicked picked.acquire
  have hname : pool'.name = pool.name := by
    rw [← hpool']
    rfl
  have hconfig : pool'.config = pool.config := by
    rw [← hpool']
    rfl
  have hcounted : follow (Sending.step uc) ⟨pool, []⟩
      [.start req.uri hashKey (pool.position env picked) env.elapsed] =
        if pool'.maxAttempts = 0 then
          Sending.finish ⟨pool', [.inFlight (pool.position env picked) (.requesting 0)]⟩ 0
            (pool.position env picked) (.error (.noHealthyEndpoints pool'.name)) env.elapsed
        else some ⟨pool', [.inFlight (pool.position env picked) (.requesting 0)]⟩ := by
    rw [hstart, ← hpool']
    rfl
  obtain ⟨events, hevents⟩ :=
    counted_run uc env { req with uri := uri } hname hconfig hj hcounted
  cases hsent : (pool.sendWithRetry .checked env picked { req with uri := uri }
    pool.maxAttempts 0).2 with
  | error p =>
      rw [hsent] at hevents
      exact ⟨events, _, _, hevents, rfl, rfl, .inr ⟨p, _, rfl, rfl⟩⟩
  | ok result =>
      rw [hsent] at hevents
      exact ⟨events, _, _, hevents, rfl, rfl, .inl rfl⟩

end

end Stateform
