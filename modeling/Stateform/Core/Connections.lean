import Stateform.Library.Numbered
import Stateform.Library.Run
import Stateform.Core.Panics
import Stateform.Core.Response

/-!
# Sends in flight

`UpstreamPool::send` and its retry loop, from one await point to the next, for any
number of sends on one pool. A send counts itself on its endpoint and takes the count
back when it ends; a send that is dropped on the way leaves it there. So the counts
are those of the sends in flight exactly as long as none is dropped
(`connections_balanced_iff`).
-/

namespace Stateform

open Library

/-! ## Backoff and latency -/

/-- `u64::pow`, with overflow checks; so are the next two. -/
def powU64 (base exponent : ℕ) : Except Panic ℕ :=
  if base ^ exponent < 2 ^ 64 then .ok (base ^ exponent) else .error .overflow

def mulU64 (a b : ℕ) : Except Panic ℕ := if a * b < 2 ^ 64 then .ok (a * b) else .error .overflow

def addU64 (a b : ℕ) : Except Panic ℕ := if a + b < 2 ^ 64 then .ok (a + b) else .error .overflow

/-- `u64::wrapping_sub`. -/
def wrappingSub (a b : ℕ) : ℕ := (a + 2 ^ 64 - b) % 2 ^ 64

/-- `u64::saturating_add`. -/
def saturatingAdd (a b : ℕ) : ℕ := min (a + b) (2 ^ 64 - 1)

/-- The time `send_with_retry` sleeps after an attempt; `nanos` is the clock's. -/
def sleepMs (baseBackoff attempt nanos : ℕ) : Except Panic ℕ := do
  let factor ← powU64 2 attempt
  let baseMs ← mulU64 (baseBackoff % 2 ^ 64) factor
  let quarter := max (baseMs / 4) 1
  let jitter := wrappingSub (nanos % (quarter * 2)) quarter
  return saturatingAdd baseMs jitter

/-- The backoff in milliseconds where the power and the product wrap. -/
def wrappedBackoff (baseBackoff attempt : ℕ) : ℕ :=
  baseBackoff % 2 ^ 64 * (2 ^ attempt % 2 ^ 64) % 2 ^ 64

/-- That sleep in a build of either profile. -/
def sleepMsIn (profile : Profile) (baseBackoff attempt nanos : ℕ) : Except Panic ℕ :=
  match profile with
  | .checked => sleepMs baseBackoff attempt nanos
  | .wrapping =>
      let baseMs := wrappedBackoff baseBackoff attempt
      let quarter := max (baseMs / 4) 1
      .ok (saturatingAdd baseMs (wrappingSub (nanos % (quarter * 2)) quarter))

/-- `update_ewma`: what it stores. -/
def updateEwma (old newSampleMs : ℕ) : Except Panic ℕ := do
  if old = 0 then return newSampleMs
  let new ← mulU64 2 newSampleMs
  let kept ← mulU64 8 old
  return (← addU64 new kept) / 10

/-! ## A send, from one await point to the next -/

/-- The defaults of `send_with_retry`. -/
def UpstreamPool.maxAttempts (pool : UpstreamPool) : ℕ :=
  (pool.config.retry.map RetryConfig.maxAttempts).getD 1

def UpstreamPool.retryStatuses (pool : UpstreamPool) : List ℕ :=
  (pool.config.retry.map RetryConfig.onStatuses).getD []

def UpstreamPool.baseBackoff (pool : UpstreamPool) : ℕ :=
  (pool.config.retry.map RetryConfig.baseBackoff).getD 50

/-- What a send waits for: the response to an attempt, the end of a backoff, or the
body of a response. -/
inductive AwaitPoint : Type where
  | requesting (attempt : ℕ)
  | sleeping (attempt ms : ℕ)
  | collecting (status : ℕ) (headers : HeaderMap)
deriving DecidableEq

/-- Where a send is. One in flight has counted itself on an endpoint, as has one whose
future was dropped at an await point or unwound by a panic. -/
inductive SendStage : Type where
  | inFlight (endpoint : ℕ) (at_ : AwaitPoint)
  | dropped (endpoint : ℕ)
  | ended (answer : Except Panic (Except CoreError Response))

/-- How an attempt ends. -/
inductive AttemptOutcome : Type where
  | timeout
  | failed (message : Str)
  | response (status : ℕ) (headers : HeaderMap)
deriving DecidableEq

/-- What happens to the pool: a send starts and picks the endpoint with this number,
what a send waits for comes, a send is dropped, or a health check sets a state. The
times are those a send reads when it ends. -/
inductive SendEvent : Type where
  | start (uri : Uri) (hashKey : Option Str) (endpoint elapsed : ℕ)
  | answered (k : ℕ) (outcome : AttemptOutcome) (nanos elapsed : ℕ)
  | woken (k : ℕ)
  | collected (k : ℕ) (body : Except Str (List UInt8)) (elapsed : ℕ)
  | cancel (k : ℕ)
  | checked (endpoint : ℕ) (health : Health)

/-- A pool and its sends, numbered as they came. -/
structure Sending : Type where
  pool : UpstreamPool
  sends : List SendStage

/-- The count of a send, and its end: the count goes first, then the estimate. -/
def EndpointState.acquire (e : EndpointState) : EndpointState :=
  { e with activeConns := e.activeConns + 1 }

def EndpointState.release (e : EndpointState) (elapsed : ℕ) : Except Panic Unit × EndpointState :=
  let e := { e with activeConns := e.activeConns - 1 }
  match updateEwma e.ewmaLatency elapsed with
  | .error p => (.error p, e)
  | .ok new => (.ok (), { e with ewmaLatency := new })

namespace Sending

/-- `UpstreamPool::new`, before any send. -/
def init (name : Str) (config : UpstreamConfig) : Sending := ⟨.new name config, []⟩

def setEndpoint (s : Sending) (j : ℕ) (e : EndpointState) : Sending :=
  { s with pool := { s.pool with endpoints := s.pool.endpoints.set j e } }

def setSend (s : Sending) (k : ℕ) (stage : SendStage) : Sending :=
  { s with sends := s.sends.set k stage }

/-- The end of `send`, with what the retry loop returned. -/
def finish (s : Sending) (k j : ℕ) (answer : Except CoreError Response) (elapsed : ℕ) :
    Option Sending :=
  match s.pool.endpoints[j]? with
  | none => none
  | some e =>
      let (done, e) := e.release elapsed
      some ((s.setEndpoint j e).setSend k (.ended (done.map fun _ => answer)))

/-- The start of `send`, up to the first await point. -/
def start (uc : UriCrate) (s : Sending) (uri : Uri) (hashKey : Option Str) (j elapsed : ℕ) :
    Option Sending :=
  match selectEndpoint s.pool.endpoints s.pool.config.loadBalancing hashKey s.pool.rrCounter with
  | .error p => some { s with sends := s.sends ++ [.ended (.error p)] }
  | .ok (none, counter) =>
      some {
        pool := { s.pool with rrCounter := counter }
        sends := s.sends ++ [.ended (.ok (.error (.noHealthyEndpoints s.pool.name)))] }
  | .ok (some picked, counter) =>
      if s.pool.endpoints[j]? = some picked then
        let s := { s with pool := { s.pool with rrCounter := counter } }
        match rewriteUri uc picked.address uri with
        | .error p => some { s with sends := s.sends ++ [.ended (.error p)] }
        | .ok _ =>
            let s := s.setEndpoint j picked.acquire
            let s := { s with sends := s.sends ++ [.inFlight j (.requesting 0)] }
            -- without an attempt the loop is over before it waits
            if s.pool.maxAttempts = 0 then
              s.finish (s.sends.length - 1) j (.error (.noHealthyEndpoints s.pool.name)) elapsed
            else some s
      else none

/-- What an attempt leads to. -/
def answer (s : Sending) (k j attempt : ℕ) (outcome : AttemptOutcome) (nanos elapsed : ℕ) :
    Option Sending :=
  match outcome with
  | .timeout => s.finish k j (.error (.upstreamTimeout s.pool.config.timeouts.request)) elapsed
  | .failed message =>
      let address := ((s.pool.endpoints[j]?).map EndpointState.address).getD []
      s.finish k j (.error (.upstream address message)) elapsed
  | .response status headers =>
      if status ∈ s.pool.retryStatuses ∧ attempt + 1 < s.pool.maxAttempts then
        match sleepMs s.pool.baseBackoff attempt nanos with
        | .error _ => some (s.setSend k (.dropped j))
        | .ok ms => some (s.setSend k (.inFlight j (.sleeping attempt ms)))
      else some (s.setSend k (.inFlight j (.collecting status headers)))

def step (uc : UriCrate) (s : Sending) : SendEvent → Option Sending
  | .start uri hashKey j elapsed => start uc s uri hashKey j elapsed
  | .answered k outcome nanos elapsed =>
      match s.sends[k]? with
      | some (.inFlight j (.requesting attempt)) => s.answer k j attempt outcome nanos elapsed
      | _ => none
  | .woken k =>
      match s.sends[k]? with
      | some (.inFlight j (.sleeping attempt _)) =>
          some (s.setSend k (.inFlight j (.requesting (attempt + 1))))
      | _ => none
  | .collected k body elapsed =>
      match s.sends[k]? with
      | some (.inFlight j (.collecting status headers)) =>
          match body with
          | .ok bytes => s.finish k j (.ok ⟨status, headers, bytes⟩) elapsed
          | .error message =>
              let address := ((s.pool.endpoints[j]?).map EndpointState.address).getD []
              s.finish k j (.error (.upstream address message)) elapsed
      | _ => none
  | .cancel k =>
      match s.sends[k]? with
      | some (.inFlight j _) => some (s.setSend k (.dropped j))
      | _ => none
  | .checked j health =>
      match s.pool.endpoints[j]? with
      | some e => some (s.setEndpoint j { e with health := health })
      | none => none

def run (uc : UriCrate) (name : Str) (config : UpstreamConfig) (events : List SendEvent) :
    Option Sending :=
  follow (step uc) (init name config) events

end Sending

/-! ## Counts -/

/-- The endpoint whose count a send is in. -/
def SendStage.on : SendStage → Option ℕ
  | .inFlight j _ => some j
  | .dropped j => some j
  | .ended _ => none

@[simp] theorem SendStage.on_inFlight (j : ℕ) (at_ : AwaitPoint) :
    (SendStage.inFlight j at_).on = some j := rfl

@[simp] theorem SendStage.on_dropped (j : ℕ) : (SendStage.dropped j).on = some j := rfl

@[simp] theorem SendStage.on_ended (answer : Except Panic (Except CoreError Response)) :
    (SendStage.ended answer).on = none := rfl

def SendStage.isInFlightOn (j : ℕ) : SendStage → Bool
  | .inFlight i _ => i = j
  | _ => false

def SendStage.isDropped : SendStage → Bool
  | .dropped _ => true
  | _ => false

namespace Sending

/-- The sends in flight on an endpoint. -/
def inFlightOn (s : Sending) (j : ℕ) : ℕ := s.sends.countP (SendStage.isInFlightOn j)

/-- The sends that are counted on an endpoint. -/
def countedOn (s : Sending) (j : ℕ) : ℕ := s.sends.countP fun st => st.on = some j

/-- The sends that were dropped on the way. -/
def drops (s : Sending) : ℕ := s.sends.countP SendStage.isDropped

/-- Each endpoint counts the sends in flight on it. -/
def Balanced (s : Sending) : Prop :=
  ∀ (j : ℕ) (e : EndpointState), s.pool.endpoints[j]? = some e → e.activeConns = s.inFlightOn j

/-- Each endpoint counts the sends that were counted and have not ended, and every such
send is on an endpoint of the pool. -/
structure Counted (s : Sending) : Prop where
  count : ∀ (j : ℕ) (e : EndpointState), s.pool.endpoints[j]? = some e →
    e.activeConns = s.countedOn j
  known : ∀ (k j : ℕ) (st : SendStage), s.sends[k]? = some st → st.on = some j →
    ∃ e, s.pool.endpoints[j]? = some e

/-- What a step keeps that drops nothing. -/
structure Keeps (s s' : Sending) : Prop where
  counted : s.Counted → s'.Counted
  drops : s'.drops = s.drops

section
variable {s s' : Sending} {k j : ℕ} {e e' : EndpointState} {st st' : SendStage}

theorem isInFlightOn_on {j : ℕ} (h : st.isInFlightOn j) : st.on = some j := by
  cases st with
  | inFlight i at_ => exact congrArg some (of_decide_eq_true h)
  | dropped i => cases h
  | ended answer => cases h

/-- With the counts right, an endpoint is off exactly by the sends dropped on it. -/
theorem Counted.balanced_iff (h : s.Counted) : s.Balanced ↔ s.drops = 0 := by
  constructor
  · intro hbalanced
    unfold drops
    rw [List.countP_eq_zero]
    intro st hst hdropped
    obtain ⟨k, hk⟩ := List.mem_iff_getElem?.mp hst
    cases st with
    | inFlight j at_ => cases hdropped
    | ended answer => cases hdropped
    | dropped j =>
        obtain ⟨e, he⟩ := h.known k j _ hk rfl
        have heq : s.inFlightOn j = s.countedOn j := (hbalanced j e he).symm.trans (h.count j e he)
        have hlt : s.inFlightOn j < s.countedOn j := by
          apply countP_lt_countP _ hst
          · exact decide_eq_true rfl
          · exact Bool.false_ne_true
          · intro st' _ hflies
            exact decide_eq_true (isInFlightOn_on hflies)
        exact absurd heq (Nat.ne_of_lt hlt)
  · intro hdrops j e he
    rw [h.count j e he]
    apply List.countP_congr
    intro st hst
    have hnot := List.countP_eq_zero.mp hdrops st hst
    cases st with
    | inFlight i at_ => simp [SendStage.on, SendStage.isInFlightOn]
    | dropped i => exact absurd rfl hnot
    | ended answer => simp [SendStage.on, SendStage.isInFlightOn]

/-! ## What a step does to the counts -/

/-- A send that moves on is counted where it was. -/
theorem Counted.moved (h : s.Counted) (hk : s.sends[k]? = some st) (hon : st'.on = st.on) :
    (s.setSend k st').Counted where
  count := by
    intro i e he
    rw [h.count i e he]
    have hsame : decide (st'.on = some i) = decide (st.on = some i) := by rw [hon]
    exact (countP_replaced_same (p := fun st => decide (st.on = some i)) hk hsame).symm
  known := by
    intro m i stage hm hstage
    rw [setSend, getElem?_replaced hk] at hm
    split at hm
    · obtain rfl := Option.some.inj hm
      exact h.known k i st hk (hon.symm.trans hstage)
    · exact h.known m i stage hm hstage

/-- An endpoint whose count stays may change otherwise. -/
theorem Counted.setEndpoint_same (h : s.Counted) (hj : s.pool.endpoints[j]? = some e)
    (hconns : e'.activeConns = e.activeConns) : (s.setEndpoint j e').Counted where
  count := by
    intro i ei hi
    show ei.activeConns = s.countedOn i
    rw [setEndpoint, getElem?_replaced hj] at hi
    split at hi
    · next hij =>
        obtain rfl := Option.some.inj hi
        rw [hconns, hij]
        exact h.count j e hj
    · exact h.count i ei hi
  known := by
    intro m i stage hm hstage
    obtain ⟨ei, hi⟩ := h.known m i stage hm hstage
    show ∃ e, (s.pool.endpoints.set j e')[i]? = some e
    rw [getElem?_replaced hj]
    split
    · exact ⟨e', rfl⟩
    · exact ⟨ei, hi⟩

/-- A send that ends takes its count back. -/
theorem Counted.ended (h : s.Counted) {at_ : AwaitPoint}
    {answer : Except Panic (Except CoreError Response)}
    (hk : s.sends[k]? = some (.inFlight j at_)) (hj : s.pool.endpoints[j]? = some e)
    (hconns : e'.activeConns = e.activeConns - 1) :
    ((s.setEndpoint j e').setSend k (.ended answer)).Counted where
  count := by
    intro i ei hi
    have hcount := countP_replaced (fun st => decide (st.on = some i)) hk (.ended answer)
    have hgoal : ((s.setEndpoint j e').setSend k (.ended answer)).countedOn i =
        (s.sends.set k (.ended answer)).countP fun st => st.on = some i := rfl
    rw [hgoal]
    change (s.pool.endpoints.set j e')[i]? = some ei at hi
    rw [getElem?_replaced hj] at hi
    split at hi
    · next hij =>
        subst hij
        obtain rfl := Option.some.inj hi
        have hold : e.activeConns = s.sends.countP fun st => st.on = some i := h.count i e hj
        simp only [SendStage.on_inFlight, SendStage.on_ended, decide_true, if_true,
          reduceCtorEq, decide_false, Bool.false_eq_true, if_false] at hcount
        omega
    · next hij =>
        have hold : ei.activeConns = s.sends.countP fun st => st.on = some i := h.count i ei hi
        simp only [SendStage.on_inFlight, SendStage.on_ended, Option.some.injEq, Ne.symm hij,
          reduceCtorEq, decide_false, Bool.false_eq_true, if_false] at hcount
        omega
  known := by
    intro m i stage hm hstage
    change (s.sends.set k (.ended answer))[m]? = some stage at hm
    rw [getElem?_replaced hk] at hm
    split at hm
    · obtain rfl := Option.some.inj hm
      cases hstage
    · obtain ⟨ei, hi⟩ := h.known m i stage hm hstage
      show ∃ e, (s.pool.endpoints.set j e')[i]? = some e
      rw [getElem?_replaced hj]
      split
      · exact ⟨e', rfl⟩
      · exact ⟨ei, hi⟩

/-- Only the endpoints and the sends matter to the counts. -/
theorem Counted.of_eq (h : s.Counted) (hendpoints : s'.pool.endpoints = s.pool.endpoints)
    (hsends : s'.sends = s.sends) : s'.Counted where
  count := by
    intro i e he
    rw [hendpoints] at he
    rw [h.count i e he, countedOn, countedOn, hsends]
  known := by
    intro m i stage hm hstage
    rw [hsends] at hm
    rw [hendpoints]
    exact h.known m i stage hm hstage

/-- A send that ended where it started. -/
theorem Counted.endedAtOnce (h : s.Counted) (answer : Except Panic (Except CoreError Response)) :
    Counted { s with sends := s.sends ++ [.ended answer] } where
  count := by
    intro i e he
    rw [h.count i e he]
    show s.countedOn i = (s.sends ++ [SendStage.ended answer]).countP fun st => st.on = some i
    rw [List.countP_append, List.countP_singleton]
    simp [countedOn]
  known := by
    intro m i stage hm hstage
    rw [getElem?_appended] at hm
    split at hm
    · obtain rfl := Option.some.inj hm
      cases hstage
    · exact h.known m i stage hm hstage

/-- A send that counts itself, and waits. -/
theorem Counted.started (h : s.Counted) (hj : s.pool.endpoints[j]? = some e) (at_ : AwaitPoint) :
    Counted { s.setEndpoint j e.acquire with sends := s.sends ++ [.inFlight j at_] } where
  count := by
    intro i ei hi
    show ei.activeConns = (s.sends ++ [SendStage.inFlight j at_]).countP fun st => st.on = some i
    rw [List.countP_append, List.countP_singleton]
    change (s.pool.endpoints.set j e.acquire)[i]? = some ei at hi
    rw [getElem?_replaced hj] at hi
    split at hi
    · next hij =>
        subst hij
        obtain rfl := Option.some.inj hi
        have hold : e.activeConns = s.countedOn i := h.count i e hj
        simp [EndpointState.acquire, hold, countedOn]
    · next hij =>
        rw [h.count i ei hi]
        simp [countedOn, Ne.symm hij]
  known := by
    intro m i stage hm hstage
    show ∃ e', (s.pool.endpoints.set j e.acquire)[i]? = some e'
    rw [getElem?_replaced hj]
    rw [getElem?_appended] at hm
    split at hm
    · obtain rfl := Option.some.inj hm
      obtain rfl := Option.some.inj hstage
      exact ⟨e.acquire, if_pos rfl⟩
    · obtain ⟨ei, hi⟩ := h.known m i stage hm hstage
      split
      · exact ⟨e.acquire, rfl⟩
      · exact ⟨ei, hi⟩

/-! ## What a step does -/

theorem Keeps.trans {s'' : Sending} (h : Keeps s s') (h' : Keeps s' s'') : Keeps s s'' :=
  ⟨fun hs => h'.counted (h.counted hs), h'.drops.trans h.drops⟩

theorem keeps_moved {at_ at' : AwaitPoint} (hk : s.sends[k]? = some (.inFlight j at_)) :
    Keeps s (s.setSend k (.inFlight j at')) :=
  ⟨fun h => h.moved hk rfl, countP_replaced_same hk rfl⟩

theorem release_activeConns (e : EndpointState) (elapsed : ℕ) :
    (e.release elapsed).2.activeConns = e.activeConns - 1 := by
  simp only [EndpointState.release]
  split <;> rfl

theorem keeps_finish {at_ : AwaitPoint} {answer : Except CoreError Response} {elapsed : ℕ}
    (hk : s.sends[k]? = some (.inFlight j at_)) (hfinish : s.finish k j answer elapsed = some s') :
    Keeps s s' := by
  unfold finish at hfinish
  split at hfinish
  · cases hfinish
  · next e hj =>
      cases hfinish
      refine ⟨?_, ?_⟩
      · intro h
        exact h.ended hk hj (release_activeConns e elapsed)
      · exact countP_replaced_same hk rfl

theorem keeps_endedAtOnce (answer : Except Panic (Except CoreError Response)) :
    Keeps s { s with sends := s.sends ++ [.ended answer] } := by
  refine ⟨fun h => h.endedAtOnce answer, ?_⟩
  show (s.sends ++ [SendStage.ended answer]).countP SendStage.isDropped = s.drops
  rw [List.countP_append]
  rfl

theorem keeps_counter (counter : ℕ) :
    Keeps s { s with pool := { s.pool with rrCounter := counter } } :=
  ⟨fun h => h.of_eq rfl rfl, rfl⟩

theorem keeps_started (hj : s.pool.endpoints[j]? = some e) (at_ : AwaitPoint) :
    Keeps s { s.setEndpoint j e.acquire with sends := s.sends ++ [.inFlight j at_] } := by
  refine ⟨fun h => h.started hj at_, ?_⟩
  show (s.sends ++ [SendStage.inFlight j at_]).countP SendStage.isDropped = s.drops
  rw [List.countP_append]
  rfl

theorem keeps_start {uc : UriCrate} {uri : Uri} {hashKey : Option Str} {elapsed : ℕ}
    (hstart : start uc s uri hashKey j elapsed = some s') : Keeps s s' := by
  unfold start at hstart
  split at hstart
  · cases hstart
    exact keeps_endedAtOnce _
  · next counter _ =>
      cases hstart
      exact (keeps_counter counter).trans (keeps_endedAtOnce _)
  · next picked counter _ =>
      split at hstart
      · next hj =>
          simp only at hstart
          split at hstart
          · cases hstart
            exact (keeps_counter counter).trans (keeps_endedAtOnce _)
          · have hstarted := (keeps_counter counter).trans
              (keeps_started (s := { s with pool := { s.pool with rrCounter := counter } }) hj
                (.requesting 0))
            split at hstart
            · have hlast : (s.sends ++ [SendStage.inFlight j (.requesting 0)])[
                  (s.sends ++ [SendStage.inFlight j (.requesting 0)]).length - 1]? =
                    some (.inFlight j (.requesting 0)) := by
                rw [List.length_append, List.length_singleton, Nat.add_sub_cancel]
                exact List.getElem?_concat_length
              exact hstarted.trans (keeps_finish hlast hstart)
            · cases hstart
              exact hstarted
      · cases hstart

end

/-! ## Drops -/

/-- The step drops no send: no future is dropped in flight, and the backoff of a response
that is retried fits in 64 bits. -/
def Survives (s : Sending) : SendEvent → Prop
  | .cancel _ => False
  | .answered k (.response status _) _ _ =>
      ∀ j attempt, s.sends[k]? = some (.inFlight j (.requesting attempt)) →
        status ∈ s.pool.retryStatuses → attempt + 1 < s.pool.maxAttempts →
          2 ^ attempt < 2 ^ 64 ∧ s.pool.baseBackoff % 2 ^ 64 * 2 ^ attempt < 2 ^ 64
  | _ => True

theorem sleepMs_of_fits {baseBackoff attempt : ℕ} (nanos : ℕ) (hpow : 2 ^ attempt < 2 ^ 64)
    (hmul : baseBackoff % 2 ^ 64 * 2 ^ attempt < 2 ^ 64) :
    ∃ ms, sleepMs baseBackoff attempt nanos = .ok ms := by
  have hpowU64 : powU64 2 attempt = .ok (2 ^ attempt) := if_pos hpow
  have hmulU64 : mulU64 (baseBackoff % 2 ^ 64) (2 ^ attempt) =
      .ok (baseBackoff % 2 ^ 64 * 2 ^ attempt) := if_pos hmul
  rw [sleepMs, hpowU64]
  simp only [bind, Except.bind]
  rw [hmulU64]
  exact ⟨_, rfl⟩

theorem sleepMs_of_not_fits {baseBackoff attempt nanos : ℕ}
    (h : ¬ (2 ^ attempt < 2 ^ 64 ∧ baseBackoff % 2 ^ 64 * 2 ^ attempt < 2 ^ 64)) :
    sleepMs baseBackoff attempt nanos = .error .overflow := by
  rw [sleepMs]
  by_cases hpow : 2 ^ attempt < 2 ^ 64
  · have hpowU64 : powU64 2 attempt = .ok (2 ^ attempt) := if_pos hpow
    have hmulU64 : mulU64 (baseBackoff % 2 ^ 64) (2 ^ attempt) = .error .overflow :=
      if_neg fun hmul => h ⟨hpow, hmul⟩
    rw [hpowU64]
    simp only [bind, Except.bind]
    rw [hmulU64]
  · have hpowU64 : powU64 2 attempt = .error .overflow := if_neg hpow
    rw [hpowU64]
    rfl

/-- A send that is dropped keeps its count. -/
theorem drops_dropped {s : Sending} {k j : ℕ} {at_ : AwaitPoint}
    (hk : s.sends[k]? = some (.inFlight j at_)) :
    (s.Counted → (s.setSend k (.dropped j)).Counted) ∧
      (s.setSend k (.dropped j)).drops = s.drops + 1 :=
  ⟨fun h => h.moved hk rfl, countP_replaced SendStage.isDropped hk (.dropped j)⟩

/-- What a step keeps: the counts stay right, and a send is dropped exactly if the step does
not survive. -/
def KeepsCounts (s s' : Sending) (e : SendEvent) : Prop :=
  (s.Counted → s'.Counted) ∧
    (s.Survives e → s'.drops = s.drops) ∧ (¬ s.Survives e → s'.drops = s.drops + 1)

theorem Keeps.keepsCounts {s s' : Sending} {e : SendEvent} (h : Keeps s s')
    (hsurvives : s.Survives e) : KeepsCounts s s' e :=
  ⟨h.counted, fun _ => h.drops, fun hnot => absurd hsurvives hnot⟩

section
variable {s s' : Sending} {k j attempt status nanos elapsed : ℕ} {headers : HeaderMap}

/-- A response that is to be retried is survived exactly if the backoff fits. -/
theorem survives_retry_iff (hk : s.sends[k]? = some (.inFlight j (.requesting attempt)))
    (hretry : status ∈ s.pool.retryStatuses ∧ attempt + 1 < s.pool.maxAttempts) :
    s.Survives (.answered k (.response status headers) nanos elapsed) ↔
      2 ^ attempt < 2 ^ 64 ∧ s.pool.baseBackoff % 2 ^ 64 * 2 ^ attempt < 2 ^ 64 := by
  constructor
  · intro h
    exact h j attempt hk hretry.1 hretry.2
  · rintro h j' attempt' hk' - -
    cases hk.symm.trans hk'
    exact h

theorem response_keeps (hk : s.sends[k]? = some (.inFlight j (.requesting attempt)))
    (hstep : s.answer k j attempt (.response status headers) nanos elapsed = some s') :
    KeepsCounts s s' (.answered k (.response status headers) nanos elapsed) := by
  simp only [answer] at hstep
  split at hstep
  · next hretry =>
      have hsurvives : s.Survives (.answered k (.response status headers) nanos elapsed) ↔
          2 ^ attempt < 2 ^ 64 ∧ s.pool.baseBackoff % 2 ^ 64 * 2 ^ attempt < 2 ^ 64 :=
        survives_retry_iff hk hretry
      split at hstep
      · next p hpanic =>
          cases hstep
          obtain ⟨hcounted, hdrops⟩ := drops_dropped hk
          refine ⟨hcounted, fun h => absurd h ?_, fun _ => hdrops⟩
          rw [hsurvives]
          rintro ⟨hpow, hmul⟩
          obtain ⟨ms, hms⟩ := sleepMs_of_fits nanos hpow hmul
          cases hpanic.symm.trans hms
      · next ms hms =>
          cases hstep
          refine (keeps_moved hk).keepsCounts ?_
          rw [hsurvives]
          by_contra hnot
          cases hms.symm.trans (sleepMs_of_not_fits hnot)
  · next hretry =>
      cases hstep
      refine (keeps_moved hk).keepsCounts ?_
      intro j' attempt' hk' hstatus hmore
      cases hk.symm.trans hk'
      exact absurd ⟨hstatus, hmore⟩ hretry

end

/-- The step lemma. -/
theorem step_keeps {uc : UriCrate} {s s' : Sending} {e : SendEvent}
    (hstep : s.step uc e = some s') : KeepsCounts s s' e := by
  cases e with
  | start uri hashKey j elapsed => exact (keeps_start hstep).keepsCounts trivial
  | answered k outcome nanos elapsed =>
      simp only [step] at hstep
      split at hstep
      · next j attempt hk =>
          cases outcome with
          | timeout => exact (keeps_finish hk hstep).keepsCounts trivial
          | failed message => exact (keeps_finish hk hstep).keepsCounts trivial
          | response status headers => exact response_keeps hk hstep
      · cases hstep
  | woken k =>
      simp only [step] at hstep
      split at hstep
      · next hk =>
          cases hstep
          exact (keeps_moved hk).keepsCounts trivial
      · cases hstep
  | collected k body elapsed =>
      simp only [step] at hstep
      split at hstep
      · next hk =>
          cases body with
          | ok bytes => exact (keeps_finish hk hstep).keepsCounts trivial
          | error message => exact (keeps_finish hk hstep).keepsCounts trivial
      · cases hstep
  | cancel k =>
      simp only [step] at hstep
      split at hstep
      · next j _ hk =>
          cases hstep
          obtain ⟨hcounted, hdrops⟩ := drops_dropped hk
          exact ⟨hcounted, False.elim, fun _ => hdrops⟩
      · cases hstep
  | checked j health =>
      simp only [step] at hstep
      split at hstep
      · next e hj =>
          cases hstep
          exact Keeps.keepsCounts ⟨fun h => h.setEndpoint_same hj rfl, rfl⟩ trivial
      · cases hstep

theorem counted_init (name : Str) (config : UpstreamConfig) : (init name config).Counted where
  count := by
    intro j e he
    obtain ⟨ep, -, rfl⟩ := List.mem_map.mp (List.mem_of_getElem? he)
    rfl
  known := nofun

section
variable {uc : UriCrate} {name : Str} {config : UpstreamConfig} {events : List SendEvent}
  {s : Sending}

/-- The run lemma. -/
theorem counted_run (hrun : run uc name config events = some s) : s.Counted :=
  follow_invariant (P := fun _ s => s.Counted) (counted_init name config)
    (fun _ _ _ _ _ h hstep => (step_keeps hstep).1 h) events s hrun

/-- **When the counts are those of the sends in flight.** In every state of a run each
endpoint counts the sends in flight on it exactly if no step of the run drops one: no
future is dropped at an await point, and no backoff overflows. -/
theorem connections_balanced_iff (uc : UriCrate) (name : Str) (config : UpstreamConfig)
    (events : List SendEvent) (s : Sending) (hrun : run uc name config events = some s) :
    (∀ before t, before <+: events → run uc name config before = some t → t.Balanced) ↔
      Meets (step uc) Survives (init name config) events := by
  constructor
  · intro hbalanced
    induction events using List.reverseRecOn generalizing s with
    | nil => trivial
    | append_singleton as e ih =>
        have hlast := hrun
        rw [run, follow_concat] at hlast
        obtain ⟨t, ht, hstep⟩ := Option.bind_eq_some_iff.mp hlast
        apply meets_concat
        · apply ih t ht
          intro before u hpre hu
          exact hbalanced before u (hpre.trans (List.prefix_append as [e])) hu
        · intro t' ht'
          cases ht.symm.trans ht'
          by_contra hdrops
          have hzero := (counted_run hrun).balanced_iff.mp
            (hbalanced (as ++ [e]) s List.prefix_rfl hrun)
          rw [(step_keeps hstep).2.2 hdrops] at hzero
          exact Nat.succ_ne_zero _ hzero
  · rintro hmeets before t ⟨rest, rfl⟩ ht
    have hdrops : t.drops = 0 := by
      refine meets_invariant (P := fun _ u => u.drops = 0) rfl ?_ before t
        (meets_append hmeets).1 ht
      intro as e u u' _ hzero hsurvives hstep
      rw [(step_keeps hstep).2.1 hsurvives, hzero]
    exact (counted_run ht).balanced_iff.mpr hdrops

end

/-- A client that goes away: its send stays counted. -/
theorem cancelled_send_counted :
    ¬ ∀ (uc : UriCrate) (name : Str) (config : UpstreamConfig) (events : List SendEvent)
      (s : Sending), run uc name config events = some s → s.Balanced := by
  intro h
  have hcount := h .plain "backend".toList (.single "127.0.0.1:9000".toList)
    [.start ⟨none⟩ none 0 0, .cancel 0] _ rfl 0 _ rfl
  cases hcount

def returningSend : List SendEvent :=
  [.start ⟨none⟩ none 0 0, .answered 0 (.response 200 .empty) 0 5, .collected 0 (.ok []) 5]

/-- A send that ends is not counted any more. -/
theorem connections_balanced_iff_returned :
    ∃ s, run .plain "backend".toList (.single "127.0.0.1:9000".toList) returningSend = some s ∧
      s.Balanced := by
  have hruns : ∃ s, run .plain "backend".toList (.single "127.0.0.1:9000".toList)
      returningSend = some s := ⟨_, rfl⟩
  obtain ⟨s, hrun⟩ := hruns
  refine ⟨s, hrun, ?_⟩
  refine (connections_balanced_iff _ _ _ _ s hrun).mpr ?_ _ s List.prefix_rfl hrun
  refine ⟨trivial, ?_⟩
  rintro t ⟨rfl⟩
  refine ⟨?_, ?_⟩
  · intro j attempt _ hstatus
    cases hstatus
  · intro u _
    exact ⟨trivial, fun _ _ => trivial⟩

end Sending

end Stateform
