import Stateform.Config.Validation
import Stateform.Core.Upstream
import Stateform.Router.Predicate

/-!
# When an accepted config cannot panic

Validation and use are checked against each other: for a config that `validate`
accepts, selection, URI rewriting and the health checks are free of panics in
every state of the endpoints exactly when the numbers and addresses fit
(`panicFree_iff`). Validation looks at none of these.
-/

namespace Stateform

/-! ## Sums and picks -/

/-- A sum of weights overflows exactly when its value does not fit. -/
theorem sumU32_eq {ws : List ℕ} {acc : ℕ} (hacc : acc < 2 ^ 32) :
    sumU32 acc ws = if acc + ws.sum < 2 ^ 32 then .ok (acc + ws.sum) else .error .overflow := by
  induction ws generalizing acc with
  | nil => rw [sumU32, List.sum_nil, Nat.add_zero, if_pos hacc]
  | cons w ws ih =>
      rw [sumU32, List.sum_cons, ← Nat.add_assoc]
      by_cases h : acc + w < 2 ^ 32
      · rw [addU32_of_lt h]
        exact ih h
      · rw [addU32_of_ge h, if_neg (by omega)]
        rfl

/-- A round whose weights fit picks an endpoint of the list, if anything. -/
theorem pickWeighted_ok (pos : ℕ) {endpoints : List EndpointState} {acc : ℕ}
    (h : acc + (endpoints.map EndpointState.effectiveWeight).sum < 2 ^ 32) :
    ∃ picked, pickWeighted pos acc endpoints = .ok picked ∧ ∀ e ∈ picked, e ∈ endpoints := by
  induction endpoints generalizing acc with
  | nil => exact ⟨none, rfl, nofun⟩
  | cons ep rest ih =>
      rw [List.map_cons, List.sum_cons] at h
      have hadd : acc + ep.effectiveWeight < 2 ^ 32 := by omega
      rw [pickWeighted, addU32_of_lt hadd]
      simp only [bind, Except.bind]
      by_cases hpos : pos < acc + ep.effectiveWeight
      · exact ⟨some ep, if_pos hpos, by simp⟩
      · have hrest : acc + ep.effectiveWeight +
            (rest.map EndpointState.effectiveWeight).sum < 2 ^ 32 := by omega
        rcases ih hrest with ⟨picked, hpicked, hmem⟩
        refine ⟨picked, (if_neg hpos).trans hpicked, ?_⟩
        intro e he
        exact List.mem_cons_of_mem _ (hmem e he)

/-- Half a weight is no more than the weight, as long as the weight is not 0. -/
theorem effectiveWeight_le {e : EndpointState} (h : e.weight ≠ 0) :
    e.effectiveWeight ≤ e.weight := by
  unfold EndpointState.effectiveWeight
  cases e.health <;> simp only <;> omega

/-! ## What is asked of the code -/

/-- Selection answers, and with an available endpoint of the list exactly when
there is one. -/
def SelectsAvailable (endpoints : List EndpointState)
    (answer : Except Panic (Option EndpointState × ℕ)) : Prop :=
  ∃ picked counter, answer = .ok (picked, counter) ∧
    (∀ e, picked = some e → e ∈ endpoints ∧ e.isAvailable = true) ∧
    (picked.isSome = true ↔ ∃ e ∈ endpoints, e.isAvailable = true)

/-- The endpoints of a running pool: its addresses and weights, in any health
and with any counters. -/
def RunningEndpoints (pool : UpstreamPool) (endpoints : List EndpointState) : Prop :=
  endpoints.map (fun e => (e.address, e.weight)) =
    pool.endpoints.map fun e => (e.address, e.weight)

/-- Nothing on the request path or in the health checker of a pool panics. -/
structure PoolPanicFree (uc : UriCrate) (pool : UpstreamPool) : Prop where
  select : ∀ endpoints, RunningEndpoints pool endpoints → ∀ hashKey counter,
    SelectsAvailable endpoints
      (selectEndpoint endpoints pool.config.loadBalancing hashKey counter)
  rewrite : ∀ e ∈ pool.endpoints, ∀ original, ∃ uri, rewriteUri uc e.address original = .ok uri
  interval : ∀ task ∈ pool.healthChecks, ∃ period, healthCheckInterval task.2 = .ok period

def PanicFree (uc : UriCrate) (cfg : GatewayConfig) : Prop :=
  ∀ name pool, (UpstreamRegistry.build cfg).get name = some pool → PoolPanicFree uc pool

/-- The active endpoints of an upstream. -/
def UpstreamConfig.activeEndpoints (upstream : UpstreamConfig) : List EndpointConfig :=
  upstream.endpoints.filter EndpointConfig.active

/-- The numbers and addresses of an upstream fit what the code does with them. -/
structure UpstreamFits (uc : UriCrate) (upstream : UpstreamConfig) : Prop where
  weights : upstream.loadBalancing = .weightedRoundRobin →
    (upstream.activeEndpoints.map EndpointConfig.weight).sum < 2 ^ 32
  ring : ∀ hashHeader virtualNodes,
    upstream.loadBalancing = .consistentHashing hashHeader virtualNodes →
    upstream.activeEndpoints ≠ [] →
      0 < virtualNodes ∧ upstream.activeEndpoints.length * virtualNodes < 2 ^ 64
  addresses : ∀ ep ∈ upstream.activeEndpoints, (uc.parse (rootUri ep.address)).isSome = true
  interval : ∀ hc, upstream.healthCheck = some hc → upstream.activeEndpoints ≠ [] →
    0 < hc.interval

def NumbersFit (uc : UriCrate) (cfg : GatewayConfig) : Prop :=
  ∀ name upstream, cfg.upstreams.lookup name = some upstream → UpstreamFits uc upstream

/-! ## Selection -/

section
variable {endpoints : List EndpointState} {hashKey : Option Str} {counter : ℕ}

theorem selectsAvailable_none (h : endpoints.filter EndpointState.isAvailable = []) :
    SelectsAvailable endpoints (.ok (none, counter)) := by
  refine ⟨none, counter, rfl, nofun, ?_⟩
  have hnone := List.filter_eq_nil_iff.mp h
  simpa using hnone

/-- An answer out of the available endpoints, when there are some. -/
theorem selectsAvailable_some {picked : EndpointState}
    (h : picked ∈ endpoints.filter EndpointState.isAvailable) :
    SelectsAvailable endpoints (.ok (some picked, counter)) := by
  rcases List.mem_filter.mp h with ⟨hmem, havail⟩
  refine ⟨some picked, counter, rfl, ?_, ?_⟩
  · rintro e ⟨rfl⟩
    exact ⟨hmem, havail⟩
  · exact ⟨fun _ => ⟨picked, hmem, havail⟩, fun _ => rfl⟩

theorem select_weightedRoundRobin
    (h : ((endpoints.filter EndpointState.isAvailable).map EndpointState.effectiveWeight).sum
      < 2 ^ 32) :
    SelectsAvailable endpoints (selectEndpoint endpoints .weightedRoundRobin hashKey counter) := by
  unfold selectEndpoint
  cases havail : endpoints.filter EndpointState.isAvailable with
  | nil => exact selectsAvailable_none havail
  | cons first rest =>
      rw [havail] at h
      have hfirst : first ∈ endpoints.filter EndpointState.isAvailable := by simp [havail]
      have hsum : 0 + ((first :: rest).map EndpointState.effectiveWeight).sum < 2 ^ 32 := by
        simpa using h
      simp only [sumU32_eq (Nat.two_pow_pos 32), Nat.zero_add, h, ↓reduceIte, bind,
        Except.bind]
      by_cases hzero : ((first :: rest).map EndpointState.effectiveWeight).sum = 0
      · simp only [hzero, ↓reduceIte, pure, Except.pure]
        exact selectsAvailable_some hfirst
      · obtain ⟨picked, hpicked, hmem⟩ := pickWeighted_ok
          (counter % 2 ^ 32 % ((first :: rest).map EndpointState.effectiveWeight).sum) hsum
        simp only [hzero, ↓reduceIte, hpicked, pure, Except.pure]
        cases picked with
        | none => exact selectsAvailable_some hfirst
        | some e =>
            apply selectsAvailable_some
            rw [havail]
            exact hmem e rfl

theorem select_leastConnections :
    SelectsAvailable endpoints (selectEndpoint endpoints .leastConnections hashKey counter) := by
  unfold selectEndpoint
  cases havail : endpoints.filter EndpointState.isAvailable with
  | nil => exact selectsAvailable_none havail
  | cons first rest =>
      simp only
      cases hmin : (first :: rest).argmin EndpointState.score with
      | none => simp at hmin
      | some e =>
          apply selectsAvailable_some
          rw [havail]
          exact List.argmin_mem hmin

theorem select_consistentHashing {hashHeader : Str} {virtualNodes : ℕ}
    (h : endpoints.filter EndpointState.isAvailable ≠ [] →
      0 < virtualNodes ∧
        (endpoints.filter EndpointState.isAvailable).length * virtualNodes < 2 ^ 64) :
    SelectsAvailable endpoints
      (selectEndpoint endpoints (.consistentHashing hashHeader virtualNodes) hashKey counter) := by
  unfold selectEndpoint
  cases havail : endpoints.filter EndpointState.isAvailable with
  | nil => exact selectsAvailable_none havail
  | cons first rest =>
      rw [havail] at h
      obtain ⟨hpos, hfit⟩ := h (by simp)
      have hring : (first :: rest).length * virtualNodes ≠ 0 := by
        simp only [List.length_cons]
        positivity
      simp only [mulUsize_of_lt hfit, remUsize_of_ne hring, bind, Except.bind, pure, Except.pure]
      generalize (fnv1a64 (utf8 (hashKey.getD "default".toList))).toNat %
        ((first :: rest).length * virtualNodes) / virtualNodes = idx
      have hlt : idx % (first :: rest).length < (first :: rest).length :=
        Nat.mod_lt _ (by simp)
      rw [List.getElem?_eq_getElem hlt]
      apply selectsAvailable_some
      rw [havail]
      exact List.getElem_mem hlt

end

/-! ## The condition is enough -/

section
variable {uc : UriCrate} {name : Str} {upstream : UpstreamConfig} {endpoints : List EndpointState}

theorem poolEndpoints_eq (name : Str) (upstream : UpstreamConfig) :
    (UpstreamPool.new name upstream).endpoints =
      upstream.activeEndpoints.map fun e => .new e.address e.weight := rfl

theorem running_weights (h : RunningEndpoints (.new name upstream) endpoints) :
    endpoints.map EndpointState.weight = upstream.activeEndpoints.map EndpointConfig.weight := by
  have hsnd := congrArg (List.map Prod.snd) h
  rw [poolEndpoints_eq, List.map_map, List.map_map, List.map_map] at hsnd
  exact hsnd

theorem running_length (h : RunningEndpoints (.new name upstream) endpoints) :
    endpoints.length = upstream.activeEndpoints.length := by
  have hlen := congrArg List.length (running_weights h)
  rwa [List.length_map, List.length_map] at hlen

/-- What the available endpoints weigh is at most what the active ones do. -/
theorem available_weights_le (hweights : ∀ e ∈ endpoints, e.weight ≠ 0) :
    ((endpoints.filter EndpointState.isAvailable).map EndpointState.effectiveWeight).sum ≤
      (endpoints.map EndpointState.weight).sum := by
  induction endpoints with
  | nil => simp
  | cons e rest ih =>
      have hrest := ih fun x hx => hweights x (List.mem_cons_of_mem _ hx)
      have he := effectiveWeight_le (hweights e List.mem_cons_self)
      by_cases havail : e.isAvailable = true
      · rw [List.filter_cons_of_pos havail, List.map_cons, List.map_cons, List.sum_cons,
          List.sum_cons]
        omega
      · rw [List.filter_cons_of_neg havail, List.map_cons, List.sum_cons]
        omega

theorem poolPanicFree_of_fits (hvalid : ValidUpstream upstream) (hfits : UpstreamFits uc upstream) :
    PoolPanicFree uc (.new name upstream) where
  select := by
    intro endpoints hrun hashKey counter
    show SelectsAvailable endpoints (selectEndpoint endpoints upstream.loadBalancing _ _)
    cases hlb : upstream.loadBalancing with
    | weightedRoundRobin =>
        refine select_weightedRoundRobin (lt_of_le_of_lt (available_weights_le ?_) ?_)
        · intro e he hzero
          have hmem : e.weight ∈ upstream.activeEndpoints.map EndpointConfig.weight := by
            rw [← running_weights hrun]
            exact List.mem_map_of_mem he
          rcases List.mem_map.mp hmem with ⟨ep, hep, heq⟩
          exact hvalid.weights ep (List.mem_filter.mp hep).1 (heq.trans hzero)
        · rw [running_weights hrun]
          exact hfits.weights hlb
    | leastConnections => exact select_leastConnections
    | consistentHashing hashHeader virtualNodes =>
        apply select_consistentHashing
        intro hne
        have hactive : upstream.activeEndpoints ≠ [] := by
          intro hnil
          have hlen := running_length hrun
          rw [hnil, List.length_nil, List.length_eq_zero_iff] at hlen
          simp [hlen] at hne
        rcases hfits.ring _ _ hlb hactive with ⟨hpos, hfit⟩
        refine ⟨hpos, lt_of_le_of_lt (Nat.mul_le_mul_right _ ?_) hfit⟩
        rw [← running_length hrun]
        exact List.length_filter_le _ _
  rewrite := by
    intro e he original
    rw [poolEndpoints_eq] at he
    rcases List.mem_map.mp he with ⟨ep, hep, rfl⟩
    rcases Option.isSome_iff_exists.mp (hfits.addresses ep hep) with ⟨uri, huri⟩
    unfold rewriteUri
    simp only [EndpointState.new, huri]
    cases uc.parse _ <;> exact ⟨_, rfl⟩
  interval := by
    intro task htask
    unfold UpstreamPool.healthChecks at htask
    cases hhc : upstream.healthCheck with
    | none => simp [UpstreamPool.new, hhc] at htask
    | some hc =>
        simp only [UpstreamPool.new, hhc, List.mem_map] at htask
        obtain ⟨e, ⟨ep, hep, -⟩, rfl⟩ := htask
        have hpos := hfits.interval hc hhc (List.ne_nil_of_mem hep)
        refine ⟨hc.interval, ?_⟩
        show healthCheckInterval hc = .ok hc.interval
        rw [healthCheckInterval, if_neg (by omega)]

/-! ## The condition is needed -/

theorem running_new : RunningEndpoints (.new name upstream) (UpstreamPool.new name upstream).endpoints :=
  rfl

/-- A new pool is healthy: all of it is available, at full weight. -/
theorem new_available :
    (UpstreamPool.new name upstream).endpoints.filter EndpointState.isAvailable =
      (UpstreamPool.new name upstream).endpoints := by
  rw [List.filter_eq_self, poolEndpoints_eq]
  intro e he
  rcases List.mem_map.mp he with ⟨ep, -, rfl⟩
  rfl

variable (name) in
theorem new_weights :
    (UpstreamPool.new name upstream).endpoints.map EndpointState.effectiveWeight =
      upstream.activeEndpoints.map EndpointConfig.weight := by
  rw [poolEndpoints_eq, List.map_map]
  rfl

theorem fits_of_poolPanicFree (h : PoolPanicFree uc (.new name upstream)) :
    UpstreamFits uc upstream where
  weights := by
    intro hlb
    rcases h.select _ running_new none 0 with ⟨picked, counter, hok, -⟩
    by_contra hbig
    rw [show (UpstreamPool.new name upstream).config.loadBalancing = _ from hlb] at hok
    unfold selectEndpoint at hok
    rw [new_available] at hok
    cases hnew : (UpstreamPool.new name upstream).endpoints with
    | nil =>
        have hnil : upstream.activeEndpoints.map EndpointConfig.weight = [] := by
          rw [← new_weights name, hnew]
          rfl
        simp [hnil] at hbig
    | cons first rest =>
        rw [hnew] at hok
        simp only [← hnew, new_weights name, sumU32_eq (Nat.two_pow_pos 32), Nat.zero_add, hbig,
          ↓reduceIte, bind, Except.bind] at hok
        cases hok
  ring := by
    intro hashHeader virtualNodes hlb hne
    rcases h.select _ running_new none 0 with ⟨picked, counter, hok, -⟩
    rw [show (UpstreamPool.new name upstream).config.loadBalancing = _ from hlb] at hok
    unfold selectEndpoint at hok
    rw [new_available] at hok
    have hlen : (UpstreamPool.new name upstream).endpoints.length =
        upstream.activeEndpoints.length := by simp [poolEndpoints_eq]
    cases hnew : (UpstreamPool.new name upstream).endpoints with
    | nil =>
        rw [hnew, List.length_nil] at hlen
        exact absurd (List.length_eq_zero_iff.mp hlen.symm) hne
    | cons first rest =>
        rw [hnew] at hok hlen
        by_cases hfit : (first :: rest).length * virtualNodes < 2 ^ 64
        · refine ⟨Nat.pos_of_ne_zero ?_, hlen ▸ hfit⟩
          rintro rfl
          simp only [mulUsize_of_lt hfit, Nat.mul_zero, remUsize_zero, bind, Except.bind] at hok
          cases hok
        · simp only [mulUsize_of_ge hfit, bind, Except.bind] at hok
          cases hok
  addresses := by
    intro ep hep
    have hmem : EndpointState.new ep.address ep.weight ∈
        (UpstreamPool.new name upstream).endpoints := by
      rw [poolEndpoints_eq]
      exact List.mem_map_of_mem hep
    rcases h.rewrite _ hmem ⟨none⟩ with ⟨uri, huri⟩
    exact Option.isSome_iff_exists.mpr ⟨uri, rewriteUri_pathless huri⟩
  interval := by
    intro hc hhc hne
    rcases List.exists_cons_of_ne_nil hne with ⟨ep, rest, hactive⟩
    have htask : (EndpointState.new ep.address ep.weight, hc) ∈
        (UpstreamPool.new name upstream).healthChecks := by
      unfold UpstreamPool.healthChecks
      rw [show (UpstreamPool.new name upstream).config.healthCheck = _ from hhc]
      simp [poolEndpoints_eq, hactive]
    rcases h.interval _ htask with ⟨period, hperiod⟩
    by_contra hzero
    have hnone : hc.interval = 0 := by omega
    rw [healthCheckInterval, if_pos hnone] at hperiod
    cases hperiod

end

/-- **A config that validation accepts cannot panic exactly when its numbers
and addresses fit.** -/
theorem panicFree_iff {rx : RegexCrate} {uc : UriCrate} {cfg : GatewayConfig}
    (hvalid : validate rx cfg = .ok ()) : PanicFree uc cfg ↔ NumbersFit uc cfg := by
  have hconfig := validate_eq_ok_iff.mp hvalid
  constructor
  · intro h name upstream hlook
    apply fits_of_poolPanicFree
    apply h name
    rw [UpstreamRegistry.build_get, hlook]
    rfl
  · intro h name pool hpool
    rw [UpstreamRegistry.build_get] at hpool
    rcases Option.map_eq_some_iff.mp hpool with ⟨upstream, hlook, rfl⟩
    exact poolPanicFree_of_fits (hconfig.upstreams name upstream hlook) (h name upstream hlook)

/-- The parser of the `http` crate on texts of the form `http://authority/path`
without spaces. -/
def UriCrate.plain : UriCrate where
  parse := fun s => (stripPrefix s "http://".toList).bind fun rest =>
    if ' ' ∈ rest ∨ (rest.takeWhile (· ≠ '/')).isEmpty then none
    else some ⟨some ⟨rest.dropWhile (· ≠ '/'), none⟩⟩

/-- The config of the source's own tests. -/
def minimalConfig : GatewayConfig := .withRoutes [.onPath "root".toList (.prefixPath "/".toList)]

theorem minimalConfig_valid : validate .literal minimalConfig = .ok () := by decide

theorem minimalConfig_panicFree : PanicFree .plain minimalConfig := by
  apply (panicFree_iff minimalConfig_valid).mpr
  intro name upstream hlook
  obtain ⟨-, rfl⟩ : name = "backend".toList ∧
      upstream = UpstreamConfig.single "127.0.0.1:9000".toList := by
    have hmem := AList.mem_lookup_iff.mp hlook
    simpa [minimalConfig, GatewayConfig.withRoutes, AList.singleton] using hmem
  exact ⟨fun _ => by decide, nofun, by decide, nofun⟩

/-- The same with consistent hashing over no virtual nodes. -/
def noVirtualNodesConfig : GatewayConfig :=
  { minimalConfig with
    upstreams := AList.singleton "backend".toList
      { UpstreamConfig.single "127.0.0.1:9000".toList with
        loadBalancing := .consistentHashing "x-user".toList 0 } }

/-- Validation accepts it, and the first request divides by zero. -/
theorem no_virtual_nodes_panics :
    validate .literal noVirtualNodesConfig = .ok () ∧
      selectEndpoint [.new "127.0.0.1:9000".toList 1] (.consistentHashing "x-user".toList 0)
        (some "alice".toList) 0 = .error .remainderByZero ∧
      ¬ PanicFree .plain noVirtualNodesConfig := by
  have hpanic : selectEndpoint [.new "127.0.0.1:9000".toList 1]
      (.consistentHashing "x-user".toList 0) (some "alice".toList) 0 =
        .error .remainderByZero := by decide
  refine ⟨by decide, hpanic, ?_⟩
  intro h
  have hpool := h "backend".toList (.new "backend".toList
    { UpstreamConfig.single "127.0.0.1:9000".toList with
      loadBalancing := .consistentHashing "x-user".toList 0 }) rfl
  obtain ⟨picked, counter, hok, -⟩ := hpool.select [.new "127.0.0.1:9000".toList 1] rfl
    (some "alice".toList) 0
  rw [show (UpstreamPool.new "backend".toList
    { UpstreamConfig.single "127.0.0.1:9000".toList with
      loadBalancing := .consistentHashing "x-user".toList 0 }).config.loadBalancing =
        .consistentHashing "x-user".toList 0 from rfl, hpanic] at hok
  cases hok

end Stateform
