import Stateform.Core.Hashing
import Stateform.Core.Pipeline

/-!
# The balancing override of a route

The pipeline takes the hash key from the algorithm of the route, and the pool takes the
algorithm from the upstream. So an override decides the key and nothing else, and a route
gets its own algorithm only where the upstream's selects the same (`honoursRoute_iff`).
-/

namespace Stateform

/-- The endpoint a selection answers with, if it does. -/
def chosen (answer : Except Panic (Option EndpointState × ℕ)) : Option EndpointState :=
  answer.toOption.bind Prod.fst

@[simp] theorem chosen_ok (picked : Option EndpointState) (counter : ℕ) :
    chosen (.ok (picked, counter)) = picked := rfl

@[simp] theorem chosen_error (p : Panic) : chosen (.error p) = none := rfl

/-- The key an algorithm hashes a request by. -/
def LoadBalancingConfig.keyOf (algorithm : LoadBalancingConfig) (headers : HeaderMap) :
    Option Str :=
  match algorithm with
  | .consistentHashing hashHeader _ => headers.getStr hashHeader
  | _ => none

/-- The algorithm a route should be balanced by: its own, or else its upstream's. -/
def RouteConfig.algorithm (route : RouteConfig) (pool : UpstreamPool) : LoadBalancingConfig :=
  route.loadBalancing.getD pool.config.loadBalancing

/-- The endpoint a route's algorithm selects. -/
def routeEndpoint (route : RouteConfig) (pool : UpstreamPool) (env : SendEnv)
    (headers : HeaderMap) : Option EndpointState :=
  chosen (selectEndpoint env.endpoints (route.algorithm pool)
    ((route.algorithm pool).keyOf headers) env.counter)

/-- The endpoint `handle` has a request sent to. -/
def sentEndpoint (route : RouteConfig) (pool : UpstreamPool) (env : SendEnv)
    (headers : HeaderMap) : Option EndpointState :=
  chosen (selectEndpoint env.endpoints pool.config.loadBalancing (hashKeyOf route pool headers)
    env.counter)

/-- Every request on the route goes where the route's algorithm sends it, in every state of
the pool's endpoints and at every value of its counter. -/
def HonoursRoute (route : RouteConfig) (pool : UpstreamPool) : Prop :=
  ∀ (env : SendEnv) (headers : HeaderMap), RunningEndpoints pool env.endpoints →
    sentEndpoint route pool env headers = routeEndpoint route pool env headers

section
variable {uc : UriCrate} {route : RouteConfig} {pool : UpstreamPool} {env : SendEnv}
  {req : Request}

theorem hashKeyOf_eq (route : RouteConfig) (pool : UpstreamPool) (headers : HeaderMap) :
    hashKeyOf route pool headers = (route.algorithm pool).keyOf headers := rfl

/-- What is sent goes to that endpoint. -/
theorem send_of_sentEndpoint {e : EndpointState} {headers : HeaderMap}
    (h : sentEndpoint route pool env headers = some e) :
    pool.send uc env req (hashKeyOf route pool headers) =
      (rewriteUri uc e.address req.uri).map fun uri => env.wire e { req with uri := uri } := by
  unfold sentEndpoint at h
  unfold UpstreamPool.send
  cases hselect : selectEndpoint env.endpoints pool.config.loadBalancing
      (hashKeyOf route pool headers) env.counter with
  | error p =>
      rw [hselect] at h
      cases h
  | ok answer =>
      obtain ⟨picked, counter⟩ := answer
      rw [hselect] at h
      obtain rfl : picked = some e := h
      simp only [bind, Except.bind]
      cases rewriteUri uc e.address req.uri with
      | error p => rfl
      | ok uri => rfl

/-- Without one, nothing is sent. -/
theorem send_of_no_endpoint {headers : HeaderMap}
    (h : sentEndpoint route pool env headers = none)
    (wire : EndpointState → Request → Except CoreError Response) :
    pool.send uc { env with wire := wire } req (hashKeyOf route pool headers) =
      pool.send uc env req (hashKeyOf route pool headers) := by
  unfold sentEndpoint at h
  unfold UpstreamPool.send
  cases hselect : selectEndpoint env.endpoints pool.config.loadBalancing
      (hashKeyOf route pool headers) env.counter with
  | error p => rfl
  | ok answer =>
      obtain ⟨picked, counter⟩ := answer
      rw [hselect] at h
      obtain rfl : picked = none := h
      rfl

end

/-! ## Where two algorithms agree -/

/-- The algorithm selects an endpoint that is the only one. -/
def LoadBalancingConfig.SelectsOnly : LoadBalancingConfig → Prop
  | .weightedRoundRobin => True
  | .leastConnections => True
  | .consistentHashing _ virtualNodes => 0 < virtualNodes ∧ virtualNodes < 2 ^ 64

/-- Over a pool with this many endpoints, the upstream's algorithm selects what the route's
does, with the key the route's takes. -/
def AlgorithmsAgree (count : ℕ) (own upstream : LoadBalancingConfig) : Prop :=
  match own, upstream with
  | .weightedRoundRobin, .weightedRoundRobin => True
  | .leastConnections, .leastConnections => True
  | .consistentHashing hashHeader virtualNodes, .consistentHashing _ virtualNodes' =>
      ∀ n, 0 < n → n ≤ count → ∀ headers : HeaderMap,
        (hashPlace n virtualNodes' (headers.getStr hashHeader)).toOption =
          (hashPlace n virtualNodes (headers.getStr hashHeader)).toOption
  | own, upstream => count = 0 ∨ (count = 1 ∧ (upstream.SelectsOnly ↔ own.SelectsOnly))

section
variable {endpoints : List EndpointState} {hashKey : Option Str} {counter : ℕ}

/-- What consistent hashing answers with. -/
theorem chosen_hashed {hashHeader : Str} {virtualNodes : ℕ}
    (h : endpoints.filter EndpointState.isAvailable ≠ []) :
    chosen (selectEndpoint endpoints (.consistentHashing hashHeader virtualNodes) hashKey
      counter) =
      (hashPlace (endpoints.filter EndpointState.isAvailable).length virtualNodes
        hashKey).toOption.bind fun place =>
          (endpoints.filter EndpointState.isAvailable)[place]? := by
  rw [selectEndpoint_hashed h]
  cases hashPlace (endpoints.filter EndpointState.isAvailable).length virtualNodes hashKey with
  | error p => rfl
  | ok place => rfl

theorem chosen_none_available (algorithm : LoadBalancingConfig)
    (h : endpoints.filter EndpointState.isAvailable = []) :
    chosen (selectEndpoint endpoints algorithm hashKey counter) = none := by
  rw [selectEndpoint, h]
  rfl

theorem effectiveWeight_lt {e : EndpointState} (h : e.weight < 2 ^ 32) :
    e.effectiveWeight < 2 ^ 32 := by
  unfold EndpointState.effectiveWeight
  cases e.health <;> simp only <;> omega

variable (hashKey counter) in
/-- The only available endpoint is selected, by the algorithms that select one. -/
theorem chosen_only {e : EndpointState} (algorithm : LoadBalancingConfig)
    (h : endpoints.filter EndpointState.isAvailable = [e]) (hweight : e.weight < 2 ^ 32) :
    (algorithm.SelectsOnly →
      chosen (selectEndpoint endpoints algorithm hashKey counter) = some e) ∧
    (¬ algorithm.SelectsOnly →
      chosen (selectEndpoint endpoints algorithm hashKey counter) = none) := by
  cases algorithm with
  | weightedRoundRobin =>
      have heff := effectiveWeight_lt hweight
      have hadd : addU32 0 e.effectiveWeight = .ok (0 + e.effectiveWeight) :=
        addU32_of_lt (by omega)
      refine ⟨fun _ => ?_, fun hnot => absurd trivial hnot⟩
      rw [selectEndpoint, h]
      simp only [List.map_cons, List.map_nil, sumU32, hadd, bind, Except.bind, Nat.zero_add]
      by_cases hzero : e.effectiveWeight = 0
      · rw [if_pos hzero]
        rfl
      · have hpos : counter % 2 ^ 32 % e.effectiveWeight < e.effectiveWeight :=
          Nat.mod_lt _ (Nat.pos_of_ne_zero hzero)
        rw [if_neg hzero, pickWeighted, hadd]
        simp only [bind, Except.bind, Nat.zero_add, if_pos hpos]
        rfl
  | leastConnections =>
      refine ⟨fun _ => ?_, fun hnot => absurd trivial hnot⟩
      rw [selectEndpoint, h]
      rfl
  | consistentHashing hashHeader virtualNodes =>
      rw [chosen_hashed (by rw [h]; exact List.cons_ne_nil e []), h, List.length_singleton]
      constructor
      · rintro ⟨hpos, hfits⟩
        rw [hashPlace_eq Nat.one_pos hpos (by rwa [Nat.one_mul]), Nat.mod_one]
        rfl
      · intro hnot
        by_cases hfits : 1 * virtualNodes < 2 ^ 64
        · have hzero : virtualNodes = 0 := by
            by_contra hne
            exact hnot ⟨Nat.pos_of_ne_zero hne, by rwa [Nat.one_mul] at hfits⟩
          rw [hzero, hashPlace_no_nodes]
          rfl
        · rw [hashPlace_overflow hfits]
          rfl

theorem chosen_only_agree {e : EndpointState} {algorithm algorithm' : LoadBalancingConfig}
    (h : endpoints.filter EndpointState.isAvailable = [e]) (hweight : e.weight < 2 ^ 32) :
    chosen (selectEndpoint endpoints algorithm hashKey counter) =
        chosen (selectEndpoint endpoints algorithm' hashKey counter) ↔
      (algorithm.SelectsOnly ↔ algorithm'.SelectsOnly) := by
  obtain ⟨hsome, hnone⟩ := chosen_only hashKey counter algorithm h hweight
  obtain ⟨hsome', hnone'⟩ := chosen_only hashKey counter algorithm' h hweight
  by_cases hselects : algorithm.SelectsOnly
  · by_cases hselects' : algorithm'.SelectsOnly
    · simp [hselects, hselects', hsome, hsome']
    · simp [hselects, hselects', hsome, hnone']
  · by_cases hselects' : algorithm'.SelectsOnly
    · simp [hselects, hselects', hnone, hsome']
    · simp [hselects, hselects', hnone, hnone']

/-- A turn of weighted round robin between two endpoints. -/
theorem chosen_weighted_two {x y : EndpointState}
    (h : endpoints.filter EndpointState.isAvailable = [x, y])
    (hx : 0 < x.effectiveWeight) (hy : 0 < y.effectiveWeight)
    (hsum : x.effectiveWeight + y.effectiveWeight < 2 ^ 32) :
    chosen (selectEndpoint endpoints .weightedRoundRobin hashKey 0) = some x ∧
      chosen (selectEndpoint endpoints .weightedRoundRobin hashKey x.effectiveWeight) =
        some y := by
  have hfirst : addU32 0 x.effectiveWeight = .ok (0 + x.effectiveWeight) :=
    addU32_of_lt (by omega)
  have hboth : addU32 x.effectiveWeight y.effectiveWeight =
      .ok (x.effectiveWeight + y.effectiveWeight) := addU32_of_lt hsum
  have hne : x.effectiveWeight + y.effectiveWeight ≠ 0 := by omega
  have hmod : x.effectiveWeight % 2 ^ 32 % (x.effectiveWeight + y.effectiveWeight) =
      x.effectiveWeight := by
    rw [Nat.mod_eq_of_lt (by omega : x.effectiveWeight < 2 ^ 32), Nat.mod_eq_of_lt (by omega)]
  rw [selectEndpoint, selectEndpoint, h]
  simp only [List.map_cons, List.map_nil, sumU32, hfirst, hboth, bind, Except.bind, Nat.zero_add,
    if_neg hne, hmod, Nat.zero_mod, pickWeighted, if_pos hx, Nat.lt_irrefl, if_false,
    if_pos (by omega : x.effectiveWeight < x.effectiveWeight + y.effectiveWeight)]
  exact ⟨rfl, rfl⟩

/-- Of two endpoints, the one with the lower score. -/
theorem chosen_least_two {x y : EndpointState}
    (h : endpoints.filter EndpointState.isAvailable = [x, y]) :
    (x.score < y.score →
      chosen (selectEndpoint endpoints .leastConnections hashKey counter) = some x) ∧
    (y.score < x.score →
      chosen (selectEndpoint endpoints .leastConnections hashKey counter) = some y) := by
  have hselect : chosen (selectEndpoint endpoints .leastConnections hashKey counter) =
      [x, y].argmin EndpointState.score := by
    rw [selectEndpoint, h]
    rfl
  obtain ⟨e, he⟩ : ∃ e, [x, y].argmin EndpointState.score = some e := by
    cases hmin : [x, y].argmin EndpointState.score with
    | none => simp at hmin
    | some e => exact ⟨e, rfl⟩
  have hxle := List.le_of_mem_argmin (a := x) (by simp) he
  have hyle := List.le_of_mem_argmin (a := y) (by simp) he
  rw [hselect, he]
  have hmem : e = x ∨ e = y := by simpa using List.argmin_mem he
  constructor
  · intro hlt
    rcases hmem with rfl | rfl
    · rfl
    · exact absurd hxle (Nat.not_le.mpr hlt)
  · intro hlt
    rcases hmem with rfl | rfl
    · exact absurd hyle (Nat.not_le.mpr hlt)
    · rfl

end

/-! ## States that tell two algorithms apart -/

/-- A degraded endpoint with this many connections. -/
def EndpointState.busy (e : EndpointState) (conns : ℕ) : EndpointState :=
  { e with health := .degraded, activeConns := conns, ewmaLatency := 0 }

/-- Two endpoints are available, with this many connections. -/
def pairOf (a b : EndpointState) (rest : List EndpointState) (conns conns' : ℕ) :
    List EndpointState :=
  a.busy conns :: b.busy conns' :: rest.map fun e => e.withHealth .unhealthy

/-- The first endpoints of a list are available, each with its number of connections. -/
def numbered (endpoints : List EndpointState) (n : ℕ) : List EndpointState :=
  (endpoints.take n).mapIdx (fun i e => e.busy i) ++
    (endpoints.drop n).map fun e => e.withHealth .unhealthy

section
variable {a b : EndpointState} {endpoints rest : List EndpointState} {conns conns' n : ℕ}

theorem filter_unhealthy (endpoints : List EndpointState) :
    (endpoints.map fun e => e.withHealth .unhealthy).filter EndpointState.isAvailable = [] := by
  rw [List.filter_eq_nil_iff]
  intro e he
  obtain ⟨e', _, rfl⟩ := List.mem_map.mp he
  exact Bool.false_ne_true

theorem filter_pairOf : (pairOf a b rest conns conns').filter EndpointState.isAvailable =
    [a.busy conns, b.busy conns'] := by
  have hrest := filter_unhealthy rest
  rw [pairOf, List.filter_cons_of_pos rfl, List.filter_cons_of_pos rfl, hrest]

theorem filter_numbered (endpoints : List EndpointState) (n : ℕ) :
    (numbered endpoints n).filter EndpointState.isAvailable =
    (endpoints.take n).mapIdx fun i e => e.busy i := by
  rw [numbered, List.filter_append, filter_unhealthy, List.append_nil, List.filter_eq_self]
  intro e he
  obtain ⟨i, hi, rfl⟩ := List.mem_mapIdx.mp he
  rfl

theorem running_pairOf {pool : UpstreamPool} (h : pool.endpoints = a :: b :: rest) :
    RunningEndpoints pool (pairOf a b rest conns conns') := by
  rw [RunningEndpoints, h, pairOf]
  simp only [List.map_cons, List.map_map]
  rfl

theorem running_numbered (pool : UpstreamPool) (n : ℕ) :
    RunningEndpoints pool (numbered pool.endpoints n) := by
  have hfirst : ((pool.endpoints.take n).mapIdx fun i e => e.busy i).map
      (fun e => (e.address, e.weight)) = (pool.endpoints.take n).map
        fun e => (e.address, e.weight) := by
    apply List.ext_getElem?
    intro i
    rw [List.getElem?_map, List.getElem?_mapIdx, List.getElem?_map, Option.map_map]
    rfl
  rw [RunningEndpoints, numbered, List.map_append, hfirst, List.map_map]
  conv_rhs => rw [← List.take_append_drop n pool.endpoints, List.map_append]
  rfl

theorem busy_effectiveWeight (h : a.weight < 2 ^ 32) (conns : ℕ) :
    0 < (a.busy conns).effectiveWeight ∧ (a.busy conns).effectiveWeight < 2 ^ 31 := by
  have heff : (a.busy conns).effectiveWeight = max (a.weight / 2) 1 := rfl
  omega

theorem busy_conns_ne (hne : conns ≠ conns') : a.busy conns ≠ b.busy conns' := by
  intro heq
  exact hne (congrArg EndpointState.activeConns heq)

theorem busy_score_lt : (a.busy 0).score < (b.busy 1).score := by
  show (0 : ℕ) < 2
  decide

theorem chosen_weighted_pairOf (ha : a.weight < 2 ^ 32) (hb : b.weight < 2 ^ 32)
    (rest : List EndpointState) (conns conns' : ℕ) :
    chosen (selectEndpoint (pairOf a b rest conns conns') .weightedRoundRobin none 0) =
        some (a.busy conns) ∧
      chosen (selectEndpoint (pairOf a b rest conns conns') .weightedRoundRobin none
        (a.busy conns).effectiveWeight) = some (b.busy conns') := by
  obtain ⟨hx, hx'⟩ := busy_effectiveWeight ha conns
  obtain ⟨hy, hy'⟩ := busy_effectiveWeight hb conns'
  exact chosen_weighted_two filter_pairOf hx hy (by omega)

theorem chosen_least_pairOf (a b : EndpointState) (rest : List EndpointState) (counter : ℕ) :
    chosen (selectEndpoint (pairOf a b rest 0 1) .leastConnections none counter) =
        some (a.busy 0) ∧
      chosen (selectEndpoint (pairOf a b rest 1 0) .leastConnections none counter) =
        some (b.busy 0) :=
  ⟨(chosen_least_two filter_pairOf).1 busy_score_lt,
    (chosen_least_two filter_pairOf).2 busy_score_lt⟩

theorem chosen_hashed_pairOf (a b : EndpointState) (rest : List EndpointState)
    (conns conns' : ℕ) (hashHeader : Str) (virtualNodes counter : ℕ) :
    chosen (selectEndpoint (pairOf a b rest conns conns')
      (.consistentHashing hashHeader virtualNodes) none counter) =
        (hashPlace 2 virtualNodes none).toOption.bind fun place =>
          [a.busy conns, b.busy conns'][place]? := by
  rw [chosen_hashed (by rw [filter_pairOf]; exact List.cons_ne_nil _ _), filter_pairOf]
  rfl

/-- The pool of two, in some state, tells the algorithms apart. -/
def TellsApart (a b : EndpointState) (rest : List EndpointState)
    (algorithm algorithm' : LoadBalancingConfig) : Prop :=
  ∃ conns conns' counter,
    chosen (selectEndpoint (pairOf a b rest conns conns') algorithm none counter) ≠
      chosen (selectEndpoint (pairOf a b rest conns conns') algorithm' none counter)

theorem TellsApart.symm {algorithm algorithm' : LoadBalancingConfig}
    (h : TellsApart a b rest algorithm algorithm') :
    TellsApart a b rest algorithm' algorithm := by
  obtain ⟨conns, conns', counter, hne⟩ := h
  exact ⟨conns, conns', counter, hne.symm⟩

theorem weighted_least_apart (ha : a.weight < 2 ^ 32) (hb : b.weight < 2 ^ 32)
    (rest : List EndpointState) :
    TellsApart a b rest .weightedRoundRobin .leastConnections := by
  refine ⟨1, 0, 0, ?_⟩
  rw [(chosen_weighted_pairOf ha hb rest 1 0).1, (chosen_least_pairOf a b rest 0).2]
  intro heq
  exact busy_conns_ne (by decide) (Option.some.inj heq)

/-- The turn moves on, and the place of a key does not. -/
theorem weighted_hashed_apart (ha : a.weight < 2 ^ 32) (hb : b.weight < 2 ^ 32)
    (rest : List EndpointState) (hashHeader : Str) (virtualNodes : ℕ) :
    TellsApart a b rest .weightedRoundRobin (.consistentHashing hashHeader virtualNodes) := by
  by_contra hsame
  have hequal : ∀ counter,
      chosen (selectEndpoint (pairOf a b rest 0 1) .weightedRoundRobin none counter) =
        chosen (selectEndpoint (pairOf a b rest 0 1)
          (.consistentHashing hashHeader virtualNodes) none counter) := by
    intro counter
    by_contra hne
    exact hsame ⟨0, 1, counter, hne⟩
  obtain ⟨hfirst, hsecond⟩ := chosen_weighted_pairOf ha hb rest 0 1
  -- the weighted walk reaches the second endpoint, on a key that hashes to one place
  have h₀ := hequal 0
  have h₁ := hequal (a.busy 0).effectiveWeight
  rw [hfirst, chosen_hashed_pairOf] at h₀
  rw [hsecond, chosen_hashed_pairOf, ← h₀] at h₁
  exact busy_conns_ne (by decide) (Option.some.inj h₁)

/-- The connections decide, and the place of a key stays. -/
theorem least_hashed_apart (a b : EndpointState) (rest : List EndpointState) (hashHeader : Str)
    (virtualNodes : ℕ) :
    TellsApart a b rest .leastConnections (.consistentHashing hashHeader virtualNodes) := by
  by_contra hsame
  have h₀ : some (a.busy 0) = (hashPlace 2 virtualNodes none).toOption.bind fun place =>
      [a.busy 0, b.busy 1][place]? := by
    rw [← (chosen_least_pairOf a b rest 0).1, ← chosen_hashed_pairOf a b rest 0 1 hashHeader
      virtualNodes 0]
    by_contra hne
    exact hsame ⟨0, 1, 0, hne⟩
  have h₁ : some (b.busy 0) = (hashPlace 2 virtualNodes none).toOption.bind fun place =>
      [a.busy 1, b.busy 0][place]? := by
    rw [← (chosen_least_pairOf a b rest 0).2, ← chosen_hashed_pairOf a b rest 1 0 hashHeader
      virtualNodes 0]
    by_contra hne
    exact hsame ⟨1, 0, 0, hne⟩
  cases hplace : (hashPlace 2 virtualNodes none).toOption with
  | none =>
      rw [hplace] at h₀
      cases h₀
  | some place =>
      rw [hplace] at h₀ h₁
      match place with
      | 0 => exact busy_conns_ne (by decide) (Option.some.inj h₁)
      | 1 => exact busy_conns_ne (by decide) (Option.some.inj h₀)
      | place + 2 => cases h₀

/-- Algorithms of one kind, or of two that some state of two endpoints tells apart. -/
theorem kinds (own upstream : LoadBalancingConfig) :
    (own = upstream ∧ ∀ count, AlgorithmsAgree count own upstream) ∨
    (∃ hashHeader virtualNodes hashHeader' virtualNodes',
      own = .consistentHashing hashHeader virtualNodes ∧
        upstream = .consistentHashing hashHeader' virtualNodes') ∨
    ((∀ count, AlgorithmsAgree count own upstream ↔
        count = 0 ∨ (count = 1 ∧ (upstream.SelectsOnly ↔ own.SelectsOnly))) ∧
      ∀ a b rest, a.weight < 2 ^ 32 → b.weight < 2 ^ 32 → TellsApart a b rest upstream own) := by
  cases own with
  | weightedRoundRobin =>
      cases upstream with
      | weightedRoundRobin => exact .inl ⟨rfl, fun _ => trivial⟩
      | leastConnections =>
          refine .inr (.inr ⟨fun _ => Iff.rfl, ?_⟩)
          intro a b rest ha hb
          exact (weighted_least_apart ha hb rest).symm
      | consistentHashing hashHeader virtualNodes =>
          refine .inr (.inr ⟨fun _ => Iff.rfl, ?_⟩)
          intro a b rest ha hb
          exact (weighted_hashed_apart ha hb rest hashHeader virtualNodes).symm
  | leastConnections =>
      cases upstream with
      | weightedRoundRobin =>
          refine .inr (.inr ⟨fun _ => Iff.rfl, ?_⟩)
          intro a b rest ha hb
          exact weighted_least_apart ha hb rest
      | leastConnections => exact .inl ⟨rfl, fun _ => trivial⟩
      | consistentHashing hashHeader virtualNodes =>
          refine .inr (.inr ⟨fun _ => Iff.rfl, ?_⟩)
          intro a b rest _ _
          exact (least_hashed_apart a b rest hashHeader virtualNodes).symm
  | consistentHashing hashHeader virtualNodes =>
      cases upstream with
      | weightedRoundRobin =>
          refine .inr (.inr ⟨fun _ => Iff.rfl, ?_⟩)
          intro a b rest ha hb
          exact weighted_hashed_apart ha hb rest hashHeader virtualNodes
      | leastConnections =>
          refine .inr (.inr ⟨fun _ => Iff.rfl, ?_⟩)
          intro a b rest _ _
          exact least_hashed_apart a b rest hashHeader virtualNodes
      | consistentHashing hashHeader' virtualNodes' =>
          exact .inr (.inl ⟨_, _, _, _, rfl, rfl⟩)

theorem keyOf_empty (algorithm : LoadBalancingConfig) : algorithm.keyOf .empty = none := by
  cases algorithm <;> rfl

theorem hashPlace_lt {n virtualNodes place : ℕ} {hashKey : Option Str} (hn : 0 < n)
    (h : hashPlace n virtualNodes hashKey = .ok place) : place < n := by
  by_cases hfits : n * virtualNodes < 2 ^ 64
  · rcases Nat.eq_zero_or_pos virtualNodes with rfl | hpos
    · rw [hashPlace_no_nodes] at h
      cases h
    · rw [hashPlace_eq hn hpos hfits] at h
      cases h
      exact Nat.mod_lt _ hn
  · rw [hashPlace_overflow hfits] at h
    cases h

/-- Numbered endpoints are told apart by their places. -/
theorem place_of_numbered {place place' : Option ℕ}
    (hlt : ∀ i, place = some i → i < (endpoints.mapIdx fun i e => e.busy i).length)
    (hlt' : ∀ i, place' = some i → i < (endpoints.mapIdx fun i e => e.busy i).length)
    (h : (place.bind fun i => (endpoints.mapIdx fun i e => e.busy i)[i]?) =
      place'.bind fun i => (endpoints.mapIdx fun i e => e.busy i)[i]?) : place = place' := by
  have hconns : ∀ p : Option ℕ,
      (∀ i, p = some i → i < (endpoints.mapIdx fun i e => e.busy i).length) →
      (p.bind fun i => (endpoints.mapIdx fun i e => e.busy i)[i]?).map EndpointState.activeConns =
        p := by
    intro p hp
    cases p with
    | none => rfl
    | some i =>
        have hi := hp i rfl
        rw [Option.bind_some, List.getElem?_eq_getElem hi, List.getElem_mapIdx]
        rfl
  rw [← hconns place hlt, ← hconns place' hlt', h]

end

/-! ## When an override is honoured -/

section
variable {route : RouteConfig} {pool : UpstreamPool} {own : LoadBalancingConfig}

theorem running_weight_lt {endpoints : List EndpointState}
    (hweights : ∀ e ∈ pool.endpoints, e.weight < 2 ^ 32) (hrun : RunningEndpoints pool endpoints) :
    endpoints.length = pool.endpoints.length ∧ ∀ e ∈ endpoints, e.weight < 2 ^ 32 := by
  have hlength := congrArg List.length hrun
  rw [List.length_map, List.length_map] at hlength
  refine ⟨hlength, ?_⟩
  intro e he
  have hmem : (e.address, e.weight) ∈ endpoints.map fun e => (e.address, e.weight) :=
    List.mem_map_of_mem he
  rw [hrun] at hmem
  obtain ⟨e', he', heq⟩ := List.mem_map.mp hmem
  rw [← (Prod.mk.inj heq).2]
  exact hweights e' he'

/-- An override is honoured where the two selections agree. -/
theorem honoursRoute_override (hown : route.loadBalancing = some own) :
    HonoursRoute route pool ↔ ∀ (env : SendEnv) (headers : HeaderMap),
      RunningEndpoints pool env.endpoints →
      chosen (selectEndpoint env.endpoints pool.config.loadBalancing (own.keyOf headers)
        env.counter) =
      chosen (selectEndpoint env.endpoints own (own.keyOf headers) env.counter) := by
  have halgorithm : route.algorithm pool = own := by rw [RouteConfig.algorithm, hown]; rfl
  simp only [HonoursRoute, sentEndpoint, routeEndpoint, hashKeyOf_eq, halgorithm]

theorem agree_of_honours (hweights : ∀ e ∈ pool.endpoints, e.weight < 2 ^ 32)
    (hown : route.loadBalancing = some own) (h : HonoursRoute route pool) :
    AlgorithmsAgree pool.endpoints.length own pool.config.loadBalancing := by
  rw [honoursRoute_override hown] at h
  rcases kinds own pool.config.loadBalancing with ⟨-, hagree⟩ |
    ⟨hashHeader, virtualNodes, hashHeader', virtualNodes', hown', hupstream⟩ | ⟨hagree, happart⟩
  · exact hagree _
  -- two rings: the first `n` endpoints of the pool are available, told apart by their connections
  · rw [hown', hupstream] at h ⊢
    intro n hn hle headers
    have hfilter := filter_numbered pool.endpoints n
    have hlength : ((pool.endpoints.take n).mapIdx fun i e => e.busy i).length = n := by
      rw [List.length_mapIdx, List.length_take, Nat.min_eq_left hle]
    have hsome : (numbered pool.endpoints n).filter EndpointState.isAvailable ≠ [] := by
      apply List.ne_nil_of_length_pos
      rwa [hfilter, hlength]
    have hequal := h ⟨numbered pool.endpoints n, 0, fun _ _ => .error (.noHealthyEndpoints [])⟩
      headers (running_numbered pool n)
    rw [chosen_hashed hsome, chosen_hashed hsome, hfilter, hlength] at hequal
    have hlt : ∀ virtualNodes i,
        (hashPlace n virtualNodes (headers.getStr hashHeader)).toOption = some i →
          i < ((pool.endpoints.take n).mapIdx fun i e => e.busy i).length := by
      intro virtualNodes i hi
      rw [hlength]
      cases hplace : hashPlace n virtualNodes (headers.getStr hashHeader) with
      | error p =>
          rw [hplace] at hi
          cases hi
      | ok place =>
          rw [hplace] at hi
          cases hi
          exact hashPlace_lt hn hplace
    exact place_of_numbered (hlt virtualNodes') (hlt virtualNodes) hequal
  -- algorithms of two kinds: with two endpoints or more, a state that tells them apart
  · rw [hagree]
    match hendpoints : pool.endpoints with
    | [] => exact .inl rfl
    | [a] =>
        refine .inr ⟨rfl, ?_⟩
        have hweight : (a.busy 0).weight < 2 ^ 32 := hweights a (by simp [hendpoints])
        have hfilter : [a.busy 0].filter EndpointState.isAvailable = [a.busy 0] := rfl
        have hequal := h ⟨[a.busy 0], 0, fun _ _ => .error (.noHealthyEndpoints [])⟩ .empty (by
          rw [RunningEndpoints, hendpoints]
          rfl)
        exact (chosen_only_agree hfilter hweight).mp hequal
    | a :: b :: rest =>
        obtain ⟨conns, conns', counter, hne⟩ := happart a b rest
          (hweights a (by simp [hendpoints])) (hweights b (by simp [hendpoints]))
        have hequal := h ⟨pairOf a b rest conns conns', counter,
          fun _ _ => .error (.noHealthyEndpoints [])⟩ .empty (running_pairOf hendpoints)
        rw [keyOf_empty] at hequal
        exact absurd hequal hne

theorem honours_of_agree (hweights : ∀ e ∈ pool.endpoints, e.weight < 2 ^ 32)
    (hown : route.loadBalancing = some own)
    (h : AlgorithmsAgree pool.endpoints.length own pool.config.loadBalancing) :
    HonoursRoute route pool := by
  rw [honoursRoute_override hown]
  intro env headers hrun
  obtain ⟨hlength, hweight⟩ := running_weight_lt hweights hrun
  by_cases havailable : env.endpoints.filter EndpointState.isAvailable = []
  · rw [chosen_none_available _ havailable, chosen_none_available _ havailable]
  rcases kinds own pool.config.loadBalancing with ⟨heq, -⟩ |
    ⟨hashHeader, virtualNodes, hashHeader', virtualNodes', hown', hupstream⟩ | ⟨hagree, -⟩
  · rw [heq]
  · rw [hown', hupstream] at h ⊢
    have hle : (env.endpoints.filter EndpointState.isAvailable).length ≤ pool.endpoints.length := by
      rw [← hlength]
      exact List.length_filter_le _ _
    have hplace := h _ (List.length_pos_of_ne_nil havailable) hle headers
    rw [chosen_hashed havailable, chosen_hashed havailable]
    exact congrArg (fun place => place.bind fun i =>
      (env.endpoints.filter EndpointState.isAvailable)[i]?) hplace
  -- a pool of one endpoint, where only a panic can differ
  · rcases (hagree _).mp h with hzero | ⟨hone, hselects⟩
    · rw [← hlength] at hzero
      rw [List.eq_nil_of_length_eq_zero hzero] at havailable
      exact absurd rfl havailable
    · rw [← hlength] at hone
      obtain ⟨e, he⟩ := List.length_eq_one_iff.mp hone
      have hfilter : env.endpoints.filter EndpointState.isAvailable = [e] := by
        rw [he] at havailable ⊢
        rw [List.filter_singleton] at havailable ⊢
        cases hava : e.isAvailable with
        | true => rfl
        | false =>
            rw [hava] at havailable
            exact absurd rfl havailable
      exact (chosen_only_agree hfilter (hweight e (by simp [he]))).mpr hselects

/-- **When an override is honoured.** A route goes where its own algorithm sends it, in every
state of its pool, exactly if it has none of its own or its upstream's agrees with it. -/
theorem honoursRoute_iff (route : RouteConfig) (pool : UpstreamPool)
    (hweights : ∀ e ∈ pool.endpoints, e.weight < 2 ^ 32) :
    HonoursRoute route pool ↔ ∀ own, route.loadBalancing = some own →
      AlgorithmsAgree pool.endpoints.length own pool.config.loadBalancing := by
  constructor
  · intro h own hown
    exact agree_of_honours hweights hown h
  · intro h
    cases hown : route.loadBalancing with
    | some own => exact honours_of_agree hweights hown (h own hown)
    | none =>
        intro env headers _
        have halgorithm : route.algorithm pool = pool.config.loadBalancing := by
          rw [RouteConfig.algorithm, hown]
          rfl
        rw [sentEndpoint, routeEndpoint, hashKeyOf_eq, halgorithm]

end

/-- An upstream of two endpoints that hashes. -/
def hashingPool : UpstreamPool :=
  .new "backend".toList
    { UpstreamConfig.single "127.0.0.1:9001".toList with
      endpoints := [.at "127.0.0.1:9001".toList, .at "127.0.0.1:9002".toList]
      loadBalancing := .consistentHashing "x-user".toList 150 }

def RouteConfig.balancedBy (algorithm : LoadBalancingConfig) : RouteConfig :=
  { RouteConfig.onPath "root".toList (.prefixPath "/".toList) with
    loadBalancing := some algorithm }

/-- A route that asks for round robin takes no key, so all of its requests go to the one
endpoint of the key `default`. -/
theorem override_not_honoured :
    (∀ counter wire headers,
      sentEndpoint (.balancedBy .weightedRoundRobin) hashingPool
        ⟨hashingPool.endpoints, counter, wire⟩ headers = some (.new "127.0.0.1:9002".toList 1)) ∧
      ¬ ∀ route pool, (∀ e ∈ pool.endpoints, e.weight < 2 ^ 32) → HonoursRoute route pool := by
  have hsent : ∀ counter wire headers,
      sentEndpoint (.balancedBy .weightedRoundRobin) hashingPool
        ⟨hashingPool.endpoints, counter, wire⟩ headers =
          some (.new "127.0.0.1:9002".toList 1) := by
    intro counter wire headers
    have hplace : hashPlace 2 150 none = .ok 1 := by decide
    have hhashed : chosen (selectEndpoint hashingPool.endpoints
        (.consistentHashing "x-user".toList 150) none counter) = _ := chosen_hashed (by decide)
    have hlength : (hashingPool.endpoints.filter EndpointState.isAvailable).length = 2 := by decide
    rw [hlength, hplace] at hhashed
    exact hhashed
  refine ⟨hsent, ?_⟩
  intro h
  have hequal := h (.balancedBy .weightedRoundRobin) hashingPool (by decide)
    ⟨hashingPool.endpoints, 0, fun _ _ => .error (.noHealthyEndpoints [])⟩ .empty rfl
  rw [hsent] at hequal
  have hfirst : routeEndpoint (.balancedBy .weightedRoundRobin) hashingPool
      ⟨hashingPool.endpoints, 0, fun _ _ => .error (.noHealthyEndpoints [])⟩ .empty =
        some (.new "127.0.0.1:9001".toList 1) := by decide
  rw [hfirst] at hequal
  revert hequal
  decide

/-- Another hash header over as many virtual nodes. -/
theorem honoursRoute_iff_header :
    HonoursRoute (.balancedBy (.consistentHashing "x-tenant".toList 150)) hashingPool := by
  apply (honoursRoute_iff (.balancedBy (.consistentHashing "x-tenant".toList 150)) hashingPool
    (by decide)).mpr
  rintro own ⟨⟩
  intro n _ _ headers
  rfl

end Stateform
