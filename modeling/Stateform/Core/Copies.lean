import Stateform.Core.Answers

/-!
# A response and its copy

A miss that is stored and a hit on what it stored answer with the same response, as far as
`response_set` lets them: the miss applies it to what the upstream sent, the hit does not
apply it to the copy. So the two agree exactly where what the upstream sent says already
what `response_set` makes of it (`same_copy_iff`).
-/

namespace Stateform

open Library

/-! ## Copies -/

/-- The names of headers that each response has of its own. -/
def OfEach (name : HeaderName) : Prop :=
  name = xCache ∨ name = ageName ∨ name = xRequestId ∨ name.text ∈ hopByHop

instance (name : HeaderName) : Decidable (OfEach name) := by
  unfold OfEach
  infer_instance

/-- The same response, but for the headers that each has of its own and for values that
are not visible ASCII. -/
structure SameCopy (a b : Response) : Prop where
  status : a.status = b.status
  body : a.body = b.body
  headers : ∀ name, ¬ OfEach name → a.headers.textsOf name = b.headers.textsOf name

/-- The pairs of a route's `response_set`. -/
def responsePairs (route : RouteConfig) : List (Str × Str) :=
  route.headers.responseSet.entries.map fun e => (e.1, e.2)

/-- The value a route's `response_set` gives a name. -/
def setValue (route : RouteConfig) (name : HeaderName) : Option HeaderValue :=
  (valuesAt (validPairs (responsePairs route)) name).getLast?

/-- What the upstream sent says already what the route sets. -/
def SaysAlready (route : RouteConfig) (resp : Response) : Prop :=
  ∀ name value, ¬ OfEach name → setValue route name = some value →
    ∃ text, value.toStr = some text ∧ resp.headers.textsOf name = [text]

section
variable {route : RouteConfig} {resp : Response} {name : HeaderName} {value : HeaderValue}
  {requestId : Str} {now : ℕ} {entry : CachedResponse}

/-- A value that is set is a text. -/
theorem setValue_text (hset : setValue route name = some value) :
    ∃ text, value.toStr = some text := by
  have hmem : value ∈ valuesAt (validPairs (responsePairs route)) name :=
    List.mem_of_getLast? hset
  obtain ⟨p, -, hvalid⟩ := List.mem_filterMap.mp (mem_valuesAt.mp hmem)
  obtain ⟨n, -, hrest⟩ := Option.bind_eq_some_iff.mp hvalid
  obtain ⟨v, hvalue, hpair⟩ := Option.bind_eq_some_iff.mp hrest
  cases hpair
  exact ⟨p.2, HeaderValue.toStr_of_fromStr hvalue⟩

/-- The miss says of a name what is set, or else what the upstream sent. -/
theorem textsOf_forwardedResponse (hname : ¬ OfEach name) :
    (forwardedResponse resp route requestId).headers.textsOf name =
      match setValue route name with
      | some value => [value].filterMap HeaderValue.toStr
      | none => resp.headers.textsOf name := by
  have hid : name ≠ xRequestId := fun h => hname (.inr (.inr (.inl h)))
  have hcache : name ≠ xCache := fun h => hname (.inl h)
  have hlast : (valuesAt (validPairs (route.headers.responseSet.entries.map
      fun e => (e.1, e.2))) name).getLast? = setValue route name := rfl
  unfold forwardedResponse HeaderMap.textsOf
  rw [valuesOf_injectRequestId_ne hid, valuesOf_buildUpstreamResponse resp route.headers hcache,
    HeaderMap.valuesOf_insertAll, hlast]
  cases setValue route name <;> rfl

/-- The hit says what was stored. -/
theorem textsOf_replayedResponse (hname : ¬ OfEach name) :
    (replayedResponse entry now requestId).headers.textsOf name =
      (valuesAt (validPairs entry.headers) name).filterMap HeaderValue.toStr := by
  have hid : name ≠ xRequestId := fun h => hname (.inr (.inr (.inl h)))
  have hcache : name ≠ xCache := fun h => hname (.inl h)
  have hage : name ≠ ageName := fun h => hname (.inr (.inl h))
  unfold replayedResponse HeaderMap.textsOf
  rw [valuesOf_injectRequestId_ne hid, valuesOf_buildCachedResponse entry now hcache hage]

/-- What was stored says what the upstream sent. -/
theorem texts_of_written {x : CacheExchange} {w : Written} (hw : x.written now = some w)
    (hname : ¬ OfEach name) :
    (valuesAt (validPairs w.entry.headers) name).filterMap HeaderValue.toStr =
      x.responseHeaders.textsOf name := by
  have hhop : name.text ∉ hopByHop := fun h => hname (.inr (.inr (.inr h)))
  obtain ⟨cfg, ttl, names, -, -, -, -, -, -, rfl⟩ := written_eq_some.mp hw
  rw [textsOf_eq_filter, ← valuesAt_storableHeaders hhop]
  rfl

theorem sameCopy_iff {w : Written} {req : Request} {requestId' : Str} {stored : ℕ}
    (hw : (cacheExchange route req resp).written stored = some w) :
    SameCopy (forwardedResponse resp route requestId) (replayedResponse w.entry now requestId') ↔
      SaysAlready route resp := by
  -- the entry is made of the upstream's headers, before the route's are set
  have hreplayed : ∀ name, ¬ OfEach name →
      (replayedResponse w.entry now requestId').headers.textsOf name =
        resp.headers.textsOf name := by
    intro name hname
    rw [textsOf_replayedResponse hname, texts_of_written hw hname]
    rfl
  constructor
  · intro hsame name value hname hset
    obtain ⟨text, htext⟩ := setValue_text hset
    have heq := hsame.headers name hname
    rw [textsOf_forwardedResponse hname, hset, hreplayed name hname] at heq
    refine ⟨text, htext, heq.symm.trans ?_⟩
    simp [htext]
  · intro hsays
    have hcopy : w.entry.status = resp.status ∧ w.entry.body = resp.body := by
      obtain ⟨cfg, ttl, names, -, -, -, -, -, -, rfl⟩ := written_eq_some.mp hw
      exact ⟨rfl, rfl⟩
    refine ⟨hcopy.1.symm, hcopy.2.symm, ?_⟩
    intro name hname
    rw [textsOf_forwardedResponse hname, hreplayed name hname]
    cases hset : setValue route name with
    | none => rfl
    | some value =>
        obtain ⟨text, htext, hsent⟩ := hsays name value hname hset
        rw [hsent]
        simp [htext]

end

/-- **Copies.** One request is forwarded on a route and its response stored, another hits
what was stored. The two are answered alike exactly if what the upstream sent says already
what the route's `response_set` sets. -/
theorem same_copy_iff {rx : RegexCrate} {uc : UriCrate} {pl₁ pl₂ : Pipeline}
    {env₁ env₂ : HandleEnv} {q₁ q₂ : Request} {h₁ h₂ : Handled} {route : RouteConfig}
    {resp : Response} {w : Written} (hrun₁ : (pl₁.handle rx uc env₁ q₁).1 = .ok h₁)
    (hexit₁ : h₁.exit = .forwarded resp) (hroute : h₁.route = some route)
    (hstored : (cacheExchange route q₁ resp).written env₁.store.now = some w)
    (hrun₂ : (pl₂.handle rx uc env₂ q₂).1 = .ok h₂) (hexit₂ : h₂.exit = .cacheHit w.entry) :
    SameCopy h₁.response h₂.response ↔ SaysAlready route resp := by
  rw [Pipeline.handle_forwarded_response hrun₁ hexit₁ hroute,
    Pipeline.handle_replayed_response hrun₂ hexit₂]
  exact sameCopy_iff hstored

/-! ## A route that sets a header -/

/-- The route of the cached config, with these mutations. -/
def mutatedRoute (mutations : HeaderMutations) : RouteConfig :=
  { cachedRoute with headers := mutations }

/-- `GET /users`, under an id. -/
def idRequest (id : Str) : Request :=
  .get "/users".toList ⟨[(xRequestId, id.map fun c => c.toNat.toUInt8)]⟩

/-- An upstream's response with an empty `Vary` line, under an id, that says this of itself
besides. -/
def idResponse (id : Str) (said : List (HeaderName × HeaderValue) := []) : Response where
  status := 200
  headers := ⟨(varyHeader []).fields ++ (xRequestId, id.map fun c => c.toNat.toUInt8) :: said⟩
  body := [111, 107]

/-- `X-Served`, set on every response of the route. -/
def servedName : HeaderName := ⟨"x-served".toList, by decide, by decide⟩

def servedMutations : HeaderMutations :=
  { HeaderMutations.default with
    responseSet := AList.singleton "X-Served".toList "gateway".toList }

/-- What the upstream may say already. -/
def served : List (HeaderName × HeaderValue) := [(servedName, utf8 "gateway".toList)]

/-- Two requests on that route, one after the other: the second hits what was stored of
the response to the first. -/
theorem replayed_run {mutations : HeaderMutations} {router : Router}
    {said : List (HeaderName × HeaderValue)} (hsaid : said = [] ∨ said = served)
    (hrouter : Router.build .literal (.withRoutes [mutatedRoute mutations]) = .ok router) :
    ∃ h₁ pl₂, (GatewayServer.initialPipeline (.withRoutes [mutatedRoute mutations]) router).handle
        .literal .plain (.answering (idResponse "one".toList said)) (idRequest "one".toList) =
          (.ok h₁, pl₂) ∧
      h₁.exit = .forwarded (idResponse "one".toList said) ∧
      h₁.route = some (mutatedRoute mutations) ∧
      ∃ h₂ w, (pl₂.handle .literal .plain (.answering (idResponse "two".toList))
          (idRequest "two".toList)).1 = .ok h₂ ∧
        h₂.exit = .cacheHit w.entry ∧
        (cacheExchange (mutatedRoute mutations) (idRequest "one".toList)
          (idResponse "one".toList said)).written 0 = some w := by
  rw [Pipeline.handle_eq_handleMatched hrouter rfl]
  rcases hsaid with rfl | rfl
  all_goals
    refine ⟨_, _, rfl, rfl, rfl, ?_⟩
    rw [Pipeline.handle_eq_handleMatched hrouter rfl]
    exact ⟨_, ⟨_, _, _⟩, rfl, rfl, rfl⟩

theorem unmutated_build :
    ∃ router, Router.build .literal (.withRoutes [mutatedRoute .default]) = .ok router :=
  cachedConfig_build

theorem servedMutations_build :
    ∃ router, Router.build .literal (.withRoutes [mutatedRoute servedMutations]) = .ok router :=
  (validate_eq_ok_iff.mp (by decide :
    validate .literal (.withRoutes [mutatedRoute servedMutations]) = .ok ())).build

/-- The miss says who served it, and the hit does not. -/
theorem mutation_not_copied :
    ¬ ∀ (rx : RegexCrate) (uc : UriCrate) (pl₁ pl₂ : Pipeline) (env₁ env₂ : HandleEnv)
      (q₁ q₂ : Request) (h₁ h₂ : Handled) (route : RouteConfig) (resp : Response) (w : Written),
        (pl₁.handle rx uc env₁ q₁).1 = .ok h₁ → h₁.exit = .forwarded resp →
        h₁.route = some route →
        (cacheExchange route q₁ resp).written env₁.store.now = some w →
        (pl₂.handle rx uc env₂ q₂).1 = .ok h₂ → h₂.exit = .cacheHit w.entry →
          SameCopy h₁.response h₂.response := by
  intro h
  obtain ⟨router, hrouter⟩ := servedMutations_build
  obtain ⟨h₁, pl₂, hrun₁, hexit₁, hroute, h₂, w, hrun₂, hexit₂, hstored⟩ :=
    replayed_run (.inl rfl) hrouter
  have hrun₁' := congrArg Prod.fst hrun₁
  have hsame := h _ _ _ _ _ _ _ _ _ _ _ _ _ hrun₁' hexit₁ hroute hstored hrun₂ hexit₂
  rw [Pipeline.handle_forwarded_response hrun₁' hexit₁ hroute,
    Pipeline.handle_replayed_response hrun₂ hexit₂] at hsame
  obtain ⟨text, -, hsent⟩ := (sameCopy_iff hstored).mp hsame servedName
    (utf8 "gateway".toList) (by decide) rfl
  cases hsent

/-- The response to the first of the two requests is the same as the copy of it that answers
the second. -/
def CopiedAlike (mutations : HeaderMutations) (said : List (HeaderName × HeaderValue)) : Prop :=
  ∃ router h₁ pl₂ h₂, Router.build .literal (.withRoutes [mutatedRoute mutations]) = .ok router ∧
    (GatewayServer.initialPipeline (.withRoutes [mutatedRoute mutations]) router).handle
      .literal .plain (.answering (idResponse "one".toList said)) (idRequest "one".toList) =
        (.ok h₁, pl₂) ∧
    (pl₂.handle .literal .plain (.answering (idResponse "two".toList))
      (idRequest "two".toList)).1 = .ok h₂ ∧
    SameCopy h₁.response h₂.response

/-- On a route that sets nothing the two are the same, and on one that sets what the upstream
says already. -/
theorem same_copy_iff_said :
    CopiedAlike .default [] ∧ CopiedAlike servedMutations served := by
  have hcopied : ∀ mutations said, said = [] ∨ said = served →
      (∃ router, Router.build .literal (.withRoutes [mutatedRoute mutations]) = .ok router) →
      SaysAlready (mutatedRoute mutations) (idResponse "one".toList said) →
        CopiedAlike mutations said := by
    rintro mutations said hsaid ⟨router, hrouter⟩ hsays
    obtain ⟨h₁, pl₂, hrun₁, hexit₁, hroute, h₂, w, hrun₂, hexit₂, hstored⟩ :=
      replayed_run hsaid hrouter
    have hsame := same_copy_iff (congrArg Prod.fst hrun₁) hexit₁ hroute hstored hrun₂ hexit₂
    exact ⟨router, h₁, pl₂, h₂, hrouter, hrun₁, hrun₂, hsame.mpr hsays⟩
  constructor
  · refine hcopied _ _ (.inl rfl) unmutated_build ?_
    rintro name value - ⟨⟩
  · refine hcopied _ _ (.inr rfl) servedMutations_build ?_
    intro name value _ hset
    by_cases hname : name = servedName
    · subst hname
      cases hset
      exact ⟨"gateway".toList, by decide, by decide⟩
    · have hpairs : validPairs (responsePairs (mutatedRoute servedMutations)) = served := rfl
      rw [setValue, hpairs] at hset
      simp [served, valuesAt, Ne.symm hname] at hset

end Stateform
