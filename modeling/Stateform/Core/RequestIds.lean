import Stateform.Core.Copies
import Stateform.Core.Effects

/-!
# The id a request is answered under

`handle` answers under the request's own `x-request-id`: each builder of a response injects
it where there is none, but for that of a refused permit. What a response has brought along
stays, and a copy brings along the id that was stored with it, of another request. So the
id is kept exactly where neither happens (`keepsId_iff`).
-/

namespace Stateform

open Library

/-! ## Keeping the id -/

/-- The upstream's response to this very request has an id. -/
def HandleExit.BringsId : HandleExit → Prop
  | .forwarded resp => resp.headers.valuesOf xRequestId ≠ []
  | _ => False

/-- The response has an id, and none but the request's own unless the upstream's response
to it brought one. -/
structure KeepsId (id : Str) (h : Handled) : Prop where
  carries : h.response.headers.valuesOf xRequestId ≠ []
  own : ¬ h.exit.BringsId →
    ∀ value ∈ h.response.headers.valuesOf xRequestId, value.toStr = some id

/-- No id but this one is stored with the entry. -/
def StoresOnly (id : Str) (entry : CachedResponse) : Prop :=
  ∀ value ∈ valuesAt (validPairs entry.headers) xRequestId, value.toStr = some id

/-- The route sets no id but this one, on a response of the upstream that has none. -/
def SetsOnly (id : Str) (route : RouteConfig) (resp : Response) : Prop :=
  resp.headers.valuesOf xRequestId = [] →
    ∀ value ∈ setValue route xRequestId, value.toStr = some id

section
variable {id : Str} {own : HeaderValue} {h : Handled}

theorem keepsId_of_own (hid : own.toStr = some id)
    (hvalues : h.response.headers.valuesOf xRequestId = [own]) : KeepsId id h := by
  refine ⟨?_, ?_⟩
  · rw [hvalues]
    exact List.cons_ne_nil own []
  · intro _ value hvalue
    rw [hvalues, List.mem_singleton] at hvalue
    rw [hvalue, hid]

theorem valuesOf_errorResponse (hid : own.toStr = some id) (status : ℕ) (message : Str) :
    (errorResponse status message id).headers.valuesOf xRequestId = [own] := by
  have hbase : (HeaderMap.empty.append contentType
      (staticValue "application/json")).valuesOf xRequestId = [] :=
    HeaderMap.valuesOf_append_ne (by decide)
  unfold errorResponse
  rw [valuesOf_injectRequestId (HeaderValue.fromStr_of_toStr hid), if_pos hbase]

theorem valuesOf_limitedResponse (hid : own.toStr = some id) (outcome : RateLimitOutcome) :
    (limitedResponse outcome id).headers.valuesOf xRequestId = [own] := by
  -- the headers of the rate limit are inserted after the id, and none of them is one
  have hnone : valuesAt (validPairs outcome.toHeaders) xRequestId = [] := by
    rw [valuesAt_eq_nil]
    intro e he
    exact Gateway.toHeaders_ne outcome (by decide) he
  unfold limitedResponse
  rw [HeaderMap.valuesOf_insertAll, hnone]
  exact valuesOf_errorResponse hid _ _

/-- A refusal has no id. -/
theorem refused_not_keepsId {why : AcquireRefusal}
    (hresponse : h.response = serviceUnavailable why.message) : ¬ KeepsId id h := by
  intro hkeeps
  apply hkeeps.carries
  rw [hresponse]
  unfold serviceUnavailable
  -- `service_unavailable` is not given the id, and nothing injects one later
  rw [HeaderMap.valuesOf_append_ne (by decide), HeaderMap.valuesOf_append_ne (by decide)]
  rfl

/-- A copy is under the id that was stored with it, or else under the request's. -/
theorem replayed_keepsId_iff {entry : CachedResponse} {now : ℕ} (hid : own.toStr = some id)
    (hexit : h.exit = .cacheHit entry) (hresponse : h.response = replayedResponse entry now id) :
    KeepsId id h ↔ StoresOnly id entry := by
  have hvalues : h.response.headers.valuesOf xRequestId =
      if valuesAt (validPairs entry.headers) xRequestId = [] then [own]
      else valuesAt (validPairs entry.headers) xRequestId := by
    rw [hresponse]
    unfold replayedResponse
    rw [valuesOf_injectRequestId (HeaderValue.fromStr_of_toStr hid),
      valuesOf_buildCachedResponse entry now (by decide) (by decide)]
  -- `inject_request_id` leaves an id that is there
  by_cases hnone : valuesAt (validPairs entry.headers) xRequestId = []
  · rw [if_pos hnone] at hvalues
    refine iff_of_true (keepsId_of_own hid hvalues) ?_
    intro value hvalue
    rw [hnone] at hvalue
    cases hvalue
  · rw [if_neg hnone] at hvalues
    constructor
    · intro hkeeps value hvalue
      apply hkeeps.own
      · rw [hexit]
        exact not_false
      · rwa [hvalues]
    · intro hstores
      refine ⟨by rwa [hvalues], ?_⟩
      intro _ value hvalue
      rw [hvalues] at hvalue
      exact hstores value hvalue

/-- A forwarded response is under the id the route sets, or that it has, or else under the
request's. -/
theorem forwarded_keepsId_iff {resp : Response} {route : RouteConfig}
    (hid : own.toStr = some id) (hexit : h.exit = .forwarded resp)
    (hresponse : h.response = forwardedResponse resp route id) :
    KeepsId id h ↔ SetsOnly id route resp := by
  have hbuilt : (buildUpstreamResponse resp route.headers).headers.valuesOf xRequestId =
      ((setValue route xRequestId).map fun value => [value]).getD
        (resp.headers.valuesOf xRequestId) := by
    rw [valuesOf_buildUpstreamResponse resp route.headers (by decide),
      HeaderMap.valuesOf_insertAll]
    rfl
  have hvalues : h.response.headers.valuesOf xRequestId =
      if (buildUpstreamResponse resp route.headers).headers.valuesOf xRequestId = [] then [own]
      else (buildUpstreamResponse resp route.headers).headers.valuesOf xRequestId := by
    rw [hresponse]
    unfold forwardedResponse
    rw [valuesOf_injectRequestId (HeaderValue.fromStr_of_toStr hid)]
  rw [hbuilt] at hvalues
  unfold SetsOnly
  cases hset : setValue route xRequestId with
  | none =>
      rw [hset] at hvalues
      simp only [Option.map_none, Option.getD_none] at hvalues
      simp only [Option.mem_def, reduceCtorEq, false_implies, implies_true, iff_true]
      by_cases hnone : resp.headers.valuesOf xRequestId = []
      · rw [if_pos hnone] at hvalues
        exact keepsId_of_own hid hvalues
      · rw [if_neg hnone] at hvalues
        refine ⟨by rwa [hvalues], ?_⟩
        intro hbrings
        rw [hexit] at hbrings
        exact absurd hnone hbrings
  | some value =>
      rw [hset] at hvalues
      simp only [Option.map_some, Option.getD_some, List.cons_ne_nil, ↓reduceIte] at hvalues
      constructor
      · intro hkeeps hnone set hmem
        cases hmem
        apply hkeeps.own
        · rw [hexit]
          exact not_not_intro hnone
        · rw [hvalues]
          exact List.mem_singleton_self value
      · intro hsets
        refine ⟨by simp [hvalues], ?_⟩
        intro hbrings set hmem
        rw [hvalues, List.mem_singleton] at hmem
        rw [hexit] at hbrings
        rw [hmem]
        exact hsets (not_not.mp hbrings) value rfl

end

/-! ## Where it is kept -/

namespace Pipeline

/-- Whatever the upstream answers, the id is kept. -/
def ForwardKeeps (uc : UriCrate) (pl : Pipeline) (env : HandleEnv) (req : Request)
    (id : Str) (route : RouteConfig) : Prop :=
  ∀ upstream, pl.upstreams.get route.upstream = some upstream → ∀ resp,
    upstream.send uc env.send (applyRequestMutations req route.headers)
        (hashKeyOf route upstream req.headers) = .ok (.ok resp) →
      SetsOnly id route resp

/-- Where the id of a request is kept. A matched request gets its permit; if it comes to
the lookup, what the lookup finds stores no other id, and where it finds nothing the route
sets no other id on a response without one. -/
def IdKept (rx : RegexCrate) (uc : UriCrate) (pl : Pipeline) (env : HandleEnv)
    (req : Request) (id : Str) : Prop :=
  ∀ m, pl.router.matchRequest rx req.uri.path req.method req.headers = .ok m →
    env.permit = .ok () ∧
      ∀ ctx, (authRun pl env req m.route).1 = .ok ctx →
        (failOpen (limitRun pl env req m.route ctx).1).allowed = true →
          match (lookupRun pl env req m.route).1 with
          | .hit entry => StoresOnly id entry
          | _ => ForwardKeeps uc pl env req id m.route

section
variable {rx : RegexCrate} {uc : UriCrate} {pl : Pipeline} {env : HandleEnv} {req : Request}
  {id : Str} {own : HeaderValue} {route : RouteConfig} {ctx : Option AuthContext}
  {sofar : Handled}

theorem forward_keepsId_iff (hid : own.toStr = some id) :
    (∀ h, (forward uc env req id pl route sofar).1 = .ok h → KeepsId id h) ↔
      ForwardKeeps uc pl env req id route := by
  unfold forward ForwardKeeps
  cases hup : pl.upstreams.get route.upstream with
  | none =>
      refine iff_of_true ?_ ?_
      · rintro h ⟨rfl⟩
        exact keepsId_of_own hid (valuesOf_errorResponse hid _ _)
      · rintro upstream ⟨⟩
  | some upstream =>
      simp only [Option.some.injEq, forall_eq']
      cases hsend : upstream.send uc env.send (applyRequestMutations req route.headers)
          (hashKeyOf route upstream req.headers) with
      | error p =>
          refine iff_of_true ?_ ?_
          · rintro h ⟨⟩
          · rintro resp ⟨⟩
      | ok result =>
          cases result with
          | error e =>
              refine iff_of_true ?_ ?_
              · rintro h ⟨rfl⟩
                exact keepsId_of_own hid (valuesOf_errorResponse hid _ _)
              · rintro resp ⟨⟩
          | ok resp =>
              simp only [Except.ok.injEq, forall_eq']
              exact forwarded_keepsId_iff hid rfl rfl

theorem serve_keepsId_iff (hid : own.toStr = some id) :
    (∀ h, (serve uc env req id pl route sofar).1 = .ok h → KeepsId id h) ↔
      match (lookupRun pl env req route).1 with
      | .hit entry => StoresOnly id entry
      | _ => ForwardKeeps uc pl env req id route := by
  have hlookup : pl.cache.lookup env.lookup (cacheRequest route req) =
      lookupRun pl env req route := rfl
  unfold serve
  rw [hlookup]
  cases hfound : (lookupRun pl env req route).1 with
  | hit entry =>
      simp only [hfound, Except.ok.injEq, forall_eq']
      exact replayed_keepsId_iff hid rfl rfl
  | miss =>
      simp only [hfound]
      exact forward_keepsId_iff hid
  | bypass =>
      simp only [hfound]
      exact forward_keepsId_iff hid

theorem limit_keepsId_iff (hid : own.toStr = some id) :
    (∀ h, (limit uc env req id pl route ctx sofar).1 = .ok h → KeepsId id h) ↔
      ((failOpen (limitRun pl env req route ctx).1).allowed = true →
        match (lookupRun pl env req route).1 with
        | .hit entry => StoresOnly id entry
        | _ => ForwardKeeps uc pl env req id route) := by
  have hcheck : pl.ratelimit.check env.check route.middleware.rateLimit route.id ctx
      req.headers = limitRun pl env req route ctx := rfl
  simp only [limit, hcheck]
  cases hallowed : (failOpen (limitRun pl env req route ctx).1).allowed with
  | false =>
      simp only [Bool.not_false, ↓reduceIte, Bool.false_eq_true, false_implies, iff_true]
      rintro h ⟨rfl⟩
      exact keepsId_of_own hid (valuesOf_limitedResponse hid _)
  | true =>
      simp only [Bool.not_true, Bool.false_eq_true, ↓reduceIte, forall_const]
      exact serve_keepsId_iff hid

theorem handleMatched_keepsId_iff (hid : own.toStr = some id) :
    (∀ h, (handleMatched uc env req id pl route).1 = .ok h → KeepsId id h) ↔
      env.permit = .ok () ∧
        ∀ ctx, (authRun pl env req route).1 = .ok ctx →
          (failOpen (limitRun pl env req route ctx).1).allowed = true →
            match (lookupRun pl env req route).1 with
            | .hit entry => StoresOnly id entry
            | _ => ForwardKeeps uc pl env req id route := by
  have hrun : pl.auth.run env.auth route.middleware.auth req.headers req.peerCertificate =
      authRun pl env req route := rfl
  unfold handleMatched
  cases hpermit : env.permit with
  | error why =>
      refine iff_of_false ?_ ?_
      · intro hkeeps
        exact refused_not_keepsId rfl (hkeeps _ rfl)
      · rintro ⟨⟨⟩, _⟩
  | ok u =>
      simp only [authenticate, hrun]
      cases hauth : (authRun pl env req route).1 with
      | error e =>
          refine iff_of_true ?_ ⟨trivial, ?_⟩
          · rintro h ⟨rfl⟩
            exact keepsId_of_own hid (valuesOf_errorResponse hid _ _)
          · rintro ctx ⟨⟩
      | ok ctx =>
          simp only [Except.ok.injEq, forall_eq', true_and]
          exact limit_keepsId_iff hid

end

end Pipeline

/-- **Request ids.** A request with a readable `x-request-id` is answered under it, unless
the upstream's response to it brings another, exactly if its permit is not refused, no
other id is stored with what it hits, and its route sets no other one. -/
theorem keepsId_iff {rx : RegexCrate} {uc : UriCrate} {pl : Pipeline} {env : HandleEnv}
    {req : Request} {id : Str} (hid : req.headers.getStr "x-request-id".toList = some id) :
    (∀ h, (pl.handle rx uc env req).1 = .ok h → KeepsId id h) ↔
      Pipeline.IdKept rx uc pl env req id := by
  have hrequest : Pipeline.requestIdOf env req = id := by
    rw [Pipeline.requestIdOf, hid]
    rfl
  obtain ⟨own, -, hown⟩ := Option.bind_eq_some_iff.mp hid
  unfold Pipeline.handle Pipeline.IdKept
  rw [hrequest]
  cases hmatch : pl.router.matchRequest rx req.uri.path req.method req.headers with
  | error e =>
      refine iff_of_true ?_ ?_
      · rintro h ⟨rfl⟩
        exact keepsId_of_own hown (valuesOf_errorResponse hown _ _)
      · rintro m ⟨⟩
  | ok m =>
      simp only [Except.ok.injEq, forall_eq']
      exact Pipeline.handleMatched_keepsId_iff hown

/-- The second client is answered under the first one's id. -/
theorem stored_id_replayed :
    ¬ ∀ (rx : RegexCrate) (uc : UriCrate) (pl : Pipeline) (env : HandleEnv) (req : Request)
      (id : Str) (h : Handled), req.headers.getStr "x-request-id".toList = some id →
        (pl.handle rx uc env req).1 = .ok h → KeepsId id h := by
  intro hall
  obtain ⟨router, hrouter⟩ := unmutated_build
  obtain ⟨h₁, pl₂, -, -, -, h₂, w, hrun₂, hexit₂, hstored⟩ := replayed_run (.inl rfl) hrouter
  have hkeeps := hall _ _ _ _ _ "two".toList _ (by decide) hrun₂
  have hresponse := Pipeline.handle_replayed_response hrun₂ hexit₂
  have hid : HeaderValue.toStr (utf8 "two".toList) = some "two".toList := by decide
  have hstores := (replayed_keepsId_iff hid hexit₂ hresponse).mp hkeeps
  obtain ⟨cfg, ttl, names, -, -, -, -, -, -, rfl⟩ := written_eq_some.mp hstored
  have hmem : utf8 "one".toList ∈
      valuesAt (validPairs (storableHeaders (idResponse "one".toList).headers)) xRequestId := by
    decide
  exact absurd (hstores _ hmem) (by decide)

/-- A first request is answered under its own, where the upstream brings none. -/
theorem keepsId_iff_first :
    ∃ (pl : Pipeline) (h : Handled),
      (pl.handle .literal .plain (.answering ⟨200, .empty, []⟩) (idRequest "one".toList)).1 =
        .ok h ∧ KeepsId "one".toList h := by
  obtain ⟨router, hrouter⟩ := cachedConfig_build
  have hkept : Pipeline.IdKept .literal .plain (GatewayServer.initialPipeline cachedConfig router)
      (.answering ⟨200, .empty, []⟩) (idRequest "one".toList) "one".toList := by
    have hscan : scanRequest .literal cachedConfig.routes "/users".toList "GET".toList
        (idRequest "one".toList).headers = .ok (.new cachedRoute) := rfl
    intro m hm
    have hm' := (matchRequest_eq_scan hrouter _ _ _).symm.trans hm
    obtain rfl : MatchedRoute.new cachedRoute = m := Except.ok.inj (hscan.symm.trans hm')
    refine ⟨rfl, ?_⟩
    rintro ctx - -
    rintro upstream - resp - - value ⟨⟩
  have hrun : ∃ h, ((GatewayServer.initialPipeline cachedConfig router).handle .literal .plain
      (.answering ⟨200, .empty, []⟩) (idRequest "one".toList)).1 = .ok h := by
    rw [Pipeline.handle_eq_handleMatched hrouter rfl]
    exact ⟨_, rfl⟩
  obtain ⟨h, hh⟩ := hrun
  exact ⟨_, h, hh, (keepsId_iff (by decide)).mpr hkept h hh⟩

end Stateform
