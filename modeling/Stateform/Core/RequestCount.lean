import Mathlib.Logic.Function.Basic
import Stateform.Core.StoreKey
import Stateform.Library.Run

/-!
# Counting requests

The counter `requests_total` of the metrics recorder, under the labels `record_request`
gives it. `handle` calls it at its last exit only, so a request that is turned away, served
from the cache or failed by its upstream is not counted (`counted_once_iff`).
-/

namespace Stateform

open Library

/-! ## The counter -/

/-- `status_class`. -/
def statusClass (status : ℕ) : Str :=
  if 100 ≤ status ∧ status ≤ 199 then "1xx".toList
  else if 200 ≤ status ∧ status ≤ 299 then "2xx".toList
  else if 300 ≤ status ∧ status ≤ 399 then "3xx".toList
  else if 400 ≤ status ∧ status ≤ 499 then "4xx".toList
  else if 500 ≤ status ∧ status ≤ 599 then "5xx".toList
  else "unknown".toList

/-- `requests_total`: a count for each route, method and status class. -/
abbrev RequestsTotal : Type := Str × Str × Str → ℕ

/-- The labels `record_request` counts under; the other calls leave the counter alone. -/
def MetricCall.requestLabels : MetricCall → Option (Str × Str × Str)
  | .request routeId method status _ _ =>
      some (routeId, toAsciiUppercase method, statusClass status)
  | _ => none

namespace RequestsTotal

def record (total : RequestsTotal) (call : MetricCall) : RequestsTotal :=
  match call.requestLabels with
  | some labels => Function.update total labels (total labels + 1)
  | none => total

/-- The counter after these calls to the recorder. -/
def recordAll (total : RequestsTotal) (calls : List MetricCall) : RequestsTotal :=
  after record total calls

theorem record_labels {total : RequestsTotal} {call : MetricCall} {labels : Str × Str × Str}
    (h : call.requestLabels = some labels) :
    total.record call = Function.update total labels (total labels + 1) := by
  rw [record, h]

theorem record_none {total : RequestsTotal} {call : MetricCall} (h : call.requestLabels = none) :
    total.record call = total := by
  rw [record, h]

theorem recordAll_apply (total : RequestsTotal) (calls : List MetricCall)
    (labels : Str × Str × Str) :
    total.recordAll calls labels =
      total labels + (calls.filterMap MetricCall.requestLabels).count labels := by
  induction calls generalizing total with
  | nil => rfl
  | cons call calls ih =>
      change (total.record call).recordAll calls labels = _
      rw [ih]
      cases hcall : call.requestLabels with
      | none => rw [record_none hcall, List.filterMap_cons_none hcall]
      | some counted =>
          rw [record_labels hcall, List.filterMap_cons_some hcall]
          by_cases hsame : labels = counted
          · subst hsame
            rw [Function.update_self, List.count_cons_self]
            omega
          · rw [Function.update_of_ne hsame, List.count_cons_of_ne (Ne.symm hsame)]

end RequestsTotal

/-- Whatever the counter stood at, the request adds one to it under its route, its method
and the status class of its response, and nothing else under its route. -/
def CountedOnce (route : RouteConfig) (req : Request) (h : Handled) : Prop :=
  ∀ (total : RequestsTotal) (method cls : Str),
    total.recordAll h.metrics (route.id, method, cls) = total (route.id, method, cls) +
      if toAsciiUppercase req.method = method ∧ statusClass h.response.status = cls then 1 else 0

section
variable {route : RouteConfig} {req : Request} {h : Handled}

theorem countedOnce_of_labels (hlabels : h.metrics.filterMap MetricCall.requestLabels =
    [(route.id, toAsciiUppercase req.method, statusClass h.response.status)]) :
    CountedOnce route req h := by
  intro total method cls
  rw [RequestsTotal.recordAll_apply, hlabels, List.count_singleton]
  simp

theorem not_countedOnce (hlabels : h.metrics.filterMap MetricCall.requestLabels = []) :
    ¬ CountedOnce route req h := by
  intro hcounted
  have hone := hcounted (fun _ => 0) (toAsciiUppercase req.method) (statusClass h.response.status)
  rw [RequestsTotal.recordAll_apply, hlabels] at hone
  simp at hone

end

/-! ## Which requests are counted -/

namespace Pipeline

/-- The upstream of the route is configured and answers the request. -/
def UpstreamAnswers (uc : UriCrate) (pl : Pipeline) (env : HandleEnv) (req : Request)
    (route : RouteConfig) : Prop :=
  ∃ upstream resp, pl.upstreams.get route.upstream = some upstream ∧
    upstream.send uc env.send (applyRequestMutations req route.headers)
      (hashKeyOf route upstream req.headers) = .ok (.ok resp)

/-- The request gets a permit, passes auth and the rate limit, is not found in the cache, and
its upstream answers. -/
def ReachesUpstream (uc : UriCrate) (pl : Pipeline) (env : HandleEnv) (req : Request)
    (route : RouteConfig) : Prop :=
  env.permit = .ok () ∧
    ∃ ctx, (authRun pl env req route).1 = .ok ctx ∧
      (failOpen (limitRun pl env req route ctx).1).allowed = true ∧
      (∀ entry, (lookupRun pl env req route).1 ≠ .hit entry) ∧
      UpstreamAnswers uc pl env req route

section
variable {rx : RegexCrate} {uc : UriCrate} {pl : Pipeline} {env : HandleEnv} {req : Request}
  {requestId : Str} {route : RouteConfig} {ctx : Option AuthContext} {sofar h : Handled}

theorem forward_counted_iff (hsofar : sofar.metrics.filterMap MetricCall.requestLabels = [])
    (hrun : (forward uc env req requestId pl route sofar).1 = .ok h) :
    CountedOnce route req h ↔ UpstreamAnswers uc pl env req route := by
  unfold forward at hrun
  unfold UpstreamAnswers
  cases hup : pl.upstreams.get route.upstream with
  | none =>
      simp only [hup] at hrun
      cases hrun
      refine iff_of_false (not_countedOnce hsofar) ?_
      rintro ⟨_, _, ⟨⟩, _⟩
  | some upstream =>
      simp only [hup] at hrun
      cases hsend : upstream.send uc env.send (applyRequestMutations req route.headers)
          (hashKeyOf route upstream req.headers) with
      | error p =>
          simp only [hsend] at hrun
          cases hrun
      | ok result =>
          cases result with
          | error e =>
              simp only [hsend] at hrun
              cases hrun
              refine iff_of_false (not_countedOnce hsofar) ?_
              rintro ⟨_, _, ⟨⟩, hanswer⟩
              cases hsend.symm.trans hanswer
          | ok resp =>
              simp only [hsend] at hrun
              cases hrun
              refine iff_of_true ?_ ⟨upstream, resp, rfl, hsend⟩
              apply countedOnce_of_labels
              rw [List.filterMap_append, hsofar]
              rfl

theorem serve_counted_iff (hsofar : sofar.metrics.filterMap MetricCall.requestLabels = [])
    (hrun : (serve uc env req requestId pl route sofar).1 = .ok h) :
    CountedOnce route req h ↔
      (∀ entry, (lookupRun pl env req route).1 ≠ .hit entry) ∧
        UpstreamAnswers uc pl env req route := by
  have hlookup : pl.cache.lookup env.lookup (cacheRequest route req) =
      lookupRun pl env req route := rfl
  have hnext : ∀ found, (sofar.metrics ++ [MetricCall.cacheLookup route.id found]).filterMap
      MetricCall.requestLabels = [] := by
    intro found
    rw [List.filterMap_append, hsofar]
    rfl
  unfold serve at hrun
  rw [hlookup] at hrun
  cases hfound : (lookupRun pl env req route).1 with
  | hit entry =>
      simp only [hfound] at hrun
      cases hrun
      refine iff_of_false (not_countedOnce (hnext _)) ?_
      rintro ⟨hmiss, _⟩
      exact hmiss entry rfl
  | miss =>
      simp only [hfound] at hrun
      rw [forward_counted_iff (hnext _) hrun]
      exact ⟨fun hanswers => ⟨nofun, hanswers⟩, And.right⟩
  | bypass =>
      simp only [hfound] at hrun
      rw [forward_counted_iff (hnext _) hrun]
      exact ⟨fun hanswers => ⟨nofun, hanswers⟩, And.right⟩

theorem limit_counted_iff (hsofar : sofar.metrics.filterMap MetricCall.requestLabels = [])
    (hrun : (limit uc env req requestId pl route ctx sofar).1 = .ok h) :
    CountedOnce route req h ↔
      (failOpen (limitRun pl env req route ctx).1).allowed = true ∧
        (∀ entry, (lookupRun pl env req route).1 ≠ .hit entry) ∧
        UpstreamAnswers uc pl env req route := by
  have hcheck : pl.ratelimit.check env.check route.middleware.rateLimit route.id ctx
      req.headers = limitRun pl env req route ctx := rfl
  have hnext : (sofar.metrics ++ [MetricCall.rateLimit route.id
      (failOpen (limitRun pl env req route ctx).1)]).filterMap MetricCall.requestLabels = [] := by
    rw [List.filterMap_append, hsofar]
    rfl
  simp only [limit, hcheck] at hrun
  cases hallowed : (failOpen (limitRun pl env req route ctx).1).allowed with
  | false =>
      simp only [hallowed, Bool.not_false, ↓reduceIte] at hrun
      cases hrun
      refine iff_of_false (not_countedOnce hnext) ?_
      rintro ⟨⟨⟩, _⟩
  | true =>
      simp only [hallowed, Bool.not_true, Bool.false_eq_true, ↓reduceIte] at hrun
      rw [serve_counted_iff hnext hrun]
      exact (and_iff_right rfl).symm

theorem handleMatched_counted_iff
    (hrun : (handleMatched uc env req requestId pl route).1 = .ok h) :
    CountedOnce route req h ↔ ReachesUpstream uc pl env req route := by
  have hauthRun : pl.auth.run env.auth route.middleware.auth req.headers req.peerCertificate =
      authRun pl env req route := rfl
  unfold handleMatched at hrun
  unfold ReachesUpstream
  cases hpermit : env.permit with
  | error why =>
      simp only [hpermit] at hrun
      cases hrun
      refine iff_of_false (not_countedOnce rfl) ?_
      rintro ⟨⟨⟩, _⟩
  | ok u =>
      simp only [hpermit, authenticate, hauthRun] at hrun
      cases hauth : (authRun pl env req route).1 with
      | error e =>
          simp only [hauth] at hrun
          cases hrun
          refine iff_of_false (not_countedOnce rfl) ?_
          rintro ⟨_, _, ⟨⟩, _⟩
      | ok ctx =>
          simp only [hauth] at hrun
          refine (limit_counted_iff rfl hrun).trans ?_
          -- auth leaves the rest of the pipeline as it was
          change (failOpen (limitRun pl env req route ctx).1).allowed = true ∧
              (∀ entry, (lookupRun pl env req route).1 ≠ .hit entry) ∧
              UpstreamAnswers uc pl env req route ↔ _
          simp

end

end Pipeline

/-- **Requests counted.** A request that matched a route is counted under it, once and by the
status class of its response, exactly if it gets through to its upstream and that answers. -/
theorem counted_once_iff {rx : RegexCrate} {uc : UriCrate} {pl : Pipeline} {env : HandleEnv}
    {req : Request} {m : MatchedRoute} {h : Handled}
    (hmatch : pl.router.matchRequest rx req.uri.path req.method req.headers = .ok m)
    (hrun : (pl.handle rx uc env req).1 = .ok h) :
    CountedOnce m.route req h ↔ Pipeline.ReachesUpstream uc pl env req m.route := by
  unfold Pipeline.handle at hrun
  rw [hmatch] at hrun
  exact Pipeline.handleMatched_counted_iff hrun

/-- A request that finds the server full is answered 503 and not counted. -/
theorem rejected_not_counted :
    ¬ ∀ (rx : RegexCrate) (uc : UriCrate) (pl : Pipeline) (env : HandleEnv) (req : Request)
      (m : MatchedRoute) (h : Handled),
      pl.router.matchRequest rx req.uri.path req.method req.headers = .ok m →
        (pl.handle rx uc env req).1 = .ok h → CountedOnce m.route req h := by
  intro hall
  obtain ⟨router, hrouter⟩ := cachedConfig_build
  have hmatch : router.matchRequest .literal "/users".toList "GET".toList .empty =
      .ok (.new cachedRoute) := by
    rw [matchRequest_eq_scan hrouter]
    rfl
  have hrun : ∃ h, ((GatewayServer.initialPipeline cachedConfig router).handle .literal .plain
      { HandleEnv.answering ⟨200, .empty, []⟩ with permit := .error .globalLimit }
      (.get "/users".toList .empty)).1 = .ok h ∧
        h.metrics = [.concurrencyRejected "users".toList "limit".toList] := by
    rw [Pipeline.handle_eq_handleMatched hrouter rfl]
    exact ⟨_, rfl, rfl⟩
  obtain ⟨h, hh, hmetrics⟩ := hrun
  have hcounted := hall _ _ _ _ _ _ _ hmatch hh
  exact not_countedOnce (by rw [hmetrics]; rfl) hcounted

/-- A request its upstream answers is counted. -/
theorem counted_once_iff_answered :
    ∃ (pl : Pipeline) (m : MatchedRoute) (h : Handled),
      pl.router.matchRequest .literal "/users".toList "GET".toList .empty = .ok m ∧
        (pl.handle .literal .plain (.answering ⟨200, .empty, []⟩)
          (.get "/users".toList .empty)).1 = .ok h ∧
        Pipeline.ReachesUpstream .plain pl (.answering ⟨200, .empty, []⟩)
          (.get "/users".toList .empty) m.route := by
  obtain ⟨router, hrouter⟩ := cachedConfig_build
  have hmatch : router.matchRequest .literal "/users".toList "GET".toList .empty =
      .ok (.new cachedRoute) := by
    rw [matchRequest_eq_scan hrouter]
    rfl
  have hrun : ∃ h, ((GatewayServer.initialPipeline cachedConfig router).handle .literal .plain
      (.answering ⟨200, .empty, []⟩) (.get "/users".toList .empty)).1 = .ok h ∧
        h.metrics.filterMap MetricCall.requestLabels =
          [("users".toList, "GET".toList, statusClass h.response.status)] := by
    rw [Pipeline.handle_eq_handleMatched hrouter rfl]
    exact ⟨_, rfl, rfl⟩
  obtain ⟨h, hh, hlabels⟩ := hrun
  exact ⟨_, _, h, hmatch, hh,
    (counted_once_iff hmatch hh).mp (countedOnce_of_labels hlabels)⟩

end Stateform
