import Stateform.Core.RequestCount
import Stateform.Library.Counter

/-!
# The books of the metrics recorder

The counters `handle` keeps through the recorder, each under the labels the source gives it.
A request passes one counter at each stage that turns it away or lets it on, so the counters
of a route add up: what was matched is what was rejected, failed to authenticate, was denied
or was looked up in the cache, and what was not found there went to the upstream
(`books_balance`).
-/

namespace Stateform

open Library

/-! ## Labels -/

/-- The mechanism `record_auth_failure` gives an error. -/
def AuthError.mechanism : AuthError → Str
  | .missingToken | .invalidToken _ | .jwksFetch _ | .unknownKid _ => "jwt".toList
  | .missingApiKey | .invalidApiKey | .apiKeyStore _ => "api_key".toList
  | .missingClientCert | .invalidClientCert _ => "mtls".toList
  | .noProviderEnabled | .config _ => "none".toList

/-- The layer `record_rate_limit` gives a denial. -/
def RateLimitOutcome.layer (outcome : RateLimitOutcome) : Str :=
  match outcome.deniedBy with
  | some .l1Local => "l1_local".toList
  | some .l2Distributed => "l2_distributed".toList
  | none => "unknown".toList

/-- The result `record_cache_lookup` gives a lookup. -/
def CacheLookup.result : CacheLookup → Str
  | .hit _ => "hit".toList
  | .miss => "miss".toList
  | .bypass => "bypass".toList

/-! ## The counters -/

/-- The counters of `Metrics` that requests move. -/
structure RequestMetrics : Type where
  requestsTotal : CounterVec (Str × Str × Str)
  upstreamRequestsTotal : CounterVec (Str × Str × Str)
  rateLimitDeniedTotal : CounterVec (Str × Str)
  cacheLookupsTotal : CounterVec (Str × Str)
  authFailuresTotal : CounterVec (Str × Str)
  concurrencyRejectedTotal : CounterVec (Str × Str)

namespace RequestMetrics

/-- `Metrics::new`. -/
def new : RequestMetrics := ⟨∅, ∅, ∅, ∅, ∅, ∅⟩

def recordRequest (m : RequestMetrics) (routeId method : Str) (status : ℕ) : RequestMetrics :=
  { m with requestsTotal :=
      m.requestsTotal.inc (routeId, toAsciiUppercase method, statusClass status) }

def recordUpstream (m : RequestMetrics) (routeId upstreamName : Str) (status : ℕ) :
    RequestMetrics :=
  { m with upstreamRequestsTotal :=
      m.upstreamRequestsTotal.inc (routeId, upstreamName, statusClass status) }

/-- Only a denial is counted. -/
def recordRateLimit (m : RequestMetrics) (routeId : Str) (outcome : RateLimitOutcome) :
    RequestMetrics :=
  if outcome.allowed then m
  else { m with rateLimitDeniedTotal := m.rateLimitDeniedTotal.inc (routeId, outcome.layer) }

def recordCacheLookup (m : RequestMetrics) (routeId : Str) (lookup : CacheLookup) :
    RequestMetrics :=
  { m with cacheLookupsTotal := m.cacheLookupsTotal.inc (routeId, lookup.result) }

def recordAuthFailure (m : RequestMetrics) (routeId : Str) (e : AuthError) : RequestMetrics :=
  { m with authFailuresTotal := m.authFailuresTotal.inc (routeId, e.mechanism) }

def recordConcurrencyRejected (m : RequestMetrics) (routeId layer : Str) : RequestMetrics :=
  { m with concurrencyRejectedTotal := m.concurrencyRejectedTotal.inc (routeId, layer) }

/-- One call to the recorder. -/
def record (m : RequestMetrics) : MetricCall → RequestMetrics
  | .concurrencyRejected routeId reason => m.recordConcurrencyRejected routeId reason
  | .authFailure routeId e => m.recordAuthFailure routeId e
  | .rateLimit routeId outcome => m.recordRateLimit routeId outcome
  | .cacheLookup routeId lookup => m.recordCacheLookup routeId lookup
  | .upstream routeId upstreamName status => m.recordUpstream routeId upstreamName status
  | .request routeId method status _ _ => m.recordRequest routeId method status

def recordAll (m : RequestMetrics) (calls : List MetricCall) : RequestMetrics :=
  after record m calls

end RequestMetrics

/-! ## What a call counts -/

namespace MetricCall

@[simp] def upstreamLabels : MetricCall → Option (Str × Str × Str)
  | .upstream routeId upstreamName status => some (routeId, upstreamName, statusClass status)
  | _ => none

@[simp] def deniedLabels : MetricCall → Option (Str × Str)
  | .rateLimit routeId outcome => if outcome.allowed then none else some (routeId, outcome.layer)
  | _ => none

@[simp] def lookupLabels : MetricCall → Option (Str × Str)
  | .cacheLookup routeId lookup => some (routeId, lookup.result)
  | _ => none

@[simp] def authLabels : MetricCall → Option (Str × Str)
  | .authFailure routeId e => some (routeId, e.mechanism)
  | _ => none

@[simp] def rejectedLabels : MetricCall → Option (Str × Str)
  | .concurrencyRejected routeId reason => some (routeId, reason)
  | _ => none

end MetricCall

namespace RequestMetrics

/-- The counters after calls to the recorder, each by the labels that were counted in it. -/
structure Counts (m m' : RequestMetrics) (calls : List MetricCall) : Prop where
  requests : m'.requestsTotal = m.requestsTotal.incAll (calls.filterMap MetricCall.requestLabels)
  upstream : m'.upstreamRequestsTotal =
    m.upstreamRequestsTotal.incAll (calls.filterMap MetricCall.upstreamLabels)
  denied : m'.rateLimitDeniedTotal =
    m.rateLimitDeniedTotal.incAll (calls.filterMap MetricCall.deniedLabels)
  lookups : m'.cacheLookupsTotal =
    m.cacheLookupsTotal.incAll (calls.filterMap MetricCall.lookupLabels)
  auth : m'.authFailuresTotal =
    m.authFailuresTotal.incAll (calls.filterMap MetricCall.authLabels)
  rejected : m'.concurrencyRejectedTotal =
    m.concurrencyRejectedTotal.incAll (calls.filterMap MetricCall.rejectedLabels)

theorem counts_record (m : RequestMetrics) (call : MetricCall) :
    Counts m (m.record call) [call] := by
  cases call with
  | concurrencyRejected routeId reason => exact ⟨rfl, rfl, rfl, rfl, rfl, rfl⟩
  | authFailure routeId e => exact ⟨rfl, rfl, rfl, rfl, rfl, rfl⟩
  | cacheLookup routeId lookup => exact ⟨rfl, rfl, rfl, rfl, rfl, rfl⟩
  | upstream routeId upstreamName status => exact ⟨rfl, rfl, rfl, rfl, rfl, rfl⟩
  | request routeId method status reqSize respSize => exact ⟨rfl, rfl, rfl, rfl, rfl, rfl⟩
  | rateLimit routeId outcome =>
      rw [record, recordRateLimit]
      cases hallowed : outcome.allowed with
      | true =>
          refine ⟨rfl, rfl, ?_, rfl, rfl, rfl⟩
          simp [MetricCall.deniedLabels, hallowed, CounterVec.incAll]
      | false =>
          refine ⟨rfl, rfl, ?_, rfl, rfl, rfl⟩
          simp [MetricCall.deniedLabels, hallowed, CounterVec.incAll]

theorem counts_recordAll (m : RequestMetrics) (calls : List MetricCall) :
    Counts m (m.recordAll calls) calls := by
  induction calls using List.reverseRecOn with
  | nil => exact ⟨rfl, rfl, rfl, rfl, rfl, rfl⟩
  | append_singleton calls call ih =>
      have hlast := counts_record (m.recordAll calls) call
      have hsame : m.recordAll (calls ++ [call]) = (m.recordAll calls).record call := by
        rw [recordAll, after_append]
        rfl
      rw [hsame]
      refine ⟨?_, ?_, ?_, ?_, ?_, ?_⟩
      · rw [hlast.requests, ih.requests, List.filterMap_append, CounterVec.incAll_append]
      · rw [hlast.upstream, ih.upstream, List.filterMap_append, CounterVec.incAll_append]
      · rw [hlast.denied, ih.denied, List.filterMap_append, CounterVec.incAll_append]
      · rw [hlast.lookups, ih.lookups, List.filterMap_append, CounterVec.incAll_append]
      · rw [hlast.auth, ih.auth, List.filterMap_append, CounterVec.incAll_append]
      · rw [hlast.rejected, ih.rejected, List.filterMap_append, CounterVec.incAll_append]

end RequestMetrics

/-- One counter of `requests_total`, as it is counted request by request. -/
theorem RequestMetrics.requestsTotal_eq (calls : List MetricCall) (labels : Str × Str × Str) :
    (new.recordAll calls).requestsTotal.total (fun l => l = labels) =
      RequestsTotal.recordAll (fun _ => 0) calls labels := by
  rw [(counts_recordAll new calls).requests, CounterVec.total_incAll,
    RequestsTotal.recordAll_apply, List.count_eq_countP]
  congr 1
  apply List.countP_congr
  intro l _
  simp

/-! ## What a request counts -/

@[simp] def Handled.on (routeId : Str) (h : Handled) : Bool :=
  h.route.any fun route => route.id = routeId

def HandleExit.isHit : HandleExit → Bool
  | .cacheHit _ => true
  | _ => false

/-- The upstream of the route is not configured, or gave no response. -/
def HandleExit.isUnanswered : HandleExit → Bool
  | .upstreamMissing => true
  | .upstreamFailed _ => true
  | _ => false

/-- The calls of a request to the recorder, by the stage it ended in. -/
inductive Trail (h : Handled) : Prop where
  | unmatched : h.route = none → h.metrics = [] → Trail h
  | rejected {route : RouteConfig} {why : AcquireRefusal} : h.route = some route →
      h.exit = .refused why → h.metrics = [.concurrencyRejected route.id "limit".toList] → Trail h
  | unauthorized {route : RouteConfig} {e : AuthError} : h.route = some route →
      h.exit = .authFailed e → h.metrics = [.authFailure route.id e] → Trail h
  | denied {route : RouteConfig} {outcome : RateLimitOutcome} : h.route = some route →
      h.exit = .rateLimited → outcome.allowed = false →
      h.metrics = [.rateLimit route.id outcome] → Trail h
  | hit {route : RouteConfig} {outcome : RateLimitOutcome} {entry : CachedResponse} :
      h.route = some route → h.exit = .cacheHit entry → outcome.allowed = true →
      h.metrics = [.rateLimit route.id outcome, .cacheLookup route.id (.hit entry)] → Trail h
  | unanswered {route : RouteConfig} {outcome : RateLimitOutcome} {found : CacheLookup} :
      h.route = some route → h.exit.isUnanswered = true → h.exit.isHit = false →
      outcome.allowed = true → (∀ entry, found ≠ .hit entry) →
      h.metrics = [.rateLimit route.id outcome, .cacheLookup route.id found] → Trail h
  | forwarded {route : RouteConfig} {outcome : RateLimitOutcome} {found : CacheLookup}
      {resp : Response} {method : Str} {reqSize respSize : ℕ} : h.route = some route →
      h.exit = .forwarded resp → outcome.allowed = true → (∀ entry, found ≠ .hit entry) →
      h.metrics = [.rateLimit route.id outcome, .cacheLookup route.id found,
        .upstream route.id route.upstream resp.status,
        .request route.id method resp.status reqSize respSize] → Trail h

namespace Pipeline

section
variable {rx : RegexCrate} {uc : UriCrate} {pl : Pipeline} {env : HandleEnv} {req : Request}
  {requestId : Str} {route : RouteConfig} {ctx : Option AuthContext} {sofar h : Handled}
  {outcome : RateLimitOutcome} {found : CacheLookup}

theorem forward_trail (hrun : (forward uc env req requestId pl route sofar).1 = .ok h)
    (hroute : sofar.route = some route) (hallowed : outcome.allowed = true)
    (hfound : ∀ entry, found ≠ .hit entry)
    (hsofar : sofar.metrics = [.rateLimit route.id outcome, .cacheLookup route.id found]) :
    Trail h := by
  unfold forward at hrun
  cases hup : pl.upstreams.get route.upstream with
  | none =>
      simp only [hup] at hrun
      cases hrun
      exact .unanswered hroute rfl rfl hallowed hfound hsofar
  | some upstream =>
      simp only [hup] at hrun
      cases hsend : upstream.send uc env.send (applyRequestMutations req route.headers)
          (hashKeyOf route upstream req.headers) with
      | error p =>
          simp only [hsend] at hrun
          cases hrun
      | ok result =>
          cases result with
          | error e =>
              simp only [hsend] at hrun
              cases hrun
              exact .unanswered hroute rfl rfl hallowed hfound hsofar
          | ok resp =>
              simp only [hsend] at hrun
              cases hrun
              have hmetrics : sofar.metrics ++ [.upstream route.id route.upstream resp.status,
                  .request route.id req.method resp.status req.body.length resp.body.length] =
                  [.rateLimit route.id outcome, .cacheLookup route.id found,
                    .upstream route.id route.upstream resp.status,
                    .request route.id req.method resp.status req.body.length
                      resp.body.length] := by
                rw [hsofar]
                rfl
              exact .forwarded hroute rfl hallowed hfound hmetrics

theorem serve_trail (hrun : (serve uc env req requestId pl route sofar).1 = .ok h)
    (hroute : sofar.route = some route) (hallowed : outcome.allowed = true)
    (hsofar : sofar.metrics = [.rateLimit route.id outcome]) : Trail h := by
  have hnext : ∀ found, sofar.metrics ++ [MetricCall.cacheLookup route.id found] =
      [.rateLimit route.id outcome, .cacheLookup route.id found] := by
    intro found
    rw [hsofar]
    rfl
  unfold serve at hrun
  cases hfound : (pl.cache.lookup env.lookup (cacheRequest route req)).1 with
  | hit entry =>
      simp only [hfound] at hrun
      cases hrun
      exact .hit hroute rfl hallowed (hnext _)
  | miss =>
      simp only [hfound] at hrun
      exact forward_trail hrun hroute hallowed (by rintro _ ⟨⟩) (hnext _)
  | bypass =>
      simp only [hfound] at hrun
      exact forward_trail hrun hroute hallowed (by rintro _ ⟨⟩) (hnext _)

theorem handleMatched_trail
    (hrun : (handleMatched uc env req requestId pl route).1 = .ok h) : Trail h := by
  unfold handleMatched at hrun
  cases hpermit : env.permit with
  | error why =>
      simp only [hpermit] at hrun
      cases hrun
      exact .rejected rfl rfl rfl
  | ok u =>
  simp only [hpermit, authenticate] at hrun
  cases hauth : (pl.auth.run env.auth route.middleware.auth req.headers req.peerCertificate).1 with
  | error e =>
      simp only [hauth] at hrun
      cases hrun
      exact .unauthorized rfl rfl rfl
  | ok ctx =>
  simp only [hauth, limit] at hrun
  split at hrun
  · next hdenied =>
      cases hrun
      rw [Bool.not_eq_true'] at hdenied
      exact .denied rfl rfl hdenied rfl
  · next hallowed =>
      simp only [Bool.not_eq_true, Bool.not_eq_false'] at hallowed
      exact serve_trail hrun rfl hallowed rfl

/-- A request that does not panic leaves one of the trails. -/
theorem handle_trail (hrun : (pl.handle rx uc env req).1 = .ok h) : Trail h := by
  unfold handle at hrun
  cases hmatch : pl.router.matchRequest rx req.uri.path req.method req.headers with
  | error e =>
      simp only [hmatch] at hrun
      cases hrun
      exact .unmatched rfl rfl
  | ok m =>
      simp only [hmatch] at hrun
      exact handleMatched_trail hrun

end

end Pipeline

/-! ## Balance -/

/-- The label of a lookup that found a response. -/
def isHitLabel (labels : Str × Str) : Bool := labels.2 = "hit".toList

/-- What calls to the recorder count under a route, for so many requests on it, so many of
them hits and so many without an answer. -/
structure Balance (routeId : Str) (calls : List MetricCall) (matched hits unanswered : ℕ) :
    Prop where
  matched : matched =
    (calls.filterMap MetricCall.rejectedLabels).countP (fun l => l.1 = routeId) +
      (calls.filterMap MetricCall.authLabels).countP (fun l => l.1 = routeId) +
      (calls.filterMap MetricCall.deniedLabels).countP (fun l => l.1 = routeId) +
      (calls.filterMap MetricCall.lookupLabels).countP (fun l => l.1 = routeId)
  hits : (calls.filterMap MetricCall.lookupLabels).countP
    (fun l => l.1 = routeId && isHitLabel l) = hits
  passed : (calls.filterMap MetricCall.lookupLabels).countP
      (fun l => l.1 = routeId && !isHitLabel l) =
    (calls.filterMap MetricCall.upstreamLabels).countP (fun l => l.1 = routeId) + unanswered
  requests : ∀ cls, (calls.filterMap MetricCall.requestLabels).countP
      (fun l => l.1 = routeId && l.2.2 = cls) =
    (calls.filterMap MetricCall.upstreamLabels).countP (fun l => l.1 = routeId && l.2.2 = cls)

theorem isHitLabel_hit (routeId : Str) (entry : CachedResponse) :
    isHitLabel (routeId, (CacheLookup.hit entry).result) = true := rfl

theorem isHitLabel_other (routeId : Str) {found : CacheLookup} (h : ∀ entry, found ≠ .hit entry) :
    isHitLabel (routeId, found.result) = false := by
  cases found with
  | hit entry => exact absurd rfl (h entry)
  | miss => rfl
  | bypass => rfl

namespace Balance

section
variable {routeId : Str} {calls more : List MetricCall} {matched hits unanswered matched' hits'
  unanswered' : ℕ}

theorem append (h : Balance routeId calls matched hits unanswered)
    (h' : Balance routeId more matched' hits' unanswered') :
    Balance routeId (calls ++ more) (matched + matched') (hits + hits')
      (unanswered + unanswered') where
  matched := by
    simp only [List.filterMap_append, List.countP_append]
    have := h.matched
    have := h'.matched
    omega
  hits := by
    rw [List.filterMap_append, List.countP_append, h.hits, h'.hits]
  passed := by
    simp only [List.filterMap_append, List.countP_append, h.passed, h'.passed]
    omega
  requests := by
    intro cls
    rw [List.filterMap_append, List.countP_append, h.requests, h'.requests,
      List.filterMap_append, List.countP_append]

/-- The order of the calls does not matter. -/
theorem perm (h : Balance routeId calls matched hits unanswered) (hcalls : more.Perm calls) :
    Balance routeId more matched hits unanswered := by
  refine ⟨?_, ?_, ?_, ?_⟩
  · rw [(hcalls.filterMap _).countP_eq, (hcalls.filterMap _).countP_eq,
      (hcalls.filterMap _).countP_eq, (hcalls.filterMap _).countP_eq]
    exact h.matched
  · rw [(hcalls.filterMap _).countP_eq]
    exact h.hits
  · rw [(hcalls.filterMap _).countP_eq, (hcalls.filterMap _).countP_eq]
    exact h.passed
  · intro cls
    rw [(hcalls.filterMap _).countP_eq, (hcalls.filterMap _).countP_eq]
    exact h.requests cls

end

/-- The step lemma: the books of one request. -/
theorem of_trail {h : Handled} (trail : Trail h) (routeId : Str) :
    Balance routeId h.metrics ([h].countP (Handled.on routeId))
      ([h].countP fun h => h.on routeId && h.exit.isHit)
      ([h].countP fun h => h.on routeId && h.exit.isUnanswered) := by
  cases trail with
  | unmatched hroute hmetrics =>
      rw [hmetrics]
      constructor <;> simp [hroute]
  | rejected hroute hexit hmetrics =>
      rw [hmetrics]
      constructor <;> simp [hroute, hexit, HandleExit.isHit, HandleExit.isUnanswered,
        MetricCall.requestLabels, List.filterMap_cons, List.countP_cons]
  | unauthorized hroute hexit hmetrics =>
      rw [hmetrics]
      constructor <;> simp [hroute, hexit, HandleExit.isHit, HandleExit.isUnanswered,
        MetricCall.requestLabels, List.filterMap_cons, List.countP_cons]
  | denied hroute hexit hdenied hmetrics =>
      rw [hmetrics]
      constructor <;> simp [hroute, hexit, hdenied, HandleExit.isHit, HandleExit.isUnanswered,
        MetricCall.requestLabels, List.filterMap_cons, List.countP_cons]
  | hit hroute hexit hallowed hmetrics =>
      rw [hmetrics]
      constructor <;> simp [hroute, hexit, hallowed, HandleExit.isHit, HandleExit.isUnanswered,
        MetricCall.requestLabels, List.filterMap_cons, List.countP_cons, isHitLabel_hit]
  | unanswered hroute hunanswered hhit hallowed hfound hmetrics =>
      rw [hmetrics]
      constructor <;> simp [hroute, hunanswered, hhit, hallowed, MetricCall.requestLabels,
        List.filterMap_cons, List.countP_cons, isHitLabel_other _ hfound]
  | forwarded hroute hexit hallowed hfound hmetrics =>
      rw [hmetrics]
      constructor <;> simp [hroute, hexit, hallowed, HandleExit.isHit, HandleExit.isUnanswered,
        MetricCall.requestLabels, List.filterMap_cons, List.countP_cons,
        isHitLabel_other _ hfound]

/-- The run lemma. -/
theorem of_handled {handled : List Handled} (htrails : ∀ h ∈ handled, Trail h) (routeId : Str) :
    Balance routeId (handled.flatMap Handled.metrics) (handled.countP (Handled.on routeId))
      (handled.countP fun h => h.on routeId && h.exit.isHit)
      (handled.countP fun h => h.on routeId && h.exit.isUnanswered) := by
  induction handled with
  | nil => exact ⟨rfl, rfl, rfl, fun _ => rfl⟩
  | cons h handled ih =>
      obtain ⟨hfirst, hrest⟩ := List.forall_mem_cons.mp htrails
      have hboth := (of_trail hfirst routeId).append (ih hrest)
      rw [← List.countP_append, ← List.countP_append, ← List.countP_append] at hboth
      exact hboth

end Balance

/-- The books of a route, for the requests that were handled: what was matched went to one
counter each, what the cache did not have went on to the upstream, and each counter of requests
is that of the requests' own calls, one after the other. -/
structure BooksBalance (routeId : Str) (handled : List Handled) (m : RequestMetrics) : Prop where
  matched : handled.countP (Handled.on routeId) =
    m.concurrencyRejectedTotal.total (fun l => l.1 = routeId) +
      m.authFailuresTotal.total (fun l => l.1 = routeId) +
      m.rateLimitDeniedTotal.total (fun l => l.1 = routeId) +
      m.cacheLookupsTotal.total (fun l => l.1 = routeId)
  hits : m.cacheLookupsTotal.total (fun l => l.1 = routeId && isHitLabel l) =
    handled.countP fun h => h.on routeId && h.exit.isHit
  passed : m.cacheLookupsTotal.total (fun l => l.1 = routeId && !isHitLabel l) =
    m.upstreamRequestsTotal.total (fun l => l.1 = routeId) +
      handled.countP fun h => h.on routeId && h.exit.isUnanswered
  requests : ∀ cls, m.requestsTotal.total (fun l => l.1 = routeId && l.2.2 = cls) =
    m.upstreamRequestsTotal.total (fun l => l.1 = routeId && l.2.2 = cls)
  each : ∀ labels, m.requestsTotal.total (fun l => l = labels) =
    RequestsTotal.recordAll (fun _ => 0) (handled.flatMap Handled.metrics) labels

/-- **The books balance.** Of any requests that were handled, on whatever configs and in
whatever order their calls to the recorder came, under every route. -/
theorem books_balance {handled : List Handled} {calls : List MetricCall}
    (hhandled : ∀ h ∈ handled, ∃ (rx : RegexCrate) (uc : UriCrate) (pl : Pipeline)
      (env : HandleEnv) (req : Request), (pl.handle rx uc env req).1 = .ok h)
    (hcalls : calls.Perm (handled.flatMap Handled.metrics)) (routeId : Str) :
    BooksBalance routeId handled (RequestMetrics.new.recordAll calls) := by
  have htrails : ∀ h ∈ handled, Trail h := by
    intro h hh
    obtain ⟨rx, uc, pl, env, req, hrun⟩ := hhandled h hh
    exact Pipeline.handle_trail hrun
  have hbalance := (Balance.of_handled htrails routeId).perm hcalls
  have hcounts := RequestMetrics.counts_recordAll .new calls
  have hempty : ∀ {L : Type} [DecidableEq L] (p : L → Bool) (counted : List L),
      ((∅ : CounterVec L).incAll counted).total p = counted.countP p := by
    intro L _ p counted
    rw [CounterVec.total_incAll]
    exact Nat.zero_add _
  refine ⟨?_, ?_, ?_, ?_, ?_⟩
  · rw [hcounts.rejected, hcounts.auth, hcounts.denied, hcounts.lookups, RequestMetrics.new,
      hempty, hempty, hempty, hempty]
    exact hbalance.matched
  · rw [hcounts.lookups, RequestMetrics.new, hempty]
    exact hbalance.hits
  · rw [hcounts.lookups, hcounts.upstream, RequestMetrics.new, hempty, hempty]
    exact hbalance.passed
  · intro cls
    rw [hcounts.requests, hcounts.upstream, RequestMetrics.new, hempty, hempty]
    exact hbalance.requests cls
  · intro labels
    rw [RequestMetrics.requestsTotal_eq, RequestsTotal.recordAll_apply,
      RequestsTotal.recordAll_apply, (hcalls.filterMap _).count_eq]

/-- A request that is answered, and one that finds the server full and is recorded first. -/
theorem books_balance_two :
    ∃ answered rejected : Handled, answered.on "users".toList = true ∧
      rejected.on "users".toList = true ∧
      BooksBalance "users".toList [answered, rejected]
        (RequestMetrics.new.recordAll (rejected.metrics ++ answered.metrics)) := by
  obtain ⟨router, hrouter⟩ := cachedConfig_build
  obtain ⟨answered, hanswered, hroute⟩ : ∃ h, ((GatewayServer.initialPipeline cachedConfig
      router).handle .literal .plain (.answering ⟨200, .empty, []⟩)
      (.get "/users".toList .empty)).1 = .ok h ∧ h.route = some cachedRoute := by
    rw [Pipeline.handle_eq_handleMatched hrouter rfl]
    exact ⟨_, rfl, rfl⟩
  obtain ⟨rejected, hrejected, hroute'⟩ : ∃ h, ((GatewayServer.initialPipeline cachedConfig
      router).handle .literal .plain
      { HandleEnv.answering ⟨200, .empty, []⟩ with permit := .error .globalLimit }
      (.get "/users".toList .empty)).1 = .ok h ∧ h.route = some cachedRoute := by
    rw [Pipeline.handle_eq_handleMatched hrouter rfl]
    exact ⟨_, rfl, rfl⟩
  refine ⟨answered, rejected, ?_, ?_, books_balance ?_ ?_ _⟩
  · rw [Handled.on, hroute]
    rfl
  · rw [Handled.on, hroute']
    rfl
  · intro h hh
    rcases List.mem_cons.mp hh with rfl | hh
    · exact ⟨_, _, _, _, _, hanswered⟩
    · rw [List.mem_singleton] at hh
      exact ⟨_, _, _, _, _, hh ▸ hrejected⟩
  · simpa using List.perm_append_comm

end Stateform
