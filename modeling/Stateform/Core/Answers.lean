import Stateform.Core.HeaderValues
import Stateform.Core.StoreKey

/-!
# The response of each stage

Which builder made the response of a request is settled by the stage the request ended in
(`handle_answers`). The responses of one exchange are made by two of them: that of a route's
miss from the upstream's response, that of a hit from the copy stored of it.
-/

namespace Stateform

open Library

/-- The stages that end in an error response. -/
def HandleExit.Failed : HandleExit → Prop
  | .noRoute | .authFailed _ | .upstreamMissing | .upstreamFailed _ => True
  | _ => False

/-- The response that is made of an upstream's, on a route. -/
def forwardedResponse (resp : Response) (route : RouteConfig) (requestId : Str) : Response :=
  { buildUpstreamResponse resp route.headers with
    headers := injectRequestId (buildUpstreamResponse resp route.headers).headers requestId }

/-- The response that is made of an entry. -/
def replayedResponse (entry : CachedResponse) (now : ℕ) (requestId : Str) : Response :=
  { buildCachedResponse entry now with
    headers := injectRequestId (buildCachedResponse entry now).headers requestId }

/-- The response of a request that is over its limit. -/
def limitedResponse (outcome : RateLimitOutcome) (requestId : Str) : Response :=
  let resp := errorResponse 429 "rate limit exceeded".toList requestId
  { resp with headers := resp.headers.insertAll outcome.toHeaders }

/-- The response of a handled request, by the stage it ended in. -/
inductive Answers (requestId : Str) (ageNow : ℕ) (h : Handled) : Prop where
  | failed {status : ℕ} {message : Str} : h.exit.Failed →
      h.response = errorResponse status message requestId → Answers requestId ageNow h
  | refused {why : AcquireRefusal} : h.exit = .refused why →
      h.response = serviceUnavailable why.message → Answers requestId ageNow h
  | rateLimited {outcome : RateLimitOutcome} : h.exit = .rateLimited →
      h.response = limitedResponse outcome requestId → Answers requestId ageNow h
  | cacheHit {entry : CachedResponse} : h.exit = .cacheHit entry →
      h.response = replayedResponse entry ageNow requestId → Answers requestId ageNow h
  | forwarded {resp : Response} {route : RouteConfig} : h.exit = .forwarded resp →
      h.route = some route → h.response = forwardedResponse resp route requestId →
      Answers requestId ageNow h

namespace Pipeline

section
variable {rx : RegexCrate} {uc : UriCrate} {pl : Pipeline} {env : HandleEnv} {req : Request}
  {requestId : Str} {route : RouteConfig} {ctx : Option AuthContext} {sofar h : Handled}

theorem forward_answers
    (hrun : (forward uc env req requestId pl route sofar).1 = .ok h)
    (hroute : sofar.route = some route) :
    Answers requestId env.ageNow h := by
  unfold forward at hrun
  cases hup : pl.upstreams.get route.upstream with
  | none =>
      simp only [hup] at hrun
      cases hrun
      exact .failed trivial rfl
  | some upstream =>
      simp only [hup] at hrun
      cases hsend : upstream.send uc env.send (applyRequestMutations req route.headers)
          (hashKeyOf route upstream req.headers) with
      | error p =>
          simp only [hsend] at hrun
          cases hrun
      | ok result =>
          cases result with
          | error e =>
              simp only [hsend] at hrun
              cases hrun
              exact .failed trivial rfl
          | ok resp =>
              simp only [hsend] at hrun
              cases hrun
              exact .forwarded rfl hroute rfl

theorem serve_answers
    (hrun : (serve uc env req requestId pl route sofar).1 = .ok h)
    (hroute : sofar.route = some route) :
    Answers requestId env.ageNow h := by
  unfold serve at hrun
  cases hfound : pl.cache.lookup env.lookup (cacheRequest route req) with
  | mk found cache =>
  rw [hfound] at hrun
  cases found with
  | hit entry =>
      cases hrun
      exact .cacheHit rfl rfl
  | miss => exact forward_answers hrun hroute
  | bypass => exact forward_answers hrun hroute

theorem limit_answers
    (hrun : (limit uc env req requestId pl route ctx sofar).1 = .ok h)
    (hroute : sofar.route = some route) :
    Answers requestId env.ageNow h := by
  unfold limit at hrun
  cases hcheck : pl.ratelimit.check env.check route.middleware.rateLimit route.id ctx
      req.headers with
  | mk checked ratelimit =>
  simp only [hcheck] at hrun
  -- an error of the limiter lets the request pass
  cases hallowed : (failOpen checked).allowed with
  | false =>
      simp only [hallowed, Bool.not_false, ↓reduceIte] at hrun
      cases hrun
      exact @Answers.rateLimited _ _ _ (failOpen checked) rfl rfl
  | true =>
      simp only [hallowed, Bool.not_true, Bool.false_eq_true, ↓reduceIte] at hrun
      exact serve_answers hrun hroute

theorem handleMatched_answers
    (hrun : (handleMatched uc env req requestId pl route).1 = .ok h) :
    Answers requestId env.ageNow h := by
  unfold handleMatched at hrun
  cases hpermit : env.permit with
  | error why =>
      simp only [hpermit] at hrun
      cases hrun
      exact .refused rfl rfl
  | ok u =>
      simp only [hpermit, authenticate] at hrun
      cases hauth : pl.auth.run env.auth route.middleware.auth req.headers
          req.peerCertificate with
      | mk result auth =>
      simp only [hauth] at hrun
      cases result with
      | error e =>
          cases hrun
          exact .failed trivial rfl
      | ok ctx => exact limit_answers hrun rfl

/-- **Answers.** The response of a handled request is that of the stage it ended in. -/
theorem handle_answers (hrun : (handle rx uc pl env req).1 = .ok h) :
    Answers (requestIdOf env req) env.ageNow h := by
  unfold handle at hrun
  cases hmatch : pl.router.matchRequest rx req.uri.path req.method req.headers with
  | error e =>
      simp only [hmatch] at hrun
      cases hrun
      exact .failed trivial rfl
  | ok m =>
      simp only [hmatch] at hrun
      exact handleMatched_answers hrun

theorem handle_forwarded_response {resp : Response} (hrun : (handle rx uc pl env req).1 = .ok h)
    (hexit : h.exit = .forwarded resp) (hroute : h.route = some route) :
    h.response = forwardedResponse resp route (requestIdOf env req) := by
  cases handle_answers hrun with
  | failed hfailed =>
      rw [hexit] at hfailed
      exact hfailed.elim
  | refused hexit' => cases hexit.symm.trans hexit'
  | rateLimited hexit' => cases hexit.symm.trans hexit'
  | cacheHit hexit' => cases hexit.symm.trans hexit'
  | forwarded hexit' hroute' hresponse =>
      cases hexit.symm.trans hexit'
      cases hroute.symm.trans hroute'
      exact hresponse

theorem handle_replayed_response {entry : CachedResponse}
    (hrun : (handle rx uc pl env req).1 = .ok h) (hexit : h.exit = .cacheHit entry) :
    h.response = replayedResponse entry env.ageNow (requestIdOf env req) := by
  cases handle_answers hrun with
  | failed hfailed =>
      rw [hexit] at hfailed
      exact hfailed.elim
  | refused hexit' => cases hexit.symm.trans hexit'
  | rateLimited hexit' => cases hexit.symm.trans hexit'
  | cacheHit hexit' hresponse =>
      cases hexit.symm.trans hexit'
      exact hresponse
  | forwarded hexit' => cases hexit.symm.trans hexit'

end

end Pipeline

end Stateform
