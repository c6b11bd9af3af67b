import Stateform.Auth.Jwt
import Stateform.Auth.Credentials

/-!
# The auth pipeline

`pipeline.rs` of `gateway-auth`: the enabled providers, in the order JWT, API
key, mTLS, the first failure returning. The result of the module says when a
successful run stands for a verified credential of every enabled mechanism
(`run_verifies_iff`): the client certificate is the one that may be missing.
-/

namespace Stateform

structure AuthPipeline : Type where
  config : AuthConfig
  keyCache : Option KeyCache
deriving DecidableEq

/-- What lies outside of the pipeline during one run. -/
structure AuthEnv : Type where
  jwt : JwtCrate
  keys : KeyEnv
  apiKeys : ApiKeyStore

/-- The local variables of `run`. -/
structure AuthRun : Type where
  mechanisms : List AuthMechanism
  subject : Option Str
  jwtClaims : Option Claims
  peerIdentity : Option PeerIdentity
deriving DecidableEq

def AuthMiddlewareConfig.enables (cfg : AuthMiddlewareConfig) : AuthMechanism → Bool
  | .jwt => cfg.jwt
  | .apiKey => cfg.apiKey
  | .mtls => cfg.mtls

namespace AuthPipeline

/-- `AuthPipeline::new`. -/
def new (config : AuthConfig) : AuthPipeline := ⟨config, none⟩

section
variable (p : AuthPipeline) (env : AuthEnv)

def jwtVerify (headers : HeaderMap) : Except AuthError Claims × Option KeyCache :=
  Stateform.jwtVerify env.jwt p.config.jwt env.keys p.keyCache headers

def apiKeyVerify (headers : HeaderMap) : Except AuthError ApiKeyRecord :=
  Stateform.apiKeyVerify env.apiKeys p.config.apiKeys headers

def mtlsVerify (peer : Option (List UInt8)) : Except AuthError (Option PeerIdentity) :=
  Stateform.mtlsVerify p.config.mtls peer

def jwtStage (cfg : AuthMiddlewareConfig) (headers : HeaderMap) (r : AuthRun) :
    Except AuthError AuthRun :=
  if cfg.jwt then do
    let claims ← (p.jwtVerify env headers).1
    return { r with
      subject := some claims.sub
      jwtClaims := some claims
      mechanisms := r.mechanisms ++ [.jwt] }
  else .ok r

/-- A JWT subject is kept. -/
def apiKeyStage (cfg : AuthMiddlewareConfig) (headers : HeaderMap) (r : AuthRun) :
    Except AuthError AuthRun :=
  if cfg.apiKey then do
    let record ← p.apiKeyVerify env headers
    return { r with
      subject := r.subject.or (some record.subject)
      mechanisms := r.mechanisms ++ [.apiKey] }
  else .ok r

/-- The mechanism is pushed whether or not there was a certificate. -/
def mtlsStage (cfg : AuthMiddlewareConfig) (peer : Option (List UInt8)) (r : AuthRun) :
    Except AuthError AuthRun :=
  if cfg.mtls then do
    let identity ← p.mtlsVerify peer
    return { r with
      subject := r.subject.or (identity.map PeerIdentity.subjectDn)
      peerIdentity := identity
      mechanisms := r.mechanisms ++ [.mtls] }
  else .ok r

/-- The three stages of `run`, for a route with some mechanism enabled. -/
def verifyEnabled (cfg : AuthMiddlewareConfig) (headers : HeaderMap)
    (peer : Option (List UInt8)) : Except AuthError AuthContext := do
  let r ← p.jwtStage env cfg headers ⟨[], none, none, none⟩
  let r ← p.apiKeyStage env cfg headers r
  let r ← p.mtlsStage cfg peer r
  return ⟨r.subject.getD "(anonymous)".toList, r.mechanisms, r.jwtClaims, r.peerIdentity⟩

/-- `AuthPipeline::run`. Only the JWT provider keeps state: its key cache. -/
def run (middleware : Option AuthMiddlewareConfig) (headers : HeaderMap)
    (peer : Option (List UInt8)) : Except AuthError (Option AuthContext) × AuthPipeline :=
  match middleware with
  | none => (.ok none, p)
  | some cfg =>
      if !cfg.jwt && !cfg.apiKey && !cfg.mtls then (.ok none, p)
      else
        ((p.verifyEnabled env cfg headers peer).map some,
          if cfg.jwt then { p with keyCache := (p.jwtVerify env headers).2 } else p)

end

/-! ## What a successful run did -/

section
variable {p : AuthPipeline} {env : AuthEnv} {cfg : AuthMiddlewareConfig} {headers : HeaderMap}
  {peer : Option (List UInt8)} {ctx : AuthContext}

theorem mtlsVerify_eq_ok {identity : Option PeerIdentity} :
    p.mtlsVerify peer = .ok identity ↔
      (peer = none → p.config.mtls.required = false) ∧ identity = peer.map extractIdentity := by
  unfold mtlsVerify Stateform.mtlsVerify
  cases peer with
  | some der =>
      simp only [Except.ok.injEq, reduceCtorEq, false_implies, true_and, Option.map_some]
      exact eq_comm
  | none =>
      by_cases h : p.config.mtls.required = true
      · simp [h]
      · simp only [h, Bool.false_eq_true, ↓reduceIte, Except.ok.injEq, implies_true, true_and,
          Option.map_none]
        exact eq_comm

theorem jwtStage_eq_ok {r r' : AuthRun} :
    p.jwtStage env cfg headers r = .ok r' ↔
      (cfg.jwt = false ∧ r' = r) ∨
      (cfg.jwt = true ∧ ∃ claims, (p.jwtVerify env headers).1 = .ok claims ∧
        r' = { r with
          subject := some claims.sub
          jwtClaims := some claims
          mechanisms := r.mechanisms ++ [.jwt] }) := by
  unfold jwtStage
  cases cfg.jwt
  · simp [eq_comm (b := r')]
  · cases (p.jwtVerify env headers).1 <;>
      simp [bind, Except.bind, pure, Except.pure, eq_comm (b := r')]

theorem apiKeyStage_eq_ok {r r' : AuthRun} :
    p.apiKeyStage env cfg headers r = .ok r' ↔
      (cfg.apiKey = false ∧ r' = r) ∨
      (cfg.apiKey = true ∧ ∃ record, p.apiKeyVerify env headers = .ok record ∧
        r' = { r with
          subject := r.subject.or (some record.subject)
          mechanisms := r.mechanisms ++ [.apiKey] }) := by
  unfold apiKeyStage
  cases cfg.apiKey
  · simp [eq_comm (b := r')]
  · cases p.apiKeyVerify env headers <;>
      simp [bind, Except.bind, pure, Except.pure, eq_comm (b := r')]

theorem mtlsStage_eq_ok {r r' : AuthRun} :
    p.mtlsStage cfg peer r = .ok r' ↔
      (cfg.mtls = false ∧ r' = r) ∨
      (cfg.mtls = true ∧ (peer = none → p.config.mtls.required = false) ∧
        r' = { r with
          subject := r.subject.or ((peer.map extractIdentity).map PeerIdentity.subjectDn)
          peerIdentity := peer.map extractIdentity
          mechanisms := r.mechanisms ++ [.mtls] }) := by
  unfold mtlsStage
  cases cfg.mtls
  · simp [eq_comm (b := r')]
  · cases hv : p.mtlsVerify peer with
    | error e =>
        refine ⟨nofun, ?_⟩
        rintro (⟨h, -⟩ | ⟨-, hreq, -⟩)
        · simp at h
        · exact nomatch hv.symm.trans (mtlsVerify_eq_ok.mpr ⟨hreq, rfl⟩)
    | ok identity =>
        rcases mtlsVerify_eq_ok.mp hv with ⟨hreq, rfl⟩
        have hr : ∀ x : AuthRun, Except.ok (ε := AuthError) x = .ok r' ↔ r' = x := by
          intro x
          rw [Except.ok.injEq, eq_comm]
        constructor
        · intro h
          exact .inr ⟨rfl, hreq, (hr _).mp h⟩
        · rintro (⟨h, -⟩ | ⟨-, -, h⟩)
          · simp at h
          · exact (hr _).mpr h

/-- What the context of a successful run says about the providers. -/
structure RunOk (p : AuthPipeline) (env : AuthEnv) (cfg : AuthMiddlewareConfig)
    (headers : HeaderMap) (peer : Option (List UInt8)) (ctx : AuthContext) : Prop where
  mechanisms : ∀ mech, mech ∈ ctx.mechanisms ↔ cfg.enables mech = true
  jwt : cfg.jwt = true → ∃ claims, (p.jwtVerify env headers).1 = .ok claims ∧
    ctx.claims = some claims ∧ ctx.subject = claims.sub
  apiKey : cfg.apiKey = true → ∃ record, p.apiKeyVerify env headers = .ok record
  mtls : cfg.mtls = true → (peer = none → p.config.mtls.required = false) ∧
    ctx.peerIdentity = peer.map extractIdentity

theorem verifyEnabled_eq_ok (h : p.verifyEnabled env cfg headers peer = .ok ctx) :
    RunOk p env cfg headers peer ctx := by
  unfold verifyEnabled at h
  cases hj : p.jwtStage env cfg headers ⟨[], none, none, none⟩ with
  | error e => simp [hj, bind, Except.bind] at h
  | ok r₁ =>
  cases ha : p.apiKeyStage env cfg headers r₁ with
  | error e => simp [hj, ha, bind, Except.bind] at h
  | ok r₂ =>
  cases hm : p.mtlsStage cfg peer r₂ with
  | error e => simp [hj, ha, hm, bind, Except.bind] at h
  | ok r₃ =>
  obtain rfl := by simpa [hj, ha, hm, bind, Except.bind, pure, Except.pure] using h
  rcases jwtStage_eq_ok.mp hj with ⟨hjwt, rfl⟩ | ⟨hjwt, claims, hclaims, rfl⟩ <;>
    rcases apiKeyStage_eq_ok.mp ha with ⟨hkey, rfl⟩ | ⟨hkey, record, hrecord, rfl⟩ <;>
      rcases mtlsStage_eq_ok.mp hm with ⟨hmtls, rfl⟩ | ⟨hmtls, hreq, rfl⟩ <;>
        refine ⟨fun mech => ?_, fun _ => ?_, fun _ => ?_, fun _ => ?_⟩ <;>
          first
          | (cases mech <;> simp [AuthMiddlewareConfig.enables, hjwt, hkey, hmtls])
          | exact ⟨claims, hclaims, rfl, rfl⟩
          | exact ⟨record, hrecord⟩
          | exact ⟨hreq, rfl⟩
          | simp_all

/-- Whether the enabled providers answer `Ok` is decided by the providers
alone. -/
theorem verifyEnabled_ok_iff :
    (∃ ctx, p.verifyEnabled env cfg headers peer = .ok ctx) ↔
      (cfg.jwt = true → ∃ claims, (p.jwtVerify env headers).1 = .ok claims) ∧
      (cfg.apiKey = true → ∃ record, p.apiKeyVerify env headers = .ok record) ∧
      (cfg.mtls = true → peer = none → p.config.mtls.required = false) := by
  constructor
  · rintro ⟨ctx, h⟩
    have hok := verifyEnabled_eq_ok h
    refine ⟨?_, hok.apiKey, ?_⟩
    · intro hjwt
      rcases hok.jwt hjwt with ⟨claims, hclaims, -⟩
      exact ⟨claims, hclaims⟩
    · intro hmtls
      exact (hok.mtls hmtls).1
  · rintro ⟨hjwt, hkey, hmtls⟩
    obtain ⟨r₁, hj⟩ : ∃ r₁, p.jwtStage env cfg headers ⟨[], none, none, none⟩ = .ok r₁ := by
      by_cases h : cfg.jwt = true
      · rcases hjwt h with ⟨claims, hclaims⟩
        exact ⟨_, jwtStage_eq_ok.mpr (.inr ⟨h, claims, hclaims, rfl⟩)⟩
      · exact ⟨_, jwtStage_eq_ok.mpr (.inl ⟨by simpa using h, rfl⟩)⟩
    obtain ⟨r₂, ha⟩ : ∃ r₂, p.apiKeyStage env cfg headers r₁ = .ok r₂ := by
      by_cases h : cfg.apiKey = true
      · rcases hkey h with ⟨record, hrecord⟩
        exact ⟨_, apiKeyStage_eq_ok.mpr (.inr ⟨h, record, hrecord, rfl⟩)⟩
      · exact ⟨_, apiKeyStage_eq_ok.mpr (.inl ⟨by simpa using h, rfl⟩)⟩
    obtain ⟨r₃, hm⟩ : ∃ r₃, p.mtlsStage cfg peer r₂ = .ok r₃ := by
      by_cases h : cfg.mtls = true
      · exact ⟨_, mtlsStage_eq_ok.mpr (.inr ⟨h, hmtls h, rfl⟩)⟩
      · exact ⟨_, mtlsStage_eq_ok.mpr (.inl ⟨by simpa using h, rfl⟩)⟩
    exact ⟨_, by simp only [verifyEnabled, hj, ha, hm, bind, Except.bind]; rfl⟩

/-- A run that attaches a context went through the enabled providers. -/
theorem run_eq_ok_some {middleware : Option AuthMiddlewareConfig} :
    (p.run env middleware headers peer).1 = .ok (some ctx) ↔
      ∃ cfg, middleware = some cfg ∧ (∃ mech, cfg.enables mech = true) ∧
        p.verifyEnabled env cfg headers peer = .ok ctx := by
  have hany : ∀ cfg : AuthMiddlewareConfig, (∃ mech, cfg.enables mech = true) ↔
      (!cfg.jwt && !cfg.apiKey && !cfg.mtls) = false := by
    rintro ⟨jwt, apiKey, mtls⟩
    constructor
    · rintro ⟨mech, h⟩
      cases mech <;> simp_all [AuthMiddlewareConfig.enables]
    · cases jwt <;> cases apiKey <;> cases mtls <;> intro h
      · simp at h
      · exact ⟨.mtls, rfl⟩
      · exact ⟨.apiKey, rfl⟩
      · exact ⟨.apiKey, rfl⟩
      all_goals exact ⟨.jwt, rfl⟩
  unfold run
  cases middleware with
  | none => simp
  | some cfg =>
      simp only [Option.some.injEq, exists_eq_left', hany]
      cases (!cfg.jwt && !cfg.apiKey && !cfg.mtls) with
      | true => simp
      | false => cases p.verifyEnabled env cfg headers peer <;> simp [Except.map]

end

/-! ## A verified credential for every mechanism -/

/-- A credential of the kind was verified on this request, and the context
carries what it says. -/
def CredentialVerified (p : AuthPipeline) (env : AuthEnv) (headers : HeaderMap)
    (peer : Option (List UInt8)) (ctx : AuthContext) : AuthMechanism → Prop
  | .jwt => ∃ claims, (p.jwtVerify env headers).1 = .ok claims ∧ ctx.claims = some claims
  | .apiKey => ∃ record, p.apiKeyVerify env headers = .ok record ∧ record.active = true
  | .mtls => ∃ der, peer = some der ∧ ctx.peerIdentity = some (extractIdentity der)

/-- Every mechanism that the route enables, or the context lists, was verified. -/
def RunVerifies (p : AuthPipeline) (env : AuthEnv) (middleware : Option AuthMiddlewareConfig)
    (headers : HeaderMap) (peer : Option (List UInt8)) : Prop :=
  ∀ ctx, (p.run env middleware headers peer).1 = .ok (some ctx) →
    ∀ cfg, middleware = some cfg → ∀ mech,
      (cfg.enables mech = true ∨ mech ∈ ctx.mechanisms) →
        p.CredentialVerified env headers peer ctx mech

/-- Where mTLS is enabled, a missing certificate cannot get through: one is
required, or is there, or an enabled JWT or API key check fails anyway. -/
def MtlsBacked (p : AuthPipeline) (env : AuthEnv) (middleware : Option AuthMiddlewareConfig)
    (headers : HeaderMap) (peer : Option (List UInt8)) : Prop :=
  ∀ cfg, middleware = some cfg → cfg.mtls = true →
    p.config.mtls.required = true ∨ peer.isSome = true ∨
    (cfg.jwt = true ∧ ∃ e, (p.jwtVerify env headers).1 = .error e) ∨
    (cfg.apiKey = true ∧ ∃ e, p.apiKeyVerify env headers = .error e)

section
variable {p : AuthPipeline} {env : AuthEnv} {headers : HeaderMap} {peer : Option (List UInt8)}

theorem not_ok_iff_error {ε α : Type} {x : Except ε α} : (¬ ∃ a, x = .ok a) ↔ ∃ e, x = .error e := by
  cases x <;> simp

/-- Without a certificate an mTLS route is entered exactly when it is not
`MtlsBacked`. -/
theorem mtls_entered_iff {cfg : AuthMiddlewareConfig} (hmtls : cfg.mtls = true) :
    (∃ ctx, p.verifyEnabled env cfg headers none = .ok ctx) ↔
      ¬ p.MtlsBacked env (some cfg) headers none := by
  have hbacked : p.MtlsBacked env (some cfg) headers none ↔
      p.config.mtls.required = true ∨
      (cfg.jwt = true ∧ ∃ e, (p.jwtVerify env headers).1 = .error e) ∨
      (cfg.apiKey = true ∧ ∃ e, p.apiKeyVerify env headers = .error e) := by
    simp [MtlsBacked, hmtls]
  rw [verifyEnabled_ok_iff, hbacked]
  simp only [← not_ok_iff_error]
  cases p.config.mtls.required <;> simp [hmtls]

end

/-- **A run vouches for every enabled mechanism exactly when mTLS is backed.** -/
theorem run_verifies_iff (p : AuthPipeline) (env : AuthEnv)
    (middleware : Option AuthMiddlewareConfig) (headers : HeaderMap)
    (peer : Option (List UInt8)) :
    p.RunVerifies env middleware headers peer ↔ p.MtlsBacked env middleware headers peer := by
  constructor
  · rintro hverifies cfg rfl hmtls
    cases peer with
    | some der => simp
    | none =>
        by_contra hnot
        have hbacked : ¬ p.MtlsBacked env (some cfg) headers none := by
          intro h
          exact hnot (h cfg rfl hmtls)
        rcases (mtls_entered_iff hmtls).mpr hbacked with ⟨ctx, hctx⟩
        have hrun := run_eq_ok_some.mpr ⟨cfg, rfl, ⟨.mtls, hmtls⟩, hctx⟩
        rcases hverifies ctx hrun cfg rfl .mtls (.inl hmtls) with ⟨der, hder, -⟩
        simp at hder
  · intro hbacked ctx hrun cfg hcfg mech hmech
    rcases run_eq_ok_some.mp hrun with ⟨cfg', hcfg', -, hctx⟩
    obtain rfl : cfg' = cfg := by
      rw [hcfg'] at hcfg
      exact Option.some.inj hcfg
    have hok := verifyEnabled_eq_ok hctx
    have henabled : cfg'.enables mech = true := hmech.elim id (hok.mechanisms mech).mp
    cases mech with
    | jwt =>
        rcases hok.jwt henabled with ⟨claims, hclaims, hctxClaims, -⟩
        exact ⟨claims, hclaims, hctxClaims⟩
    | apiKey =>
        rcases hok.apiKey henabled with ⟨record, hrecord⟩
        exact ⟨record, hrecord, (apiKeyVerify_eq_ok hrecord).1⟩
    | mtls =>
        rcases hok.mtls henabled with ⟨hreq, hident⟩
        cases peer with
        | some der => exact ⟨der, rfl, hident⟩
        | none =>
            subst hcfg'
            exact absurd hbacked ((mtls_entered_iff henabled).mp ⟨ctx, hctx⟩)

/-- The libraries on a request that carries neither a token nor a key: no token
is read, no key is found. -/
def bareEnv : AuthEnv where
  jwt := ⟨fun _ => .error "InvalidToken".toList, fun _ _ => .ok (), fun _ _ => .ok (),
    fun _ _ _ => .error "InvalidToken".toList⟩
  keys := ⟨0, 0, .ok [], 0⟩
  apiKeys := ⟨fun _ => .ok none, fun _ => .error "EOF while parsing a value".toList⟩

/-- A gateway whose client certificates are optional. -/
def optionalMtls : AuthPipeline := .new (GatewayConfig.withRoutes []).auth

/-- A request with no credential at all, on a route that enables mTLS, gets an
anonymous context that lists mTLS as passed. -/
theorem anonymous_mtls_run :
    (optionalMtls.run bareEnv (some ⟨false, false, true⟩) .empty none).1 =
        .ok (some ⟨"(anonymous)".toList, [.mtls], none, none⟩) ∧
      ¬ optionalMtls.RunVerifies bareEnv (some ⟨false, false, true⟩) .empty none := by
  have hrun : (optionalMtls.run bareEnv (some ⟨false, false, true⟩) .empty none).1 =
      .ok (some ⟨"(anonymous)".toList, [.mtls], none, none⟩) := rfl
  refine ⟨hrun, ?_⟩
  intro h
  rcases h _ hrun _ rfl .mtls (.inl rfl) with ⟨der, hder, -⟩
  simp at hder

end AuthPipeline

end Stateform
