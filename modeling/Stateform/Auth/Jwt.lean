import Stateform.Auth.Context

/-!
# JWT verification

`jwt.rs`. Parsing and checking a token is the `jsonwebtoken` crate's work
(`JwtCrate`); which key and which validation it is given, and how the key set
is cached, is the gateway's. Times are nanoseconds.
-/

namespace Stateform

inductive Algorithm : Type where
  | hs256 | hs384 | hs512
  | es256 | es384
  | rs256 | rs384 | rs512
  | ps256 | ps384 | ps512
  | edDsa
deriving DecidableEq

/-- A single JSON Web Key. -/
structure Jwk : Type where
  keyId : Option Str
  keyType : Str
  n : Option Str
  e : Option Str
  x : Option Str
  y : Option Str
deriving DecidableEq

/-- A `DecodingKey`, by the texts it was made from. -/
inductive DecodingKey : Type where
  | rsa (n e : Str)
  | ec (x y : Str)
deriving DecidableEq

/-- A `Validation`; expiry and not-before are always checked. -/
structure JwtValidation : Type where
  alg : Algorithm
  audience : List Str
  issuers : List Str
deriving DecidableEq

/-- The `jsonwebtoken` crate: reading a token's header, checking the texts of a
key, and decoding a token under a key and a validation. -/
structure JwtCrate : Type where
  decodeHeader : Str → Except Str (Algorithm × Option Str)
  rsaComponents : Str → Str → Except Str Unit
  ecComponents : Str → Str → Except Str Unit
  decode : Str → DecodingKey → JwtValidation → Except Str Claims

/-! ## The key cache -/

structure KeyCache : Type where
  keys : List Jwk
  fetchedAt : ℕ
  ttl : ℕ
deriving DecidableEq

namespace KeyCache

def isExpired (c : KeyCache) (now : ℕ) : Bool := decide (c.ttl * 10 ^ 9 < now - c.fetchedAt)

def findKey (c : KeyCache) (kid : Option Str) : Option Jwk :=
  match kid with
  | some kid => c.keys.find? fun k => k.keyId = some kid
  | none => c.keys.head?

end KeyCache

/-- What one call meets: the time of the read-locked check, the time the write
lock is held, and the outcome of a fetch with the time it is stored at. -/
structure KeyEnv : Type where
  now : ℕ
  lockedAt : ℕ
  fetched : Except Str (List Jwk)
  fetchedAt : ℕ

/-- `found.ok_or_else(|| UnknownKid(..))`. -/
def keyOrUnknown (kid : Option Str) : Option Jwk → Except AuthError Jwk
  | some jwk => .ok jwk
  | none => .error (.unknownKid (kid.getD "(none)".toList))

/-- The answer of a cache that has not expired. -/
def cachedKey (cache : Option KeyCache) (now : ℕ) (kid : Option Str) :
    Option (Except AuthError Jwk) :=
  match cache with
  | some c => if c.isExpired now then none else some (keyOrUnknown kid (c.findKey kid))
  | none => none

/-- The write-locked half of `get_key`. -/
def refreshKey (cfg : JwtConfig) (env : KeyEnv) (cache : Option KeyCache) (kid : Option Str) :
    Except AuthError Jwk × Option KeyCache :=
  match cachedKey cache env.lockedAt kid with
  | some answer => (answer, cache)
  | none =>
      match env.fetched with
      | .ok keys =>
          (keyOrUnknown kid (keys.find? fun k => k.keyId = kid),
            some ⟨keys, env.fetchedAt, cfg.jwksCacheTtl⟩)
      | .error e =>
          -- a failed fetch is answered from the stale keys, if there are any
          match cache with
          | some c => (keyOrUnknown kid (c.findKey kid), cache)
          | none => (.error (.jwksFetch e), none)

/-- `JwtProvider::get_key`. -/
def getKey (cfg : JwtConfig) (env : KeyEnv) (cache : Option KeyCache) (kid : Option Str) :
    Except AuthError Jwk × Option KeyCache :=
  match cachedKey cache env.now kid with
  | some answer => (answer, cache)
  | none => refreshKey cfg env cache kid

/-! ## Tokens -/

def extractBearer (headers : HeaderMap) : Except AuthError Str :=
  match headers.get "authorization".toList with
  | none => .error .missingToken
  | some value =>
      match value.toStr with
      | none => .error .missingToken
      | some value =>
          match stripPrefix value "Bearer ".toList with
          | none => .error .missingToken
          | some token => .ok token

/-- A component of a key, or the error that names it. -/
def requireComponent (message : String) : Option Str → Except AuthError Str
  | some text => .ok text
  | none => .error (.invalidToken message.toList)

def jwkToDecodingKey (jc : JwtCrate) (jwk : Jwk) : Except AuthError DecodingKey :=
  if jwk.keyType = "RSA".toList then do
    let n ← requireComponent "RSA JWK missing `n`" jwk.n
    let e ← requireComponent "RSA JWK missing `e`" jwk.e
    match jc.rsaComponents n e with
    | .ok () => .ok (.rsa n e)
    | .error err => .error (.invalidToken ("RSA key error: ".toList ++ err))
  else if jwk.keyType = "EC".toList then do
    let x ← requireComponent "EC JWK missing `x`" jwk.x
    let y ← requireComponent "EC JWK missing `y`" jwk.y
    match jc.ecComponents x y with
    | .ok () => .ok (.ec x y)
    | .error err => .error (.invalidToken ("EC key error: ".toList ++ err))
  else .error (.invalidToken ("unsupported key type: ".toList ++ jwk.keyType))

/-- Symmetric algorithms are replaced, so that their tokens fail. -/
def buildValidation (cfg : JwtConfig) (alg : Algorithm) : JwtValidation :=
  let safeAlg := match alg with
    | .hs256 | .hs384 | .hs512 => .rs256
    | a => a
  ⟨safeAlg, cfg.audience, cfg.issuers⟩

/-- `JwtProvider::validate_token`. -/
def validateToken (jc : JwtCrate) (cfg : JwtConfig) (env : KeyEnv) (cache : Option KeyCache)
    (token : Str) : Except AuthError Claims × Option KeyCache :=
  match jc.decodeHeader token with
  | .error e => (.error (.invalidToken ("malformed header: ".toList ++ e)), cache)
  | .ok (alg, kid) =>
      let (key, cache) := getKey cfg env cache kid
      (do
        let jwk ← key
        let decodingKey ← jwkToDecodingKey jc jwk
        match jc.decode token decodingKey (buildValidation cfg alg) with
        | .ok claims => .ok claims
        | .error e => .error (.invalidToken e), cache)

/-- `JwtProvider::verify`. -/
def jwtVerify (jc : JwtCrate) (cfg : JwtConfig) (env : KeyEnv) (cache : Option KeyCache)
    (headers : HeaderMap) : Except AuthError Claims × Option KeyCache :=
  match extractBearer headers with
  | .error e => (.error e, cache)
  | .ok token => validateToken jc cfg env cache token

/-! ## What verified claims come from -/

/-- **Verified claims are the claims of the request's own token**, decoded under
a key `get_key` gave and an asymmetric validation with the configured audience
and issuers. -/
theorem jwtVerify_eq_ok {jc : JwtCrate} {cfg : JwtConfig} {env : KeyEnv} {cache : Option KeyCache}
    {headers : HeaderMap} {claims : Claims}
    (h : (jwtVerify jc cfg env cache headers).1 = .ok claims) :
    ∃ token alg kid jwk key, extractBearer headers = .ok token ∧
      jc.decodeHeader token = .ok (alg, kid) ∧ (getKey cfg env cache kid).1 = .ok jwk ∧
      jwkToDecodingKey jc jwk = .ok key ∧
      jc.decode token key (buildValidation cfg alg) = .ok claims := by
  unfold jwtVerify at h
  cases htoken : extractBearer headers with
  | error e => simp [htoken] at h
  | ok token =>
      simp only [htoken, validateToken] at h
      cases hheader : jc.decodeHeader token with
      | error e => simp [hheader] at h
      | ok header =>
          obtain ⟨alg, kid⟩ := header
          simp only [hheader] at h
          cases hjwk : (getKey cfg env cache kid).1 with
          | error e => simp [hjwk, bind, Except.bind] at h
          | ok jwk =>
              cases hkey : jwkToDecodingKey jc jwk with
              | error e => simp [hjwk, hkey, bind, Except.bind] at h
              | ok key =>
                  cases hdec : jc.decode token key (buildValidation cfg alg) with
                  | error e => simp [hjwk, hkey, hdec, bind, Except.bind] at h
                  | ok claims' =>
                      obtain rfl : claims' = claims := by
                        simpa [hjwk, hkey, hdec, bind, Except.bind] using h
                      exact ⟨token, alg, kid, jwk, key, rfl, hheader, hjwk, hkey, hdec⟩

end Stateform
