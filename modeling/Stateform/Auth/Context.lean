import Stateform.Config.Schema

/-!
# Auth errors and the verified identity

`error.rs` and `context.rs`.
-/

namespace Stateform

inductive AuthError : Type where
  | jwksFetch (message : Str)
  | unknownKid (kid : Str)
  | invalidToken (message : Str)
  | missingToken
  | invalidApiKey
  | missingApiKey
  | apiKeyStore (message : Str)
  | missingClientCert
  | invalidClientCert (message : Str)
  | noProviderEnabled
  | config (message : Str)
deriving DecidableEq

namespace AuthError

/-- `Display`. -/
def toText : AuthError → Str
  | .jwksFetch m => "JWKS fetch failed: ".toList ++ m
  | .unknownKid m => "unknown key ID: ".toList ++ m
  | .invalidToken m => "invalid token: ".toList ++ m
  | .missingToken => "missing bearer token".toList
  | .invalidApiKey => "invalid API key".toList
  | .missingApiKey => "missing API key header".toList
  | .apiKeyStore m => "API key store error: ".toList ++ m
  | .missingClientCert => "missing client certificate".toList
  | .invalidClientCert m => "invalid client certificate: ".toList ++ m
  | .noProviderEnabled => "no auth provider enabled".toList
  | .config m => "auth config error: ".toList ++ m

/-- The client must authenticate (401), its credentials are bad (403), a
dependency failed (503), or the gateway did (500). -/
def statusCode : AuthError → ℕ
  | .missingToken | .missingApiKey | .missingClientCert => 401
  | .invalidToken _ | .invalidApiKey | .unknownKid _ | .invalidClientCert _ => 403
  | .jwksFetch _ | .apiKeyStore _ => 503
  | _ => 500

end AuthError

inductive AuthMechanism : Type where
  | jwt
  | apiKey
  | mtls
deriving DecidableEq

/-- `Claims`, of which the gateway only reads the subject. -/
structure Claims : Type where
  sub : Str
deriving DecidableEq

structure PeerIdentity : Type where
  subjectDn : Str
  issuerDn : Str
  fingerprint : Str
deriving DecidableEq

structure AuthContext : Type where
  subject : Str
  mechanisms : List AuthMechanism
  claims : Option Claims
  peerIdentity : Option PeerIdentity
deriving DecidableEq

end Stateform
