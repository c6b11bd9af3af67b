import Stateform.Auth.Context

/-!
# API keys and client certificates

`api_key.rs` and `mtls.rs`. The key store is a Redis `GET` and a JSON parser;
the certificate of a request was verified by the TLS layer.
-/

namespace Stateform

/-! ## API keys -/

structure ApiKeyRecord : Type where
  subject : Str
  active : Bool
deriving DecidableEq

/-- The store behind `lookup`: Redis `GET`, and the reading of a record. -/
structure ApiKeyStore : Type where
  get : Str → Except Str (Option Str)
  parse : Str → Except Str ApiKeyRecord

def extractApiKey (headers : HeaderMap) : Except AuthError Str :=
  match headers.get "x-api-key".toList with
  | none => .error .missingApiKey
  | some value =>
      match value.toStr with
      | none => .error .missingApiKey
      | some key => .ok key

/-- `ApiKeyProvider::lookup`. -/
def apiKeyLookup (store : ApiKeyStore) (cfg : ApiKeyConfig) (rawKey : Str) :
    Except AuthError ApiKeyRecord :=
  match store.get (cfg.redisKeyPrefix ++ rawKey) with
  | .error e => .error (.apiKeyStore e)
  | .ok none => .error .invalidApiKey
  | .ok (some json) =>
      match store.parse json with
      | .error e => .error (.apiKeyStore ("corrupt key record: ".toList ++ e))
      | .ok record => if !record.active then .error .invalidApiKey else .ok record

/-- `ApiKeyProvider::verify`. -/
def apiKeyVerify (store : ApiKeyStore) (cfg : ApiKeyConfig) (headers : HeaderMap) :
    Except AuthError ApiKeyRecord := do
  let rawKey ← extractApiKey headers
  apiKeyLookup store cfg rawKey

/-- **A verified API key is active**, and the store holds its record under the
request's own key. -/
theorem apiKeyVerify_eq_ok {store : ApiKeyStore} {cfg : ApiKeyConfig} {headers : HeaderMap}
    {record : ApiKeyRecord} (h : apiKeyVerify store cfg headers = .ok record) :
    record.active = true ∧ ∃ rawKey json, extractApiKey headers = .ok rawKey ∧
      store.get (cfg.redisKeyPrefix ++ rawKey) = .ok (some json) ∧
      store.parse json = .ok record := by
  unfold apiKeyVerify at h
  cases hkey : extractApiKey headers with
  | error e => simp [hkey, bind, Except.bind] at h
  | ok rawKey =>
      simp only [hkey, bind, Except.bind, apiKeyLookup] at h
      cases hget : store.get (cfg.redisKeyPrefix ++ rawKey) with
      | error e => simp [hget] at h
      | ok value =>
          cases value with
          | none => simp [hget] at h
          | some json =>
              cases hparse : store.parse json with
              | error e => simp [hget, hparse] at h
              | ok r =>
                  cases hactive : r.active with
                  | false => simp [hget, hparse, hactive] at h
                  | true =>
                      obtain rfl : r = record := by simpa [hget, hparse, hactive] using h
                      exact ⟨hactive, rawKey, json, rfl, hget, hparse⟩

/-! ## Client certificates -/

/-- The loop of `compute_sha256_fingerprint`, from byte `i` on. -/
def fingerprintFrom : ℕ → ℕ → List UInt8 → ℕ
  | _, acc, [] => acc
  | i, acc, b :: rest => fingerprintFrom (i + 1) (acc ^^^ (b.toNat <<< (i % 8)) % 2 ^ 64) rest

/-- `compute_sha256_fingerprint`: sixteen hexadecimal digits. -/
def computeSha256Fingerprint (der : List UInt8) : Str :=
  let digits := Nat.toDigits 16 (fingerprintFrom 0 0 der)
  List.replicate (16 - digits.length) '0' ++ digits

/-- The stub `parse_dns_from_der` never reads a name. -/
def parseDnsFromDer (_der : List UInt8) : Option (Str × Str) := none

def extractIdentity (der : List UInt8) : PeerIdentity :=
  let (subjectDn, issuerDn) :=
    (parseDnsFromDer der).getD ("(unknown)".toList, "(unknown)".toList)
  ⟨subjectDn, issuerDn, computeSha256Fingerprint der⟩

/-- `MtlsProvider::verify`: no certificate is an error only when one is
required. -/
def mtlsVerify (cfg : MtlsConfig) (peer : Option (List UInt8)) :
    Except AuthError (Option PeerIdentity) :=
  match peer with
  | some der => .ok (some (extractIdentity der))
  | none => if cfg.required then .error .missingClientCert else .ok none

end Stateform
