import Stateform.Core.Server

/-!
# From the connection to the pipeline

`serve_connection` and `serve_http`: the handshake, the two phases of the body limit, and
the request that is handed to `pipeline::handle`. A body whose reading fails is handed on as
an empty one (`wholeBodyOnly_iff`), and the certificate of the handshake stays behind
(`carriesCertificate_iff`).
-/

namespace Stateform

/-! ## Bodies -/

/-- A client's body as it arrives: its data frames, and the error that ended the reading,
if one did. -/
structure ClientBody : Type where
  frames : List (List UInt8)
  failure : Option Str

/-- What has arrived of a body. -/
def ClientBody.bytes (body : ClientBody) : List UInt8 := body.frames.flatten

/-- The text of `LengthLimitError`. -/
def lengthLimitExceeded : Str := "length limit exceeded".toList

/-- `Limited::new(body, remaining).collect()`, with the text of its error. -/
def collectLimited : ℕ → List (List UInt8) → Option Str → Except Str (List UInt8)
  | _, [], none => .ok []
  | _, [], some e => .error e
  | remaining, frame :: frames, failure =>
      if remaining < frame.length then .error lengthLimitExceeded
      else (collectLimited (remaining - frame.length) frames failure).map (frame ++ ·)

/-- The method, URI and headers of a request. hyper's own extensions are not read. -/
structure RequestHead : Type where
  method : Str
  uri : Uri
  headers : HeaderMap

/-- The declared length, where it is a number. -/
def RequestHead.contentLength (head : RequestHead) : Option ℕ :=
  (head.headers.getStr "content-length".toList).bind parseU64

/-- `Request::from_parts`, after the request id is injected. No extension is added. -/
def RequestHead.withBody (head : RequestHead) (uuid : Str) (body : List UInt8) : Request where
  method := head.method
  uri := head.uri
  headers := injectRequestId head.headers uuid
  body := body
  peerCertificate := none

/-- Whether the text of a read error, lowered, is taken for the limit's. -/
def isLimitError (msg : Str) : Bool :=
  contains msg "length limit".toList || contains msg "limit exceeded".toList

/-- `payload_too_large`. -/
def payloadTooLarge : Response where
  status := 413
  headers := HeaderMap.empty.append contentType (staticValue "application/json")
  body := errorBody "request body too large".toList

/-- `serve_http` up to the call of `handle`: the request it is called with, or the response
given in its place. -/
def readRequest (max : ℕ) (uuid : Str) (head : RequestHead) (body : ClientBody) :
    Except Response Request :=
  if head.contentLength.any (fun len => max < len) then .error payloadTooLarge
  else
    match collectLimited max body.frames body.failure with
    | .ok bytes => .ok (head.withBody uuid bytes)
    | .error e =>
        if isLimitError (toAsciiLowercase e) then .error payloadTooLarge
        -- the error is logged, and the request goes on without its body
        else .ok (head.withBody uuid [])

/-- What becomes of a request on a connection. -/
inductive Served : Type where
  | refused (resp : Response)
  | handled (req : Request) (answer : Except Panic Handled)

/-- The request `handle` is called with. -/
def Served.request : Served → Option Request
  | .refused _ => none
  | .handled req _ => some req

/-- `serve_http`, for one request. -/
def serveHttp (rx : RegexCrate) (uc : UriCrate) (pl : Pipeline) (env : HandleEnv) (max : ℕ)
    (uuid : Str) (head : RequestHead) (body : ClientBody) : Served × Pipeline :=
  match readRequest max uuid head body with
  | .error resp => (.refused resp, pl)
  | .ok req =>
      let (answer, pl) := pl.handle rx uc env req
      (.handled req answer, pl)

/-! ## Whole bodies -/

/-- `handle` is called with whole bodies within the limit; a body that is declared or found
too long, or that cannot be read, is answered. -/
structure WholeBodyOnly (max : ℕ) (head : RequestHead) (body : ClientBody) (served : Served) :
    Prop where
  whole : ∀ req, served.request = some req →
    body.failure = none ∧ req.body = body.bytes ∧ req.body.length ≤ max
  answered : (∃ len, head.contentLength = some len ∧ max < len) ∨ max < body.bytes.length ∨
    body.failure ≠ none → ∃ resp, served = .refused resp

/-- The body is within the limit as far as it is declared and arrives, and no error speaks
of the limit. -/
structure WithinLimit (max : ℕ) (head : RequestHead) (body : ClientBody) : Prop where
  declared : ∀ len, head.contentLength = some len → len ≤ max
  arrived : body.bytes.length ≤ max
  failure : ∀ e, body.failure = some e → isLimitError (toAsciiLowercase e) = false

section
variable {max : ℕ} {uuid : Str} {head : RequestHead} {body : ClientBody}

/-- The limit comes before the error that ends the reading. -/
theorem collectLimited_eq (max : ℕ) (frames : List (List UInt8)) (failure : Option Str) :
    collectLimited max frames failure =
      if max < frames.flatten.length then .error lengthLimitExceeded
      else match failure with
        | none => .ok frames.flatten
        | some e => .error e := by
  induction frames generalizing max with
  | nil =>
      rw [List.flatten_nil, List.length_nil, if_neg (Nat.not_lt_zero max)]
      cases failure with
      | none => rfl
      | some e => rfl
  | cons frame frames ih =>
      rw [collectLimited, List.flatten_cons, List.length_append, ih]
      by_cases hframe : max < frame.length
      · rw [if_pos hframe, if_pos (by omega)]
      · rw [if_neg hframe]
        by_cases hrest : max - frame.length < frames.flatten.length
        · rw [if_pos hrest, if_pos (by omega)]
          rfl
        · rw [if_neg hrest, if_neg (by omega)]
          cases failure with
          | none => rfl
          | some e => rfl

theorem isLimitError_lengthLimitExceeded :
    isLimitError (toAsciiLowercase lengthLimitExceeded) = true := by decide

/-- A request within the limit is handed on, with the body that was read or with none. -/
theorem readRequest_within (h : WithinLimit max head body) :
    readRequest max uuid head body =
      .ok (head.withBody uuid (if body.failure = none then body.bytes else [])) := by
  have hdeclared : ¬ head.contentLength.any (fun len => max < len) = true := by
    cases hlen : head.contentLength with
    | none => exact Bool.false_ne_true
    | some len => simpa using h.declared len hlen
  have harrived : ¬ max < body.frames.flatten.length := Nat.not_lt.mpr h.arrived
  rw [readRequest, if_neg hdeclared, collectLimited_eq, if_neg harrived]
  cases hfailure : body.failure with
  | none => rfl
  | some e =>
      simp only
      rw [if_neg (by simp [h.failure e hfailure]), if_neg (Option.some_ne_none e)]

theorem readRequest_over (h : ¬ WithinLimit max head body) :
    readRequest max uuid head body = .error payloadTooLarge := by
  by_cases hdeclared : head.contentLength.any (fun len => max < len) = true
  · exact if_pos hdeclared
  · have hlen : ∀ len, head.contentLength = some len → len ≤ max := by
      intro len hlen
      rw [hlen] at hdeclared
      simpa using hdeclared
    rw [readRequest, if_neg hdeclared, collectLimited_eq]
    by_cases harrived : max < body.frames.flatten.length
    · rw [if_pos harrived]
      exact if_pos isLimitError_lengthLimitExceeded
    · rw [if_neg harrived]
      cases hfailure : body.failure with
      | none =>
          refine absurd ⟨hlen, Nat.not_lt.mp harrived, ?_⟩ h
          intro e he
          rw [hfailure] at he
          cases he
      | some e =>
          simp only
          cases herror : isLimitError (toAsciiLowercase e) with
          | true => exact if_pos rfl
          | false =>
              refine absurd ⟨hlen, Nat.not_lt.mp harrived, ?_⟩ h
              rintro e' he'
              rw [hfailure] at he'
              cases he'
              exact herror

variable {rx : RegexCrate} {uc : UriCrate} {pl : Pipeline} {env : HandleEnv}

theorem serveHttp_within (h : WithinLimit max head body) :
    (serveHttp rx uc pl env max uuid head body).1.request =
      some (head.withBody uuid (if body.failure = none then body.bytes else [])) := by
  rw [serveHttp, readRequest_within h]
  rfl

theorem serveHttp_over (h : ¬ WithinLimit max head body) :
    serveHttp rx uc pl env max uuid head body = (.refused payloadTooLarge, pl) := by
  rw [serveHttp, readRequest_over h]

end

/-- **Which bodies are handed on.** Only whole ones within the limit, exactly if the reading
does not fail within the limit with an error of its own. -/
theorem wholeBodyOnly_iff (rx : RegexCrate) (uc : UriCrate) (pl : Pipeline) (env : HandleEnv)
    (max : ℕ) (uuid : Str) (head : RequestHead) (body : ClientBody) :
    WholeBodyOnly max head body (serveHttp rx uc pl env max uuid head body).1 ↔
      ¬ (WithinLimit max head body ∧ body.failure ≠ none) := by
  constructor
  · rintro hwhole ⟨hwithin, hfailure⟩
    exact hfailure (hwhole.whole _ (serveHttp_within hwithin)).1
  · intro hnot
    by_cases hwithin : WithinLimit max head body
    · have hfailure : body.failure = none := by
        by_contra hfailure
        exact hnot ⟨hwithin, hfailure⟩
      constructor
      · intro req hreq
        rw [serveHttp_within hwithin, if_pos hfailure, Option.some.injEq] at hreq
        subst hreq
        exact ⟨hfailure, rfl, hwithin.arrived⟩
      · rintro (⟨len, hlen, hover⟩ | hover | hfails)
        · exact absurd (hwithin.declared len hlen) (Nat.not_le.mpr hover)
        · exact absurd hwithin.arrived (Nat.not_le.mpr hover)
        · exact absurd hfailure hfails
    · rw [serveHttp_over hwithin]
      exact ⟨nofun, fun _ => ⟨payloadTooLarge, rfl⟩⟩

theorem minimalConfig_build : ∃ router, Router.build .literal minimalConfig = .ok router :=
  (validate_eq_ok_iff.mp minimalConfig_valid).build

/-- A chunked upload that breaks off after its first chunk. -/
def brokenUpload : ClientBody :=
  ⟨[utf8 "amount=100".toList], some "error reading a body from connection".toList⟩

def uploadHead : RequestHead := ⟨"POST".toList, ⟨some ⟨"/".toList, none⟩⟩, .empty⟩

/-- The upload is handed on, without a body. -/
theorem broken_upload_handed_on :
    readRequest (4 * 1024 * 1024) "id".toList uploadHead brokenUpload =
        .ok (uploadHead.withBody "id".toList []) ∧
      ¬ ∀ (rx : RegexCrate) (uc : UriCrate) (pl : Pipeline) (env : HandleEnv) (max : ℕ)
        (uuid : Str) (head : RequestHead) (body : ClientBody),
          WholeBodyOnly max head body (serveHttp rx uc pl env max uuid head body).1 := by
  have hread : readRequest (4 * 1024 * 1024) "id".toList uploadHead brokenUpload =
      .ok (uploadHead.withBody "id".toList []) := rfl
  refine ⟨hread, ?_⟩
  intro h
  obtain ⟨router, -⟩ := minimalConfig_build
  have hwhole := h .literal .plain (GatewayServer.initialPipeline minimalConfig router)
    (.answering ⟨200, .empty, []⟩) (4 * 1024 * 1024) "id".toList uploadHead brokenUpload
  rw [serveHttp, hread] at hwhole
  cases (hwhole.whole _ rfl).1

/-! ## Client certificates -/

/-- A connection after its handshake: `accept` fails, or leaves the client certificate that
rustls verified, if one was asked for. -/
inductive Connection : Type where
  | plain
  | tls (accepted : Except Str (Option (List UInt8)))

def Connection.verified : Connection → Option (List UInt8)
  | .tls (.ok certificate) => certificate
  | _ => none

/-- `serve_connection`, for one request on it. -/
def serveConnection (rx : RegexCrate) (uc : UriCrate) (conn : Connection) (pl : Pipeline)
    (env : HandleEnv) (max : ℕ) (uuid : Str) (head : RequestHead) (body : ClientBody) :
    Option (Served × Pipeline) :=
  match conn with
  | .plain => some (serveHttp rx uc pl env max uuid head body)
  | .tls (.ok _) => some (serveHttp rx uc pl env max uuid head body)
  | .tls (.error _) => none

/-- A request gets to `AuthPipeline::run` with mTLS enabled. -/
def ReachesMtls (rx : RegexCrate) (pl : Pipeline) (env : HandleEnv) (path method : Str)
    (headers : HeaderMap) : Prop :=
  ∃ m cfg, pl.router.matchRequest rx path method headers = .ok m ∧ env.permit = .ok () ∧
    m.route.middleware.auth = some cfg ∧ cfg.mtls = true

/-- The request that reaches auth has the certificate of its connection, which the mTLS
stage takes, and no certificate where the connection has none. -/
structure CarriesCertificate (rx : RegexCrate) (conn : Connection) (pl : Pipeline)
    (env : HandleEnv) (req : Request) : Prop where
  carried : ∀ der, conn.verified = some der →
    ReachesMtls rx pl env req.uri.path req.method req.headers →
      req.peerCertificate = some der ∧
        pl.auth.mtlsVerify req.peerCertificate ≠ .error .missingClientCert
  bare : conn.verified = none → req.peerCertificate = none

section
variable {rx : RegexCrate} {uc : UriCrate} {conn : Connection} {pl : Pipeline} {env : HandleEnv}
  {max : ℕ} {uuid : Str} {head : RequestHead} {body : ClientBody} {req : Request}

/-- What is handed on is the head of the request with some body. -/
theorem serveConnection_request {served : Served × Pipeline}
    (hserved : serveConnection rx uc conn pl env max uuid head body = some served)
    (hreq : served.1.request = some req) :
    WithinLimit max head body ∧ ∃ bytes, req = head.withBody uuid bytes := by
  have hhttp : served = serveHttp rx uc pl env max uuid head body := by
    unfold serveConnection at hserved
    split at hserved
    · exact (Option.some.inj hserved).symm
    · exact (Option.some.inj hserved).symm
    · cases hserved
  subst hhttp
  by_cases hwithin : WithinLimit max head body
  · rw [serveHttp_within hwithin] at hreq
    exact ⟨hwithin, _, (Option.some.inj hreq).symm⟩
  · rw [serveHttp_over hwithin] at hreq
    cases hreq

theorem serveConnection_verified {der : List UInt8} (h : conn.verified = some der) :
    serveConnection rx uc conn pl env max uuid head body =
      some (serveHttp rx uc pl env max uuid head body) := by
  unfold Connection.verified at h
  split at h
  · rfl
  · cases h

end

/-- **Certificates stay behind.** A request is handed on as the law wants exactly if its
connection has no certificate, or it is answered before auth, or its route has no mTLS. -/
theorem carriesCertificate_iff (rx : RegexCrate) (uc : UriCrate) (conn : Connection)
    (pl : Pipeline) (env : HandleEnv) (max : ℕ) (uuid : Str) (head : RequestHead)
    (body : ClientBody) :
    (∀ served req, serveConnection rx uc conn pl env max uuid head body = some served →
      served.1.request = some req → CarriesCertificate rx conn pl env req) ↔
        conn.verified = none ∨ ¬ WithinLimit max head body ∨
          ¬ ReachesMtls rx pl env head.uri.path head.method
            (injectRequestId head.headers uuid) := by
  constructor
  · intro h
    cases hverified : conn.verified with
    | none => exact .inl rfl
    | some der =>
        refine .inr ?_
        by_contra hreach
        rw [not_or, not_not, not_not] at hreach
        have hcarries := h _ _ (serveConnection_verified hverified) (serveHttp_within hreach.1)
        cases (hcarries.carried der hverified hreach.2).1
  · intro h served req hserved hreq
    obtain ⟨hwithin, bytes, rfl⟩ := serveConnection_request hserved hreq
    refine ⟨?_, fun _ => rfl⟩
    intro der hverified hreach
    rcases h with hnone | hover | hnot
    · rw [hnone] at hverified
      cases hverified
    · exact absurd hwithin hover
    · exact absurd hreach hnot

/-- A route for clients with a certificate only. -/
def mtlsRoute : RouteConfig :=
  { RouteConfig.onPath "root".toList (.prefixPath "/".toList) with
    middleware := ⟨some ⟨false, false, true⟩, none, none⟩ }

def mtlsConfig : GatewayConfig :=
  { GatewayConfig.withRoutes [mtlsRoute] with
    auth := { (GatewayConfig.withRoutes [mtlsRoute]).auth with mtls := ⟨true⟩ } }

/-- A client shows its certificate and is told that there was none. -/
theorem verified_client_rejected :
    ∃ router h, Router.build .literal mtlsConfig = .ok router ∧
      serveConnection .literal .plain (.tls (.ok (some [48, 130])))
        (GatewayServer.initialPipeline mtlsConfig router) (.answering ⟨200, .empty, []⟩)
        (4 * 1024 * 1024) "id".toList uploadHead ⟨[], none⟩ =
          some (.handled (uploadHead.withBody "id".toList []) (.ok h),
            GatewayServer.initialPipeline mtlsConfig router) ∧
      h.exit = .authFailed .missingClientCert ∧
      ¬ ∀ (rx : RegexCrate) (uc : UriCrate) (conn : Connection) (pl : Pipeline) (env : HandleEnv)
        (max : ℕ) (uuid : Str) (head : RequestHead) (body : ClientBody)
        (served : Served × Pipeline) (req : Request),
          serveConnection rx uc conn pl env max uuid head body = some served →
            served.1.request = some req → CarriesCertificate rx conn pl env req := by
  obtain ⟨router, hrouter⟩ :=
    (validate_eq_ok_iff.mp (by decide : validate .literal mtlsConfig = .ok ())).build
  have hmatch : scanRequest .literal mtlsConfig.routes "/".toList "POST".toList
      (injectRequestId .empty "id".toList) = .ok (.new mtlsRoute) := rfl
  have hrejected : ∃ h, serveConnection .literal .plain (.tls (.ok (some [48, 130])))
      (GatewayServer.initialPipeline mtlsConfig router) (.answering ⟨200, .empty, []⟩)
      (4 * 1024 * 1024) "id".toList uploadHead ⟨[], none⟩ =
        some (.handled (uploadHead.withBody "id".toList []) (.ok h),
          GatewayServer.initialPipeline mtlsConfig router) ∧
      h.exit = .authFailed .missingClientCert := by
    have hread : readRequest (4 * 1024 * 1024) "id".toList uploadHead ⟨[], none⟩ =
        .ok (uploadHead.withBody "id".toList []) := rfl
    rw [serveConnection, serveHttp, hread]
    simp only
    rw [Pipeline.handle_eq_handleMatched hrouter hmatch]
    exact ⟨_, rfl, rfl⟩
  obtain ⟨h, hserved, hexit⟩ := hrejected
  refine ⟨router, h, hrouter, hserved, hexit, ?_⟩
  intro hall
  have hcarries := hall _ _ _ _ _ _ _ _ _ _ _ hserved rfl
  have hreach : ReachesMtls .literal (GatewayServer.initialPipeline mtlsConfig router)
      (.answering ⟨200, .empty, []⟩) "/".toList "POST".toList
        (injectRequestId .empty "id".toList) := by
    refine ⟨.new mtlsRoute, _, ?_, rfl, rfl, rfl⟩
    exact (matchRequest_eq_scan hrouter _ _ _).trans hmatch
  cases (hcarries.carried _ rfl hreach).1

end Stateform
