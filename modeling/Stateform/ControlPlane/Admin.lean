import Stateform.ControlPlane.Agreement

/-!
# The admin API

The handlers of `admin/server.go` besides the reload itself: what they answer from the loader
at a point of a run of the control plane, and how the answers of one run go together. What a
management UI relies on is that answers never go back behind a reload it has seen
(`answers_follow_reloads`), and that whatever a listing names can be fetched
(`listing_resolves`).
-/

namespace Stateform.ControlPlane

open Library

/-! ## Handlers -/

/-- The bodies the handlers write, without the uptime. -/
inductive AdminBody : Type where
  | config (version : ℕ) (config : GatewayConfig)
  | routes (version count : ℕ) (routes : List RouteConfig)
  | route (route : RouteConfig)
  | upstreams (version count : ℕ) (upstreams : StrMap UpstreamConfig)
  | upstream (name : Str) (upstream : UpstreamConfig)
  | status (configVersion activeSubscribers : ℕ)
  | reloaded (version : ℕ) (message : Str)
  | error (msg : Str)

structure AdminResponse : Type where
  status : ℕ
  body : AdminBody

structure ReloadResponse : Type where
  newVersion : ℕ
  success : Bool
  error : Str
deriving DecidableEq

/-- The `GET` endpoints under `/api/v1`. -/
inductive AdminRequest : Type where
  | getConfig
  | listRoutes
  | getRoute (id : Str)
  | listUpstreams
  | getUpstream (name : Str)
  | status
deriving DecidableEq

/-- The config version a body tells. -/
def AdminBody.version? : AdminBody → Option ℕ
  | .config version _ => some version
  | .routes version _ _ => some version
  | .upstreams version _ _ => some version
  | .status configVersion _ => some configVersion
  | .reloaded version _ => some version
  | _ => none

def writeError (status : ℕ) (msg : Str) : AdminResponse := ⟨status, .error msg⟩

def Loader.handleGetConfig (l : Loader) : AdminResponse := ⟨200, .config l.version l.current⟩

def Loader.handleListRoutes (l : Loader) : AdminResponse :=
  ⟨200, .routes l.version l.current.routes.length l.current.routes⟩

def Loader.handleGetRoute (l : Loader) (id : Str) : AdminResponse :=
  match l.current.routes.find? fun route => route.id = id with
  | some route => ⟨200, .route route⟩
  | none => writeError 404 ("route not found: ".toList ++ id)

def Loader.handleListUpstreams (l : Loader) : AdminResponse :=
  ⟨200, .upstreams l.version l.current.upstreams.entries.length l.current.upstreams⟩

def Loader.handleGetUpstream (l : Loader) (name : Str) : AdminResponse :=
  match l.current.upstreams.lookup name with
  | some upstream => ⟨200, .upstream name upstream⟩
  | none => writeError 404 ("upstream not found: ".toList ++ name)

namespace Server

def activeSubscribers (s : Server) : ℕ := s.subscribers.entries.length

def handleStatus (s : Server) : AdminResponse :=
  ⟨200, .status s.loading.loader.version s.activeSubscribers⟩

/-- What `buildRouter` makes of a request. -/
def answer (s : Server) : AdminRequest → AdminResponse
  | .getConfig => s.loading.loader.handleGetConfig
  | .listRoutes => s.loading.loader.handleListRoutes
  | .getRoute id => s.loading.loader.handleGetRoute id
  | .listUpstreams => s.loading.loader.handleListUpstreams
  | .getUpstream name => s.loading.loader.handleGetUpstream name
  | .status => s.handleStatus

/-- How the reload of handler `k` has ended: with the version it broadcast, or an error. -/
def reloadOutcome (s : Server) (k : ℕ) : Option (Except LoadError ℕ) :=
  (s.handlers[k]?).bind fun h =>
    match h.stage, s.loading.reloads[k]? with
    | .finished b, _ => some (.ok b.snapshot.version)
    | _, some (.failed e) => some (.error e)
    | _, _ => none

section
variable (errorText : LoadError → Str)

/-- What `handleReload` has answered, if it has. -/
def handleReload (s : Server) (k : ℕ) : Option AdminResponse :=
  (s.reloadOutcome k).map fun
    | .ok version =>
        ⟨200, .reloaded version "config reloaded and broadcast to all data plane instances".toList⟩
    | .error e => writeError 500 ("reload failed: ".toList ++ errorText e)

/-- What the `Reload` of the gRPC server has. -/
def reload (s : Server) (k : ℕ) : Option ReloadResponse :=
  (s.reloadOutcome k).map fun
    | .ok version => ⟨version, true, []⟩
    | .error e => ⟨0, false, errorText e⟩

end

/-! ## Answers of one run -/

variable {unmarshal : Str → Option GatewayConfig} {file : Option Str} {loader : Loader}
  {s t : Server} {events more : List Event}

/-- Version `v` is what a caller was told of reload `k`: by `errorText`, whatever the packages
say of an error. -/
inductive Told (errorText : LoadError → Str) (s : Server) (k v : ℕ) : Prop where
  | admin {response : AdminResponse} (h : s.handleReload errorText k = some response)
      (hv : response.body.version? = some v)
  | grpc {response : ReloadResponse} (h : s.reload errorText k = some response)
      (hsuccess : response.success = true) (hv : response.newVersion = v)

/-- The version an answer tells is the loader's. -/
theorem version_of_answer {request : AdminRequest} {v : ℕ}
    (h : (s.answer request).body.version? = some v) : v = s.loading.loader.version := by
  cases request with
  | getRoute id =>
      exfalso
      simp only [answer, Loader.handleGetRoute] at h
      split at h <;> cases h
  | getUpstream name =>
      exfalso
      simp only [answer, Loader.handleGetUpstream] at h
      split at h <;> cases h
  | _ => exact (Option.some.inj h).symm

/-- The version of a reload is that of the snapshot it has broadcast. -/
theorem Told.snapshot {errorText : LoadError → Str} {k v : ℕ} (h : s.Told errorText k v) :
    ∃ p, s.snapshot? k = some p ∧ p.version = v := by
  obtain ⟨version, houtcome, rfl⟩ : ∃ version, s.reloadOutcome k = some (.ok version) ∧
      version = v := by
    cases h with
    | admin h hv =>
        obtain ⟨outcome, houtcome, rfl⟩ := Option.map_eq_some_iff.mp h
        cases outcome with
        | ok version => exact ⟨version, houtcome, Option.some.inj hv⟩
        | error e => cases hv
    | grpc h hsuccess hv =>
        obtain ⟨outcome, houtcome, rfl⟩ := Option.map_eq_some_iff.mp h
        cases outcome with
        | ok version => exact ⟨version, houtcome, hv⟩
        | error e => cases hsuccess
  obtain ⟨handler, hfound, houtcome⟩ := Option.bind_eq_some_iff.mp houtcome
  split at houtcome
  · next b hstage =>
      cases houtcome
      exact ⟨b.snapshot, by rw [snapshot?_of_found hfound, Handler.snapshot?, hstage], rfl⟩
  · cases houtcome
  · cases houtcome

theorem answer_of_loader (hsame : t.loading.loader = s.loading.loader) {request : AdminRequest}
    (hread : request ≠ .status) : t.answer request = s.answer request := by
  cases request with
  | status => exact absurd rfl hread
  | _ => simp only [answer, hsame]

theorem loader_along (hmore : follow (step unmarshal) s more = some t) :
    t.loading.loader = s.loading.loader ∨
      s.loading.loader.version < t.loading.loader.version :=
  (versioned unmarshal).along hmore

/-- **Answers follow the reloads.** In any run, what is answered later tells no older
version than an earlier answer did or than was told of a reload, which is at least what that
reload installed; and under one version every request but that for the status is answered
alike. -/
theorem answers_follow_reloads (unmarshal : Str → Option GatewayConfig) (file : Option Str)
    (loader : Loader) (events more : List Event) (s t : Server)
    (hrun : run unmarshal file loader events = some s)
    (hmore : follow (step unmarshal) s more = some t) (request : AdminRequest) (v : ℕ)
    (hlater : (t.answer request).body.version? = some v) :
    (∀ earlier u, (s.answer earlier).body.version? = some u →
      u ≤ v ∧ (u = v → ∀ read, read ≠ .status → t.answer read = s.answer read)) ∧
      ∀ errorText k u, s.Told errorText k u →
        u ≤ v ∧ ∃ w, s.loading.reloads[k]? = some (.installed w) ∧ w ≤ u := by
  obtain rfl := version_of_answer hlater
  constructor
  · intro earlier u hearlier
    obtain rfl := version_of_answer hearlier
    rcases loader_along hmore with hsame | hnew
    · exact ⟨by rw [hsame], fun _ read hread => answer_of_loader hsame hread⟩
    · exact ⟨hnew.le, fun heq => absurd heq hnew.ne⟩
  · intro errorText k u htold
    obtain ⟨p, hp, rfl⟩ := htold.snapshot
    obtain ⟨hle, w, hw, hwp⟩ := (dated_run hrun).read k p hp
    refine ⟨hle.trans ?_, w, hw, hwp⟩
    rcases loader_along hmore with hsame | hnew
    · rw [hsame]
    · exact hnew.le

/-- The reload is answered, and the config is read after it. -/
theorem answers_follow_reloads_reloaded :
    ∃ s, run unmarshalBoth (some oldYaml) oldLoader twoPlanesRun = some s ∧
      s.Told (fun _ => []) 0 2 ∧ ∃ w, s.loading.reloads[0]? = some (.installed w) ∧ w ≤ 2 := by
  refine ⟨_, rfl, .admin rfl rfl, ?_⟩
  exact ((answers_follow_reloads unmarshalBoth (some oldYaml) oldLoader twoPlanesRun [] _ _ rfl
    rfl .getConfig 2 rfl).2 (fun _ => []) 0 2 (.admin rfl rfl)).2

/-! ## What a listing names -/

/-- In a list without repeated ids the route of an id is found under it. -/
theorem find?_route {routes : List RouteConfig} {route : RouteConfig}
    (hnodup : (routes.map RouteConfig.id).Nodup) (hroute : route ∈ routes) :
    routes.find? (fun r => r.id = route.id) = some route := by
  induction routes with
  | nil => cases hroute
  | cons head routes ih =>
      rw [List.map_cons, List.nodup_cons] at hnodup
      rcases List.mem_cons.mp hroute with rfl | hroute
      · exact List.find?_cons_of_pos (by simp)
      · have hne : head.id ≠ route.id := by
          intro heq
          exact hnodup.1 (heq ▸ List.mem_map_of_mem hroute)
        rw [List.find?_cons_of_neg (by simpa using hne)]
        exact ih hnodup.2 hroute

/-- **What a listing names can be fetched**, as long as no other version is installed: each
listed route under its id, and its upstream under the name it gives, with at least one
endpoint. Any other id is answered 404. -/
theorem listing_resolves (unmarshal : Str → Option GatewayConfig) (file : Option Str)
    (loader : Loader) (hnew : Loader.new unmarshal file = .ok loader) (events more : List Event)
    (s t : Server) (hrun : run unmarshal file loader events = some s)
    (hmore : follow (step unmarshal) s more = some t)
    (hversion : t.loading.loader.version = s.loading.loader.version) (v count : ℕ)
    (routes : List RouteConfig) (hlist : (s.answer .listRoutes).body = .routes v count routes) :
    count = routes.length ∧
      (∀ route ∈ routes, t.answer (.getRoute route.id) = ⟨200, .route route⟩ ∧
        ∃ upstream, t.answer (.getUpstream route.upstream) =
          ⟨200, .upstream route.upstream upstream⟩ ∧ upstream.endpoints ≠ []) ∧
      ∀ id, (∀ route ∈ routes, route.id ≠ id) →
        t.answer (.getRoute id) = ⟨404, .error ("route not found: ".toList ++ id)⟩ := by
  have hsame : t.loading.loader = s.loading.loader := by
    rcases loader_along hmore with hsame | hnewer
    · exact hsame
    · omega
  cases hlist
  have haccepted := validate_eq_ok_iff.mp (current_parses hnew (run_loading hrun)).valid
  refine ⟨rfl, ?_, ?_⟩
  · intro route hroute
    have hfind := find?_route haccepted.ids_nodup hroute
    obtain ⟨upstream, hupstream⟩ :=
      Option.isSome_iff_exists.mp (haccepted.upstreams_known route hroute)
    refine ⟨?_, upstream, ?_, haccepted.endpoints_ne _ upstream hupstream⟩
    · simp only [answer, Loader.handleGetRoute, hsame, hfind]
    · simp only [answer, Loader.handleGetUpstream, hsame, hupstream]
  · intro id hnone
    have hfind : s.loading.loader.current.routes.find? (fun route => route.id = id) = none := by
      rw [List.find?_eq_none]
      intro route hroute
      simpa using hnone route hroute
    simp only [answer, Loader.handleGetRoute, hsame, hfind]
    rfl

/-- One route, and the upstream it goes to. -/
def routed : GatewayConfig :=
  ⟨"0.0.0.0:8080".toList,
    AList.singleton "backend".toList ⟨[⟨"127.0.0.1:9000".toList, 1, true⟩]⟩,
    [⟨"api".toList, "backend".toList⟩]⟩

theorem listing_resolves_routed :
    ∃ s, run (fun _ => some routed) (some oldYaml) ⟨routed, oldYaml, 1⟩ [.reload .admin] =
        some s ∧ ∃ upstream, s.answer (.getUpstream "backend".toList) =
          ⟨200, .upstream "backend".toList upstream⟩ := by
  obtain ⟨_, hlisted, _⟩ := listing_resolves (fun _ => some routed) (some oldYaml)
    ⟨routed, oldYaml, 1⟩ rfl [.reload .admin] [] _ _ rfl rfl rfl 1 1 routed.routes rfl
  obtain ⟨upstream, hupstream, _⟩ := (hlisted _ List.mem_cons_self).2
  exact ⟨_, rfl, upstream, hupstream⟩

end Server

end Stateform.ControlPlane
