import Stateform.Config.Validation
import Stateform.ControlPlane.Reloads
import Stateform.Router.Predicate

/-!
# What the data planes make of an accepted config

The control plane's `validate` and the data plane's, on one config. The former has
fewer checks: a config it accepts is rejected downstream exactly if one of the five
it lacks fails (`data_plane_accepts_iff`), and so is the snapshot a loader of such
files has installed (`installed_accepted_iff`).
-/

namespace Stateform.ControlPlane

open Library

/-! ## One config in two schemas -/

def EndpointConfig.ofRust (ep : Stateform.EndpointConfig) : EndpointConfig :=
  ⟨ep.address, ep.weight, ep.active⟩

def UpstreamConfig.ofRust (upstream : Stateform.UpstreamConfig) : UpstreamConfig :=
  ⟨upstream.endpoints.map .ofRust⟩

def RouteConfig.ofRust (route : Stateform.RouteConfig) : RouteConfig := ⟨route.id, route.upstream⟩

/-- The Rust config as the control plane reads it; no Rust check looks at `bind`. -/
def GatewayConfig.ofRust (bind : Str) (cfg : Stateform.GatewayConfig) : GatewayConfig where
  bind := bind
  upstreams := StrMap.mapValues (fun _ upstream => .ofRust upstream) cfg.upstreams
  routes := cfg.routes.map .ofRust

/-! ## What the control plane checks -/

theorem validateUpstreams_eq_ok {entries : List (Sigma fun _ : Str => UpstreamConfig)} :
    validateUpstreams entries = .ok () ↔ ∀ entry ∈ entries, entry.2.endpoints ≠ [] := by
  induction entries with
  | nil => simp [validateUpstreams]
  | cons entry rest ih =>
      obtain ⟨name, upstream⟩ := entry
      by_cases h : upstream.endpoints = []
      · simp [validateUpstreams, h]
      · simp [validateUpstreams, h, ih]

theorem validateRoutes_eq_ok {cfg : GatewayConfig} {seen : List Str} {routes : List RouteConfig} :
    validateRoutes cfg seen routes = .ok () ↔
      (∀ route ∈ routes, route.id ≠ [] ∧ route.id ∉ seen ∧
        (cfg.upstreams.lookup route.upstream).isSome) ∧
      (routes.map RouteConfig.id).Nodup := by
  induction routes generalizing seen with
  | nil => simp [validateRoutes]
  | cons route rest ih =>
      rw [validateRoutes]
      by_cases hempty : route.id = []
      · simp [hempty]
      by_cases hseen : route.id ∈ seen
      · simp [hempty, hseen]
      by_cases hknown : (cfg.upstreams.lookup route.upstream).isNone
      · have hnone := Option.isNone_iff_eq_none.mp hknown
        simp [hempty, hseen, hnone]
      rw [if_neg hempty, if_neg hseen, if_neg hknown, ih, List.map_cons, List.nodup_cons]
      have hsome : (cfg.upstreams.lookup route.upstream).isSome := by
        rw [← Option.not_isNone]
        simp [hknown]
      constructor
      · rintro ⟨hrest, hnodup⟩
        refine ⟨?_, ?_, hnodup⟩
        · rintro r (_ | ⟨_, hr⟩)
          · exact ⟨hempty, hseen, hsome⟩
          · obtain ⟨hid, hnew, hup⟩ := hrest r hr
            exact ⟨hid, fun h => hnew (List.mem_cons_of_mem _ h), hup⟩
        · intro hmem
          obtain ⟨r, hr, heq⟩ := List.mem_map.mp hmem
          apply (hrest r hr).2.1
          rw [heq]
          exact List.mem_cons_self
      · rintro ⟨hall, hfresh, hnodup⟩
        refine ⟨?_, hnodup⟩
        intro r hr
        obtain ⟨hid, hnew, hup⟩ := hall r (List.mem_cons_of_mem _ hr)
        refine ⟨hid, ?_, hup⟩
        intro hmem
        rcases List.mem_cons.mp hmem with heq | hmem
        · apply hfresh
          rw [← heq]
          exact List.mem_map_of_mem hr
        · exact hnew hmem

/-- What `validate` establishes of a config. -/
structure Accepted (cfg : GatewayConfig) : Prop where
  bound : cfg.bind ≠ []
  endpoints_ne : ∀ name upstream, cfg.upstreams.lookup name = some upstream →
    upstream.endpoints ≠ []
  ids_ne : ∀ route ∈ cfg.routes, route.id ≠ []
  upstreams_known : ∀ route ∈ cfg.routes, (cfg.upstreams.lookup route.upstream).isSome
  ids_nodup : (cfg.routes.map RouteConfig.id).Nodup

theorem validate_eq_ok_iff {cfg : GatewayConfig} : validate cfg = .ok () ↔ Accepted cfg := by
  have hentries : (∀ entry ∈ cfg.upstreams.entries, entry.2.endpoints ≠ []) ↔
      ∀ name upstream, cfg.upstreams.lookup name = some upstream → upstream.endpoints ≠ [] :=
    StrMap.forall_entries (P := fun upstream : UpstreamConfig => upstream.endpoints ≠ [])
  unfold validate
  by_cases hbind : cfg.bind = []
  · constructor
    · intro h
      simp [hbind, throw, throwThe, MonadExceptOf.throw, bind, Except.bind] at h
    · intro h
      exact absurd hbind h.bound
  simp only [hbind, if_false]
  rw [bind_eq_ok_unit, validateUpstreams_eq_ok, validateRoutes_eq_ok, hentries]
  constructor
  · rintro ⟨hup, hroutes, hnodup⟩
    exact ⟨hbind, hup, fun r hr => (hroutes r hr).1, fun r hr => (hroutes r hr).2.2, hnodup⟩
  · intro h
    refine ⟨h.endpoints_ne, ?_, h.ids_nodup⟩
    intro r hr
    exact ⟨h.ids_ne r hr, List.not_mem_nil, h.upstreams_known r hr⟩

/-! ## What it leaves to the data plane -/

section
variable {rx : RegexCrate} {bind : Str} {cfg : Stateform.GatewayConfig}

/-- The checks of the data plane that the control plane has no counterpart of. -/
structure Unchecked (rx : RegexCrate) (cfg : Stateform.GatewayConfig) : Prop where
  weights : ∀ name upstream, cfg.upstreams.lookup name = some upstream →
    ∀ ep ∈ upstream.endpoints, ep.weight ≠ 0
  hash_headers : ∀ name upstream, cfg.upstreams.lookup name = some upstream →
    ∀ hashHeader virtualNodes,
      upstream.loadBalancing = .consistentHashing hashHeader virtualNodes → trim hashHeader ≠ []
  ids : ∀ route ∈ cfg.routes, trim route.id ≠ []
  regexes : ∀ route ∈ cfg.routes, ∀ pattern,
    route.match_.path = .regexPath pattern → rx.new pattern = .ok ()
  policies : ∀ route ∈ cfg.routes, ∀ rl, route.middleware.rateLimit = some rl →
    (cfg.rateLimiting.policies.lookup rl.policy).isSome

theorem lookup_ofRust (name : Str) :
    (GatewayConfig.ofRust bind cfg).upstreams.lookup name =
      (cfg.upstreams.lookup name).map UpstreamConfig.ofRust := by
  simp [GatewayConfig.ofRust]

variable (bind cfg) in
theorem ids_ofRust :
    (GatewayConfig.ofRust bind cfg).routes.map RouteConfig.id =
      cfg.routes.map Stateform.RouteConfig.id := by
  show (cfg.routes.map RouteConfig.ofRust).map RouteConfig.id = _
  rw [List.map_map]
  rfl

theorem Accepted.endpoints_ofRust (h : Accepted (.ofRust bind cfg)) {name : Str}
    {upstream : Stateform.UpstreamConfig} (hlook : cfg.upstreams.lookup name = some upstream) :
    upstream.endpoints ≠ [] := by
  have hview : (GatewayConfig.ofRust bind cfg).upstreams.lookup name = some (.ofRust upstream) := by
    rw [lookup_ofRust, hlook]
    rfl
  intro hempty
  apply h.endpoints_ne name _ hview
  simp [UpstreamConfig.ofRust, hempty]

theorem Accepted.known_ofRust (h : Accepted (.ofRust bind cfg)) {route : Stateform.RouteConfig}
    (hroute : route ∈ cfg.routes) : (cfg.upstreams.lookup route.upstream).isSome := by
  have hknown := h.upstreams_known (.ofRust route) (List.mem_map_of_mem hroute)
  rw [lookup_ofRust, Option.isSome_map] at hknown
  exact hknown

/-- What both sides check is what the data plane checks. -/
theorem validConfig_iff (h : Accepted (.ofRust bind cfg)) :
    ValidConfig rx cfg ↔ Unchecked rx cfg := by
  constructor
  · intro hvalid
    exact ⟨fun name upstream hlook => (hvalid.upstreams name upstream hlook).weights,
      fun name upstream hlook => (hvalid.upstreams name upstream hlook).hash_header,
      fun route hroute => (hvalid.routes route hroute).id_ne,
      fun route hroute => (hvalid.routes route hroute).regex_ok,
      fun route hroute => (hvalid.routes route hroute).policy_known⟩
  · intro hrest
    refine ⟨?_, ?_, ?_⟩
    · intro name upstream hlook
      exact ⟨h.endpoints_ofRust hlook, hrest.weights name upstream hlook,
        hrest.hash_headers name upstream hlook⟩
    · intro route hroute
      exact ⟨hrest.ids route hroute, h.known_ofRust hroute, hrest.regexes route hroute,
        hrest.policies route hroute⟩
    · rw [← ids_ofRust bind]
      exact h.ids_nodup

/-- **What the data planes accept.** Of the configs the control plane accepts, they
accept those that also pass the five checks it lacks. -/
theorem data_plane_accepts_iff (rx : RegexCrate) (bind : Str) (cfg : Stateform.GatewayConfig)
    (haccepted : validate (.ofRust bind cfg) = .ok ()) :
    Stateform.validate rx cfg = .ok () ↔ Unchecked rx cfg := by
  rw [Stateform.validate_eq_ok_iff]
  exact validConfig_iff (validate_eq_ok_iff.mp haccepted)

end

/-! ## Configs that only one side accepts -/

/-- One upstream, whose only endpoint has the given weight, and no route. -/
def weighted (weight : ℕ) : Stateform.GatewayConfig :=
  { Stateform.GatewayConfig.withRoutes [] with
    upstreams := AList.singleton "backend".toList
      { Stateform.UpstreamConfig.single "127.0.0.1:9000".toList with
        endpoints := [⟨"127.0.0.1:9000".toList, weight, true⟩] } }

/-- An endpoint of weight 0. -/
theorem zero_weight_accepted :
    ¬ ∀ (rx : RegexCrate) (bind : Str) (cfg : Stateform.GatewayConfig),
        validate (.ofRust bind cfg) = .ok () → Stateform.validate rx cfg = .ok () := by
  intro h
  have hrejected := h .literal "0.0.0.0:8080".toList (weighted 0) (by decide)
  exact absurd hrejected (by decide)

theorem data_plane_accepts_weighted :
    Stateform.validate .literal (weighted 1) = .ok () ↔ Unchecked .literal (weighted 1) :=
  data_plane_accepts_iff .literal "0.0.0.0:8080".toList (weighted 1) (by decide)

/-! ## Installed snapshots -/

section
variable {unmarshal : Str → Option GatewayConfig} {file : Option Str} {loader : Loader}
  {events : List LoadEvent} {s : Loading}

/-- Whatever has been reloaded, the loader holds the validated parse of its text. -/
theorem current_parses (hnew : Loader.new unmarshal file = .ok loader)
    (hrun : Loading.run unmarshal file loader events = some s) :
    Parses unmarshal s.loader.rawYaml s.loader.current := by
  have htraced := traced_run hrun
  cases hlast : lastInstall events with
  | some j => exact (htraced.latest j hlast).2.1
  | none =>
      rw [(htraced.untouched hlast).1]
      unfold Loader.new at hnew
      split at hnew
      · cases hnew
      · next hload =>
          cases hnew
          exact (load_eq_ok.mp hload).2

/-- The same for the snapshot a run of reloads has installed, where both sides read
the same fields from a text. -/
theorem installed_accepted_iff {rx : RegexCrate}
    {read : Str → Option (Str × Stateform.GatewayConfig)}
    (hread : ∀ raw, unmarshal raw = (read raw).map fun r => .ofRust r.1 r.2)
    (hnew : Loader.new unmarshal file = .ok loader)
    (hrun : Loading.run unmarshal file loader events = some s) :
    ∃ bind cfg, read s.loader.rawYaml = some (bind, cfg) ∧
      (Stateform.validate rx cfg = .ok () ↔ Unchecked rx cfg) := by
  obtain ⟨hparsed, hvalid⟩ := current_parses hnew hrun
  rw [hread] at hparsed
  obtain ⟨⟨bind, cfg⟩, hcfg, hview⟩ := Option.map_eq_some_iff.mp hparsed
  refine ⟨bind, cfg, hcfg, ?_⟩
  rw [← hview] at hvalid
  rw [Stateform.validate_eq_ok_iff]
  exact validConfig_iff (validate_eq_ok_iff.mp hvalid)

end

end Stateform.ControlPlane
