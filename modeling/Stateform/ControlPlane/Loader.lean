import Stateform.Library.Run
import Stateform.Library.Numbered
import Stateform.Config.Schema

/-!
# The config loader of the control plane

`loader.go`: what `validate` checks of a config, and the `Loader`, whose file is
rewritten by others while any number of `Reload` calls read it. A call reads and
validates without the lock and installs under it, so these are separate steps
with any steps of other calls in between. YAML is parsed by a package, which is
a parameter here.
-/

namespace Stateform.ControlPlane

open Library

/-! ## The schema, as far as `validate` reads it -/

structure EndpointConfig : Type where
  address : Str
  weight : ℤ
  active : Bool
deriving DecidableEq

structure UpstreamConfig : Type where
  endpoints : List EndpointConfig
deriving DecidableEq

structure RouteConfig : Type where
  id : Str
  upstream : Str
deriving DecidableEq

structure GatewayConfig : Type where
  bind : Str
  upstreams : StrMap UpstreamConfig
  routes : List RouteConfig
deriving DecidableEq

/-- Why a reload fails: the file cannot be read, it is not YAML of the schema, or
`validate` returns an error. -/
inductive LoadError : Type where
  | readFile
  | yamlParse
  | bindRequired
  | noEndpoints (upstream : Str)
  | emptyRouteId
  | duplicateRouteId (id : Str)
  | unknownUpstream (route upstream : Str)
deriving DecidableEq

def validateUpstreams : List (Sigma fun _ : Str => UpstreamConfig) → Except LoadError Unit
  | [] => .ok ()
  | ⟨name, upstream⟩ :: rest =>
      if upstream.endpoints.length = 0 then .error (.noEndpoints name)
      else validateUpstreams rest

/-- The loop over the routes, with the ids it has seen. -/
def validateRoutes (cfg : GatewayConfig) : List Str → List RouteConfig → Except LoadError Unit
  | _, [] => .ok ()
  | seen, route :: rest =>
      if route.id = [] then .error .emptyRouteId
      else if route.id ∈ seen then .error (.duplicateRouteId route.id)
      else if (cfg.upstreams.lookup route.upstream).isNone then
        .error (.unknownUpstream route.id route.upstream)
      else validateRoutes cfg (route.id :: seen) rest

/-- `validate`. -/
def validate (cfg : GatewayConfig) : Except LoadError Unit := do
  if cfg.bind = [] then throw .bindRequired
  validateUpstreams cfg.upstreams.entries
  validateRoutes cfg [] cfg.routes

/-! ## The loader -/

/-- `Loader`, the fields its lock guards. -/
structure Loader : Type where
  current : GatewayConfig
  rawYaml : Str
  version : ℕ
deriving DecidableEq

/-- Where a `Reload` call is. `loaded` has read and validated the file, and waits
for the lock; the last two have returned. -/
inductive ReloadCall : Type where
  | started
  | loaded (raw : Str) (cfg : GatewayConfig)
  | installed (version : ℕ)
  | failed (e : LoadError)
deriving DecidableEq

/-- The file, the loader and the `Reload` calls, numbered as they came. A file
that cannot be read is `none`. -/
structure Loading : Type where
  file : Option Str
  loader : Loader
  reloads : List ReloadCall

inductive LoadEvent : Type where
  | write (file : Option Str)
  | start
  | read (k : ℕ)
  | install (k : ℕ)
deriving DecidableEq

section
variable (unmarshal : Str → Option GatewayConfig)

/-- What `reload` makes of the file before it takes the lock. -/
def load (file : Option Str) : Except LoadError (Str × GatewayConfig) :=
  match file with
  | none => .error .readFile
  | some raw =>
      match unmarshal raw with
      | none => .error .yamlParse
      | some cfg =>
          match validate cfg with
          | .error e => .error e
          | .ok () => .ok (raw, cfg)

/-- `NewLoader`. -/
def Loader.new (file : Option Str) : Except LoadError Loader :=
  match load unmarshal file with
  | .error e => .error e
  | .ok (raw, cfg) => .ok ⟨cfg, raw, 1⟩

namespace Loading

def init (file : Option Str) (loader : Loader) : Loading := ⟨file, loader, []⟩

/-- What a call has read, or its error. -/
def readFile (s : Loading) : ReloadCall :=
  match load unmarshal s.file with
  | .error e => .failed e
  | .ok (raw, cfg) => .loaded raw cfg

def step (s : Loading) : LoadEvent → Option Loading
  | .write file => some { s with file := file }
  | .start => some { s with reloads := s.reloads ++ [.started] }
  | .read k =>
      if s.reloads[k]? = some .started then
        some { s with reloads := s.reloads.set k (s.readFile unmarshal) }
      else none
  | .install k =>
      match s.reloads[k]? with
      | some (.loaded raw cfg) =>
          some { s with
            loader := ⟨cfg, raw, s.loader.version + 1⟩
            reloads := s.reloads.set k (.installed (s.loader.version + 1)) }
      | _ => none

/-- The state after a list of events, if each could happen. -/
def run (file : Option Str) (loader : Loader) (events : List LoadEvent) : Option Loading :=
  follow (step unmarshal) (init file loader) events

end Loading

/-! ## Spec lemmas -/

/-- A config as the loader may hold it: the validated parse of its text. -/
structure Parses (raw : Str) (cfg : GatewayConfig) : Prop where
  parsed : unmarshal raw = some cfg
  valid : validate cfg = .ok ()

variable {unmarshal} {file : Option Str} {raw : Str} {cfg : GatewayConfig}

theorem load_eq_ok :
    load unmarshal file = .ok (raw, cfg) ↔ file = some raw ∧ Parses unmarshal raw cfg := by
  constructor
  · intro h
    unfold load at h
    split at h
    · cases h
    · split at h
      · cases h
      · next hparse =>
          split at h
          · cases h
          · next hvalid =>
              cases h
              exact ⟨rfl, hparse, hvalid⟩
  · rintro ⟨rfl, hparse, hvalid⟩
    simp [load, hparse, hvalid]

/-- A read gives the file's content, parsed, or an error. -/
theorem Loading.readFile_cases (s : Loading) :
    (∃ e, s.readFile unmarshal = .failed e) ∨
      ∃ raw cfg, s.readFile unmarshal = .loaded raw cfg ∧ s.file = some raw ∧
        Parses unmarshal raw cfg := by
  unfold Loading.readFile
  cases hload : load unmarshal s.file with
  | error e => exact .inl ⟨e, rfl⟩
  | ok found =>
      obtain ⟨hfile, hok⟩ := load_eq_ok.mp hload
      exact .inr ⟨found.1, found.2, rfl, hfile, hok⟩

/-- What a step keeps: versions only grow, a call that installed one has installed
it for good, and the one installed now is the loader's. -/
structure Loading.Grows (s s' : Loading) : Prop where
  version : s.loader.version ≤ s'.loader.version
  kept : ∀ (k v : ℕ), s.reloads[k]? = some (.installed v) → s'.reloads[k]? = some (.installed v)
  latest : ∀ (k v : ℕ), s'.reloads[k]? = some (.installed v) →
    s.reloads[k]? = some (.installed v) ∨ v = s'.loader.version

theorem Loading.grows_start (s : Loading) :
    s.Grows { s with reloads := s.reloads ++ [.started] } where
  version := le_rfl
  kept := fun _ _ h => getElem?_appended_of_some _ h
  latest := by
    intro k v hk
    rw [getElem?_appended] at hk
    split at hk
    · cases hk
    · exact .inl hk

theorem Loading.step_grows {s s' : Loading} {e : LoadEvent}
    (hstep : s.step unmarshal e = some s') : s.Grows s' := by
  cases e with
  | write file =>
      cases hstep
      exact ⟨le_rfl, fun _ _ h => h, fun _ _ h => .inl h⟩
  | start =>
      cases hstep
      exact s.grows_start
  | read k =>
      simp only [Loading.step] at hstep
      split at hstep
      · next hstarted =>
          cases hstep
          refine ⟨le_rfl, ?_, ?_⟩
          · intro j v hj
            have hjk : j ≠ k := by
              rintro rfl
              cases hstarted.symm.trans hj
            exact (getElem?_replaced_ne hstarted _ hjk).trans hj
          · intro j v hj
            rw [getElem?_replaced hstarted] at hj
            split at hj
            · rcases @Loading.readFile_cases unmarshal s with ⟨e, he⟩ | ⟨raw, cfg, hr, _⟩
              · cases (Option.some.inj hj).symm.trans he
              · cases (Option.some.inj hj).symm.trans hr
            · exact .inl hj
      · cases hstep
  | install k =>
      simp only [Loading.step] at hstep
      split at hstep
      · next raw cfg hloaded =>
          cases hstep
          refine ⟨Nat.le_succ _, ?_, ?_⟩
          · intro j v hj
            have hjk : j ≠ k := by
              rintro rfl
              cases hloaded.symm.trans hj
            exact (getElem?_replaced_ne hloaded _ hjk).trans hj
          · intro j v hj
            rw [getElem?_replaced hloaded] at hj
            split at hj
            · cases hj
              exact .inr rfl
            · exact .inl hj
      · cases hstep

/-- Only a start adds a call. -/
theorem Loading.step_length {s s' : Loading} {e : LoadEvent} (hne : e ≠ .start)
    (hstep : s.step unmarshal e = some s') : s'.reloads.length = s.reloads.length := by
  cases e with
  | write file =>
      cases hstep
      rfl
  | start => exact absurd rfl hne
  | read k =>
      simp only [Loading.step] at hstep
      split at hstep
      · cases hstep
        exact List.length_set
      · cases hstep
  | install k =>
      simp only [Loading.step] at hstep
      split at hstep
      · cases hstep
        exact List.length_set
      · cases hstep

end

/-! ## Two files -/

/-- A listener's address, and nothing else. -/
def boundTo (bind : Str) : GatewayConfig := ⟨bind, ∅, []⟩

def oldYaml : Str := "listener: {bind: a}".toList

def newYaml : Str := "listener: {bind: b}".toList

/-- What the parser makes of the two texts. -/
def unmarshalBoth (raw : Str) : Option GatewayConfig :=
  if raw = oldYaml then some (boundTo "a".toList)
  else if raw = newYaml then some (boundTo "b".toList)
  else none

/-- The loader that has loaded the first one. -/
def oldLoader : Loader := ⟨boundTo "a".toList, oldYaml, 1⟩

example : Loader.new unmarshalBoth (some oldYaml) = .ok oldLoader := rfl

end Stateform.ControlPlane
