import Stateform.Auth.Context
import Stateform.Config.Validation
import Stateform.Router.Predicate

/-!
# Rate-limit keys

`key.rs` of `gateway-ratelimit`. A route id and an identity are joined by a colon, which
either may contain, so a bucket is not always one of a route and an identity
(`deriveKey_apart_iff`).
-/

namespace Stateform

/-- `extract_forwarded_for`: the first hop. -/
def extractForwardedFor (headers : HeaderMap) : Option Str :=
  (((headers.getStr "x-forwarded-for".toList).bind fun v => (v.splitOn ',').head?).map trim).filter
    (· ≠ [])

/-- `extract_real_ip`. -/
def extractRealIp (headers : HeaderMap) : Option Str :=
  ((headers.getStr "x-real-ip".toList).map trim).filter (· ≠ [])

/-- The identity a key is derived from: the subject, else the client address. -/
def resolveIdentity (authCtx : Option AuthContext) (headers : HeaderMap) : Str :=
  (((authCtx.map AuthContext.subject).or (extractForwardedFor headers)).or
    (extractRealIp headers)).getD "anonymous".toList

/-- `derive_key`. -/
def deriveKey (routeId : Str) (authCtx : Option AuthContext) (headers : HeaderMap) : Str :=
  "stateform:rl:".toList ++ routeId ++ ':' :: resolveIdentity authCtx headers

/-! ## One bucket, one route and identity -/

/-- Keys that are equal are of one route and one identity. -/
def KeysApart (route route' : Str) (authCtx authCtx' : Option AuthContext)
    (headers headers' : HeaderMap) : Prop :=
  deriveKey route authCtx headers = deriveKey route' authCtx' headers' →
    route = route' ∧ resolveIdentity authCtx headers = resolveIdentity authCtx' headers'

/-- The second route id goes on after the first and a colon, and the first identity begins
with what it goes on with. -/
def Straddles (route identity route' identity' : Str) : Prop :=
  ∃ middle, route' = route ++ ':' :: middle ∧ identity = middle ++ ':' :: identity'

section
variable {α : Type*} {c : α} {as bs cs ds : List α}

/-- Two texts around a separator are read back, unless the separator is in them. -/
theorem append_cons_eq_append_cons : as ++ c :: bs = cs ++ c :: ds ↔
    (as = cs ∧ bs = ds) ∨ (∃ ms, cs = as ++ c :: ms ∧ bs = ms ++ c :: ds) ∨
      ∃ ms, as = cs ++ c :: ms ∧ ds = ms ++ c :: bs := by
  rw [List.append_eq_append_iff]
  constructor
  · rintro (⟨ms, rfl, hms⟩ | ⟨ms, rfl, hms⟩)
    · cases ms with
      | nil =>
          cases hms
          exact .inl ⟨(List.append_nil as).symm, rfl⟩
      | cons m ms =>
          cases hms
          exact .inr (.inl ⟨ms, rfl, rfl⟩)
    · cases ms with
      | nil =>
          cases hms
          exact .inl ⟨List.append_nil cs, rfl⟩
      | cons m ms =>
          cases hms
          exact .inr (.inr ⟨ms, rfl, rfl⟩)
  · rintro (⟨rfl, rfl⟩ | ⟨ms, rfl, rfl⟩ | ⟨ms, rfl, rfl⟩)
    · exact .inl ⟨[], (List.append_nil as).symm, rfl⟩
    · exact .inl ⟨c :: ms, rfl, rfl⟩
    · exact .inr ⟨c :: ms, rfl, rfl⟩

end

section
variable {route route' : Str} {authCtx authCtx' : Option AuthContext} {headers headers' : HeaderMap}

/-- A key is read back as its route and identity, or with a colon that was not the one between
them. -/
theorem deriveKey_eq_iff : deriveKey route authCtx headers = deriveKey route' authCtx' headers' ↔
    (route = route' ∧ resolveIdentity authCtx headers = resolveIdentity authCtx' headers') ∨
      Straddles route (resolveIdentity authCtx headers) route' (resolveIdentity authCtx' headers') ∨
        Straddles route' (resolveIdentity authCtx' headers') route
          (resolveIdentity authCtx headers) := by
  unfold deriveKey
  generalize "stateform:rl:".toList = start
  rw [List.append_assoc, List.append_assoc, List.append_cancel_left_eq, append_cons_eq_append_cons]
  rfl

/-- No text goes on after itself. -/
theorem Straddles.route_ne {identity identity' : Str}
    (h : Straddles route identity route' identity') : route ≠ route' := by
  obtain ⟨middle, hroute, -⟩ := h
  intro hsame
  exact List.cons_ne_nil _ _ (List.self_eq_append_right.mp (hsame.trans hroute))

end

/-- **When buckets are apart.** Two requests share a key only if they share route and
identity, exactly if neither route id straddles the other request's colon. -/
theorem deriveKey_apart_iff (route route' : Str) (authCtx authCtx' : Option AuthContext)
    (headers headers' : HeaderMap) :
    KeysApart route route' authCtx authCtx' headers headers' ↔
      ¬ (Straddles route (resolveIdentity authCtx headers) route'
          (resolveIdentity authCtx' headers') ∨
        Straddles route' (resolveIdentity authCtx' headers') route
          (resolveIdentity authCtx headers)) := by
  rw [KeysApart, deriveKey_eq_iff]
  constructor
  · intro h hstraddles
    obtain ⟨hroute, -⟩ := h (.inr hstraddles)
    rcases hstraddles with hone | hother
    · exact hone.route_ne hroute
    · exact hother.route_ne hroute.symm
  · rintro h (hsame | hstraddles)
    · exact hsame
    · exact absurd hstraddles h

/-- An identity that a token's subject spells out. -/
def subjectContext (subject : Str) : AuthContext := ⟨subject, [.jwt], none, none⟩

/-- No request of one route shares a key with one of the other, exactly if neither id goes on
after the other and a colon. -/
theorem routes_apart_iff (route route' : Str) :
    (∀ authCtx authCtx' headers headers',
      KeysApart route route' authCtx authCtx' headers headers') ↔
        ¬ (route ++ [':'] <+: route' ∨ route' ++ [':'] <+: route) := by
  have hpair : ∀ route route' middle, route' = route ++ ':' :: middle →
      Straddles route (resolveIdentity (some (subjectContext (middle ++ [':']))) .empty) route'
        (resolveIdentity (some (subjectContext [])) .empty) :=
    fun route route' middle h => ⟨middle, h, rfl⟩
  constructor
  · rintro h (⟨middle, hmiddle⟩ | ⟨middle, hmiddle⟩)
    · rw [List.append_assoc, List.singleton_append] at hmiddle
      have hone := hpair _ _ _ hmiddle.symm
      exact hone.route_ne (h _ _ _ _ (deriveKey_eq_iff.mpr (.inr (.inl hone)))).1
    · rw [List.append_assoc, List.singleton_append] at hmiddle
      have hother := hpair _ _ _ hmiddle.symm
      exact hother.route_ne (h _ _ _ _ (deriveKey_eq_iff.mpr (.inr (.inr hother)))).1.symm
  · intro h authCtx authCtx' headers headers' hkey
    rcases deriveKey_eq_iff.mp hkey with hsame | ⟨middle, rfl, -⟩ | ⟨middle, rfl, -⟩
    · exact hsame
    · exact absurd (.inl ⟨middle, by rw [List.append_assoc, List.singleton_append]⟩) h
    · exact absurd (.inr ⟨middle, by rw [List.append_assoc, List.singleton_append]⟩) h

/-- Two versions of an API, as routes. -/
def versionedConfig : GatewayConfig :=
  .withRoutes [.onPath "api".toList (.prefixPath "/api".toList),
    .onPath "api:v2".toList (.prefixPath "/api/v2".toList)]

/-- A request by way of a proxy, from this address. -/
def forwardedFor (address : Str) : HeaderMap :=
  ⟨[(⟨"x-forwarded-for".toList, by decide, by decide⟩, address.map fun c => c.toNat.toUInt8)]⟩

/-- A client of one route names itself into the bucket of a client of the other. -/
theorem versions_share_bucket :
    validate .literal versionedConfig = .ok () ∧
      deriveKey "api".toList none (forwardedFor "v2:10.0.0.1".toList) =
        deriveKey "api:v2".toList none (forwardedFor "10.0.0.1".toList) ∧
      ¬ ∀ (rx : RegexCrate) (cfg : GatewayConfig), validate rx cfg = .ok () →
        ∀ route ∈ cfg.routes, ∀ route' ∈ cfg.routes, ∀ authCtx authCtx' headers headers',
          KeysApart route.id route'.id authCtx authCtx' headers headers' := by
  have hvalid : validate .literal versionedConfig = .ok () := by decide
  have hshared : deriveKey "api".toList none (forwardedFor "v2:10.0.0.1".toList) =
      deriveKey "api:v2".toList none (forwardedFor "10.0.0.1".toList) := by decide
  refine ⟨hvalid, hshared, ?_⟩
  intro h
  have happart := h .literal versionedConfig hvalid _ List.mem_cons_self _
    (List.mem_cons_of_mem _ List.mem_cons_self) none none _ _ hshared
  exact absurd happart.1 (by decide)

end Stateform
