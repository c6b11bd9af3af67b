import Stateform.Core.Server

/-!
# Gateways that share a Redis

Several gateway processes, each with its own L1, over one L2. A response that
its upstream marked private stays in the process that fetched it. Nothing
separates the subjects within a process: the key of an entry does not depend on
who asked.
-/

namespace Stateform

open Library

/-! ## Entries of two kinds -/

section
variable {Shared : CachedResponse → Prop} {Own : Str → CachedResponse → Prop}
  {cache : ResponseCache} {env : CacheEnv} {rq : CacheRequest} {x : CacheExchange}

/-- The L2 layer holds shared entries only; the L1 layer also holds entries of
its own, under their keys. -/
structure EntriesFrom (Shared : CachedResponse → Prop) (Own : Str → CachedResponse → Prop)
    (cache : ResponseCache) : Prop where
  l1 : ∀ k e, cache.l1.store.lookup k = some e → Shared e ∨ Own k e
  l2 : ∀ k v, cache.l2.store.lookup k = some v → Shared v.1

theorem EntriesFrom.within (h : EntriesFrom Shared Own cache) {l1' : L1Cache}
    (hwithin : ResponseCache.L1Within l1' cache.l1) :
    EntriesFrom Shared Own { cache with l1 := l1' } where
  l1 := fun k e hk => h.l1 k e (hwithin k e hk)
  l2 := h.l2

/-- A lookup promotes shared entries only, and an entry of the process's own is
returned under the key it was stored with. -/
theorem EntriesFrom.lookup (h : EntriesFrom Shared Own cache) :
    EntriesFrom Shared Own (cache.lookup env rq).2 ∧
      ∀ e, (cache.lookup env rq).1 = .hit e →
        Shared e ∨ ∃ names, Own (rq.baseKey.withVary names rq.headers).text e := by
  have hout := ResponseCache.lookup_outcome cache env rq
  generalize cache.lookup env rq = result at hout
  cases hout with
  | bypass => exact ⟨h, nofun⟩
  | miss _ hwithin => exact ⟨h.within hwithin, nofun⟩
  | @l1Hit first e l1' _ _ _ hsecond _ hwithin =>
      refine ⟨h.within hwithin, ?_⟩
      rintro _ ⟨rfl⟩
      exact (h.l1 _ _ hsecond).imp id fun hown => ⟨first.varyHeaders, hown⟩
  | @l2Hit first e l1' _ hfirst hfinal hwithin =>
      have hshared : Shared e := by
        rcases hfinal with rfl | ⟨-, hsecond⟩
        · rcases L2Cache.get_lookup hfirst with ⟨expiresAt, hlook⟩
          exact h.l2 _ _ hlook
        · rcases L2Cache.get_lookup hsecond with ⟨expiresAt, hlook⟩
          exact h.l2 _ _ hlook
      refine ⟨⟨fun k e' hk => ?_, h.l2⟩, ?_⟩
      · rcases L1Cache.putThrough_lookup hk with ⟨rfl, rfl⟩ | hold
        · exact .inl hshared
        · exact h.l1 k e' (hwithin k e' hold)
      · rintro _ ⟨rfl⟩
        exact .inl hshared

theorem EntriesFrom.store (h : EntriesFrom Shared Own cache)
    (hwritten : ∀ w, x.written env.now = some w →
      Own w.key.text w.entry ∧ (w.isPrivate = false → Shared w.entry)) :
    EntriesFrom Shared Own (cache.store env x) := by
  cases hw : x.written env.now with
  | none =>
      rw [ResponseCache.store_of_not_written _ hw]
      exact h
  | some w =>
      rcases hwritten w hw with ⟨hown, hshared⟩
      rw [ResponseCache.store_of_written _ hw]
      refine ⟨fun k e hk => ?_, fun k v hk => ?_⟩
      · rcases L1Cache.putThrough_lookup hk with ⟨rfl, rfl⟩ | hold
        · exact .inr hown
        · exact h.l1 k e hold
      · cases hpriv : w.isPrivate with
        | true =>
            simp only [hpriv, Bool.not_true, Bool.false_eq_true, ↓reduceIte] at hk
            exact h.l2 k v hk
        | false =>
            simp only [hpriv, Bool.not_false, ↓reduceIte] at hk
            rcases L2Cache.put_lookup hk with ⟨-, hv, -⟩ | hold
            · exact hv ▸ hshared hpriv
            · exact h.l2 k v hold

theorem EntriesFrom.mono {Shared' : CachedResponse → Prop} {Own' : Str → CachedResponse → Prop}
    (h : EntriesFrom Shared Own cache) (hshared : ∀ e, Shared e → Shared' e)
    (hown : ∀ k e, Own k e → Own' k e) : EntriesFrom Shared' Own' cache where
  l1 := fun k e hk => (h.l1 k e hk).imp (hshared e) (hown k e)
  l2 := fun k v hk => hshared v.1 (h.l2 k v hk)

/-- What a request does to a cache with entries of the two kinds. -/
theorem EntriesFrom.handled {rx : RegexCrate} {pl pl' : Pipeline} {henv : HandleEnv}
    {req : Request} {answer : Except Panic Handled} (h : EntriesFrom Shared Own pl.cache)
    (hout : Pipeline.HandleOutcome rx pl henv req answer pl')
    (hstored : ∀ h route resp w, answer = .ok h → h.exit = .forwarded resp →
      h.route = some route → (cacheExchange route req resp).written henv.store.now = some w →
        Own w.key.text w.entry ∧ (w.isPrivate = false → Shared w.entry)) :
    EntriesFrom Shared Own pl'.cache := by
  cases hout with
  | noRoute => exact h
  | refused => exact h
  | authFailed => exact h
  | rateLimited => exact h
  | cacheHit => exact h.lookup.1
  | panicked => exact h.lookup.1
  | upstreamMissing => exact h.lookup.1
  | upstreamFailed => exact h.lookup.1
  | @forwarded h' route ctx resp hadm hexit =>
      exact h.lookup.1.store fun w hw => hstored h' route resp w rfl hexit hadm.route_eq hw

end

/-! ## The fleet -/

/-- Gateway processes, numbered, and the Redis they share. -/
structure Fleet : Type where
  servers : ℕ → GatewayServer
  redis : L2Cache

abbrev FleetEvent : Type := ℕ × ServerEvent

namespace Fleet

section
variable (rx : RegexCrate) (uc : UriCrate)

/-- A process, with the shared L2 as its own. -/
def server (fleet : Fleet) (p : ℕ) : GatewayServer :=
  let s := fleet.servers p
  { s with pipeline := { s.pipeline with cache := { s.pipeline.cache with l2 := fleet.redis } } }

/-- An event of one process. -/
def step (fleet : Fleet) (event : FleetEvent) : Option (Except Panic Handled) × Fleet :=
  let (answer, s) := (fleet.server event.1).step rx uc event.2
  (answer, ⟨Function.update fleet.servers event.1 s, s.pipeline.cache.l2⟩)

/-- The fleet after a list of events. -/
def run (fleet : Fleet) (events : List FleetEvent) : Fleet :=
  after (fun f e => (step rx uc f e).2) fleet events

/-- Every process as `build` leaves it, and no entry in Redis. -/
structure Fresh (fleet : Fleet) : Prop where
  built : ∀ p, ∃ config, GatewayServer.build rx config = .ok (fleet.servers p)
  redis : fleet.redis = .empty

end

end Fleet

/-! ## Origins -/

/-- The upstream marked the response private, as far as the cache reads its
`Cache-Control`. -/
def Response.markedPrivate (resp : Response) : Bool :=
  ((CacheControl.fromHeaders resp.headers).map CacheControl.private_).getD false

section
variable (rx : RegexCrate) (uc : UriCrate) (fleet : Fleet)

/-- Earlier in the run process `p` forwarded a request, which ended as `h` with
the upstream's answer `resp`, and stored `w` for it. -/
def Fetched (past : List FleetEvent) (p : ℕ) (h : Handled) (resp : Response) (w : Written) : Prop :=
  ∃ before env req route, before ++ [(p, .request env req)] <+: past ∧
    ((fleet.run rx uc before).step rx uc (p, .request env req)).1 = some (.ok h) ∧
    h.exit = .forwarded resp ∧ h.route = some route ∧
    (cacheExchange route req resp).written env.store.now = some w

/-- The entry was stored for a response that was not marked private. -/
def SharedOrigin (past : List FleetEvent) (e : CachedResponse) : Prop :=
  ∃ p h resp w, Fetched rx uc fleet past p h resp w ∧ w.entry = e ∧ resp.markedPrivate = false

/-- The process itself stored the entry, under this key. -/
def OwnOrigin (past : List FleetEvent) (p : ℕ) (k : Str) (e : CachedResponse) : Prop :=
  ∃ h resp w, Fetched rx uc fleet past p h resp w ∧ w.entry = e ∧ w.key.text = k

/-- The subject a request was handled for. -/
def Handled.subject (h : Handled) : Option Str := h.authCtx.map AuthContext.subject

/-- In every hit of the run, the entry was fetched earlier, and for the same
subject if its upstream marked it private. -/
def SubjectsIsolated (events : List FleetEvent) : Prop :=
  ∀ before p env req h e, before ++ [(p, .request env req)] <+: events →
    ((fleet.run rx uc before).step rx uc (p, .request env req)).1 = some (.ok h) →
    h.exit = .cacheHit e →
    ∃ p' h' resp w, Fetched rx uc fleet before p' h' resp w ∧ w.entry = e ∧
      (resp.markedPrivate = true → h'.subject = h.subject)

end

/-! ## Two subjects, one entry -/

/-- A cached route behind an API key. -/
def profileRoute : RouteConfig :=
  { RouteConfig.onPath "profile".toList (.prefixPath "/profile".toList) with
    middleware := ⟨some ⟨false, true, false⟩, none, some ⟨60, false⟩⟩ }

def profileConfig : GatewayConfig := .withRoutes [profileRoute]

/-- The record of a subject, as Redis holds it. -/
def keyRecord (subject : Str) : Str :=
  "\x7b\"subject\":\"".toList ++ subject ++ "\",\"active\":true\x7d".toList

/-- A key store with two keys. -/
def twoKeys : ApiKeyStore where
  get := fun key =>
    if key = "stateform:apikey:k-alice".toList then .ok (some (keyRecord "alice".toList))
    else if key = "stateform:apikey:k-bob".toList then .ok (some (keyRecord "bob".toList))
    else .ok none
  parse := fun json =>
    if json = keyRecord "alice".toList then .ok ⟨"alice".toList, true⟩
    else if json = keyRecord "bob".toList then .ok ⟨"bob".toList, true⟩
    else .error "expected value".toList

/-- `GET /profile` under an API key. -/
def profileRequest (key : String) : Request :=
  .get "/profile".toList ⟨[(⟨"x-api-key".toList, by decide, by decide⟩, utf8 key.toList)]⟩

/-- Alice's profile, for her alone. -/
def aliceProfile : Response where
  status := 200
  headers := ⟨[(⟨"cache-control".toList, by decide, by decide⟩,
      utf8 "private, max-age=60".toList), (varyName, [])]⟩
  body := utf8 "alice".toList

def profileEnv (resp : Response) : HandleEnv :=
  { HandleEnv.answering resp with auth := { AuthPipeline.bareEnv with apiKeys := twoKeys } }

/-- Processes built from that config around one router, before any request. -/
def profileFleet (router : Router) : Fleet where
  servers := fun _ => ⟨⟨profileConfig, none⟩, GatewayServer.initialPipeline profileConfig router⟩
  redis := .empty

theorem profileFleet_fresh : ∃ router, Router.build .literal profileConfig = .ok router ∧
    (profileFleet router).Fresh .literal := by
  have hvalid : validate .literal profileConfig = .ok () := by decide
  rcases load_build hvalid with ⟨router, hrouter, -, hbuild⟩
  exact ⟨router, hrouter, fun _ => ⟨_, hbuild⟩, rfl⟩

/-- Alice's profile is fetched. -/
def aliceEvent : FleetEvent :=
  (0, .request (profileEnv aliceProfile) (profileRequest "k-alice"))

/-- The same request under Bob's key. -/
def bobEvent : FleetEvent :=
  (0, .request (profileEnv aliceProfile) (profileRequest "k-bob"))

section
variable {router : Router}

theorem alice_forwarded (hrouter : Router.build .literal profileConfig = .ok router) :
    ∃ h, ((profileFleet router).step .literal .plain aliceEvent).1 = some (.ok h) ∧
      h.exit = .forwarded aliceProfile ∧ h.subject = some "alice".toList := by
  simp only [Fleet.step, GatewayServer.step, Fleet.server, aliceEvent]
  rw [Pipeline.handle_eq_handleMatched hrouter rfl]
  exact ⟨_, rfl, rfl, rfl⟩

/-- The process afterwards: only its cache has changed. -/
theorem alice_stored (hrouter : Router.build .literal profileConfig = .ok router) :
    (((profileFleet router).run .literal .plain [aliceEvent]).server 0).pipeline =
      { GatewayServer.initialPipeline profileConfig router with
        cache := (ResponseCache.new 1000).store .zero
          (cacheExchange profileRoute (profileRequest "k-alice") aliceProfile) } := by
  simp only [Fleet.run, after_cons, after_nil, Fleet.step, GatewayServer.step, Fleet.server,
    aliceEvent, Function.update_self]
  rw [Pipeline.handle_eq_handleMatched hrouter rfl]
  rfl

/-- Bob, with a key of his own, is answered out of the cache. -/
theorem bob_hit (hrouter : Router.build .literal profileConfig = .ok router) :
    ∃ h e, (((profileFleet router).run .literal .plain [aliceEvent]).step .literal .plain
        bobEvent).1 = some (.ok h) ∧
      h.exit = .cacheHit e ∧ h.subject = some "bob".toList ∧
      h.response.body = utf8 "alice".toList := by
  have hstored := alice_stored hrouter
  simp only [Fleet.step, GatewayServer.step, bobEvent]
  rw [hstored, Pipeline.handle_eq_handleMatched hrouter rfl]
  exact ⟨_, _, rfl, rfl, rfl, rfl⟩

end

/-- Alice's private response is returned to Bob. -/
theorem private_response_shared : ∃ router, Router.build .literal profileConfig = .ok router ∧
    (profileFleet router).Fresh .literal ∧
    (∃ h e, (((profileFleet router).run .literal .plain [aliceEvent]).step .literal .plain
        bobEvent).1 = some (.ok h) ∧
      h.exit = .cacheHit e ∧ h.subject = some "bob".toList ∧
      h.response.body = utf8 "alice".toList) ∧
    ¬ SubjectsIsolated .literal .plain (profileFleet router) [aliceEvent, bobEvent] := by
  obtain ⟨router, hrouter, hfresh⟩ := profileFleet_fresh
  refine ⟨router, hrouter, hfresh, bob_hit hrouter, fun hisolated => ?_⟩
  rcases bob_hit hrouter with ⟨h, e, hanswer, hhit, hbob, -⟩
  obtain ⟨p, h', resp, w, hfetched, -, hsame⟩ :=
    hisolated [aliceEvent] 0 _ _ h e (List.prefix_refl _) hanswer hhit
  obtain ⟨before, env, req, route, hbefore, hanswer', hexit, -⟩ := hfetched
  -- the only fetch before is Alice's
  obtain ⟨rfl, hevent⟩ : before = [] ∧ (p, ServerEvent.request env req) = aliceEvent := by
    rcases before with _ | ⟨_, before⟩
    · simpa using hbefore
    · simpa using hbefore.length_le
  rcases alice_forwarded hrouter with ⟨hA, hanswerA, hexitA, halice⟩
  rw [hevent] at hanswer'
  obtain rfl : h' = hA := by
    have := hanswer'.symm.trans hanswerA
    simpa using this
  obtain rfl : aliceProfile = resp := by
    rw [hexitA, HandleExit.forwarded.injEq] at hexit
    exact hexit
  have hprivate : aliceProfile.markedPrivate = true := by decide
  have := hsame hprivate
  rw [halice, hbob] at this
  simp at this

/-! ## What keeps to a process -/

section
variable {rx : RegexCrate} {uc : UriCrate} {fleet : Fleet} {past : List FleetEvent}
  {e : CachedResponse}

theorem Fetched.mono {past' : List FleetEvent} {p : ℕ} {h : Handled} {resp : Response} {w : Written}
    (hf : Fetched rx uc fleet past p h resp w) (hpast : past <+: past') :
    Fetched rx uc fleet past' p h resp w := by
  obtain ⟨before, env, req, route, hbefore, hrest⟩ := hf
  exact ⟨before, env, req, route, hbefore.trans hpast, hrest⟩

theorem SharedOrigin.snoc (h : SharedOrigin rx uc fleet past e) (event : FleetEvent) :
    SharedOrigin rx uc fleet (past ++ [event]) e := by
  obtain ⟨p, h, resp, w, hf, hrest⟩ := h
  exact ⟨p, h, resp, w, hf.mono (List.prefix_append _ _), hrest⟩

theorem OwnOrigin.snoc {p : ℕ} {k : Str} (h : OwnOrigin rx uc fleet past p k e)
    (event : FleetEvent) :
    OwnOrigin rx uc fleet (past ++ [event]) p k e := by
  obtain ⟨h, resp, w, hf, hrest⟩ := h
  exact ⟨h, resp, w, hf.mono (List.prefix_append _ _), hrest⟩

theorem written_isPrivate {route : RouteConfig} {req : Request} {resp : Response} {now : ℕ}
    {w : Written} (h : (cacheExchange route req resp).written now = some w) :
    w.isPrivate = resp.markedPrivate := by
  rcases written_eq_some.mp h with ⟨cfg, ttl, names, -, -, -, -, -, -, rfl⟩
  rfl

/-- The invariant of a run: what the caches of the processes hold was fetched
earlier, and what was marked private only by the process that holds it. -/
def FleetInvariant (rx : RegexCrate) (uc : UriCrate) (start : Fleet) (past : List FleetEvent)
    (fleet : Fleet) : Prop :=
  ∀ p, EntriesFrom (SharedOrigin rx uc start past) (OwnOrigin rx uc start past p)
    (fleet.server p).pipeline.cache

theorem fleetInvariant_fresh (h : fleet.Fresh rx) : FleetInvariant rx uc fleet [] fleet := by
  intro p
  rcases h.built p with ⟨config, hbuild⟩
  unfold GatewayServer.build at hbuild
  cases hrouter : Router.build rx config.inner with
  | error e => simp [hrouter] at hbuild
  | ok router =>
      simp only [hrouter, Except.ok.injEq] at hbuild
      unfold Fleet.server
      rw [← hbuild, h.redis]
      constructor
      · simp [GatewayServer.initialPipeline, ResponseCache.new, L1Cache.new]
      · simp [L2Cache.empty]

/-- A process keeps to the two kinds of entries. -/
theorem EntriesFrom.serverStep {p : ℕ}
    (h : EntriesFrom (SharedOrigin rx uc fleet past) (OwnOrigin rx uc fleet past p)
      ((fleet.run rx uc past).server p).pipeline.cache) (ev : ServerEvent) :
    EntriesFrom (SharedOrigin rx uc fleet (past ++ [(p, ev)]))
      (OwnOrigin rx uc fleet (past ++ [(p, ev)]) p)
      ((((fleet.run rx uc past).server p).step rx uc ev).2).pipeline.cache := by
  have hkept := h.mono (fun e he => he.snoc (p, ev)) (fun k e he => he.snoc (p, ev))
  cases ev with
  | reload parsed => exact hkept
  | applyReload =>
      simp only [GatewayServer.step, GatewayServer.applyReload]
      cases ((fleet.run rx uc past).server p).config.announced <;> exact hkept
  | request env req =>
      refine hkept.handled (Pipeline.handle_outcome ..) fun h route resp w hanswer hexit hroute hw => ?_
      have hfetched : Fetched rx uc fleet (past ++ [(p, .request env req)]) p h resp w :=
        ⟨past, env, req, route, List.prefix_refl _, congrArg some hanswer, hexit, hroute, hw⟩
      refine ⟨⟨h, resp, w, hfetched, rfl, rfl⟩, fun hpriv => ⟨p, h, resp, w, hfetched, rfl, ?_⟩⟩
      rw [← written_isPrivate hw, hpriv]

theorem FleetInvariant.step (h : FleetInvariant rx uc fleet past (fleet.run rx uc past))
    (event : FleetEvent) :
    FleetInvariant rx uc fleet (past ++ [event]) ((fleet.run rx uc past).step rx uc event).2 := by
  obtain ⟨p, ev⟩ := event
  have hmoved := (h p).serverStep ev
  intro q
  by_cases hq : q = p
  · subst hq
    simpa [Fleet.step, Fleet.server] using hmoved
  · have hkept := (h q).mono (fun e he => he.snoc (p, ev)) (fun k e he => he.snoc (p, ev))
    refine ⟨fun k e hk => hkept.l1 k e ?_, fun k v hk => hmoved.l2 k v hk⟩
    simpa [Fleet.step, Fleet.server, hq] using hk

variable (uc) in
theorem run_fleetInvariant (h : fleet.Fresh rx) (past : List FleetEvent) :
    FleetInvariant rx uc fleet past (fleet.run rx uc past) :=
  history_invariant_all (P := FleetInvariant rx uc fleet) (fleetInvariant_fresh h)
    (fun _ event hkept => FleetInvariant.step hkept event) past

end

/-- **A hit comes out of an earlier fetch, and out of one by the same process,
under a key of the request itself, if the upstream marked the response
private.** The request passed the auth of its own route and the rate limit. -/
theorem hit_origin {rx : RegexCrate} {uc : UriCrate} {fleet : Fleet} (hfresh : fleet.Fresh rx)
    {past : List FleetEvent} {p : ℕ} {env : HandleEnv} {req : Request} {h : Handled}
    {e : CachedResponse}
    (hanswer : ((fleet.run rx uc past).step rx uc (p, .request env req)).1 = some (.ok h))
    (hhit : h.exit = .cacheHit e) :
    ∃ route, h.route = some route ∧
      (∃ p' h' resp w, Fetched rx uc fleet past p' h' resp w ∧ w.entry = e ∧
        (resp.markedPrivate = true → p' = p ∧ ∃ names,
          w.key = (cacheRequest route req).baseKey.withVary names req.headers)) ∧
      (((fleet.run rx uc past).server p).pipeline.auth.run env.auth route.middleware.auth
        req.headers req.peerCertificate).1 = .ok h.authCtx ∧
      ∃ checked, h.checked = some checked ∧ (Pipeline.failOpen checked).allowed = true := by
  have hinv := run_fleetInvariant uc hfresh past p
  have hout := Pipeline.handle_outcome rx uc ((fleet.run rx uc past).server p).pipeline env req
  have hanswer' : (((fleet.run rx uc past).server p).pipeline.handle rx uc env req).1 = .ok h :=
    Option.some.inj hanswer
  rw [hanswer'] at hout
  generalize (((fleet.run rx uc past).server p).pipeline.handle rx uc env req).2 = pl' at hout
  cases hout with
  | @cacheHit h route ctx entry hadm hallowed hexit hlookup =>
      obtain rfl : entry = e := by
        rw [hhit, HandleExit.cacheHit.injEq] at hexit
        exact hexit.symm
      refine ⟨route, hadm.route_eq, ?_, ?_, _, hadm.checked_eq, hallowed⟩
      · rcases hinv.lookup.2 entry hlookup with hshared | ⟨names, hown⟩
        · obtain ⟨p', h', resp, w, hf, hw, hpublic⟩ := hshared
          exact ⟨p', h', resp, w, hf, hw, by simp [hpublic]⟩
        · obtain ⟨h', resp, w, hf, hw, hkey⟩ := hown
          exact ⟨p, h', resp, w, hf, hw, fun _ => ⟨rfl, names, CacheKey.ext hkey⟩⟩
      · rw [hadm.authCtx_eq]
        exact hadm.auth
  | noRoute hexit => simp [hhit] at hexit
  | refused hexit => simp [hhit] at hexit
  | authFailed hexit => simp [hhit] at hexit
  | rateLimited _ hexit => simp [hhit] at hexit
  | upstreamMissing _ hexit => simp [hhit] at hexit
  | upstreamFailed _ hexit => simp [hhit] at hexit
  | forwarded _ hexit => simp [hhit] at hexit

/-- Bob's hit, which stayed in the process. -/
theorem bob_hit_origin : ∃ router h e, Router.build .literal profileConfig = .ok router ∧
    (((profileFleet router).run .literal .plain [aliceEvent]).step .literal .plain bobEvent).1 =
      some (.ok h) ∧ h.exit = .cacheHit e ∧
    ∃ p h' resp w, Fetched .literal .plain (profileFleet router) [aliceEvent] p h' resp w ∧
      w.entry = e ∧ (resp.markedPrivate = true → p = 0) := by
  obtain ⟨router, hrouter, hfresh⟩ := profileFleet_fresh
  rcases bob_hit hrouter with ⟨h, e, hanswer, hhit, -⟩
  rcases hit_origin hfresh hanswer hhit with ⟨_, -, ⟨p, h', resp, w, hfetched, hw, hown⟩, -⟩
  exact ⟨router, h, e, hrouter, hanswer, hhit, p, h', resp, w, hfetched, hw,
    fun hpriv => (hown hpriv).1⟩

end Stateform
