import Stateform.ControlPlane.Steps

/-!
# Who is registered

The map of subscribers is keyed by instance id, while calls come and go. A call
loses its place when another call registers under its id, or when a removal that
is meant for another call of its id finds it there. As long as neither happens,
every call whose stream is live is registered (`live_calls_registered`); with
distinct ids neither can happen (`enrolled_of_nodup`).
-/

namespace Stateform.ControlPlane

open Library

/-! ## Calls along a step -/

/-- Registered, and not yet on the way out. -/
def CallStage.isOpen : CallStage → Bool
  | .registered => true
  | .sendingInitial _ => true
  | .blocked => true
  | _ => false

/-- A call that has not returned and had no failed `Send`. -/
def SubscribeCall.attached (call : SubscribeCall) : Bool := call.stage.isOpen && !call.failed

/-- Such a call whose stream is still connected. -/
def SubscribeCall.live (call : SubscribeCall) : Bool := call.attached && !call.disconnected

/-- What a step can make of a call: its id stays, a failed `Send` remains one, what
is closed stays closed, and it is not attached or connected again. -/
structure SubscribeCall.Evolves (call call' : SubscribeCall) : Prop where
  id : call'.id = call.id
  failed : call.failed = true → call'.failed = true
  done : call.done = true → call'.done = true
  attached : call'.attached = true → call.attached = true
  connected : call'.disconnected = false → call.disconnected = false

theorem SubscribeCall.Evolves.refl (call : SubscribeCall) : call.Evolves call where
  id := rfl
  failed := fun h => h
  done := fun h => h
  attached := fun h => h
  connected := fun h => h

/-- The `Send` of the goroutine has failed. -/
def SenderStage.hasFailed : SenderStage → Bool
  | .sending => false
  | .sent => false
  | _ => true

namespace Server

variable {unmarshal : Str → Option GatewayConfig} {s s' : Server} {event : Event}

theorem Becomes.evolves {c : ℕ} {call call' : SubscribeCall} (h : s.Becomes c call event call') :
    call.Evolves call' := by
  cases h with
  | sent _ _ => exact ⟨rfl, fun h => h, fun h => h, fun h => h, fun h => h⟩
  | failed _ =>
      refine ⟨rfl, fun _ => rfl, fun h => h, ?_, fun h => h⟩
      intro hattached
      simp [SubscribeCall.attached] at hattached
  | closed _ _ => exact ⟨rfl, fun h => h, fun _ => rfl, fun h => h, fun h => h⟩
  | current hstage =>
      refine ⟨rfl, fun h => h, fun h => h, ?_, fun h => h⟩
      intro hattached
      simpa [SubscribeCall.attached, hstage, CallStage.isOpen] using hattached
  | initialSent hstage =>
      refine ⟨rfl, fun h => h, fun h => h, ?_, fun h => h⟩
      intro hattached
      simpa [SubscribeCall.attached, hstage, CallStage.isOpen] using hattached
  | initialFailed _ =>
      refine ⟨rfl, fun _ => rfl, fun h => h, ?_, fun h => h⟩
      intro hattached
      simp [SubscribeCall.attached] at hattached
  | disconnected => exact ⟨rfl, fun h => h, fun h => h, fun h => h, nofun⟩
  | woken _ =>
      refine ⟨rfl, fun h => h, fun h => h, ?_, fun h => h⟩
      intro hattached
      simp [SubscribeCall.attached, CallStage.isOpen] at hattached
  | removed _ =>
      refine ⟨rfl, fun h => h, fun h => h, ?_, fun h => h⟩
      intro hattached
      simp [SubscribeCall.attached, CallStage.isOpen] at hattached

/-- A call after a step is one that evolved, or the new one. -/
theorem Step.calls (h : Step unmarshal s event s') {c : ℕ} {call' : SubscribeCall}
    (hfound : s'.calls[c]? = some call') :
    (∃ call, s.calls[c]? = some call ∧ call.Evolves call') ∨
      ∃ id, event = .subscribe id ∧ c = s.calls.length ∧ call' = .new id := by
  rcases h.call hfound with hsame | ⟨call, hcall, hbecomes⟩ | hnew
  · exact .inl ⟨call', hsame, .refl call'⟩
  · exact .inl ⟨call, hcall, hbecomes.evolves⟩
  · exact .inr hnew

/-! ## The map along a step -/

/-- The step removes an id from the map: the deferred removal of a call, or that
of a failed `Send`. -/
def Removes (s : Server) (event : Event) (id : Str) : Prop :=
  (∃ c call, event = .call c .remove ∧ s.calls[c]? = some call ∧ call.stage = .leaving ∧
    call.id = id) ∨
  ∃ k h b, event = .handler k .finish ∧ s.handlers[k]? = some h ∧ h.stage = .broadcasting b ∧
    id ∈ b.failed

theorem lookup_eraseAll (ids : List Str) (m : StrMap ℕ) (id : Str) :
    (ids.foldl (fun m id => m.erase id) m).lookup id =
      if id ∈ ids then none else m.lookup id := by
  induction ids generalizing m with
  | nil => simp
  | cons head ids ih =>
      rw [List.foldl_cons, ih]
      by_cases hid : id = head
      · subst hid
        simp
      · rw [AList.lookup_erase_ne hid]
        simp [hid]

theorem Step.lookup (h : Step unmarshal s event s') (id : Str) :
    s'.subscribers.lookup id = s.subscribers.lookup id ∨
      (event = .subscribe id ∧ s'.subscribers.lookup id = some s.calls.length) ∨
      (s.Removes event id ∧ s'.subscribers.lookup id = none) := by
  cases h with
  | subscribe id' =>
      by_cases hid : id = id'
      · subst hid
        exact .inr (.inl ⟨rfl, AList.lookup_insert _⟩)
      · exact .inl (AList.lookup_insert_ne hid)
  | @remove c call hcall hstage =>
      by_cases hid : call.id = id
      · refine .inr (.inr ⟨.inl ⟨c, call, rfl, hcall, hstage, hid⟩, ?_⟩)
        rw [← hid]
        exact AList.lookup_erase _ _
      · exact .inl (AList.lookup_erase_ne fun heq => hid heq.symm)
  | @finish k h b hfound hstage hover =>
      have hlookup := lookup_eraseAll b.failed s.subscribers id
      by_cases hid : id ∈ b.failed
      · rw [if_pos hid] at hlookup
        exact .inr (.inr ⟨.inr ⟨k, h, b, rfl, hfound, hstage, hid⟩, hlookup⟩)
      · rw [if_neg hid] at hlookup
        exact .inl hlookup
  | _ => exact .inl rfl

/-! ## Keeping one's place -/

/-- Every call of the kind is registered under its id. -/
def Enrolled (kind : SubscribeCall → Bool) (s : Server) : Prop :=
  ∀ c call, s.calls[c]? = some call → kind call = true → s.subscribers.lookup call.id = some c

/-- The step puts no other call in the place of one of the kind, and removes
none of them. -/
def Spares (kind : SubscribeCall → Bool) (s : Server) (event : Event) : Prop :=
  ∀ id, event = .subscribe id ∨ s.Removes event id →
    ∀ c call, s.subscribers.lookup id = some c → s.calls[c]? = some call → kind call = false

/-- Kinds of calls that no call joins later than it begins. -/
structure Kind (kind : SubscribeCall → Bool) : Prop where
  evolves : ∀ {call call'}, call.Evolves call' → kind call' = true → kind call = true

theorem kind_attached : Kind SubscribeCall.attached := ⟨fun h => h.attached⟩

theorem kind_live : Kind SubscribeCall.live where
  evolves := by
    intro call call' h hlive
    simp only [SubscribeCall.live, Bool.and_eq_true, Bool.not_eq_true'] at hlive ⊢
    exact ⟨h.attached hlive.1, h.connected hlive.2⟩

section
variable {kind : SubscribeCall → Bool}

/-- The step lemma: a step that spares the kind keeps it enrolled. -/
theorem Enrolled.step (h : Enrolled kind s) (hkind : Kind kind) (hspares : s.Spares kind event)
    (hstep : Step unmarshal s event s') : Enrolled kind s' := by
  intro c call' hfound hkept
  rcases hstep.calls hfound with ⟨call, hcall, hev⟩ | ⟨id, hevent, hc, hnew⟩
  · have hcallKind := hkind.evolves hev hkept
    have hplace := h c call hcall hcallKind
    rw [hev.id]
    rcases hstep.lookup call.id with hsame | ⟨hevent, _⟩ | ⟨hremoves, _⟩
    · rw [hsame]
      exact hplace
    · rw [hspares call.id (.inl hevent) c call hplace hcall] at hcallKind
      cases hcallKind
    · rw [hspares call.id (.inr hremoves) c call hplace hcall] at hcallKind
      cases hcallKind
  · subst hevent hc hnew
    cases hstep
    exact AList.lookup_insert _

/-- The run lemma. -/
theorem enrolled_run {file : Option Str} {loader : Loader} {events : List Event} (hkind : Kind kind)
    (hrun : run unmarshal file loader events = some s)
    (hspares : Meets (step unmarshal) (Spares kind) (init file loader) events) :
    Enrolled kind s := by
  refine meets_invariant (P := fun _ s => Enrolled kind s) ?_ ?_ events s hspares hrun
  · intro c call hcall
    cases hcall
  · intro as e t t' _ henrolled hok hstep
    exact henrolled.step hkind hok (step_cases hstep).2

end

/-- The map leads from an id to a call of that id. -/
def Mapped (s : Server) : Prop :=
  ∀ id c, s.subscribers.lookup id = some c → ∃ call, s.calls[c]? = some call ∧ call.id = id

/-- A step keeps the calls it does not begin, under their ids. -/
theorem Step.keeps (h : Step unmarshal s event s') {c : ℕ} {call : SubscribeCall}
    (hcall : s.calls[c]? = some call) :
    ∃ call', s'.calls[c]? = some call' ∧ call.Evolves call' := by
  obtain ⟨call', hcall'⟩ := h.call_exists hcall
  rcases h.calls hcall' with ⟨old, hold, hev⟩ | ⟨id, _, hc, _⟩
  · cases hold.symm.trans hcall
    exact ⟨call', hcall', hev⟩
  · rw [hc, List.getElem?_eq_none le_rfl] at hcall
    cases hcall

theorem Mapped.step (h : s.Mapped) (hstep : Step unmarshal s event s') : s'.Mapped := by
  intro id c hlookup
  rcases hstep.lookup id with hsame | ⟨hevent, hnew⟩ | ⟨_, hnone⟩
  · rw [hsame] at hlookup
    obtain ⟨call, hcall, hid⟩ := h id c hlookup
    obtain ⟨call', hcall', hev⟩ := hstep.keeps hcall
    exact ⟨call', hcall', hev.id.trans hid⟩
  · subst hevent
    cases hstep
    cases hnew.symm.trans hlookup
    exact ⟨.new id, List.getElem?_concat_length, rfl⟩
  · cases hnone.symm.trans hlookup

theorem mapped_run {file : Option Str} {loader : Loader} {events : List Event}
    (hrun : run unmarshal file loader events = some s) : s.Mapped := by
  refine follow_invariant (P := fun _ s => s.Mapped) ?_ ?_ events s hrun
  · intro id c hlookup
    cases hlookup
  · intro as e t t' _ hmapped hstep
    exact hmapped.step (step_cases hstep).2

/-- **The condition is exact**: a step that does not spare the live calls leaves one
of them unregistered. -/
theorem Enrolled.step_iff (h : Enrolled SubscribeCall.live s) (hmapped : s.Mapped)
    (hstep : Step unmarshal s event s') :
    Enrolled SubscribeCall.live s' ↔ s.Spares SubscribeCall.live event := by
  constructor
  · intro h' id htouched c call hlookup hcall
    by_contra hlive
    rw [Bool.not_eq_false] at hlive
    obtain ⟨call₀, hcall₀, hid⟩ := hmapped id c hlookup
    cases hcall₀.symm.trans hcall
    rcases htouched with hevent | hremoves
    · subst hevent
      cases hstep
      have hplace := h' c call (getElem?_appended_of_some _ hcall) hlive
      rw [hid] at hplace
      have hnew : (s.subscribers.insert id s.calls.length).lookup id = some s.calls.length :=
        AList.lookup_insert _
      cases hnew.symm.trans hplace
      rw [List.getElem?_eq_none le_rfl] at hcall
      cases hcall
    · rcases hremoves with ⟨c₀, call₀, hevent, hfound, hleaving, hid₀⟩ |
        ⟨k, h₀, b, hevent, hfound, hstage, hmem⟩
      · subst hevent
        cases hstep with
        | remove hcall' hstage' =>
            cases hfound.symm.trans hcall'
            have hne : c ≠ c₀ := by
              rintro rfl
              cases hfound.symm.trans hcall
              simp [SubscribeCall.live, SubscribeCall.attached, hleaving, CallStage.isOpen] at hlive
            have hplace := h' c call ((getElem?_replaced_ne hfound _ hne).trans hcall) hlive
            rw [hid, ← hid₀] at hplace
            exact absurd ((AList.lookup_erase call₀.id s.subscribers).symm.trans hplace) nofun
      · subst hevent
        cases hstep with
        | finish hfound' hstage' hover =>
            cases hfound.symm.trans hfound'
            cases hstage.symm.trans hstage'
            have hplace := h' c call hcall hlive
            have hnone := lookup_eraseAll b.failed s.subscribers id
            rw [if_pos hmem, ← hid] at hnone
            exact absurd (hnone.symm.trans hplace) nofun
  · intro hspares
    exact h.step kind_live hspares hstep

theorem begun_of_lookup {id : Str} {c : ℕ} (h : s.subscribers.lookup id = some c)
    (snapshot : Snapshot) : ∃ j : ℕ, (s.begun snapshot).senders[j]? = some ⟨c, .sending⟩ := by
  have hentry : (⟨id, c⟩ : Sigma fun _ : Str => ℕ) ∈ s.subscribers.entries :=
    AList.mem_lookup_iff.mp h
  have hsender : (⟨c, .sending⟩ : Sender) ∈ (s.begun snapshot).senders :=
    List.mem_map.mpr ⟨_, hentry, rfl⟩
  exact List.mem_iff_getElem?.mp hsender

theorem lookup_of_begun {snapshot : Snapshot} {j : ℕ} {sender : Sender}
    (h : (s.begun snapshot).senders[j]? = some sender) :
    ∃ id, s.subscribers.lookup id = some sender.call := by
  obtain ⟨e, hentry, rfl⟩ := List.mem_map.mp (List.mem_of_getElem? h)
  exact ⟨e.1, AList.mem_lookup_iff.mpr hentry⟩

/-- A listed subscriber is sent the snapshot. -/
theorem listed_of_lookup {id : Str} {c : ℕ} (h : s.subscribers.lookup id = some c)
    (snapshot : Snapshot) :
    ∃ (b : Broadcast) (j : ℕ), s.listed snapshot = .broadcasting b ∧
      b.snapshot = snapshot ∧ b.senders[j]? = some ⟨c, .sending⟩ := by
  obtain ⟨j, hj⟩ := begun_of_lookup h snapshot
  refine ⟨s.begun snapshot, j, ?_, rfl, hj⟩
  exact if_neg (List.ne_nil_of_mem (List.mem_of_getElem? hj))

/-- **Live streams are registered**, in every run in which no step puts another
call in the place of a live one or removes it from there; and a broadcast that
lists the subscribers then sends to each of them. -/
theorem live_calls_registered (unmarshal : Str → Option GatewayConfig) (file : Option Str)
    (loader : Loader) (events : List Event) (s : Server)
    (hrun : run unmarshal file loader events = some s)
    (hspares : Meets (step unmarshal) (Spares SubscribeCall.live) (init file loader) events) :
    ∀ c call, s.calls[c]? = some call → call.stage = .blocked → call.disconnected = false →
      call.failed = false →
      s.subscribers.lookup call.id = some c ∧
        ∀ snapshot, ∃ (b : Broadcast) (j : ℕ), s.listed snapshot = .broadcasting b ∧
          b.snapshot = snapshot ∧ b.senders[j]? = some ⟨c, .sending⟩ := by
  intro c call hcall hstage hconnected hfailed
  have hlive : call.live = true := by
    simp [SubscribeCall.live, SubscribeCall.attached, hstage, hconnected, hfailed,
      CallStage.isOpen]
  have hplace := enrolled_run kind_live hrun hspares c call hcall hlive
  exact ⟨hplace, listed_of_lookup hplace⟩

/-- The data plane `x` is cut off and comes back before its first call has
returned, whose removal then takes the second call out of the map. -/
def reconnectRun : List Event :=
  [.subscribe "x".toList, .call 0 .current, .call 0 (.sendInitial true), .call 0 .disconnect,
    .subscribe "x".toList, .call 1 .current, .call 1 (.sendInitial true), .call 0 .wake,
    .call 0 .remove]

theorem reconnected_call_unregistered :
    ¬ ∀ (unmarshal : Str → Option GatewayConfig) (file : Option Str) (loader : Loader)
      (events : List Event) (s : Server), run unmarshal file loader events = some s →
      ∀ c call, s.calls[c]? = some call → call.stage = .blocked → call.disconnected = false →
        call.failed = false → s.subscribers.lookup call.id = some c := by
  intro hall
  have hplace := hall unmarshalBoth (some oldYaml) oldLoader reconnectRun _ rfl 1 _ rfl rfl rfl rfl
  exact absurd hplace (by decide)

/-- No call of the kind is registered under the id. -/
def vacant (kind : SubscribeCall → Bool) (s : Server) (id : Str) : Bool :=
  (s.subscribers.lookup id).all fun c => (s.calls[c]?).all fun call => !kind call

theorem kind_of_vacant {kind : SubscribeCall → Bool} {id : Str} (h : s.vacant kind id = true)
    {c : ℕ} {call : SubscribeCall} (hlookup : s.subscribers.lookup id = some c)
    (hcall : s.calls[c]? = some call) : kind call = false := by
  rw [vacant, hlookup, Option.all_some, hcall, Option.all_some] at h
  simpa using h

/-- A test for `Spares`. -/
def sparing (kind : SubscribeCall → Bool) (s : Server) : Event → Bool
  | .subscribe id => s.vacant kind id
  | .call c .remove => (s.calls[c]?).all fun call => s.vacant kind call.id
  | .handler k .finish => (s.broadcast? k).all fun b => b.failed.all (s.vacant kind)
  | _ => true

theorem spares_of_sparing {kind : SubscribeCall → Bool} (s : Server) (event : Event)
    (h : s.sparing kind event = true) : s.Spares kind event := by
  rintro id (rfl | ⟨c, call, rfl, hcall, _, rfl⟩ | ⟨k, handler, b, rfl, hfound, hstage, hid⟩)
    c' call' hlookup hcall'
  · exact kind_of_vacant h hlookup hcall'
  · rw [sparing, hcall, Option.all_some] at h
    exact kind_of_vacant h hlookup hcall'
  · have hb : s.broadcast? k = some b := by
      rw [broadcast?, hfound]
      show handler.broadcast? = some b
      rw [Handler.broadcast?, hstage]
    rw [sparing, hb, Option.all_some] at h
    exact kind_of_vacant (List.all_eq_true.mp h id hid) hlookup hcall'

/-- The data plane `x` is cut off, its call returns, and it comes back. A broadcast reaches it
and fails on the stream of `y`, which is removed. -/
def returnedRun : List Event :=
  [.subscribe "x".toList, .call 0 .current, .call 0 (.sendInitial true), .call 0 .disconnect,
    .call 0 .wake, .call 0 .remove, .subscribe "x".toList, .call 1 .current,
    .call 1 (.sendInitial true), .subscribe "y".toList, .call 2 .current,
    .call 2 (.sendInitial true), .load (.write (some newYaml)), .reload .admin, .load (.read 0),
    .load (.install 0), .handler 0 .current, .handler 0 .list, .call 2 .disconnect,
    .handler 0 (.sender 0 (.send false)), .handler 0 (.sender 0 .push),
    .handler 0 (.sender 0 .close), .handler 0 (.sender 1 (.send true)), .handler 0 .finish]

theorem live_calls_registered_returned :
    ∃ s, run unmarshalBoth (some oldYaml) oldLoader returnedRun = some s ∧
      s.subscribers.lookup "y".toList = none ∧ s.subscribers.lookup "x".toList = some 1 ∧
        ∃ (b : Broadcast) (j : ℕ), s.listed ⟨3, oldYaml, "later".toList⟩ = .broadcasting b ∧
          b.senders[j]? = some ⟨1, .sending⟩ := by
  have hspares : Meets (step unmarshalBoth) (Spares SubscribeCall.live)
      (init (some oldYaml) oldLoader) returnedRun :=
    meets_of_tested spares_of_sparing _ _ rfl
  obtain ⟨hplace, hlisted⟩ :=
    live_calls_registered unmarshalBoth (some oldYaml) oldLoader returnedRun _ rfl hspares 1 _ rfl
      rfl rfl rfl
  obtain ⟨b, j, hb, _, hsender⟩ := hlisted ⟨3, oldYaml, "later".toList⟩
  exact ⟨_, rfl, rfl, hplace, b, j, hb, hsender⟩

/-! ## Distinct ids -/

/-- Behind every failed `Send` of a broadcast there is a call whose stream failed. -/
structure Marked (s : Server) : Prop where
  senders : ∀ k j sender, s.sender? k j = some sender → sender.stage.hasFailed = true →
    ∃ call, s.calls[sender.call]? = some call ∧ call.failed = true
  ids : ∀ k b id, s.broadcast? k = some b → id ∈ b.failed →
    ∃ (c : ℕ) (call : SubscribeCall),
      s.calls[c]? = some call ∧ call.id = id ∧ call.failed = true

theorem Step.keeps_failed (hstep : Step unmarshal s event s') {c : ℕ}
    (h : ∃ call, s.calls[c]? = some call ∧ call.failed = true) :
    ∃ call, s'.calls[c]? = some call ∧ call.failed = true := by
  obtain ⟨call, hcall, hfailed⟩ := h
  obtain ⟨call', hcall', hev⟩ := hstep.keeps hcall
  exact ⟨call', hcall', hev.failed hfailed⟩

/-- A goroutine whose `Send` has failed is one of those of before, or its `Send`
fails now. -/
theorem Step.failed_sender (hstep : Step unmarshal s event s') {k j : ℕ} {sender : Sender}
    (hsender : s'.sender? k j = some sender) (hfailed : sender.stage.hasFailed = true) :
    (∃ old, s.sender? k j = some old ∧ old.call = sender.call ∧
        old.stage.hasFailed = true) ∨
      (event = .handler k (.sender j (.send false)) ∧
        s.sender? k j = some ⟨sender.call, .sending⟩) := by
  rcases hstep.sender k j with hsame | ⟨⟨c, stage⟩, action, stage', hevent, hold, hmoves, hafter⟩ |
    ⟨_, _, hsending⟩
  · exact .inl ⟨sender, hsame.symm.trans hsender, rfl, hfailed⟩
  · cases hafter.symm.trans hsender
    cases hmoves with
    | sent => cases hfailed
    | failed => exact .inr ⟨hevent, hold⟩
    | pushed => exact .inl ⟨_, hold, rfl, rfl⟩
    | closed => exact .inl ⟨_, hold, rfl, rfl⟩
  · rw [hsending sender hsender] at hfailed
    cases hfailed

theorem Marked.step (h : s.Marked) (hstep : Step unmarshal s event s') : s'.Marked where
  senders := by
    intro k j sender hsender hfailed
    rcases hstep.failed_sender hsender hfailed with ⟨old, hold, hcall, hfailed'⟩ | ⟨hevent, hold⟩
    · rw [← hcall]
      exact hstep.keeps_failed (h.senders k j old hold hfailed')
    · subst hevent
      cases hstep with
      | sendErr hfound hstage hsender' hcall _ =>
          cases (sender?_of_stage hfound hstage hsender').symm.trans hold
          exact ⟨_, getElem?_replaced_self hcall _, rfl⟩
  ids := by
    intro k b id hb hid
    rcases hstep.broadcast k with hsame | ⟨old, j, action, b', _, hold, hgoes, hb'⟩ |
      ⟨_, _, snapshot, _, hb'⟩
    · rw [hsame] at hb
      obtain ⟨c, call, hcall, rfl, hfailed⟩ := h.ids k b id hb hid
      obtain ⟨call', hcall', hev⟩ := hstep.keeps hcall
      exact ⟨c, call', hcall', hev.id, hev.failed hfailed⟩
    · cases hb'.symm.trans hb
      obtain ⟨c, call, hcall, rfl, hfailed⟩ :
          ∃ (c : ℕ) (call : SubscribeCall),
            s.calls[c]? = some call ∧ call.id = id ∧ call.failed = true := by
        cases hgoes with
        | @on sender call stage hsender hcall hmoves =>
            rcases List.mem_append.mp hid with hid | hid
            · exact h.ids k old id hold hid
            · split at hid
              · next hpush =>
                  rw [List.mem_singleton] at hid
                  have hsender? : s.sender? k j = some sender := by
                    rw [sender?, hold]
                    exact hsender
                  have hfailed : sender.stage.hasFailed = true := by
                    subst hpush
                    cases sender with
                    | mk c stage' =>
                        cases hmoves
                        rfl
                  obtain ⟨call', hcall', hfailed'⟩ := h.senders k j sender hsender? hfailed
                  cases hcall.symm.trans hcall'
                  exact ⟨sender.call, call, hcall, hid.symm, hfailed'⟩
              · cases hid
      obtain ⟨call', hcall', hev⟩ := hstep.keeps hcall
      exact ⟨c, call', hcall', hev.id, hev.failed hfailed⟩
    · cases hb'.symm.trans hb
      cases hid

theorem marked_run {file : Option Str} {loader : Loader} {events : List Event}
    (hrun : run unmarshal file loader events = some s) : s.Marked := by
  refine follow_invariant (P := fun _ s => s.Marked) ?_ ?_ events s hrun
  · constructor
    · intro k j sender hsender
      cases hsender
    · intro k b id hb
      cases hb
  · intro as e t t' _ hmarked hstep
    exact hmarked.step (step_cases hstep).2

/-- The ids of the `Subscribe` calls, as they came. -/
def subscribedIds : List Event → List Str
  | [] => []
  | .subscribe id :: rest => id :: subscribedIds rest
  | _ :: rest => subscribedIds rest

theorem subscribedIds_append (as bs : List Event) :
    subscribedIds (as ++ bs) = subscribedIds as ++ subscribedIds bs := by
  induction as with
  | nil => rfl
  | cons a as ih =>
      cases a with
      | subscribe id => exact congrArg (id :: ·) ih
      | _ => exact ih

theorem Step.ids (hstep : Step unmarshal s event s') :
    s'.calls.map SubscribeCall.id = s.calls.map SubscribeCall.id ++ subscribedIds [event] := by
  have hset : ∀ {c : ℕ} {call new : SubscribeCall}, s.calls[c]? = some call →
      s'.calls = s.calls.set c new → new.id = call.id → subscribedIds [event] = [] →
      s'.calls.map SubscribeCall.id = s.calls.map SubscribeCall.id ++ subscribedIds [event] := by
    intro c call new hcall hcalls hid hnone
    rw [hcalls, hnone, List.append_nil]
    exact map_replaced_same hcall hid
  cases hstep with
  | subscribe id => exact List.map_append
  | sendOk _ _ _ hcall _ => exact hset hcall rfl rfl rfl
  | sendErr _ _ _ hcall _ => exact hset hcall rfl rfl rfl
  | close _ _ _ hcall _ _ => exact hset hcall rfl rfl rfl
  | callCurrent hcall _ => exact hset hcall rfl rfl rfl
  | initialOk hcall _ => exact hset hcall rfl rfl rfl
  | initialErr hcall _ => exact hset hcall rfl rfl rfl
  | disconnect hcall => exact hset hcall rfl rfl rfl
  | wake hcall _ _ => exact hset hcall rfl rfl rfl
  | remove hcall _ => exact hset hcall rfl rfl rfl
  | _ => exact (List.append_nil _).symm

theorem ids_run {file : Option Str} {loader : Loader} {events : List Event}
    (hrun : run unmarshal file loader events = some s) :
    s.calls.map SubscribeCall.id = subscribedIds events := by
  refine follow_invariant (P := fun events s => s.calls.map SubscribeCall.id = subscribedIds events)
    rfl ?_ events s hrun
  intro as e t t' _ hids hstep
  rw [subscribedIds_append, ← hids]
  exact (step_cases hstep).2.ids

theorem call_unique (hnodup : (s.calls.map SubscribeCall.id).Nodup) {c c' : ℕ}
    {call call' : SubscribeCall} (hcall : s.calls[c]? = some call)
    (hcall' : s.calls[c']? = some call') (hid : call'.id = call.id) : c' = c := by
  have hlt : c' < (s.calls.map SubscribeCall.id).length := by
    rw [List.length_map]
    exact (List.getElem?_eq_some_iff.mp hcall').1
  apply (List.getElem?_inj hlt hnodup).mp
  rw [List.getElem?_map, List.getElem?_map, hcall, hcall']
  exact congrArg some hid

/-- With distinct ids every step spares the attached calls. -/
theorem spares_of_nodup (hmapped : s.Mapped) (hmarked : s.Marked)
    (hnodup : (s.calls.map SubscribeCall.id ++ subscribedIds [event]).Nodup) :
    s.Spares SubscribeCall.attached event := by
  intro id htouched c call hlookup hcall
  obtain ⟨call₀, hcall₀, hid⟩ := hmapped id c hlookup
  cases hcall₀.symm.trans hcall
  have hold : (s.calls.map SubscribeCall.id).Nodup := hnodup.of_append_left
  rcases htouched with rfl | ⟨c', call', _, hcall', hleaving, hid'⟩ |
    ⟨k, h, b, _, hfound, hstage, hmem⟩
  · have hmem : id ∈ s.calls.map SubscribeCall.id :=
      List.mem_map.mpr ⟨call, List.mem_of_getElem? hcall, hid⟩
    exact absurd (List.mem_singleton_self id) ((List.disjoint_of_nodup_append hnodup) hmem)
  · cases call_unique hold hcall hcall' (hid'.trans hid.symm)
    cases hcall'.symm.trans hcall
    simp [SubscribeCall.attached, hleaving, CallStage.isOpen]
  · obtain ⟨c', call', hcall', hid', hfailed⟩ :=
      hmarked.ids k b id (broadcast?_of_stage hfound hstage) hmem
    cases call_unique hold hcall hcall' (hid'.trans hid.symm)
    cases hcall'.symm.trans hcall
    simp [SubscribeCall.attached, hfailed]

/-- **With distinct ids the calls keep their places** until they are on the way
out or a `Send` has failed. -/
theorem enrolled_of_nodup {file : Option Str} {loader : Loader} {events : List Event}
    (hrun : run unmarshal file loader events = some s) (hnodup : (subscribedIds events).Nodup) :
    Enrolled SubscribeCall.attached s := by
  refine follow_invariant
    (P := fun events s => (subscribedIds events).Nodup → Enrolled SubscribeCall.attached s)
    ?_ ?_ events s hrun hnodup
  · intro _ c call hcall
    cases hcall
  · intro as e t t' hrun' henrolled hstep hnodup'
    rw [subscribedIds_append] at hnodup'
    have hplaces := henrolled hnodup'.of_append_left
    rw [← ids_run hrun'] at hnodup'
    have hspares := spares_of_nodup (mapped_run hrun') (marked_run hrun') hnodup'
    exact hplaces.step kind_attached hspares (step_cases hstep).2

end Server

end Stateform.ControlPlane
