import Mathlib.Data.List.AList
import Stateform.Library.Run
import Stateform.Http.Text

/-!
# The watcher of the control plane

`watcher.go`: which informer events on Endpoints objects make the watcher call reload,
against which of them change the ready addresses and ports of the objects it is
configured for. Label selectors, addresses and ports are types of the Kubernetes packages
and parameters here: the handlers only count addresses and ports.
-/

namespace Stateform.ControlPlane

open Library

/-! ## Objects -/

/-- `corev1.EndpointSubset`. -/
structure EndpointSubset (Address Port : Type) : Type where
  addresses : List Address
  notReadyAddresses : List Address
  ports : List Port

/-- `corev1.Endpoints`, with the part of its metadata that is read. -/
structure Endpoints (Address Port : Type) : Type where
  namespace_ : Str
  name : Str
  labels : AList fun _ : Str => Str
  subsets : List (EndpointSubset Address Port)

/-- `labels.Parse`, and `Matches` of the selector it gives. -/
structure LabelPackage : Type where
  parse : Str → Option ((AList fun _ : Str => Str) → Bool)

/-- `Watcher`, the field the handlers read. -/
structure Watcher : Type where
  label : Str

section
variable {Address Port : Type}

/-- `matchesLabel`. -/
def Watcher.matchesLabel (pkg : LabelPackage) (w : Watcher)
    (objLabels : AList fun _ : Str => Str) : Bool :=
  if w.label = [] then true
  else
    match pkg.parse w.label with
    | none => true
    | some sel => sel objLabels

/-- The loop of `endpointsChanged`. -/
def subsetsChanged : List (EndpointSubset Address Port) → List (EndpointSubset Address Port) → Bool
  | [], _ => false
  | _ :: _, [] => true
  | old :: olds, new :: news =>
      if old.addresses.length ≠ new.addresses.length then true
      else if old.ports.length ≠ new.ports.length then true
      else subsetsChanged olds news

/-- `endpointsChanged`. -/
def endpointsChanged (old new : Endpoints Address Port) : Bool :=
  if old.subsets.length ≠ new.subsets.length then true else subsetsChanged old.subsets new.subsets

/-! ## Events -/

/-- The key an informer files an object under. -/
def Endpoints.key (ep : Endpoints Address Port) : Str × Str := (ep.namespace_, ep.name)

/-- What an informer delivers. A delete comes with the final state of the object, or, when
the informer missed it, as a tombstone of its key. -/
inductive InformerEvent (Address Port : Type) : Type where
  | add (obj : Endpoints Address Port)
  | update (obj : Endpoints Address Port)
  | delete (obj : Endpoints Address Port)
  | tombstone (key : Str × Str)

/-- The objects the informers know of. -/
abbrev Store (Address Port : Type) : Type := AList fun _ : Str × Str => Endpoints Address Port

/-- The informers' own step. An update is of an object they have, an addition of one they
have not; the handler gets the object they had as the old one. -/
def Store.step (store : Store Address Port) : InformerEvent Address Port →
    Option (Store Address Port)
  | .add obj => if obj.key ∈ store then none else some (store.insert obj.key obj)
  | .update obj => if obj.key ∈ store then some (store.insert obj.key obj) else none
  | .delete obj => if obj.key ∈ store then some (store.erase obj.key) else none
  | .tombstone key => if key ∈ store then some (store.erase key) else none

def reason (what : String) (ep : Endpoints Address Port) : Str :=
  what.toList ++ ep.namespace_ ++ '/' :: ep.name

/-- The handlers of `startNamespace`: the reason they call reload with, if they do. -/
def Watcher.handle (pkg : LabelPackage) (w : Watcher) (store : Store Address Port) :
    InformerEvent Address Port → Option Str
  | .add ep =>
      if !w.matchesLabel pkg ep.labels then none else some (reason "k8s endpoints added: " ep)
  | .update ep =>
      if !w.matchesLabel pkg ep.labels then none
      else
        match store.lookup ep.key with
        | none => none
        | some old =>
            if !endpointsChanged old ep then none
            else some (reason "k8s endpoints updated: " ep)
  | .delete ep =>
      if !w.matchesLabel pkg ep.labels then none else some (reason "k8s endpoints deleted: " ep)
  -- the assertion that the object is an `Endpoints` fails
  | .tombstone _ => none

/-! ## What should be noticed -/

/-- An address that is ready, with one of its subset's ports, or with none if it has none. -/
def Endpoints.Ready (ep : Endpoints Address Port) (address : Address) (port : Option Port) : Prop :=
  ∃ subset ∈ ep.subsets, address ∈ subset.addresses ∧
    ((subset.ports = [] ∧ port = none) ∨ ∃ p ∈ subset.ports, port = some p)

/-- What the objects that match the label have ready, by object. -/
def readySet (pkg : LabelPackage) (w : Watcher) (store : Store Address Port) :
    Set ((Str × Str) × Address × Option Port) :=
  { e | ∃ ep, store.lookup e.1 = some ep ∧ w.matchesLabel pkg ep.labels = true ∧
    ep.Ready e.2.1 e.2.2 }

/-- Each subset has the same ready addresses and the same ports. -/
def SameReady (old new : Endpoints Address Port) : Prop :=
  ∀ i : ℕ, (∀ a, a ∈ ((old.subsets[i]?).map EndpointSubset.addresses).getD [] ↔
      a ∈ ((new.subsets[i]?).map EndpointSubset.addresses).getD []) ∧
    ∀ p, p ∈ ((old.subsets[i]?).map EndpointSubset.ports).getD [] ↔
      p ∈ ((new.subsets[i]?).map EndpointSubset.ports).getD []

/-- The subsets are as many, and each has as many addresses and ports. -/
def SameShape (old new : Endpoints Address Port) : Prop :=
  old.subsets.map (fun s => (s.addresses.length, s.ports.length)) =
    new.subsets.map fun s => (s.addresses.length, s.ports.length)

/-- The watcher notices an event: it reloads if the ready set changes, and an update it
takes for none changes no ready address and no port. -/
structure Noticed (pkg : LabelPackage) (w : Watcher) (store : Store Address Port)
    (event : InformerEvent Address Port) : Prop where
  reloads : ∀ store', store.step event = some store' →
    readySet pkg w store' ≠ readySet pkg w store → (w.handle pkg store event).isSome = true
  compared : ∀ old new, event = .update new → store.lookup new.key = some old →
    endpointsChanged old new = false → SameReady old new

def NothingReady (ep : Endpoints Address Port) : Prop := ∀ s ∈ ep.subsets, s.addresses = []

/-- What the handlers do not look at does not matter in this event: the addresses and ports
of an update of the same shape, the old labels, the object of a tombstone. -/
def Harmless (pkg : LabelPackage) (w : Watcher) (store : Store Address Port) :
    InformerEvent Address Port → Prop
  | .add _ => True
  | .update new => ∀ old, store.lookup new.key = some old →
      (SameShape old new → SameReady old new) ∧
      (w.matchesLabel pkg new.labels = true → w.matchesLabel pkg old.labels = false →
        SameShape old new → NothingReady new) ∧
      (w.matchesLabel pkg new.labels = false → w.matchesLabel pkg old.labels = true →
        NothingReady old)
  | .delete obj => ∀ old, store.lookup obj.key = some old →
      w.matchesLabel pkg obj.labels = false → w.matchesLabel pkg old.labels = true →
        NothingReady old
  | .tombstone key => ∀ old, store.lookup key = some old →
      w.matchesLabel pkg old.labels = true → NothingReady old

/-! ## Shapes -/

section
variable {old new ep : Endpoints Address Port}

theorem subsetsChanged_eq_false {olds news : List (EndpointSubset Address Port)}
    (hlength : olds.length = news.length) :
    subsetsChanged olds news = false ↔
      olds.map (fun s => (s.addresses.length, s.ports.length)) =
        news.map fun s => (s.addresses.length, s.ports.length) := by
  induction olds generalizing news with
  | nil =>
      obtain rfl : news = [] := List.eq_nil_of_length_eq_zero hlength.symm
      exact ⟨fun _ => rfl, fun _ => rfl⟩
  | cons o olds ih =>
      cases news with
      | nil => cases hlength
      | cons n news =>
          rw [List.map_cons, List.map_cons, List.cons.injEq, Prod.mk.injEq, subsetsChanged]
          by_cases haddresses : o.addresses.length = n.addresses.length
          · by_cases hports : o.ports.length = n.ports.length
            · rw [if_neg (not_not.mpr haddresses), if_neg (not_not.mpr hports),
                ih (Nat.succ_injective hlength)]
              simp [haddresses, hports]
            · simp [haddresses, hports]
          · simp [haddresses]

/-- Only the lengths are compared. -/
theorem endpointsChanged_eq_false : endpointsChanged old new = false ↔ SameShape old new := by
  unfold endpointsChanged
  by_cases hlength : old.subsets.length = new.subsets.length
  · rw [if_neg (not_not.mpr hlength)]
    exact subsetsChanged_eq_false hlength
  · rw [if_pos hlength]
    constructor
    · rintro ⟨⟩
    · intro hshape
      have hsame := congrArg List.length hshape
      rw [List.length_map, List.length_map] at hsame
      exact absurd hsame hlength

theorem ready_of_sameReady {address : Address} {port : Option Port} (h : SameReady old new)
    (hready : old.Ready address port) : new.Ready address port := by
  obtain ⟨s, hs, haddress, hport⟩ := hready
  obtain ⟨i, hi⟩ := List.mem_iff_getElem?.mp hs
  obtain ⟨haddresses, hports⟩ := h i
  rw [hi] at haddresses hports
  have hmem := (haddresses address).mp haddress
  cases hnew : new.subsets[i]? with
  | none =>
      rw [hnew] at hmem
      exact absurd hmem List.not_mem_nil
  | some s' =>
      rw [hnew] at hmem hports
      refine ⟨s', List.mem_of_getElem? hnew, hmem, ?_⟩
      rcases hport with ⟨hnone, rfl⟩ | ⟨p, hp, rfl⟩
      · refine .inl ⟨?_, rfl⟩
        apply List.eq_nil_iff_forall_not_mem.mpr
        intro p hp
        have hold := (hports p).mpr hp
        simp only [Option.map_some, Option.getD_some, hnone] at hold
        exact absurd hold List.not_mem_nil
      · exact .inr ⟨p, (hports p).mp hp, rfl⟩

theorem SameReady.symm (h : SameReady old new) : SameReady new old :=
  fun i => ⟨fun a => ((h i).1 a).symm, fun p => ((h i).2 p).symm⟩

theorem nothingReady_iff :
    NothingReady ep ↔ ∀ address port, ¬ ep.Ready address port := by
  constructor
  · rintro h address port ⟨s, hs, haddress, -⟩
    rw [h s hs] at haddress
    exact absurd haddress List.not_mem_nil
  · intro h s hs
    apply List.eq_nil_iff_forall_not_mem.mpr
    intro address haddress
    cases hports : s.ports with
    | nil => exact h address none ⟨s, hs, haddress, .inl ⟨hports, rfl⟩⟩
    | cons p ports =>
        exact h address (some p) ⟨s, hs, haddress, .inr ⟨p, by simp [hports], rfl⟩⟩

end

/-! ## What an event does to the ready set -/

section
variable {pkg : LabelPackage} {w : Watcher} {store store' : Store Address Port}
  {key : Str × Str} {old new obj : Endpoints Address Port} {o o' : Option (Endpoints Address Port)}

/-- What the object of a key adds to the ready set. -/
def readyOf (pkg : LabelPackage) (w : Watcher) (o : Option (Endpoints Address Port)) :
    Set (Address × Option Port) :=
  { e | ∃ ep, o = some ep ∧ w.matchesLabel pkg ep.labels = true ∧ ep.Ready e.1 e.2 }

theorem readyOf_none : readyOf pkg w (none : Option (Endpoints Address Port)) = ∅ := by
  ext e
  constructor
  · rintro ⟨ep, hep, -⟩
    cases hep
  · rintro ⟨⟩

theorem mem_readyOf_some {e : Address × Option Port} :
    e ∈ readyOf pkg w (some obj) ↔
      w.matchesLabel pkg obj.labels = true ∧ obj.Ready e.1 e.2 := by
  constructor
  · rintro ⟨ep, ⟨rfl⟩, h⟩
    exact h
  · intro h
    exact ⟨obj, rfl, h⟩

theorem readyOf_some_eq_empty : readyOf pkg w (some obj) = ∅ ↔
    (w.matchesLabel pkg obj.labels = true → NothingReady obj) := by
  rw [Set.eq_empty_iff_forall_notMem, nothingReady_iff]
  constructor
  · intro h hmatches address port hready
    exact h (address, port) (mem_readyOf_some.mpr ⟨hmatches, hready⟩)
  · intro h e he
    obtain ⟨hmatches, hready⟩ := mem_readyOf_some.mp he
    exact h hmatches e.1 e.2 hready

/-- Only the object of the event's key matters. -/
theorem readySet_eq_iff (hself : store'.lookup key = o') (hold : store.lookup key = o)
    (hother : ∀ k, k ≠ key → store'.lookup k = store.lookup k) :
    readySet pkg w store' = readySet pkg w store ↔ readyOf pkg w o' = readyOf pkg w o := by
  have hmem : ∀ (st : Store Address Port) k e, (k, e) ∈ readySet pkg w st ↔
      e ∈ readyOf pkg w (st.lookup k) := fun _ _ _ => Iff.rfl
  constructor
  · intro h
    ext e
    rw [← hself, ← hold, ← hmem, ← hmem, h]
  · intro h
    ext ⟨k, e⟩
    rw [hmem, hmem]
    by_cases hk : k = key
    · rw [hk, hself, hold, h]
    · rw [hother k hk]

theorem readySet_insert_eq_iff (hold : store.lookup obj.key = o) :
    readySet pkg w (store.insert obj.key obj) = readySet pkg w store ↔
      readyOf pkg w (some obj) = readyOf pkg w o :=
  readySet_eq_iff (AList.lookup_insert store) hold fun _ hk => AList.lookup_insert_ne hk

theorem readySet_erase_eq_iff (hold : store.lookup key = some old) :
    readySet pkg w (store.erase key) = readySet pkg w store ↔
      (w.matchesLabel pkg old.labels = true → NothingReady old) := by
  rw [readySet_eq_iff (AList.lookup_erase key store) hold fun _ hk => AList.lookup_erase_ne hk,
    readyOf_none, eq_comm, readyOf_some_eq_empty]

theorem handle_add : (w.handle pkg store (.add obj)).isSome = true ↔
    w.matchesLabel pkg obj.labels = true := by
  unfold Watcher.handle
  cases hmatches : w.matchesLabel pkg obj.labels <;> simp [hmatches]

theorem handle_update (hold : store.lookup new.key = some old) :
    (w.handle pkg store (.update new)).isSome = true ↔
      w.matchesLabel pkg new.labels = true ∧ ¬ SameShape old new := by
  rw [← endpointsChanged_eq_false]
  simp only [Watcher.handle, hold]
  cases w.matchesLabel pkg new.labels <;> cases endpointsChanged old new <;> simp

theorem handle_delete : (w.handle pkg store (.delete obj)).isSome = true ↔
    w.matchesLabel pkg obj.labels = true := by
  unfold Watcher.handle
  cases hmatches : w.matchesLabel pkg obj.labels <;> simp [hmatches]

theorem readyOf_of_sameReady (hsame : SameReady old new)
    (hmatches : w.matchesLabel pkg new.labels = true)
    (hmatched : w.matchesLabel pkg old.labels = true) :
    readyOf pkg w (some new) = readyOf pkg w (some old) := by
  ext e
  rw [mem_readyOf_some, mem_readyOf_some, hmatches, hmatched]
  exact and_congr_right fun _ => ⟨ready_of_sameReady hsame.symm, ready_of_sameReady hsame⟩

/-- An update of an object the informer has. -/
theorem noticed_update_iff (hold : store.lookup new.key = some old) :
    Noticed pkg w store (.update new) ↔
      (¬ (w.matchesLabel pkg new.labels = true ∧ ¬ SameShape old new) →
        readyOf pkg w (some new) = readyOf pkg w (some old)) ∧
      (SameShape old new → SameReady old new) := by
  have hmem : new.key ∈ store := AList.lookup_isSome.mp (by rw [hold]; rfl)
  have hstep : store.step (.update new) = some (store.insert new.key new) := if_pos hmem
  rw [← handle_update hold, ← readySet_insert_eq_iff hold]
  constructor
  · rintro ⟨hreloads, hcompared⟩
    refine ⟨?_, ?_⟩
    · intro hquiet
      by_contra hchanged
      exact hquiet (hreloads _ hstep hchanged)
    · intro hshape
      exact hcompared old new rfl hold (endpointsChanged_eq_false.mpr hshape)
  · rintro ⟨hquiet, hsame⟩
    refine ⟨?_, ?_⟩
    · rintro store' hstore' hchanged
      cases hstep.symm.trans hstore'
      by_contra hnot
      exact hchanged (hquiet hnot)
    · rintro old' new' ⟨rfl⟩ hold' hunchanged
      cases hold.symm.trans hold'
      exact hsame (endpointsChanged_eq_false.mp hunchanged)

/-- The same, for an event that takes an object away. -/
theorem noticed_erase_iff {event : InformerEvent Address Port}
    (hold : store.lookup key = some old) (hstep : store.step event = some (store.erase key))
    (hevent : ∀ new, event ≠ .update new) :
    Noticed pkg w store event ↔ ((w.handle pkg store event).isSome = false →
      w.matchesLabel pkg old.labels = true → NothingReady old) := by
  rw [← readySet_erase_eq_iff hold]
  constructor
  · rintro ⟨hreloads, -⟩ hquiet
    by_contra hchanged
    rw [hreloads _ hstep hchanged] at hquiet
    cases hquiet
  · intro hquiet
    refine ⟨?_, ?_⟩
    · intro store' hstore' hchanged
      cases hstep.symm.trans hstore'
      by_contra hnot
      exact hchanged (hquiet (Bool.eq_false_of_not_eq_true hnot))
    · rintro old' new' heq
      exact absurd heq (hevent new')

/-- An event the informers cannot deliver is noticed by default, an update apart. -/
theorem noticed_of_no_step {event : InformerEvent Address Port} (hstep : store.step event = none)
    (hcompared : ∀ old new, event = .update new → store.lookup new.key ≠ some old) :
    Noticed pkg w store event := by
  refine ⟨?_, ?_⟩
  · intro store' hstore'
    cases hstep.symm.trans hstore'
  · intro old new hevent hold
    exact absurd hold (hcompared old new hevent)

theorem not_mem_of_lookup {k : Str × Str} (h : store.lookup k = none) : ¬ k ∈ store := by
  intro hmem
  have hsome := AList.lookup_isSome.mpr hmem
  rw [h] at hsome
  cases hsome

/-- Every addition is noticed. -/
theorem noticed_add (obj : Endpoints Address Port) : Noticed pkg w store (.add obj) := by
  refine ⟨?_, ?_⟩
  · intro store' hstep hchanged
    simp only [Store.step] at hstep
    split at hstep
    · cases hstep
    · next habsent =>
        cases hstep
        have hnone : store.lookup obj.key = none := AList.lookup_eq_none.mpr habsent
        rw [handle_add]
        by_contra hnot
        apply hchanged
        rw [readySet_insert_eq_iff hnone, readyOf_none, readyOf_some_eq_empty]
        intro hmatches
        exact absurd hmatches hnot
  · rintro old new ⟨⟩

/-- An update of what is held is noticed exactly if it is harmless. -/
theorem noticed_update_iff_harmless (hold : store.lookup new.key = some old) :
    Noticed pkg w store (.update new) ↔ Harmless pkg w store (.update new) := by
  rw [noticed_update_iff hold]
  have hharmless : Harmless pkg w store (.update new) ↔
      (SameShape old new → SameReady old new) ∧
      (w.matchesLabel pkg new.labels = true → w.matchesLabel pkg old.labels = false →
        SameShape old new → NothingReady new) ∧
      (w.matchesLabel pkg new.labels = false → w.matchesLabel pkg old.labels = true →
        NothingReady old) := by
    constructor
    · intro h
      exact h old hold
    · rintro h old' hold'
      cases hold.symm.trans hold'
      exact h
  rw [hharmless, and_comm]
  apply and_congr_right
  intro hsame
  -- what is not selected adds nothing to the ready set, before or after
  cases hmatches : w.matchesLabel pkg new.labels with
  | false =>
      have hempty : readyOf pkg w (some new) = ∅ := by
        rw [readyOf_some_eq_empty, hmatches]
        rintro ⟨⟩
      simp only [Bool.false_eq_true, false_and, not_false_eq_true, true_implies,
        false_implies, true_and]
      rw [hempty, eq_comm, readyOf_some_eq_empty]
  | true =>
      simp only [true_and, not_not, true_implies, Bool.true_eq_false, false_implies,
        and_true]
      cases hmatched : w.matchesLabel pkg old.labels with
      | true =>
          simp only [Bool.true_eq_false, false_implies, iff_true]
          intro hshape
          exact readyOf_of_sameReady (hsame hshape) hmatches hmatched
      | false =>
          have hempty : readyOf pkg w (some old) = ∅ := by
            rw [readyOf_some_eq_empty, hmatched]
            rintro ⟨⟩
          simp only [true_implies]
          rw [hempty, readyOf_some_eq_empty, hmatches]
          simp only [true_implies]

/-- **One event.** It is noticed exactly if what the handlers do not look at does not
matter. -/
theorem noticed_iff_harmless (event : InformerEvent Address Port) :
    Noticed pkg w store event ↔ Harmless pkg w store event := by
  have hpresent : ∀ k ep, store.lookup k = some ep → k ∈ store := by
    intro k ep hk
    exact AList.lookup_isSome.mp (by rw [hk]; rfl)
  cases event with
  | add obj => exact iff_of_true (noticed_add obj) trivial
  | update new =>
      cases hold : store.lookup new.key with
      | none =>
          refine ⟨?_, fun _ => noticed_of_no_step (if_neg (not_mem_of_lookup hold)) ?_⟩
          · intro _ old hold'
            cases hold.symm.trans hold'
          · rintro old new' ⟨rfl⟩ hold'
            cases hold.symm.trans hold'
      | some old => exact noticed_update_iff_harmless hold
  | delete obj =>
      cases hold : store.lookup obj.key with
      | none =>
          refine ⟨?_, fun _ => noticed_of_no_step (if_neg (not_mem_of_lookup hold)) ?_⟩
          · intro _ old hold'
            cases hold.symm.trans hold'
          · rintro old new ⟨⟩
      | some old =>
          have hstep : store.step (.delete obj) = some (store.erase obj.key) :=
            if_pos (hpresent _ _ hold)
          rw [noticed_erase_iff hold hstep (by rintro new ⟨⟩), ← Bool.not_eq_true, handle_delete,
            Bool.not_eq_true]
          constructor
          · rintro h old' hold'
            cases hold.symm.trans hold'
            exact h
          · intro h
            exact h old hold
  | tombstone key =>
      cases hold : store.lookup key with
      | none =>
          refine ⟨?_, fun _ => noticed_of_no_step (if_neg (not_mem_of_lookup hold)) ?_⟩
          · intro _ old hold'
            cases hold.symm.trans hold'
          · rintro old new ⟨⟩
      | some old =>
          have hstep : store.step (.tombstone key) = some (store.erase key) :=
            if_pos (hpresent _ _ hold)
          rw [noticed_erase_iff hold hstep (by rintro new ⟨⟩)]
          constructor
          · rintro h old' hold'
            cases hold.symm.trans hold'
            exact h rfl
          · intro h _
            exact h old hold

end

end

/-- **When the watcher notices every event.** From any state after the sync, every event of
a run that changes the ready set has it reload, and no update it takes for none changes an
address or a port, exactly if every event is harmless. -/
theorem watcher_notices_iff {Address Port : Type} (pkg : LabelPackage) (w : Watcher)
    (start : Store Address Port) (events : List (InformerEvent Address Port)) :
    (∀ before event rest store, events = before ++ event :: rest →
      follow Store.step start before = some store → Noticed pkg w store event) ↔
    Meets Store.step (Harmless pkg w) start events := by
  -- every event by itself, at the store the ones before it have left
  rw [meets_iff_history]
  constructor
  · intro h before event rest store hevents hstore
    exact (noticed_iff_harmless event).mp (h before event rest store hevents hstore)
  · intro h before event rest store hevents hstore
    exact (noticed_iff_harmless event).mpr (h before event rest store hevents hstore)

/-- A package that parses no selector. -/
def LabelPackage.empty : LabelPackage := ⟨fun _ => none⟩

/-- One object, with this pod behind it. -/
def backendPod (address : Str) : Endpoints Str ℕ :=
  ⟨"default".toList, "backend".toList, ∅, [⟨[address], [], [9000]⟩]⟩

def oldPod : Endpoints Str ℕ := backendPod "10.0.0.1".toList

def newPod : Endpoints Str ℕ := backendPod "10.0.0.2".toList

def syncedStore : Store Str ℕ := AList.singleton oldPod.key oldPod

/-- One pod is replaced by another: the address changes, and nothing is reloaded. -/
theorem replacement_not_noticed :
    endpointsChanged oldPod newPod = false ∧
      (⟨[]⟩ : Watcher).handle .empty syncedStore (.update newPod) = none ∧
      ¬ ∀ (pkg : LabelPackage) (w : Watcher) (start : Store Str ℕ)
        (events : List (InformerEvent Str ℕ)) before event rest store,
        events = before ++ event :: rest → follow Store.step start before = some store →
          Noticed pkg w store event := by
  have hhandle : (⟨[]⟩ : Watcher).handle .empty syncedStore (.update newPod) = none := by decide
  refine ⟨by decide, hhandle, ?_⟩
  intro h
  have hnoticed := h .empty ⟨[]⟩ syncedStore [.update newPod] [] _ [] syncedStore rfl rfl
  have hmem : newPod.key ∈ syncedStore := by decide
  have hstep : syncedStore.step (.update newPod) =
      some (AList.insert newPod.key newPod syncedStore) := by
    rw [Store.step, if_pos hmem]
  have hold : syncedStore.lookup newPod.key = some oldPod := rfl
  have hchanged : readySet .empty ⟨[]⟩ (AList.insert newPod.key newPod syncedStore) ≠
      readySet .empty ⟨[]⟩ syncedStore := by
    rw [ne_eq, readySet_insert_eq_iff hold]
    intro hsame
    have hnew : ("10.0.0.2".toList, some 9000) ∈ readyOf .empty ⟨[]⟩ (some newPod) :=
      mem_readyOf_some.mpr ⟨rfl, _, List.mem_cons_self, List.mem_cons_self,
        .inr ⟨9000, List.mem_cons_self, rfl⟩⟩
    rw [hsame] at hnew
    obtain ⟨-, s, hs, haddress, -⟩ := mem_readyOf_some.mp hnew
    obtain rfl := List.mem_singleton.mp hs
    revert haddress
    decide
  have hreloads := hnoticed.reloads _ hstep hchanged
  rw [hhandle] at hreloads
  cases hreloads

end Stateform.ControlPlane
