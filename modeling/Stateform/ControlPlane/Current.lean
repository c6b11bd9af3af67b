import Stateform.ControlPlane.Loader

/-!
# What Current returns

`Current` against any number of `Reload` calls, at the grain of single loads and stores:
a reload stores the three fields one after the other under the write lock, and `Current`
loads them one after the other under the read lock. The lock makes the machine one whose
installs are single steps (`locking_refines`), so that every triple is the one of a single
reload (`current_consistent`).
-/

namespace Stateform.ControlPlane

open Library

/-! ## Loads and stores -/

/-- How far the holder of the write lock is: which field it has stored last. -/
inductive Stored : Type where
  | nothing
  | config
  | yaml
  | version
deriving DecidableEq

/-- The `Reload` call that holds the write lock, and what it has read from the file. -/
structure Writer : Type where
  call : ℕ
  raw : Str
  cfg : GatewayConfig
  stored : Stored
deriving DecidableEq

/-- Where a `Current` call is. It holds the read lock from `locked` on until it returns. -/
inductive CurrentCall : Type where
  | started
  | locked
  | sawConfig (cfg : GatewayConfig)
  | sawYaml (cfg : GatewayConfig) (raw : Str)
  | sawVersion (seen : Loader)
  | returned (seen : Loader)
deriving DecidableEq

def CurrentCall.holds : CurrentCall → Bool
  | .started => false
  | .returned _ => false
  | _ => true

/-- The file, the fields of the loader and its lock, the calls as they came, and, for the
record, what the reloads that returned have installed and what `Current` has returned. -/
structure Locking : Type where
  file : Option Str
  loader : Loader
  writer : Option Writer
  reloads : List ReloadCall
  currents : List CurrentCall
  log : List (ℕ × Loader)
  results : List Loader

inductive LockEvent : Type where
  | write (file : Option Str)
  | startReload
  | startCurrent
  | reload (k : ℕ)
  | current (k : ℕ)
deriving DecidableEq

namespace Locking

variable (unmarshal : Str → Option GatewayConfig)

def init (file : Option Str) (loader : Loader) : Locking := ⟨file, loader, none, [], [], [], []⟩

/-- What a call has read, or its error. -/
def readFile (s : Locking) : ReloadCall :=
  match load unmarshal s.file with
  | .error e => .failed e
  | .ok (raw, cfg) => .loaded raw cfg

/-- The end of a reload: it returns, and its fields are there to be read. -/
def unlock (s : Locking) (w : Writer) : Locking :=
  { s with
    writer := none
    reloads := s.reloads.set w.call (.installed s.loader.version)
    log := s.log ++ [(w.call, ⟨w.cfg, w.raw, s.loader.version⟩)] }

/-- The next store of the writer, and then the unlock. -/
def store (s : Locking) (w : Writer) : Locking :=
  match w.stored with
  | .nothing => { s with
      loader := { s.loader with current := w.cfg }
      writer := some { w with stored := .config } }
  | .config => { s with
      loader := { s.loader with rawYaml := w.raw }
      writer := some { w with stored := .yaml } }
  | .yaml => { s with
      loader := { s.loader with version := s.loader.version + 1 }
      writer := some { w with stored := .version } }
  | .version => s.unlock w

/-- The next step of a `Reload` call. -/
def stepReload (s : Locking) (k : ℕ) : Option Locking :=
  match s.reloads[k]? with
  | some .started => some { s with reloads := s.reloads.set k (s.readFile unmarshal) }
  | some (.loaded raw cfg) =>
      match s.writer with
      | none =>
          if s.currents.any CurrentCall.holds then none
          else some { s with writer := some ⟨k, raw, cfg, .nothing⟩ }
      | some w => if w.call = k then some (s.store w) else none
  | _ => none

/-- The next step of a `Current` call. -/
def stepCurrent (s : Locking) (k : ℕ) : Option Locking :=
  match s.currents[k]? with
  | some .started =>
      if s.writer.isSome then none else some { s with currents := s.currents.set k .locked }
  | some .locked =>
      some { s with currents := s.currents.set k (.sawConfig s.loader.current) }
  | some (.sawConfig cfg) =>
      some { s with currents := s.currents.set k (.sawYaml cfg s.loader.rawYaml) }
  | some (.sawYaml cfg raw) =>
      some { s with currents := s.currents.set k (.sawVersion ⟨cfg, raw, s.loader.version⟩) }
  | some (.sawVersion seen) =>
      some { s with
        currents := s.currents.set k (.returned seen)
        results := s.results ++ [seen] }
  | _ => none

def step (s : Locking) : LockEvent → Option Locking
  | .write file => some { s with file := file }
  | .startReload => some { s with reloads := s.reloads ++ [.started] }
  | .startCurrent => some { s with currents := s.currents ++ [.started] }
  | .reload k => s.stepReload unmarshal k
  | .current k => s.stepCurrent k

/-- The state after a list of events, if each could happen. -/
def run (file : Option Str) (loader : Loader) (events : List LockEvent) : Option Locking :=
  follow (step unmarshal) (init file loader) events

/-! ## What the fields should be -/

/-- What the last reload to return has installed, or `NewLoader` before any. -/
def committed (s : Locking) (first : Loader) : Loader := (s.log.getLast?.map Prod.snd).getD first

/-- What the fields are while a reload stores its own over these. -/
def pending (w : Writer) (l : Loader) : Loader :=
  match w.stored with
  | .nothing => l
  | .config => { l with current := w.cfg }
  | .yaml => { l with current := w.cfg, rawYaml := w.raw }
  | .version => ⟨w.cfg, w.raw, l.version + 1⟩

/-- What a `Current` call has seen is of these fields. -/
def Sees (l : Loader) : CurrentCall → Prop
  | .sawConfig cfg => cfg = l.current
  | .sawYaml cfg raw => cfg = l.current ∧ raw = l.rawYaml
  | .sawVersion seen => seen = l
  | _ => True

/-- The lock: either no reload is storing, the fields are whole and so is what is being
read, or one is and nobody reads. -/
def Guarded (s : Locking) (l : Loader) : Prop :=
  match s.writer with
  | none => s.loader = l ∧ ∀ (k : ℕ) (c : CurrentCall), s.currents[k]? = some c → Sees l c
  | some w => s.loader = pending w l ∧ s.reloads[w.call]? = some (.loaded w.raw w.cfg) ∧
      ∀ (k : ℕ) (c : CurrentCall), s.currents[k]? = some c → c.holds = false

/-- The step lemma's invariant: the fields are guarded, what the log and the results say of
the reloads, and what a call has read is a validated parse. -/
structure Sound (first : Loader) (s : Locking) : Prop where
  guarded : s.Guarded (s.committed first)
  loaded : ∀ (k : ℕ) (raw : Str) (cfg : GatewayConfig),
    s.reloads[k]? = some (.loaded raw cfg) → Parses unmarshal raw cfg
  parsed : ∀ l ∈ first :: s.log.map Prod.snd, Parses unmarshal l.rawYaml l.current
  counted : ∀ (i : ℕ) (e : ℕ × Loader), s.log[i]? = some e →
    e.2.version = first.version + (i + 1)
  installed : ∀ k v, s.reloads[k]? = some (.installed v) ↔ ∃ l, (k, l) ∈ s.log ∧ l.version = v
  recorded : ∀ l ∈ s.results, l ∈ first :: s.log.map Prod.snd
  ordered : s.results.Pairwise fun l l' => l.version ≤ l'.version

section
variable {unmarshal} {file : Option Str} {first l : Loader} {s s' : Locking} {w : Writer} {k : ℕ}
  {c c' : CurrentCall}

/-! ## The log -/

theorem committed_unlock (s : Locking) (w : Writer) (first : Loader) :
    (s.unlock w).committed first = ⟨w.cfg, w.raw, s.loader.version⟩ := by
  rw [committed, unlock, List.getLast?_concat]
  rfl

theorem committed_mem (s : Locking) (first : Loader) :
    s.committed first ∈ first :: s.log.map Prod.snd := by
  unfold committed
  cases hlast : s.log.getLast? with
  | none => exact List.mem_cons_self
  | some e =>
      exact List.mem_cons_of_mem _ (List.mem_map_of_mem (List.mem_of_getLast? hlast))

theorem Sound.committed_version (h : s.Sound unmarshal first) :
    (s.committed first).version = first.version + s.log.length := by
  unfold committed
  cases hlog : s.log with
  | nil => rfl
  | cons e rest =>
      have hne : s.log ≠ [] := by
        rw [hlog]
        exact List.cons_ne_nil e rest
      have hlength : 0 < s.log.length := List.length_pos_of_ne_nil hne
      have hat : s.log[s.log.length - 1]? = some (s.log.getLast hne) := by
        rw [← List.getLast?_eq_getElem?, List.getLast?_eq_some_getLast]
      rw [← hlog, List.getLast?_eq_some_getLast hne]
      have hversion := h.counted _ _ hat
      simp only [Option.map_some, Option.getD_some]
      omega

/-- A version names an entry: the first is what was loaded first. -/
theorem Sound.eq_of_version (h : s.Sound unmarshal first) {l l' : Loader}
    (hl : l ∈ first :: s.log.map Prod.snd) (hl' : l' ∈ first :: s.log.map Prod.snd)
    (hversion : l.version = l'.version) : l = l' := by
  have hentry : ∀ x ∈ s.log.map Prod.snd, ∃ i, (s.log[i]?).map Prod.snd = some x ∧
      x.version = first.version + (i + 1) := by
    intro x hx
    obtain ⟨e, he, rfl⟩ := List.mem_map.mp hx
    obtain ⟨i, hi⟩ := List.mem_iff_getElem?.mp he
    exact ⟨i, by rw [hi]; rfl, h.counted i e hi⟩
  -- the version of an install is its place in the log
  rcases List.mem_cons.mp hl with rfl | hl
  · rcases List.mem_cons.mp hl' with rfl | hl'
    · rfl
    · obtain ⟨i, -, hi⟩ := hentry l' hl'
      omega
  · obtain ⟨i, hat, hi⟩ := hentry l hl
    rcases List.mem_cons.mp hl' with rfl | hl'
    · omega
    · obtain ⟨j, hat', hj⟩ := hentry l' hl'
      obtain rfl : i = j := by omega
      exact Option.some.inj (hat.symm.trans hat')

theorem Sound.version_le (h : s.Sound unmarshal first) (hl : l ∈ first :: s.log.map Prod.snd) :
    l.version ≤ (s.committed first).version := by
  rw [h.committed_version]
  rcases List.mem_cons.mp hl with rfl | hl
  · exact Nat.le_add_right _ _
  · obtain ⟨e, he, rfl⟩ := List.mem_map.mp hl
    obtain ⟨i, hi⟩ := List.mem_iff_getElem?.mp he
    have hlt := (List.getElem?_eq_some_iff.mp hi).1
    rw [h.counted i e hi]
    omega

/-! ## The lock -/

/-- Nobody stores while a call reads. -/
theorem Guarded.of_holds (h : s.Guarded l) (hk : s.currents[k]? = some c)
    (hholds : c.holds = true) :
    s.writer = none ∧ s.loader = l ∧
      ∀ (j : ℕ) (c : CurrentCall), s.currents[j]? = some c → Sees l c := by
  unfold Guarded at h
  cases hwriter : s.writer with
  | none =>
      rw [hwriter] at h
      exact ⟨rfl, h⟩
  | some w =>
      rw [hwriter] at h
      rw [h.2.2 k c hk] at hholds
      cases hholds

theorem guarded_of_none (hwriter : s.writer = none) :
    s.Guarded l ↔ s.loader = l ∧
      ∀ (j : ℕ) (c : CurrentCall), s.currents[j]? = some c → Sees l c := by
  rw [Guarded, hwriter]

theorem guarded_of_some (hwriter : s.writer = some w) :
    s.Guarded l ↔ s.loader = pending w l ∧ s.reloads[w.call]? = some (.loaded w.raw w.cfg) ∧
      ∀ (k : ℕ) (c : CurrentCall), s.currents[k]? = some c → c.holds = false := by
  rw [Guarded, hwriter]

theorem sees_of_not_holds (h : c.holds = false) : Sees l c := by
  cases c with
  | started => trivial
  | returned seen => trivial
  | locked => cases h
  | sawConfig cfg => cases h
  | sawYaml cfg raw => cases h
  | sawVersion seen => cases h

/-- The other calls may move on. -/
theorem guarded_reloads {reloads : List ReloadCall} (h : s.Guarded l)
    (hcall : ∀ w, s.writer = some w → s.reloads[w.call]? = some (.loaded w.raw w.cfg) →
      reloads[w.call]? = some (.loaded w.raw w.cfg)) :
    Guarded { s with reloads := reloads } l := by
  cases hw : s.writer with
  | none =>
      refine (guarded_of_none ?_).mpr ((guarded_of_none hw).mp h)
      rfl
  | some w =>
      obtain ⟨hloader, hloaded, hcurrents⟩ := (guarded_of_some hw).mp h
      refine (guarded_of_some ?_).mpr ⟨hloader, hcall w hw hloaded, hcurrents⟩
      rfl

/-- A call that reads on. -/
theorem guarded_current (hwriter : s.writer = none) (h : s.Guarded l)
    (hk : s.currents[k]? = some c) (hsees : Sees l c') (results : List Loader) :
    Guarded { s with currents := s.currents.set k c', results := results } l := by
  obtain ⟨hloader, hall⟩ := (guarded_of_none hwriter).mp h
  refine (guarded_of_none ?_).mpr ⟨hloader, ?_⟩
  · exact hwriter
  intro j c hj
  change (s.currents.set k c')[j]? = some c at hj
  rw [getElem?_replaced hk] at hj
  split at hj
  · cases hj
    exact hsees
  · exact hall j c hj

/-! ## What a step keeps -/

variable (unmarshal) in
theorem readFile_cases (s : Locking) :
    (∃ e, s.readFile unmarshal = .failed e) ∨
      ∃ raw cfg, s.readFile unmarshal = .loaded raw cfg ∧ Parses unmarshal raw cfg := by
  unfold readFile
  cases hload : load unmarshal s.file with
  | error e => exact .inl ⟨e, rfl⟩
  | ok found => exact .inr ⟨found.1, found.2, rfl, (load_eq_ok.mp hload).2⟩

/-- A call that neither holds the lock nor has returned moves on. -/
theorem Sound.replaced {old new : ReloadCall} (h : s.Sound unmarshal first)
    (hk : s.reloads[k]? = some old) (hwriter : ∀ w, s.writer = some w → w.call ≠ k)
    (hold : ∀ v, old ≠ .installed v) (hnew : ∀ v, new ≠ .installed v)
    (hloaded : ∀ raw cfg, new = .loaded raw cfg → Parses unmarshal raw cfg) :
    Sound unmarshal first { s with reloads := s.reloads.set k new } where
  guarded := by
    apply guarded_reloads h.guarded
    intro w hw hcall
    exact (getElem?_replaced_ne hk new (hwriter w hw)).trans hcall
  loaded := by
    intro j raw cfg hj
    change (s.reloads.set k new)[j]? = _ at hj
    rw [getElem?_replaced hk] at hj
    split at hj
    · exact hloaded raw cfg (Option.some.inj hj)
    · exact h.loaded j raw cfg hj
  parsed := h.parsed
  counted := h.counted
  installed := by
    intro j v
    rw [← h.installed j v]
    show (s.reloads.set k new)[j]? = _ ↔ _
    rw [getElem?_replaced hk]
    split
    · next hjk =>
        rw [hjk, hk]
        constructor
        · intro heq
          exact absurd (Option.some.inj heq) (hnew v)
        · intro heq
          exact absurd (Option.some.inj heq) (hold v)
    · rfl
  recorded := h.recorded
  ordered := h.ordered

theorem Sound.startReload (h : s.Sound unmarshal first) :
    Sound unmarshal first { s with reloads := s.reloads ++ [.started] } where
  guarded := guarded_reloads h.guarded fun _ _ hcall => getElem?_appended_of_some _ hcall
  loaded := by
    intro j raw cfg hj
    change (s.reloads ++ [.started])[j]? = _ at hj
    rw [getElem?_appended] at hj
    split at hj
    · cases hj
    · exact h.loaded j raw cfg hj
  parsed := h.parsed
  counted := h.counted
  installed := by
    intro j v
    rw [← h.installed j v]
    constructor
    · intro hj
      change (s.reloads ++ [.started])[j]? = _ at hj
      rw [getElem?_appended] at hj
      split at hj
      · cases hj
      · exact hj
    · intro hj
      exact getElem?_appended_of_some _ hj
  recorded := h.recorded
  ordered := h.ordered

/-- The lock is held and the fields change, and the rest is left alone. -/
theorem Sound.stored {loader : Loader} (h : s.Sound unmarshal first)
    (hguarded : Guarded { s with loader := loader, writer := some w } (s.committed first)) :
    Sound unmarshal first { s with loader := loader, writer := some w } where
  guarded := hguarded
  loaded := h.loaded
  parsed := h.parsed
  counted := h.counted
  installed := h.installed
  recorded := h.recorded
  ordered := h.ordered

theorem Sound.current (h : s.Sound unmarshal first) {currents : List CurrentCall}
    (hguarded : Guarded { s with currents := currents } (s.committed first)) :
    Sound unmarshal first { s with currents := currents } where
  guarded := hguarded
  loaded := h.loaded
  parsed := h.parsed
  counted := h.counted
  installed := h.installed
  recorded := h.recorded
  ordered := h.ordered

/-- The unlock: what was stored is what the call has read, one version on. -/
theorem Sound.unlocked (h : s.Sound unmarshal first) (hw : s.writer = some w)
    (hstored : w.stored = .version) : (s.unlock w).Sound unmarshal first := by
  obtain ⟨hloader, hcall, hcurrents⟩ := (guarded_of_some hw).mp h.guarded
  rw [pending, hstored] at hloader
  have hversion : s.loader.version = first.version + (s.log.length + 1) := by
    rw [hloader, h.committed_version]
    rfl
  have hfields : s.loader = ⟨w.cfg, w.raw, s.loader.version⟩ := by rw [hloader]
  have hmap : (s.unlock w).log.map Prod.snd =
      s.log.map Prod.snd ++ [⟨w.cfg, w.raw, s.loader.version⟩] := by
    rw [unlock, List.map_append]
    rfl
  -- no call reads under the lock, so none sees the fields change
  refine ⟨?_, ?_, ?_, ?_, ?_, ?_, h.ordered⟩
  · rw [committed_unlock]
    refine (guarded_of_none ?_).mpr ⟨hfields, ?_⟩
    · rfl
    · intro k c hk
      exact sees_of_not_holds (hcurrents k c hk)
  · intro j raw cfg hj
    change (s.reloads.set w.call _)[j]? = _ at hj
    rw [getElem?_replaced hcall] at hj
    split at hj
    · cases hj
    · exact h.loaded j raw cfg hj
  · intro l hl
    rw [hmap] at hl
    rcases List.mem_cons.mp hl with rfl | hl
    · exact h.parsed l List.mem_cons_self
    · rcases List.mem_append.mp hl with hl | hl
      · exact h.parsed l (List.mem_cons_of_mem _ hl)
      · obtain rfl := List.mem_singleton.mp hl
        exact h.loaded w.call w.raw w.cfg hcall
  · intro i e hi
    change (s.log ++ [_])[i]? = some e at hi
    rw [getElem?_appended] at hi
    split at hi
    · next hlast =>
        cases hi
        rw [hlast]
        exact hversion
    · exact h.counted i e hi
  · intro j v
    show (s.reloads.set w.call _)[j]? = _ ↔ _
    rw [getElem?_replaced hcall]
    split
    · next hj =>
        subst hj
        constructor
        · rintro ⟨rfl⟩
          exact ⟨_, List.mem_append_right _ List.mem_cons_self, rfl⟩
        · rintro ⟨l, hl, rfl⟩
          rcases List.mem_append.mp hl with hl | hl
          · have hdone := (h.installed w.call l.version).mpr ⟨l, hl, rfl⟩
            cases hcall.symm.trans hdone
          · cases List.mem_singleton.mp hl
            rfl
    · next hj =>
        rw [h.installed j v]
        constructor
        · rintro ⟨l, hl, rfl⟩
          exact ⟨l, List.mem_append_left _ hl, rfl⟩
        · rintro ⟨l, hl, rfl⟩
          rcases List.mem_append.mp hl with hl | hl
          · exact ⟨l, hl, rfl⟩
          · cases List.mem_singleton.mp hl
            exact absurd rfl hj
  · intro l hl
    rw [hmap, ← List.cons_append]
    exact List.mem_append_left _ (h.recorded l hl)

/-- A `Current` call that returns what it has seen. -/
theorem Sound.returned {seen : Loader} (h : s.Sound unmarshal first)
    (hk : s.currents[k]? = some (.sawVersion seen)) :
    Sound unmarshal first { s with
      currents := s.currents.set k (.returned seen)
      results := s.results ++ [seen] } := by
  obtain ⟨hwriter, hloader, hsees⟩ := h.guarded.of_holds hk rfl
  have hseen : seen = s.committed first := hsees k _ hk
  refine ⟨guarded_current hwriter h.guarded hk ?_ _, h.loaded, h.parsed, h.counted, h.installed,
    ?_, ?_⟩
  · trivial
  · intro l hl
    rcases List.mem_append.mp hl with hl | hl
    · exact h.recorded l hl
    · obtain rfl := List.mem_singleton.mp hl
      rw [hseen]
      exact committed_mem s first
  · refine List.pairwise_append.mpr ⟨h.ordered, List.pairwise_singleton _ _, ?_⟩
    intro l hl l' hl'
    obtain rfl := List.mem_singleton.mp hl'
    rw [hseen]
    exact h.version_le (h.recorded l hl)

theorem sound_stepCurrent (h : s.Sound unmarshal first) (hstep : s.stepCurrent k = some s') :
    s'.Sound unmarshal first ∧ s'.file = s.file ∧ s'.log = s.log ∧ s'.reloads = s.reloads := by
  unfold stepCurrent at hstep
  split at hstep
  · next hk =>
      split at hstep
      · cases hstep
      · next hfree =>
          cases hstep
          -- `RLock` is granted only while nobody stores
          have hwriter : s.writer = none := by simpa using hfree
          refine ⟨h.current (guarded_current hwriter h.guarded hk ?_ _), rfl, rfl, rfl⟩
          trivial
  · next hk =>
      cases hstep
      obtain ⟨hwriter, hloader, -⟩ := h.guarded.of_holds hk rfl
      refine ⟨h.current (guarded_current hwriter h.guarded hk ?_ _), rfl, rfl, rfl⟩
      exact congrArg Loader.current hloader
  · next cfg hk =>
      cases hstep
      obtain ⟨hwriter, hloader, hsees⟩ := h.guarded.of_holds hk rfl
      refine ⟨h.current (guarded_current hwriter h.guarded hk ?_ _), rfl, rfl, rfl⟩
      exact ⟨hsees k _ hk, congrArg Loader.rawYaml hloader⟩
  · next cfg raw hk =>
      cases hstep
      obtain ⟨hwriter, hloader, hsees⟩ := h.guarded.of_holds hk rfl
      refine ⟨h.current (guarded_current hwriter h.guarded hk ?_ _), rfl, rfl, rfl⟩
      obtain ⟨rfl, rfl⟩ := hsees k _ hk
      show (⟨_, _, s.loader.version⟩ : Loader) = _
      rw [hloader]
  · next seen hk =>
      cases hstep
      exact ⟨h.returned hk, rfl, rfl, rfl⟩
  · cases hstep

/-- The writer stores a field. -/
theorem Sound.storedField (h : s.Sound unmarshal first) (hw : s.writer = some w) {loader : Loader}
    {stored : Stored}
    (hloader : loader = pending { w with stored := stored } (s.committed first)) :
    Sound unmarshal first
      { s with loader := loader, writer := some { w with stored := stored } } := by
  obtain ⟨-, hcall, hcurrents⟩ := (guarded_of_some hw).mp h.guarded
  apply h.stored
  rw [guarded_of_some rfl]
  exact ⟨hloader, hcall, hcurrents⟩

theorem sound_store (h : s.Sound unmarshal first) (hw : s.writer = some w) :
    (s.store w).Sound unmarshal first := by
  obtain ⟨hloader, -, -⟩ := (guarded_of_some hw).mp h.guarded
  -- each write takes the fields one step further to what is pending
  unfold store
  cases hstored : w.stored with
  | nothing =>
      apply h.storedField hw
      rw [hloader]
      simp only [pending, hstored]
  | config =>
      apply h.storedField hw
      rw [hloader]
      simp only [pending, hstored]
  | yaml =>
      apply h.storedField hw
      rw [hloader]
      simp only [pending, hstored]
  | version => exact h.unlocked hw hstored

/-- The loader with its installs as single steps, that this one stands for. -/
def atomic (s : Locking) (first : Loader) : Loading := ⟨s.file, s.committed first, s.reloads⟩

/-- A store is no step of the atomic loader, and an unlock is its install. -/
theorem store_atomic (h : s.Sound unmarshal first) (hw : s.writer = some w) :
    (s.store w).atomic first = s.atomic first ∨
      (s.atomic first).step unmarshal (.install w.call) = some ((s.store w).atomic first) := by
  obtain ⟨hloader, hcall, -⟩ := (guarded_of_some hw).mp h.guarded
  unfold store
  cases hstored : w.stored with
  | nothing => exact .inl rfl
  | config => exact .inl rfl
  | yaml => exact .inl rfl
  | version =>
      right
      rw [pending, hstored] at hloader
      have hversion : s.loader.version = (s.committed first).version + 1 := by rw [hloader]
      have hat : (s.atomic first).reloads[w.call]? = some (.loaded w.raw w.cfg) := hcall
      have hunlock : (s.unlock w).atomic first = ⟨s.file, ⟨w.cfg, w.raw, s.loader.version⟩,
          s.reloads.set w.call (.installed s.loader.version)⟩ := by
        rw [atomic, committed_unlock]
        rfl
      simp only [Loading.step, hat]
      rw [hunlock, hversion]
      rfl

theorem sound_stepReload (h : s.Sound unmarshal first)
    (hstep : s.stepReload unmarshal k = some s') :
    s'.Sound unmarshal first ∧ (s'.atomic first = s.atomic first ∨
      ∃ e, (s.atomic first).step unmarshal e = some (s'.atomic first)) := by
  unfold stepReload at hstep
  split at hstep
  · next hk =>
      cases hstep
      refine ⟨?_, .inr ⟨.read k, ?_⟩⟩
      · have hwriter : ∀ w, s.writer = some w → w.call ≠ k := by
          rintro w hw rfl
          cases hk.symm.trans ((guarded_of_some hw).mp h.guarded).2.1
        refine h.replaced hk hwriter (by rintro v ⟨⟩) ?_ ?_
        · intro v heq
          rcases readFile_cases unmarshal s with ⟨e, he⟩ | ⟨raw, cfg, hr, -⟩
          · cases heq.symm.trans he
          · cases heq.symm.trans hr
        · intro raw cfg heq
          rcases readFile_cases unmarshal s with ⟨e, he⟩ | ⟨raw', cfg', hr, hparses⟩
          · cases heq.symm.trans he
          · cases heq.symm.trans hr
            exact hparses
      · exact if_pos hk
  · next raw cfg hk =>
      split at hstep
      · next hwriter =>
          split at hstep
          · cases hstep
          · next hfree =>
              cases hstep
              have hfields := ((guarded_of_none hwriter).mp h.guarded).1
              refine ⟨h.stored ?_, .inl rfl⟩
              rw [guarded_of_some rfl]
              refine ⟨hfields, hk, ?_⟩
              intro j c hj
              by_contra hholds
              apply hfree
              exact List.any_eq_true.mpr ⟨c, List.mem_of_getElem? hj, by simpa using hholds⟩
      · next w hw =>
          split at hstep
          · cases hstep
            exact ⟨sound_store h hw, (store_atomic h hw).imp_right fun hinstall => ⟨_, hinstall⟩⟩
          · cases hstep
  · cases hstep

/-- The step lemma. -/
theorem sound_step {e : LockEvent} (h : s.Sound unmarshal first)
    (hstep : s.step unmarshal e = some s') :
    s'.Sound unmarshal first ∧ (s'.atomic first = s.atomic first ∨
      ∃ e, (s.atomic first).step unmarshal e = some (s'.atomic first)) := by
  cases e with
  | write file =>
      cases hstep
      refine ⟨⟨?_, h.loaded, h.parsed, h.counted, h.installed, h.recorded, h.ordered⟩,
        .inr ⟨.write file, rfl⟩⟩
      exact h.guarded
  | startReload =>
      cases hstep
      exact ⟨h.startReload, .inr ⟨.start, rfl⟩⟩
  | startCurrent =>
      cases hstep
      refine ⟨h.current ?_, .inl rfl⟩
      cases hw : s.writer with
      | none =>
          obtain ⟨hloader, hsees⟩ := (guarded_of_none hw).mp h.guarded
          refine (guarded_of_none ?_).mpr ⟨hloader, ?_⟩
          · rfl
          · intro j c hj
            change (s.currents ++ [.started])[j]? = some c at hj
            rw [getElem?_appended] at hj
            split at hj
            · cases hj
              trivial
            · exact hsees j c hj
      | some w =>
          obtain ⟨hloader, hcall, hcurrents⟩ := (guarded_of_some hw).mp h.guarded
          refine (guarded_of_some ?_).mpr ⟨hloader, hcall, ?_⟩
          · rfl
          · intro j c hj
            change (s.currents ++ [.started])[j]? = some c at hj
            rw [getElem?_appended] at hj
            split at hj
            · cases hj
              rfl
            · exact hcurrents j c hj
  | reload k => exact sound_stepReload h hstep
  | current k =>
      obtain ⟨hsound, hfile, hlog, hreloads⟩ := sound_stepCurrent h hstep
      refine ⟨hsound, .inl ?_⟩
      rw [atomic, atomic, committed, committed, hfile, hlog, hreloads]

/-! ## Runs -/

theorem sound_init (hnew : Loader.new unmarshal file = .ok first) :
    (init file first).Sound unmarshal first where
  guarded := ⟨rfl, nofun⟩
  loaded := nofun
  parsed := by
    intro l hl
    obtain rfl := List.mem_singleton.mp hl
    unfold Loader.new at hnew
    cases hload : load unmarshal file with
    | error e =>
        rw [hload] at hnew
        cases hnew
    | ok found =>
        rw [hload] at hnew
        cases hnew
        exact (load_eq_ok.mp hload).2
  counted := nofun
  installed := by
    intro k v
    constructor
    · rintro ⟨⟩
    · rintro ⟨l, hl, -⟩
      exact absurd hl List.not_mem_nil
  recorded := nofun
  ordered := List.Pairwise.nil

/-- The run lemma: the machine is sound, and a run of the atomic loader stands behind it. -/
theorem sound_run {events : List LockEvent} (hnew : Loader.new unmarshal file = .ok first)
    (hrun : run unmarshal file first events = some s) :
    s.Sound unmarshal first ∧
      ∃ events', Loading.run unmarshal file first events' = some (s.atomic first) := by
  refine follow_invariant (P := fun _ s => s.Sound unmarshal first ∧
    ∃ events', Loading.run unmarshal file first events' = some (s.atomic first))
    ⟨sound_init hnew, [], rfl⟩ ?_ events s hrun
  rintro _ e t t' _ ⟨hsound, events', hevents'⟩ hstep
  obtain ⟨hsound', hatomic⟩ := sound_step hsound hstep
  refine ⟨hsound', ?_⟩
  rcases hatomic with heq | ⟨e', he'⟩
  · exact ⟨events', by rw [heq]; exact hevents'⟩
  · refine ⟨events' ++ [e'], ?_⟩
    show follow _ _ (events' ++ [e']) = _
    rw [follow_concat]
    show (Loading.run unmarshal file first events').bind _ = _
    rw [hevents']
    exact he'

/-- **The lock makes installs atomic.** Whoever holds the read lock sees the fields of a
state of the loader whose installs are single steps. -/
theorem locking_refines {events : List LockEvent} (hnew : Loader.new unmarshal file = .ok first)
    (hrun : run unmarshal file first events = some s) :
    ∃ events' t, Loading.run unmarshal file first events' = some t ∧ t.file = s.file ∧
      t.reloads = s.reloads ∧
      ∀ (k : ℕ) (c : CurrentCall), s.currents[k]? = some c → c.holds = true →
        s.loader = t.loader := by
  obtain ⟨hsound, events', hevents'⟩ := sound_run hnew hrun
  refine ⟨events', s.atomic first, hevents', rfl, rfl, ?_⟩
  intro k c hk hholds
  exact (hsound.guarded.of_holds hk hholds).2.1

/-! ## What Current returns -/

/-- What is promised of `Current` in a state of the machine. The log has one entry for each
reload that returned without an error: the call, and what it read and installed. -/
structure Consistent (unmarshal : Str → Option GatewayConfig) (first : Loader) (s : Locking) :
    Prop where
  oneReload : ∀ l ∈ s.results, Parses unmarshal l.rawYaml l.current ∧
    (l = first ∨ ∃ k, (k, l) ∈ s.log ∧ s.reloads[k]? = some (.installed l.version))
  sameVersion : ∀ l ∈ s.results, ∀ l' ∈ s.results, l.version = l'.version → l = l'
  ordered : s.results.Pairwise fun l l' => l.version ≤ l'.version
  byOne : ∀ (i : ℕ) (e : ℕ × Loader), s.log[i]? = some e → e.2.version = first.version + (i + 1)
  logged : ∀ k v, s.reloads[k]? = some (.installed v) ↔ ∃ l, (k, l) ∈ s.log ∧ l.version = v
  failing : ∀ k e s', s.step unmarshal (.reload k) = some s' →
    s'.reloads[k]? = some (.failed e) → s' = { s with reloads := s.reloads.set k (.failed e) }

/-- A call that has failed has only done that. -/
theorem stepReload_failed {e : LoadError} (hstep : s.stepReload unmarshal k = some s')
    (hfailed : s'.reloads[k]? = some (.failed e)) :
    s' = { s with reloads := s.reloads.set k (.failed e) } := by
  unfold stepReload at hstep
  split at hstep
  · next hk =>
      cases hstep
      change (s.reloads.set k _)[k]? = _ at hfailed
      rw [getElem?_replaced_self hk] at hfailed
      rw [Option.some.inj hfailed]
  · next raw cfg hk =>
      -- the call has read a config, and goes on to install it
      exfalso
      split at hstep
      · split at hstep
        · cases hstep
        · cases hstep
          cases hk.symm.trans hfailed
      · next w hw =>
          split at hstep
          · next hcall =>
              cases hstep
              unfold store at hfailed
              cases hstored : w.stored with
              | nothing =>
                  rw [hstored] at hfailed
                  cases hk.symm.trans hfailed
              | config =>
                  rw [hstored] at hfailed
                  cases hk.symm.trans hfailed
              | yaml =>
                  rw [hstored] at hfailed
                  cases hk.symm.trans hfailed
              | version =>
                  rw [hstored] at hfailed
                  change (s.reloads.set w.call _)[k]? = _ at hfailed
                  rw [hcall, getElem?_replaced_self hk] at hfailed
                  cases hfailed
          · cases hstep
  · cases hstep

/-- **What `Current` returns.** Under any number of `Reload` and `Current` calls, each result
is that of a single reload, a version has one content, and versions only grow, by one with
each reload that succeeds. -/
theorem current_consistent {events : List LockEvent}
    (hnew : Loader.new unmarshal file = .ok first)
    (hrun : run unmarshal file first events = some s) : s.Consistent unmarshal first := by
  obtain ⟨h, -⟩ := sound_run hnew hrun
  refine ⟨?_, ?_, h.ordered, h.counted, h.installed, ?_⟩
  · intro l hl
    have hmem := h.recorded l hl
    refine ⟨h.parsed l hmem, ?_⟩
    rcases List.mem_cons.mp hmem with rfl | hlogged
    · exact .inl rfl
    · obtain ⟨⟨k, l'⟩, he, rfl⟩ := List.mem_map.mp hlogged
      exact .inr ⟨k, he, (h.installed k l'.version).mpr ⟨l', he, rfl⟩⟩
  · intro l hl l' hl' hversion
    exact h.eq_of_version (h.recorded l hl) (h.recorded l' hl') hversion
  · intro k e s' hstep hfailed
    exact stepReload_failed hstep hfailed

end

/-- A `Current` call takes the lock, and a reload of another file has to wait for it. -/
def readWhileReloading : List LockEvent :=
  [.write (some newYaml), .startReload, .reload 0, .startCurrent, .current 0, .current 0,
    .current 0, .current 0, .current 0, .reload 0, .reload 0, .reload 0, .reload 0, .reload 0,
    .startCurrent, .current 1, .current 1, .current 1, .current 1, .current 1]

theorem current_consistent_reloaded :
    ∃ s, run unmarshalBoth (some oldYaml) oldLoader readWhileReloading = some s ∧
      s.results = [oldLoader, ⟨boundTo "b".toList, newYaml, 2⟩] ∧
      s.Consistent unmarshalBoth oldLoader := by
  have hruns : ∃ s, run unmarshalBoth (some oldYaml) oldLoader readWhileReloading = some s ∧
      s.results = [oldLoader, ⟨boundTo "b".toList, newYaml, 2⟩] := ⟨_, rfl, rfl⟩
  obtain ⟨s, hrun, hresults⟩ := hruns
  have hnew : Loader.new unmarshalBoth (some oldYaml) = .ok oldLoader := rfl
  exact ⟨s, hrun, hresults, current_consistent hnew hrun⟩

end Locking

end Stateform.ControlPlane
