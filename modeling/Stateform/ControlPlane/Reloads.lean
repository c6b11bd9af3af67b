import Stateform.Library.Numbered
import Stateform.ControlPlane.Loader

/-!
# Overlapping reloads

What the loader holds after any interleaving of file writes and `Reload` calls:
the content read by the call that installed last (`current_eq_last_iff`). A
call that read the file before its last write and installs after one that read
it afterwards brings the old content back, under a higher version.
-/

namespace Stateform.ControlPlane

open Library

/-! ## Schedules -/

/-- The file after an event. -/
def fileStep (file : Option Str) : LoadEvent → Option Str
  | .write file' => file'
  | _ => file

/-- The file after some events. -/
def fileAfter (file : Option Str) (events : List LoadEvent) : Option Str :=
  events.foldl fileStep file

/-- Each call that reads the file, with what it finds there. -/
def reads : Option Str → List LoadEvent → List (ℕ × Option Str)
  | _, [] => []
  | file, .read k :: rest => (k, file) :: reads file rest
  | file, e :: rest => reads (fileStep file e) rest

/-- The call that installs last. -/
def lastInstall : List LoadEvent → Option ℕ :=
  lastOf fun
    | .install k => some k
    | _ => none

/-- The `Reload` calls that start. -/
def starts (events : List LoadEvent) : ℕ := events.countP (· = .start)

section
variable {file : Option Str} {as : List LoadEvent} {e : LoadEvent}

theorem fileAfter_snoc : fileAfter file (as ++ [e]) = fileStep (fileAfter file as) e := by
  unfold fileAfter
  rw [List.foldl_append]
  rfl

theorem reads_append (bs : List LoadEvent) :
    reads file (as ++ bs) = reads file as ++ reads (fileAfter file as) bs := by
  induction as generalizing file with
  | nil => rfl
  | cons a as ih =>
      cases a with
      | read k =>
          show (k, file) :: reads file (as ++ bs) = (k, file) :: (reads file as ++ _)
          rw [ih]
          rfl
      | write file' => exact ih
      | start => exact ih
      | install k => exact ih

/-- Only a read adds to what was read. -/
theorem reads_snoc (hnone : reads (fileAfter file as) [e] = []) :
    reads file (as ++ [e]) = reads file as := by
  rw [reads_append, hnone, List.append_nil]

theorem lastInstall_snoc_install (k : ℕ) : lastInstall (as ++ [LoadEvent.install k]) = some k :=
  lastOf_snoc_some rfl

end

/-! ## What the loader holds -/

section
variable {unmarshal : Str → Option GatewayConfig} {file : Option Str} {loader : Loader}
  {events as : List LoadEvent} {s s' : Loading}

/-- What holds after some events: the file is the last one written, a call that
waits for the lock holds the one content it read, and so does the loader after
the last install. -/
structure Traced (unmarshal : Str → Option GatewayConfig) (file : Option Str) (loader : Loader)
    (events : List LoadEvent) (s : Loading) : Prop where
  written : s.file = fileAfter file events
  readers : ∀ k found, (k, found) ∈ reads file events →
    ∃ call, s.reloads[k]? = some call ∧ call ≠ .started
  loaded : ∀ k raw cfg, s.reloads[k]? = some (.loaded raw cfg) →
    Parses unmarshal raw cfg ∧ ∀ found, (k, found) ∈ reads file events ↔ found = some raw
  untouched : lastInstall events = none →
    s.loader = loader ∧ ∀ (k v : ℕ), s.reloads[k]? ≠ some (.installed v)
  latest : ∀ j, lastInstall events = some j →
    (∃ v, s.reloads[j]? = some (.installed v)) ∧
      Parses unmarshal s.loader.rawYaml s.loader.current ∧
      ∀ found, (j, found) ∈ reads file events ↔ found = some s.loader.rawYaml

theorem Traced.initial : Traced unmarshal file loader [] (Loading.init file loader) where
  written := rfl
  readers := nofun
  loaded := nofun
  untouched := fun _ => ⟨rfl, nofun⟩
  latest := nofun

theorem Traced.write (h : Traced unmarshal file loader as s) (file' : Option Str) :
    Traced unmarshal file loader (as ++ [LoadEvent.write file']) { s with file := file' } := by
  have hreads : reads file (as ++ [LoadEvent.write file']) = reads file as := reads_snoc rfl
  have hlast : lastInstall (as ++ [LoadEvent.write file']) = lastInstall as := lastOf_snoc_none rfl
  refine ⟨?_, ?_, ?_, ?_, ?_⟩
  · rw [fileAfter_snoc]
    rfl
  · rw [hreads]
    exact h.readers
  · rw [hreads]
    exact h.loaded
  · rw [hlast]
    exact h.untouched
  · rw [hlast, hreads]
    exact h.latest

theorem Traced.start (h : Traced unmarshal file loader as s) :
    Traced unmarshal file loader (as ++ [LoadEvent.start])
      { s with reloads := s.reloads ++ [.started] } := by
  have hreads : reads file (as ++ [LoadEvent.start]) = reads file as := reads_snoc rfl
  have hlast : lastInstall (as ++ [LoadEvent.start]) = lastInstall as := lastOf_snoc_none rfl
  -- the new call has read and installed nothing
  have hold : ∀ {k : ℕ} {call : ReloadCall}, (s.reloads ++ [ReloadCall.started])[k]? = some call →
      call ≠ .started → s.reloads[k]? = some call := by
    intro k call hk hne
    rw [getElem?_appended] at hk
    split at hk
    · cases hk
      exact absurd rfl hne
    · exact hk
  refine ⟨?_, ?_, ?_, ?_, ?_⟩
  · rw [fileAfter_snoc]
    exact h.written
  · rw [hreads]
    intro k found hk
    obtain ⟨call, hcall, hne⟩ := h.readers k found hk
    exact ⟨call, getElem?_appended_of_some _ hcall, hne⟩
  · rw [hreads]
    intro k raw cfg hk
    exact h.loaded k raw cfg (hold hk nofun)
  · rw [hlast]
    intro hnone
    refine ⟨(h.untouched hnone).1, ?_⟩
    intro k v hk
    exact (h.untouched hnone).2 k v (hold hk nofun)
  · rw [hlast, hreads]
    intro j hj
    obtain ⟨⟨v, hv⟩, hrest⟩ := h.latest j hj
    exact ⟨⟨v, getElem?_appended_of_some _ hv⟩, hrest⟩

theorem Traced.read {k : ℕ} (h : Traced unmarshal file loader as s)
    (hstarted : s.reloads[k]? = some .started) :
    Traced unmarshal file loader (as ++ [LoadEvent.read k])
      { s with reloads := s.reloads.set k (s.readFile unmarshal) } := by
  have hreads : reads file (as ++ [LoadEvent.read k]) = reads file as ++ [(k, s.file)] := by
    rw [reads_append, h.written]
    rfl
  have hlast : lastInstall (as ++ [LoadEvent.read k]) = lastInstall as := lastOf_snoc_none rfl
  have hself := getElem?_replaced_self hstarted (s.readFile unmarshal)
  have hother : ∀ {j : ℕ}, j ≠ k →
      (s.reloads.set k (s.readFile unmarshal))[j]? = s.reloads[j]? :=
    getElem?_replaced_ne hstarted _
  -- the call has read nothing before
  have hfirst : ∀ found, (k, found) ∉ reads file as := by
    intro found hk
    obtain ⟨call, hcall, hne⟩ := h.readers k found hk
    rw [hstarted] at hcall
    cases hcall
    exact hne rfl
  have hsame : ∀ {j : ℕ} {found : Option Str}, j ≠ k →
      ((j, found) ∈ reads file as ++ [(k, s.file)] ↔ (j, found) ∈ reads file as) := by
    intro j found hjk
    simp [hjk]
  refine ⟨?_, ?_, ?_, ?_, ?_⟩
  · rw [fileAfter_snoc]
    exact h.written
  · rw [hreads]
    intro j found hj
    by_cases hjk : j = k
    · subst hjk
      refine ⟨_, hself, ?_⟩
      rcases s.readFile_cases with ⟨e, he⟩ | ⟨raw, cfg, hr, _⟩
      · rw [he]
        nofun
      · rw [hr]
        nofun
    · obtain ⟨call, hcall, hne⟩ := h.readers j found ((hsame hjk).mp hj)
      exact ⟨call, (hother hjk).trans hcall, hne⟩
  · rw [hreads]
    intro j raw cfg hj
    by_cases hjk : j = k
    · subst hjk
      have hloaded := Option.some.inj (hself.symm.trans hj)
      rcases s.readFile_cases with ⟨e, he⟩ | ⟨raw', cfg', hr, hfile, hok⟩
      · exact absurd (he.symm.trans hloaded) nofun
      · cases hr.symm.trans hloaded
        refine ⟨hok, ?_⟩
        intro found
        rw [List.mem_append, List.mem_singleton, hfile]
        constructor
        · rintro (hold | hnew)
          · exact absurd hold (hfirst found)
          · exact congrArg Prod.snd hnew
        · rintro rfl
          exact .inr rfl
    · obtain ⟨hok, hread⟩ := h.loaded j raw cfg ((hother hjk).symm.trans hj)
      exact ⟨hok, fun found => (hsame hjk).trans (hread found)⟩
  · rw [hlast]
    intro hnone
    refine ⟨(h.untouched hnone).1, ?_⟩
    intro j v hj
    by_cases hjk : j = k
    · subst hjk
      have hinstalled := Option.some.inj (hself.symm.trans hj)
      rcases s.readFile_cases with ⟨e, he⟩ | ⟨raw, cfg, hr, _⟩
      · exact absurd (he.symm.trans hinstalled) nofun
      · exact absurd (hr.symm.trans hinstalled) nofun
    · exact (h.untouched hnone).2 j v ((hother hjk).symm.trans hj)
  · rw [hlast, hreads]
    intro j hj
    obtain ⟨⟨v, hv⟩, hok, hread⟩ := h.latest j hj
    have hjk : j ≠ k := by
      rintro rfl
      exact absurd (hstarted.symm.trans hv) nofun
    exact ⟨⟨v, (hother hjk).trans hv⟩, hok, fun found => (hsame hjk).trans (hread found)⟩

theorem Traced.install {k : ℕ} {raw : Str} {cfg : GatewayConfig}
    (h : Traced unmarshal file loader as s) (hloaded : s.reloads[k]? = some (.loaded raw cfg)) :
    Traced unmarshal file loader (as ++ [LoadEvent.install k])
      { s with
        loader := ⟨cfg, raw, s.loader.version + 1⟩
        reloads := s.reloads.set k (.installed (s.loader.version + 1)) } := by
  have hreads : reads file (as ++ [LoadEvent.install k]) = reads file as := reads_snoc rfl
  have hother : ∀ {j : ℕ}, j ≠ k →
      (s.reloads.set k (.installed (s.loader.version + 1)))[j]? = s.reloads[j]? :=
    getElem?_replaced_ne hloaded _
  have hself := getElem?_replaced_self hloaded (.installed (s.loader.version + 1))
  refine ⟨?_, ?_, ?_, ?_, ?_⟩
  · rw [fileAfter_snoc]
    exact h.written
  · rw [hreads]
    intro j found hj
    by_cases hjk : j = k
    · subst hjk
      exact ⟨_, hself, nofun⟩
    · obtain ⟨call, hcall, hne⟩ := h.readers j found hj
      exact ⟨call, (hother hjk).trans hcall, hne⟩
  · rw [hreads]
    intro j raw' cfg' hj
    by_cases hjk : j = k
    · subst hjk
      exact absurd (hself.symm.trans hj) nofun
    · exact h.loaded j raw' cfg' ((hother hjk).symm.trans hj)
  · rw [lastInstall_snoc_install]
    nofun
  · rw [lastInstall_snoc_install, hreads]
    rintro j ⟨rfl⟩
    obtain ⟨hok, hread⟩ := h.loaded k raw cfg hloaded
    exact ⟨⟨_, hself⟩, hok, hread⟩

/-- The step lemma. -/
theorem Traced.step {e : LoadEvent} (h : Traced unmarshal file loader as s)
    (hstep : s.step unmarshal e = some s') : Traced unmarshal file loader (as ++ [e]) s' := by
  cases e with
  | write file' =>
      cases hstep
      exact h.write file'
  | start =>
      cases hstep
      exact h.start
  | read k =>
      simp only [Loading.step] at hstep
      split at hstep
      · next hstarted =>
          cases hstep
          exact h.read hstarted
      · cases hstep
  | install k =>
      simp only [Loading.step] at hstep
      split at hstep
      · next raw cfg hloaded =>
          cases hstep
          exact h.install hloaded
      · cases hstep

/-- The run lemma. -/
theorem traced_run (h : Loading.run unmarshal file loader events = some s) :
    Traced unmarshal file loader events s := by
  refine follow_invariant Traced.initial ?_ events s h
  intro as e t t' _ htraced hstep
  exact htraced.step hstep

/-- While nobody writes, every call that reads finds the same. -/
theorem mem_reads_of_unwritten {future : List LoadEvent}
    (hlast : ∀ file', LoadEvent.write file' ∉ future) {j : ℕ} {found : Option Str} :
    (j, found) ∈ reads file future ↔ .read j ∈ future ∧ found = file := by
  induction future with
  | nil => exact ⟨nofun, nofun⟩
  | cons e future ih =>
      have hrest : ∀ file', LoadEvent.write file' ∉ future := by
        intro file' hmem
        exact hlast file' (List.mem_cons_of_mem _ hmem)
      cases e with
      | write file' => exact absurd List.mem_cons_self (hlast file')
      | read k =>
          show (j, found) ∈ (k, file) :: reads file future ↔ _
          rw [List.mem_cons, List.mem_cons, ih hrest]
          simp only [Prod.mk.injEq, LoadEvent.read.injEq]
          tauto
      | start =>
          show (j, found) ∈ reads file future ↔ _
          rw [ih hrest]
          simp
      | install k =>
          show (j, found) ∈ reads file future ↔ _
          rw [ih hrest]
          simp

/-- **Whose content is current.** After the last write of the file, and once some
`Reload` has returned without an error, the current config is that of the file
exactly if the call that installs last read the file after that write, or found
the same content in it before. -/
theorem current_eq_last_iff (unmarshal : Str → Option GatewayConfig) (file : Option Str)
    (loader : Loader) (past future : List LoadEvent) (content : Str) (s : Loading) (k v : ℕ)
    (hrun : Loading.run unmarshal file loader (past ++ .write (some content) :: future) = some s)
    (hlast : ∀ file', LoadEvent.write file' ∉ future)
    (hnil : s.reloads[k]? = some (.installed v)) :
    (s.loader.rawYaml = content ∧ Parses unmarshal content s.loader.current) ↔
      ∃ j, lastInstall (past ++ .write (some content) :: future) = some j ∧
        (.read j ∈ future ∨ (j, some content) ∈ reads file past) := by
  have htraced := traced_run hrun
  obtain ⟨j, hj⟩ : ∃ j, lastInstall (past ++ .write (some content) :: future) = some j := by
    rw [← Option.isSome_iff_exists, Option.isSome_iff_ne_none]
    intro hnone
    exact (htraced.untouched hnone).2 k v hnil
  obtain ⟨_, hok, hread⟩ := htraced.latest j hj
  have hsplit : ∀ found, (j, found) ∈ reads file (past ++ .write (some content) :: future) ↔
      (j, found) ∈ reads file past ∨ .read j ∈ future ∧ found = some content := by
    intro found
    rw [reads_append, List.mem_append]
    show _ ∨ (j, found) ∈ reads (some content) future ↔ _
    rw [mem_reads_of_unwritten hlast]
  constructor
  · rintro ⟨rfl, _⟩
    refine ⟨j, hj, ?_⟩
    rcases (hsplit _).mp ((hread _).mpr rfl) with hpast | hfuture
    · exact .inr hpast
    · exact .inl hfuture.1
  · rintro ⟨j', hj', hfound⟩
    cases hj.symm.trans hj'
    have hmem : (j, some content) ∈ reads file (past ++ .write (some content) :: future) := by
      rw [hsplit]
      rcases hfound with hfuture | hpast
      · exact .inr ⟨hfuture, rfl⟩
      · exact .inl hpast
    have hcontent := Option.some.inj ((hread _).mp hmem)
    rw [hcontent]
    exact ⟨rfl, hok⟩

end

/-! ## A slower call -/

/-- The call has returned. -/
def ReloadCall.returned : ReloadCall → Bool
  | .installed _ => true
  | .failed _ => true
  | _ => false

/-- The first call reads, the file is rewritten, the second call reads and
installs, and then the first one does. -/
theorem slower_reload_wins :
    ¬ ∀ (unmarshal : Str → Option GatewayConfig) (file : Option Str) (loader : Loader)
      (past future : List LoadEvent) (content : Str) (s : Loading) (k v : ℕ),
      Loading.run unmarshal file loader (past ++ .write (some content) :: future) = some s →
      (∀ file', LoadEvent.write file' ∉ future) → starts past ≤ k →
      s.reloads[k]? = some (.installed v) → (∀ call ∈ s.reloads, call.returned = true) →
      s.loader.rawYaml = content := by
  intro hall
  have hold := hall unmarshalBoth (some oldYaml) oldLoader
    [.start, .read 0] [.start, .read 1, .install 1, .install 0] newYaml _ 1 2 rfl
    (by simp) (by decide) rfl (by decide)
  exact absurd hold (by decide)

/-- The second call read the new file and installs last. -/
theorem current_eq_last_iff_in_order :
    ∃ s, Loading.run unmarshalBoth (some oldYaml) oldLoader
        ([.start, .read 0] ++ .write (some newYaml) :: [.start, .install 0, .read 1, .install 1]) =
          some s ∧
      s.loader.rawYaml = newYaml := by
  refine ⟨_, rfl, ?_⟩
  have hiff := current_eq_last_iff unmarshalBoth (some oldYaml) oldLoader
    [.start, .read 0] [.start, .install 0, .read 1, .install 1] newYaml _ 1 3 rfl (by simp) rfl
  exact (hiff.mpr ⟨1, rfl, .inl (by decide)⟩).1

end Stateform.ControlPlane
