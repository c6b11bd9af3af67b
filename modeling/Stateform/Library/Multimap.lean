import Mathlib.Data.List.Induction
import Mathlib.Data.List.TakeWhile
import Mathlib.Tactic.Common

/-!
# Lists of fields

A map from keys to lists of values, kept as the list of its fields: a key may repeat.
`insertField` replaces a key's fields by one, `appendField` adds one behind them. What is
appended comes last among the values of its key where the fields of each key stand together
(`Grouped`), as they do in any list built by appending.
-/

namespace Stateform.Library

variable {K V : Type*} [DecidableEq K]

/-- The values of a key, in order. -/
def valuesAt (fields : List (K × V)) (key : K) : List V :=
  (fields.filter fun f => f.1 = key).map Prod.snd

/-- The fields of the key are replaced by this one, in the place of the first. -/
def insertField (fields : List (K × V)) (key : K) (value : V) : List (K × V) :=
  if fields.any (fun f => f.1 = key) then
    fields.takeWhile (fun f => f.1 ≠ key) ++ (key, value) ::
      (fields.dropWhile (fun f => f.1 ≠ key)).filter (fun f => f.1 ≠ key)
  else fields ++ [(key, value)]

/-- The field stands behind the first ones of its key. -/
def appendField (fields : List (K × V)) (key : K) (value : V) : List (K × V) :=
  let rest := fields.dropWhile (fun f => f.1 ≠ key)
  fields.takeWhile (fun f => f.1 ≠ key) ++ rest.takeWhile (fun f => f.1 = key) ++
    (key, value) :: rest.dropWhile (fun f => f.1 = key)

variable {fields rest : List (K × V)} {f : K × V} {key other : K} {value : V}

/-! ## The values of a key -/

@[simp] theorem valuesAt_nil : valuesAt ([] : List (K × V)) key = [] := rfl

theorem valuesAt_cons_self (h : f.1 = key) :
    valuesAt (f :: fields) key = f.2 :: valuesAt fields key := by
  simp [valuesAt, h]

theorem valuesAt_cons_ne (h : f.1 ≠ key) : valuesAt (f :: fields) key = valuesAt fields key := by
  simp [valuesAt, h]

@[simp] theorem valuesAt_append :
    valuesAt (fields ++ rest) key = valuesAt fields key ++ valuesAt rest key := by
  simp [valuesAt]

theorem mem_valuesAt : value ∈ valuesAt fields key ↔ (key, value) ∈ fields := by
  simp [valuesAt]

theorem valuesAt_eq_nil : valuesAt fields key = [] ↔ ∀ f ∈ fields, f.1 ≠ key := by
  simp [valuesAt]

/-- Fields of one other key show no value of the key. -/
theorem valuesAt_filter_ne (h : key ≠ other) :
    valuesAt (fields.filter fun f => f.1 ≠ other) key = valuesAt fields key := by
  unfold valuesAt
  rw [List.filter_filter]
  congr 1
  apply List.filter_congr
  intro f _
  by_cases hf : f.1 = key
  · simp [hf, h]
  · simp [hf]

theorem valuesAt_filter_self : valuesAt (fields.filter fun f => f.1 ≠ key) key = [] := by
  rw [valuesAt_eq_nil]
  intro f hf
  simpa using (List.mem_filter.mp hf).2

theorem valuesAt_takeWhile_self : valuesAt (fields.takeWhile fun f => f.1 ≠ key) key = [] := by
  rw [valuesAt_eq_nil]
  intro f hf
  simpa using List.mem_takeWhile_imp hf

/-! ## Inserting -/

theorem valuesAt_insertField_self : valuesAt (insertField fields key value) key = [value] := by
  unfold insertField
  split
  · rw [valuesAt_append, valuesAt_takeWhile_self, valuesAt_cons_self rfl, valuesAt_filter_self]
    rfl
  · next hnone =>
      have hnil : valuesAt fields key = [] := by
        rw [valuesAt_eq_nil]
        intro f hf hname
        apply hnone
        rw [List.any_eq_true]
        exact ⟨f, hf, by simpa using hname⟩
      rw [valuesAt_append, hnil, valuesAt_cons_self rfl]
      rfl

theorem valuesAt_insertField_ne (h : key ≠ other) :
    valuesAt (insertField fields other value) key = valuesAt fields key := by
  have hfield : ((other, value) : K × V).1 ≠ key := h.symm
  unfold insertField
  split
  · rw [valuesAt_append, valuesAt_cons_ne hfield, valuesAt_filter_ne h, ← valuesAt_append,
      List.takeWhile_append_dropWhile]
  · rw [valuesAt_append, valuesAt_cons_ne hfield, valuesAt_nil, List.append_nil]

/-- Fields inserted one after the other: the last value of a key is the one it has. -/
theorem valuesAt_insertFields (news : List (K × V)) :
    valuesAt (news.foldl (fun fields e => insertField fields e.1 e.2) fields) key =
      ((valuesAt news key).getLast?.map fun value => [value]).getD (valuesAt fields key) := by
  -- on the last insert, which decides what is found
  induction news using List.reverseRecOn with
  | nil => rfl
  | append_singleton news e ih =>
      rw [List.foldl_append, List.foldl_cons, List.foldl_nil, valuesAt_append]
      by_cases he : e.1 = key
      · subst he
        rw [valuesAt_insertField_self, valuesAt_cons_self rfl, valuesAt_nil,
          List.getLast?_concat]
        rfl
      · rw [valuesAt_insertField_ne (Ne.symm he), ih, valuesAt_cons_ne he, valuesAt_nil,
          List.append_nil]

/-! ## Appending -/

/-- The fields of each key stand together. -/
def Grouped : List (K × V) → Prop
  | [] => True
  | f :: rest => (∀ g ∈ rest, g.1 = f.1 → ∃ h ∈ rest.head?, h.1 = f.1) ∧ Grouped rest

theorem appendField_cons_self (h : f.1 = key) :
    appendField (f :: fields) key value =
      f :: (fields.takeWhile (fun f => f.1 = key) ++
        (key, value) :: fields.dropWhile fun f => f.1 = key) := by
  simp [appendField, h]

theorem appendField_cons_ne (h : f.1 ≠ key) :
    appendField (f :: fields) key value = f :: appendField fields key value := by
  simp [appendField, h]

theorem mem_appendField {e : K × V} :
    e ∈ appendField fields key value ↔ e = (key, value) ∨ e ∈ fields := by
  induction fields with
  | nil => simp [appendField]
  | cons f fields ih =>
      by_cases h : f.1 = key
      · have hsplit : e ∈ fields ↔ e ∈ fields.takeWhile (fun f => f.1 = key) ∨
            e ∈ fields.dropWhile fun f => f.1 = key := by
          rw [← List.mem_append, List.takeWhile_append_dropWhile]
        rw [appendField_cons_self h, List.mem_cons, List.mem_append, List.mem_cons,
          List.mem_cons, hsplit]
        tauto
      · rw [appendField_cons_ne h, List.mem_cons, ih, List.mem_cons]
        tauto

theorem valuesAt_appendField_ne (h : key ≠ other) :
    valuesAt (appendField fields other value) key = valuesAt fields key := by
  have hfield : ((other, value) : K × V).1 ≠ key := h.symm
  unfold appendField
  rw [valuesAt_append, valuesAt_cons_ne hfield, ← valuesAt_append, List.append_assoc,
    List.takeWhile_append_dropWhile, List.takeWhile_append_dropWhile]

/-- After the fields of a key that stand first, there are no more of it. -/
theorem Grouped.run (h : Grouped (f :: rest)) (hf : f.1 = key) :
    valuesAt (rest.dropWhile fun f => f.1 = key) key = [] := by
  -- the run goes on as long as the next field is under the key, and the rest is without it
  induction rest generalizing f with
  | nil => rfl
  | cons g rest ih =>
      by_cases hg : g.1 = key
      · rw [List.dropWhile_cons_of_pos (by simpa using hg)]
        exact ih h.2 hg
      · rw [List.dropWhile_cons_of_neg (by simpa using hg), valuesAt_eq_nil]
        intro e he heq
        obtain ⟨g', hg', hname⟩ := h.1 e he (heq.trans hf.symm)
        cases hg'
        exact hg (hname.trans hf)

theorem valuesAt_appendField_self (h : Grouped fields) :
    valuesAt (appendField fields key value) key = valuesAt fields key ++ [value] := by
  induction fields with
  | nil => simp [appendField, valuesAt]
  | cons f fields ih =>
      by_cases hf : f.1 = key
      · have hrest : valuesAt fields key = valuesAt (fields.takeWhile fun f => f.1 = key) key ++
            valuesAt (fields.dropWhile fun f => f.1 = key) key := by
          rw [← valuesAt_append, List.takeWhile_append_dropWhile]
        rw [appendField_cons_self hf, valuesAt_cons_self hf, valuesAt_append,
          valuesAt_cons_self rfl, valuesAt_cons_self hf, hrest, h.run hf, List.append_nil]
        rfl
      · rw [appendField_cons_ne hf, valuesAt_cons_ne hf, valuesAt_cons_ne hf, ih h.2]

/-- A field put behind those of its key that stand first leaves the fields together. -/
theorem Grouped.behind (h : Grouped (f :: rest)) (hf : f.1 = key) :
    Grouped (f :: (rest.takeWhile (fun f => f.1 = key) ++
      (key, value) :: rest.dropWhile fun f => f.1 = key)) := by
  induction rest generalizing f with
  | nil => exact ⟨fun g _ hg => ⟨(key, value), rfl, hf.symm⟩, by simp [Grouped]⟩
  | cons g rest ih =>
      by_cases hg : g.1 = key
      · have htake : (g :: rest).takeWhile (fun f => f.1 = key) =
            g :: rest.takeWhile fun f => f.1 = key := List.takeWhile_cons_of_pos (by simpa using hg)
        have hdrop : (g :: rest).dropWhile (fun f => f.1 = key) =
            rest.dropWhile fun f => f.1 = key := List.dropWhile_cons_of_pos (by simpa using hg)
        rw [htake, hdrop]
        exact ⟨fun _ _ _ => ⟨g, rfl, hg.trans hf.symm⟩, ih h.2 hg⟩
      · have hnone : valuesAt (g :: rest) key = [] := by
          have hrun := h.run hf
          rwa [List.dropWhile_cons_of_neg (by simpa using hg)] at hrun
        have htake : (g :: rest).takeWhile (fun f => f.1 = key) = [] :=
          List.takeWhile_cons_of_neg (by simpa using hg)
        have hdrop : (g :: rest).dropWhile (fun f => f.1 = key) = g :: rest :=
          List.dropWhile_cons_of_neg (by simpa using hg)
        rw [htake, hdrop]
        refine ⟨fun _ _ _ => ⟨(key, value), rfl, hf.symm⟩, ?_, h.2⟩
        intro e he hname
        exact absurd hname (valuesAt_eq_nil.mp hnone e he)

theorem Grouped.appendField (h : Grouped fields) : Grouped (appendField fields key value) := by
  induction fields with
  | nil => exact ⟨fun g hg => absurd hg List.not_mem_nil, trivial⟩
  | cons f fields ih =>
      by_cases hf : f.1 = key
      · rw [appendField_cons_self hf]
        exact h.behind hf
      · rw [appendField_cons_ne hf]
        refine ⟨?_, ih h.2⟩
        intro g hg hname
        rcases mem_appendField.mp hg with rfl | hg
        · exact absurd hname.symm hf
        · obtain ⟨first, hfirst, hsame⟩ := h.1 g hg hname
          cases fields with
          | nil => cases hfirst
          | cons next fields =>
              cases hfirst
              by_cases hfirst : first.1 = key
              · rw [appendField_cons_self hfirst]
                exact ⟨first, rfl, hsame⟩
              · rw [appendField_cons_ne hfirst]
                exact ⟨first, rfl, hsame⟩

/-- Fields appended one after the other come after those that were there. -/
theorem valuesAt_appendFields (h : Grouped fields) (news : List (K × V)) :
    Grouped (news.foldl (fun fields e => appendField fields e.1 e.2) fields) ∧
      valuesAt (news.foldl (fun fields e => appendField fields e.1 e.2) fields) key =
        valuesAt fields key ++ valuesAt news key := by
  induction news generalizing fields with
  | nil => exact ⟨h, (List.append_nil _).symm⟩
  | cons e news ih =>
      have happended : Grouped (appendField fields e.1 e.2) := h.appendField
      obtain ⟨hgrouped, hvalues⟩ := ih happended
      refine ⟨hgrouped, ?_⟩
      rw [List.foldl_cons, hvalues]
      by_cases he : e.1 = key
      · subst he
        rw [valuesAt_appendField_self h, valuesAt_cons_self rfl, List.append_assoc]
        rfl
      · rw [valuesAt_appendField_ne (Ne.symm he), valuesAt_cons_ne he]

end Stateform.Library
