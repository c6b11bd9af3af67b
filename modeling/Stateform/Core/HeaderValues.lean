import Stateform.Core.Response
import Stateform.Library.Multimap

/-!
# What a response says under a name

A header map is a list of fields, so what its operations do to the values of a name is what
the library says. Two copies of a response are compared by the values under each name that
can be read as text.
-/

namespace Stateform

open Library

/-! ## Names and values as texts -/

theorem headerSymbols_not_upper :
    "!#$%&'*+-.^_`|~".toList.all (fun c => !c.isUpper) = true := by decide

theorem not_isUpper_of_headerChar {c : Char} (h : isHeaderChar c = true) : ¬ c.isUpper := by
  have hchar : (c.isLower = true ∨ c.isDigit = true) ∨ c ∈ "!#$%&'*+-.^_`|~".toList := by
    simpa [isHeaderChar] using h
  rcases hchar with (hlower | hdigit) | hsymbol
  · intro hupper
    simp only [Char.isLower, Char.isUpper, Bool.and_eq_true, decide_eq_true_eq] at hlower hupper
    exact absurd (UInt32.le_trans hlower.1 hupper.2) (by decide)
  · intro hupper
    simp only [Char.isDigit, Char.isUpper, Bool.and_eq_true, decide_eq_true_eq] at hdigit hupper
    exact absurd (UInt32.le_trans hupper.1 hdigit.2) (by decide)
  · simpa using List.all_eq_true.mp headerSymbols_not_upper c hsymbol

namespace HeaderName

variable {name other : HeaderName}

theorem text_inj : name.text = other.text ↔ name = other := by
  cases name
  cases other
  simp

theorem lower_text (name : HeaderName) : toAsciiLowercase name.text = name.text := by
  have hsame : ∀ c ∈ name.text, c.toLower = c := by
    intro c hc
    apply Char.toLower_eq_of_not_isUpper
    exact not_isUpper_of_headerChar (List.all_eq_true.mp name.token c hc)
  unfold toAsciiLowercase
  rw [List.map_congr_left hsame, List.map_id']

/-- A name is read back from its text. -/
theorem fromBytes_text (name : HeaderName) : HeaderName.fromBytes name.text = some name := by
  unfold HeaderName.fromBytes
  rw [dif_pos (by rw [name.lower_text]; exact ⟨name.nonempty, name.token⟩)]
  exact congrArg some (text_inj.mp name.lower_text)

end HeaderName

namespace HeaderValue

theorem char_of_byte {b : UInt8} (h : isVisibleAscii b = true) :
    b.toNat < 128 ∧ (Char.ofNat b.toNat).toNat = b.toNat := by
  have hrange : (32 ≤ b ∧ b < 127) ∨ b = 9 := by simpa [isVisibleAscii] using h
  have hlt : b.toNat < 128 := by
    rcases hrange with ⟨_, hhigh⟩ | rfl
    · have hhigh' : b.toNat < 127 := UInt8.lt_iff_toNat_lt.mp hhigh
      omega
    · decide
  refine ⟨hlt, ?_⟩
  have hvalid : b.toNat.isValidChar := .inl (by omega)
  rw [Char.ofNat, dif_pos hvalid]
  rfl

theorem byte_of_char {c : Char} (h : c.toNat < 128) :
    Char.ofNat c.toNat.toUInt8.toNat = c := by
  have hbyte : c.toNat.toUInt8.toNat = c.toNat := by
    rw [Nat.toUInt8, UInt8.toNat_ofNat']
    omega
  rw [hbyte, Char.ofNat_toNat]

variable {s : Str} {v : HeaderValue}

theorem toStr_of_fromStr (h : HeaderValue.fromStr s = some v) : v.toStr = some s := by
  simp only [HeaderValue.fromStr] at h
  split at h
  · next hs =>
    cases h
    have hsame : ∀ c ∈ s, Char.ofNat c.toNat.toUInt8.toNat = c := by
      intro c hc
      apply byte_of_char
      simpa using List.all_eq_true.mp hs.1 c hc
    unfold HeaderValue.toStr
    rw [if_pos hs.2, List.map_map]
    exact congrArg some ((List.map_congr_left hsame).trans (List.map_id' s))
  · cases h

theorem fromStr_of_toStr (h : v.toStr = some s) : HeaderValue.fromStr s = some v := by
  unfold HeaderValue.toStr at h
  split at h
  · next hv =>
    cases h
    have hvisible : ∀ b ∈ v, isVisibleAscii b = true := List.all_eq_true.mp hv
    have hsame : (v.map fun b => Char.ofNat b.toNat).map (fun c => c.toNat.toUInt8) = v := by
      have hbyte : ∀ b ∈ v, (Char.ofNat b.toNat).toNat.toUInt8 = b := by
        intro b hb
        rw [(char_of_byte (hvisible b hb)).2]
        exact UInt8.ofNat_toNat
      rw [List.map_map]
      exact (List.map_congr_left hbyte).trans (List.map_id' v)
    have hascii : (v.map fun b => Char.ofNat b.toNat).all (fun c => decide (c.toNat < 128)) =
        true := by
      simp only [List.all_map, List.all_eq_true, Function.comp_apply, decide_eq_true_eq]
      intro b hb
      obtain ⟨hlt, hnat⟩ := char_of_byte (hvisible b hb)
      rw [hnat]
      exact hlt
    simp only [HeaderValue.fromStr, hsame]
    rw [if_pos ⟨hascii, hv⟩]
  · cases h

/-- Reading and writing a value are inverse to each other. -/
theorem fromStr_eq_some_iff : HeaderValue.fromStr s = some v ↔ v.toStr = some s :=
  ⟨toStr_of_fromStr, fromStr_of_toStr⟩

end HeaderValue

/-! ## The values of a name -/

namespace HeaderMap

variable {h : HeaderMap} {name other : HeaderName} {value : HeaderValue}

/-- What `get_all` gives for the name. -/
def valuesOf (h : HeaderMap) (name : HeaderName) : List HeaderValue := valuesAt h.fields name

/-- The values that are texts. -/
def textsOf (h : HeaderMap) (name : HeaderName) : List Str :=
  (h.valuesOf name).filterMap HeaderValue.toStr

theorem getAll_text (h : HeaderMap) (name : HeaderName) :
    h.getAll name.text = h.valuesOf name := by
  unfold getAll valuesOf valuesAt
  simp only [name.lower_text, HeaderName.text_inj]

theorem containsKey_text (h : HeaderMap) (name : HeaderName) :
    h.containsKey name.text = true ↔ h.valuesOf name ≠ [] := by
  unfold containsKey get
  rw [name.lower_text, Ne, valuesOf, valuesAt_eq_nil]
  simp [HeaderName.text_inj]

theorem containsKey_xRequestId (h : HeaderMap) :
    h.containsKey "x-request-id".toList = true ↔ h.valuesOf xRequestId ≠ [] :=
  h.containsKey_text xRequestId

@[simp] theorem valuesOf_empty : empty.valuesOf name = [] := rfl

theorem insert_fields : (h.insert other value).fields = insertField h.fields other value := by
  unfold insert insertField
  split <;> rfl

theorem append_fields : (h.append other value).fields = appendField h.fields other value := rfl

@[simp] theorem valuesOf_insert_self : (h.insert name value).valuesOf name = [value] := by
  rw [valuesOf, insert_fields, valuesAt_insertField_self]

theorem valuesOf_insert_ne (hne : name ≠ other) :
    (h.insert other value).valuesOf name = h.valuesOf name := by
  rw [valuesOf, insert_fields, valuesAt_insertField_ne hne, valuesOf]

theorem valuesOf_append_ne (hne : name ≠ other) :
    (h.append other value).valuesOf name = h.valuesOf name := by
  rw [valuesOf, append_fields, valuesAt_appendField_ne hne, valuesOf]

/-- The last valid pair of a name decides. -/
theorem valuesOf_insertAll (h : HeaderMap) (pairs : List (Str × Str)) (name : HeaderName) :
    (h.insertAll pairs).valuesOf name =
      ((valuesAt (validPairs pairs) name).getLast?.map fun value => [value]).getD
        (h.valuesOf name) := by
  have hfields : (h.insertAll pairs).fields =
      (validPairs pairs).foldl (fun fields e => insertField fields e.1 e.2) h.fields := by
    unfold insertAll
    induction validPairs pairs generalizing h with
    | nil => rfl
    | cons e news ih => rw [List.foldl_cons, ih, insert_fields, List.foldl_cons]
  rw [valuesOf, hfields, valuesAt_insertFields]
  rfl

/-- The valid pairs of a name come after what was there. -/
theorem valuesOf_appendAll {h : HeaderMap} (hgrouped : Grouped h.fields)
    (pairs : List (Str × Str)) (name : HeaderName) :
    (h.appendAll pairs).valuesOf name = h.valuesOf name ++ valuesAt (validPairs pairs) name := by
  have hfields : (h.appendAll pairs).fields =
      (validPairs pairs).foldl (fun fields e => appendField fields e.1 e.2) h.fields := by
    unfold appendAll
    clear hgrouped
    induction validPairs pairs generalizing h with
    | nil => rfl
    | cons e news ih => rw [List.foldl_cons, ih, append_fields, List.foldl_cons]
  rw [valuesOf, hfields, (valuesAt_appendFields hgrouped _).2]
  rfl

end HeaderMap

/-! ## What the builders of responses do to a name -/

section
variable {name : HeaderName} {headers : HeaderMap} {requestId : Str} {id : HeaderValue}

theorem valuesOf_injectRequestId_ne (hne : name ≠ xRequestId) :
    (injectRequestId headers requestId).valuesOf name = headers.valuesOf name := by
  unfold injectRequestId
  split
  · split
    · exact HeaderMap.valuesOf_insert_ne hne
    · rfl
  · rfl

/-- An id that was there stays; else the request's own comes in. -/
theorem valuesOf_injectRequestId (hid : HeaderValue.fromStr requestId = some id) :
    (injectRequestId headers requestId).valuesOf xRequestId =
      if headers.valuesOf xRequestId = [] then [id] else headers.valuesOf xRequestId := by
  unfold injectRequestId
  by_cases hnone : headers.valuesOf xRequestId = []
  · have hmissing : headers.containsKey "x-request-id".toList = false := by
      rw [Bool.eq_false_iff, Ne, headers.containsKey_xRequestId]
      exact not_not_intro hnone
    rw [if_pos hnone, hmissing, hid]
    exact HeaderMap.valuesOf_insert_self
  · have hthere : headers.containsKey "x-request-id".toList = true :=
      headers.containsKey_xRequestId.mpr hnone
    rw [if_neg hnone, hthere]
    rfl

/-- What becomes of a field that is stored and read back. -/
theorem validPairs_storableHeaders :
    validPairs (storableHeaders headers) =
      headers.fields.filter fun f => f.1.text ∉ hopByHop ∧ f.2.toStr.isSome := by
  unfold storableHeaders validPairs
  rw [List.filterMap_filterMap, ← List.filterMap_eq_filter]
  apply List.filterMap_congr
  intro f _
  rw [f.1.lower_text]
  by_cases hhop : f.1.text ∈ hopByHop
  · simp [hhop, Option.guard]
  · cases hread : f.2.toStr with
    | none => simp [hread, Option.guard]
    | some s =>
        simp [hhop, hread, Option.guard, HeaderName.fromBytes_text,
          HeaderValue.fromStr_of_toStr hread]

/-- The pairs of stored headers are the readable values of a name, in order. -/
theorem valuesAt_storableHeaders (hstorable : name.text ∉ hopByHop) :
    valuesAt (validPairs (storableHeaders headers)) name =
      (headers.valuesOf name).filter fun v => v.toStr.isSome := by
  rw [validPairs_storableHeaders]
  unfold HeaderMap.valuesOf valuesAt
  rw [List.filter_map, List.filter_filter, List.filter_filter]
  congr 1
  apply List.filter_congr
  intro f _
  by_cases hname : f.1 = name
  · subst hname
    simp [hstorable]
  · simp [hname]

/-- Filtering the values that can be read changes no text. -/
theorem textsOf_eq_filter :
    headers.textsOf name =
      ((headers.valuesOf name).filter fun v => v.toStr.isSome).filterMap HeaderValue.toStr := by
  unfold HeaderMap.textsOf
  rw [List.filterMap_filter]
  apply List.filterMap_congr
  intro v _
  cases v.toStr <;> rfl

theorem valuesOf_buildCachedResponse (cached : CachedResponse) (now : ℕ) (hcache : name ≠ xCache)
    (hage : name ≠ ageName) :
    (buildCachedResponse cached now).headers.valuesOf name =
      valuesAt (validPairs cached.headers) name := by
  have hgrouped : Grouped ((HeaderMap.empty.append xCache (staticValue "HIT")).append ageName
      (utf8 (cached.ageHeader now))).fields := by
    rw [HeaderMap.append_fields, HeaderMap.append_fields]
    exact Grouped.appendField (Grouped.appendField trivial)
  have hbase : ((HeaderMap.empty.append xCache (staticValue "HIT")).append ageName
      (utf8 (cached.ageHeader now))).valuesOf name = [] := by
    rw [HeaderMap.valuesOf_append_ne hage, HeaderMap.valuesOf_append_ne hcache]
    rfl
  show (HeaderMap.appendAll _ cached.headers).valuesOf name = _
  rw [HeaderMap.valuesOf_appendAll hgrouped, hbase, List.nil_append]

theorem valuesOf_buildUpstreamResponse (resp : Response) (mutations : HeaderMutations)
    (hcache : name ≠ xCache) :
    (buildUpstreamResponse resp mutations).headers.valuesOf name =
      (resp.headers.insertAll
        (mutations.responseSet.entries.map fun e => (e.1, e.2))).valuesOf name :=
  HeaderMap.valuesOf_insert_ne hcache

end

end Stateform
