import Stateform.Cache.Directives

/-!
# What a response varies on

`Vary` may come in several lines, each a list of names, or not at all. `parse_vary` reads
the first line only, takes a `*` for one only where nothing else stands beside it, and
gives the same answer for no line as for a `*`. Here is what all lines say, and for which
responses `parse_vary` says the same (`parseVary_faithful_iff`).
-/

namespace Stateform

/-! ## What all lines say -/

/-- The elements of a line. -/
def lineElements (line : HeaderValue) : List Str := (line.latin1.splitOn ',').map trim

/-- The elements of all `Vary` lines. -/
def varyElements (headers : HeaderMap) : List Str :=
  (headers.getAll "vary".toList).flatMap lineElements

/-- The lower-cased names among some elements. -/
def elementNames (elements : List Str) : List Str :=
  (elements.map toAsciiLowercase).filter (· ≠ [])

/-- None if some element is `*`, else the names of all lines. -/
def varyNames (headers : HeaderMap) : Option (List Str) :=
  if "*".toList ∈ varyElements headers then none else some (elementNames (varyElements headers))

/-! ## What the first line says -/

variable {headers : HeaderMap} {line first : HeaderValue} {later : List HeaderValue}

theorem HeaderMap.get_eq_head? (headers : HeaderMap) (name : Str) :
    headers.get name = (headers.getAll name).head? := by
  rw [get, getAll, List.head?_map, List.head?_filter]

theorem HeaderValue.toStr_latin1 {s : Str} (h : line.toStr = some s) : s = line.latin1 := by
  unfold HeaderValue.toStr at h
  split at h
  · exact (Option.some.inj h).symm
  · cases h

theorem getStr_of_lines (h : headers.getAll "vary".toList = first :: later) :
    headers.getStr "vary".toList = first.toStr := by
  rw [HeaderMap.getStr, HeaderMap.get_eq_head?, h]
  rfl

theorem varyElements_of_lines (h : headers.getAll "vary".toList = first :: later) :
    varyElements headers = lineElements first ++ later.flatMap lineElements := by
  rw [varyElements, h, List.flatMap_cons]

theorem elementNames_append (xs ys : List Str) :
    elementNames (xs ++ ys) = elementNames xs ++ elementNames ys := by
  rw [elementNames, List.map_append, List.filter_append]
  rfl

theorem elementNames_lines_eq_nil_iff {lines : List HeaderValue} :
    elementNames (lines.flatMap lineElements) = [] ↔
      ∀ line ∈ lines, elementNames (lineElements line) = [] := by
  induction lines with
  | nil => simp [elementNames]
  | cons line lines ih =>
      rw [List.flatMap_cons, elementNames_append, List.append_eq_nil_iff, ih]
      simp

/-- Trimming takes off whitespace only. -/
theorem isWhitespace_or_mem_trim {s : Str} {c : Char} (h : c ∈ s) :
    isWhitespace c = true ∨ c ∈ trim s := by
  rw [← List.takeWhile_append_dropWhile (p := isWhitespace) (l := s)] at h
  rcases List.mem_append.mp h with hfront | hrest
  · exact .inl (List.mem_takeWhile_imp hfront)
  · have hback := List.mem_reverse.mpr hrest
    rw [← List.takeWhile_append_dropWhile (p := isWhitespace)
      (l := (s.dropWhile isWhitespace).reverse)] at hback
    rcases List.mem_append.mp hback with hend | hmid
    · exact .inl (List.mem_takeWhile_imp hend)
    · exact .inr (List.mem_reverse.mpr hmid)

/-- A line that is `*` and blanks has no other element. -/
theorem lineElements_of_star (h : trim line.latin1 = "*".toList) :
    lineElements line = ["*".toList] := by
  have hsingle : line.latin1.splitOn ',' = [line.latin1] := by
    rw [List.splitOn_eq_splitOnP]
    apply List.splitOnP_eq_singleton
    intro c hc
    rw [beq_eq_false_iff_ne]
    rintro rfl
    rcases isWhitespace_or_mem_trim hc with hblank | htrim
    · exact absurd hblank (by decide)
    · rw [h] at htrim
      exact absurd htrim (by decide)
  rw [lineElements, hsingle, List.map_singleton, h]

/-- A line that can be read gives its names, a line that cannot gives none. -/
theorem parseVary_of_lines (h : headers.getAll "vary".toList = first :: later) :
    parseVary headers =
      if first.toStr = none ∨ trim first.latin1 = "*".toList then none
      else some (elementNames (lineElements first)) := by
  rw [parseVary, getStr_of_lines h]
  cases hread : first.toStr with
  | none => simp
  | some vary =>
      obtain rfl := HeaderValue.toStr_latin1 hread
      by_cases hstar : trim first.latin1 = "*".toList
      · simp [hstar]
      · simp [elementNames, lineElements, Function.comp_def]

theorem parseVary_unvaried (h : headers.getAll "vary".toList = []) : parseVary headers = none := by
  rw [parseVary, HeaderMap.getStr, HeaderMap.get_eq_head?, h]
  rfl

/-- **What a response varies on.** `parse_vary` says of the lines of a response what they
say exactly when there is a first line, and it is a lone `*`, or it cannot be read and some
line has a `*`, or it can, no line has a `*` and the later lines name nothing. -/
theorem parseVary_faithful_iff (headers : HeaderMap) :
    parseVary headers = varyNames headers ↔
      ∃ first later, headers.getAll "vary".toList = first :: later ∧
        (trim first.latin1 = "*".toList ∨
          first.toStr = none ∧ "*".toList ∈ varyElements headers ∨
          first.toStr ≠ none ∧ "*".toList ∉ varyElements headers ∧
            ∀ line ∈ later, elementNames (lineElements line) = []) := by
  cases hlines : headers.getAll "vary".toList with
  | nil =>
      have hempty : varyNames headers = some [] := by
        rw [varyNames, varyElements, hlines]
        rfl
      rw [parseVary_unvaried hlines, hempty]
      simp
  | cons first later =>
      rw [parseVary_of_lines hlines, varyNames]
      have hsplit := varyElements_of_lines hlines
      have hlone : trim first.latin1 = "*".toList → "*".toList ∈ varyElements headers := by
        intro hstar
        rw [hsplit, lineElements_of_star hstar]
        exact List.mem_append_left _ (List.mem_singleton_self _)
      have hnames : elementNames (lineElements first) = elementNames (varyElements headers) ↔
          ∀ line ∈ later, elementNames (lineElements line) = [] := by
        rw [hsplit, elementNames_append, List.self_eq_append_right]
        exact elementNames_lines_eq_nil_iff
      generalize "*".toList = star at hlone ⊢
      by_cases hstar : trim first.latin1 = star
      · simp [hstar, hlone hstar]
      · by_cases hread : first.toStr = none
        · by_cases hany : star ∈ varyElements headers
          · simp [hread, hany]
          · simp [hstar, hread, hany]
        · by_cases hany : star ∈ varyElements headers
          · simp [hstar, hread, hany]
          · simp [hstar, hread, hany, hnames]

/-- `store` takes a response without a `Vary` line for one that varies on everything. -/
theorem ResponseCache.store_unvaried (cache : ResponseCache) (env : CacheEnv) {x : CacheExchange}
    (h : x.responseHeaders.getAll "vary".toList = []) : cache.store env x = cache := by
  unfold ResponseCache.store
  cases hwritten : x.written env.now with
  | none => rfl
  | some w =>
      obtain ⟨_, _, names, _, _, _, _, _, hvary, _⟩ := written_eq_some.mp hwritten
      rw [parseVary_unvaried h] at hvary
      cases hvary

/-- A response without a `Vary` line is not stored. -/
theorem unvaried_skipped :
    ¬ ∀ headers : HeaderMap, parseVary headers = varyNames headers := by
  intro h
  have hempty : parseVary HeaderMap.empty = some [] := h HeaderMap.empty
  cases hempty

end Stateform
