import Stateform.Library.Run
import Stateform.Router.Matching

/-!
# What a trie answers after any insertions

`insert_prefix` over any list of normalised paths, and the two lookups in the trie it
leaves: which routes they give, in which order, in terms of the list alone
(`insertions_found`). Under one prefix the routes stay in the order of the list.
-/

namespace Stateform

open Library

/-- What `normalise_path` gives for some path. -/
def Normalised (path : Str) : Prop := ∃ raw, normalisePath raw = path

theorem Normalised.pathSegments_eq {path : Str} (h : Normalised path) :
    pathSegments path = words '/' path := by
  obtain ⟨raw, rfl⟩ := h
  rw [pathSegments_normalisePath, words_normalisePath]

namespace TrieNode

/-- The empty trie after these insertions. -/
def afterInsertions (items : List (Str × RouteConfig)) : TrieNode :=
  after (fun node item => node.insertPrefix item.1 item.2) .default items

/-- A node of a trie. -/
inductive Within (t : TrieNode) : TrieNode → Prop where
  | root : Within t t
  | child {node c : TrieNode} : c ∈ node.children → Within t c → Within t node

theorem Sorted.within {t node : TrieNode} (h : Sorted node) (ht : Within t node) : Sorted t := by
  induction ht with
  | root => exact h
  | child hc _ ih => exact ih (h.child hc)

/-- The trie holds at a list of segments what was inserted there, in the same order. -/
theorem afterInsertions_eq (items : List (Str × RouteConfig)) :
    Sorted (afterInsertions items) ∧ ∀ p, (afterInsertions items).toPathMap p =
      (items.filter fun item => pathSegments item.1 = p).map Prod.snd := by
  induction items using List.reverseRecOn with
  | nil => exact ⟨sorted_default, fun p => congrFun toPathMap_default p⟩
  | append_singleton items item ih =>
      obtain ⟨hsorted, hmap⟩ := ih
      rw [afterInsertions, after_append]
      refine ⟨hsorted.insertPrefix item.1 item.2, ?_⟩
      intro p
      change ((afterInsertions items).insertPrefix item.1 item.2).toPathMap p = _
      rw [toPathMap_insertPrefix hsorted, PathMap.push_apply, hmap]
      by_cases hp : p = pathSegments item.1
      · simp [hp]
      · simp [hp, Ne.symm hp]

end TrieNode

/-! ## In terms of the list -/

section
variable {items : List (Str × RouteConfig)} {path : Str}

/-- The insertions at the prefixes of a path, the shortest prefix first. -/
def foundAlong (items : List (Str × RouteConfig)) (path : Str) : List (Str × RouteConfig) :=
  PathMap.along (fun p => items.filter fun item => words '/' item.1 = p) (words '/' path)

theorem words_of_mem_filter {p : List Str} {item : Str × RouteConfig}
    (h : item ∈ items.filter fun item => words '/' item.1 = p) : words '/' item.1 = p :=
  of_decide_eq_true (List.mem_filter.mp h).2

theorem foundAlong_pairwise (items : List (Str × RouteConfig)) (path : Str) :
    (foundAlong items path).Pairwise fun a b =>
      (words '/' a.1).length ≤ (words '/' b.1).length :=
  PathMap.pairwise_along (fun _ _ h => words_of_mem_filter h) _

/-- Within a length they keep the order of the list. -/
theorem foundAlong_filter (items : List (Str × RouteConfig)) (path : Str) (n : ℕ) :
    (foundAlong items path).filter (fun item => (words '/' item.1).length = n) =
      items.filter fun item =>
        words '/' item.1 <+: words '/' path ∧ (words '/' item.1).length = n := by
  rw [foundAlong, PathMap.filter_along (fun p _ h => by rw [words_of_mem_filter h])]
  by_cases hn : n ≤ (words '/' path).length
  · rw [if_pos hn]
    apply List.filter_congr
    intro item _
    rw [decide_eq_decide]
    constructor
    · intro h
      rw [h]
      exact ⟨List.take_prefix _ _, List.length_take_of_le hn⟩
    · rintro ⟨hstarts, rfl⟩
      exact List.prefix_iff_eq_take.mp hstarts
  · rw [if_neg hn, eq_comm, List.filter_eq_nil_iff]
    intro item _
    simp only [decide_eq_true_eq]
    rintro ⟨hstarts, rfl⟩
    exact hn hstarts.length_le

/-- They are the insertions at a prefix, each once. -/
theorem foundAlong_perm (items : List (Str × RouteConfig)) (path : Str) :
    (foundAlong items path).Perm
      (items.filter fun item => words '/' item.1 <+: words '/' path) := by
  rw [List.perm_iff_count]
  intro item
  -- an item is counted among those of its own length
  have hfound := List.count_filter (l := foundAlong items path) (a := item)
    (p := fun x => decide ((words '/' x.1).length = (words '/' item.1).length)) (by simp)
  have hlist := List.count_filter
    (l := items.filter fun x => words '/' x.1 <+: words '/' path) (a := item)
    (p := fun x => decide ((words '/' x.1).length = (words '/' item.1).length)) (by simp)
  rw [← hfound, ← hlist, foundAlong_filter, List.filter_filter]
  congr 1
  apply List.filter_congr
  intro x _
  rw [Bool.decide_and, Bool.and_comm]

/-- **Lookups after insertions.** In the trie left by any insertions at normalised paths, every
node's children are strictly sorted, so that binary search and scan agree on them; a lookup
appends the routes inserted at a prefix of its path, each once, shorter prefixes first and
within a length in the order of insertion; and the exact lookup gives the first route
inserted at its segments. -/
theorem insertions_found {items : List (Str × RouteConfig)} {path : Str}
    (hitems : ∀ item ∈ items, Normalised item.1) (hpath : Normalised path) :
    let node := TrieNode.afterInsertions items
    (∀ t, TrieNode.Within t node → TrieNode.SortedChildren t.children ∧
        ∀ head, t.searchChild head = t.children.find? fun c => c.segment = head) ∧
      (∃ found : List (Str × RouteConfig),
        (∀ candidates, node.collectPrefixMatches path candidates =
          candidates ++ found.map Prod.snd) ∧
        found.Perm (items.filter fun item => words '/' item.1 <+: words '/' path) ∧
        (found.Pairwise fun a b => (words '/' a.1).length ≤ (words '/' b.1).length) ∧
        ∀ n, (found.filter fun item => (words '/' item.1).length = n) =
          items.filter fun item =>
            words '/' item.1 <+: words '/' path ∧ (words '/' item.1).length = n) ∧
      node.findExact path =
        (items.find? fun item => words '/' item.1 = words '/' path).map Prod.snd := by
  intro node
  obtain ⟨hsorted, hmap⟩ := TrieNode.afterInsertions_eq items
  have hheld : ∀ p, node.toPathMap p =
      (items.filter fun item => words '/' item.1 = p).map Prod.snd := by
    intro p
    rw [hmap]
    congr 1
    apply List.filter_congr
    intro item hitem
    rw [(hitems item hitem).pathSegments_eq]
  refine ⟨?_, ⟨foundAlong items path, ?_, foundAlong_perm items path,
    foundAlong_pairwise items path, foundAlong_filter items path⟩, ?_⟩
  · intro t ht
    have hchildren := (hsorted.within ht).children
    exact ⟨hchildren, TrieNode.searchChild_eq_find? hchildren⟩
  · intro candidates
    rw [TrieNode.collectPrefixMatches_eq hsorted, hpath.pathSegments_eq, foundAlong,
      PathMap.map_along, funext hheld]
  · rw [TrieNode.findExact_eq hsorted, hpath.pathSegments_eq, hheld, List.head?_map,
      List.head?_filter]

end

/-- Three insertions, two of them under one prefix, and a lookup below both prefixes. -/
theorem insertions_found_users :
    let first := RouteConfig.onPath "first".toList (.prefixPath "/api".toList)
    let second := RouteConfig.onPath "second".toList (.prefixPath "/api".toList)
    let users := RouteConfig.onPath "users".toList (.prefixPath "/api/users".toList)
    let items := [("api/users".toList, users), ("api".toList, first), ("api".toList, second)]
    ∃ found : List (Str × RouteConfig),
      (∀ candidates, (TrieNode.afterInsertions items).collectPrefixMatches
        "api/users/7".toList candidates = candidates ++ found.map Prod.snd) ∧
      (found.filter fun item => (words '/' item.1).length = 1) =
        [("api".toList, first), ("api".toList, second)] := by
  intro first second users items
  have hitems : ∀ item ∈ items, Normalised item.1 := by
    intro item hitem
    simp only [items, List.mem_cons, List.not_mem_nil, or_false] at hitem
    rcases hitem with rfl | rfl | rfl
    · exact ⟨"/api/users".toList, by decide⟩
    · exact ⟨"/api".toList, by decide⟩
    · exact ⟨"/api".toList, by decide⟩
  have hpath : Normalised "api/users/7".toList := ⟨"/api/users/7".toList, by decide⟩
  obtain ⟨_, ⟨found, hfound, _, _, horder⟩, _⟩ := insertions_found hitems hpath
  exact ⟨found, hfound, (horder 1).trans rfl⟩

end Stateform
