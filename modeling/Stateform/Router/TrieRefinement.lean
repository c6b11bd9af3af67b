import Stateform.Router.Trie
import Stateform.Library.PathMap
import Stateform.Library.Words

/-!
# The trie is a path map

`TrieNode.toPathMap` reads a trie as the map from segment lists to the routes
stored there. Well-formed tries (children strictly sorted by segment,
everywhere) are closed under insertion, insertion is a push into the map, and
the two lookups read the map: `findExact` its first item at the path,
`collectPrefixMatches` everything along it. The string-level functions act on
`pathSegments`, the segments they split off one after the other.
-/

namespace Stateform

open Library

/-- The segments the trie walks through for a path. -/
def pathSegments (path : Str) : List Str :=
  if h : path = [] then []
  else
    have := splitFirstSegment_length h
    (splitFirstSegment path).1 :: pathSegments (splitFirstSegment path).2
termination_by path.length

@[simp] theorem pathSegments_nil : pathSegments [] = [] := by
  rw [pathSegments]
  simp

theorem pathSegments_of_ne {path : Str} (h : path ≠ []) :
    pathSegments path =
      (splitFirstSegment path).1 :: pathSegments (splitFirstSegment path).2 := by
  rw [pathSegments]
  simp [h]

namespace TrieNode

/-! ## Reading a trie as a path map -/

/-- The routes stored at a list of segments. -/
def toPathMap (node : TrieNode) : PathMap Str RouteConfig
  | [] => node.routes
  | s :: rest =>
      match node.children.find? (fun c => c.segment = s) with
      | some child => child.toPathMap rest
      | none => []

@[simp] theorem toPathMap_nil (node : TrieNode) : node.toPathMap [] = node.routes := rfl

theorem toPathMap_cons (node : TrieNode) (s : Str) (rest : List Str) :
    node.toPathMap (s :: rest) =
      match node.children.find? (fun c => c.segment = s) with
      | some child => child.toPathMap rest
      | none => [] := rfl

theorem toPathMap_default : TrieNode.default.toPathMap = PathMap.empty := by
  funext p
  cases p <;> rfl

theorem toPathMap_new (s : Str) : (TrieNode.new s).toPathMap = PathMap.empty := by
  funext p
  cases p <;> rfl

/-! ## Well-formed tries -/

def SortedChildren (children : List TrieNode) : Prop :=
  children.Pairwise fun a b => a.segment < b.segment

/-- Children strictly sorted by segment, at every node. -/
inductive Sorted : TrieNode → Prop where
  | node {t : TrieNode} : SortedChildren t.children → (∀ c ∈ t.children, Sorted c) → Sorted t

theorem Sorted.children {t : TrieNode} (h : Sorted t) : SortedChildren t.children := by
  cases h with | node h _ => exact h

theorem Sorted.child {t c : TrieNode} (h : Sorted t) (hc : c ∈ t.children) : Sorted c := by
  cases h with | node _ h => exact h c hc

theorem sorted_default : Sorted TrieNode.default :=
  .node List.Pairwise.nil fun _ h => absurd h List.not_mem_nil

theorem sorted_new (s : Str) : Sorted (TrieNode.new s) :=
  .node List.Pairwise.nil fun _ h => absurd h List.not_mem_nil

/-- Sorted children have distinct segments: the scan for a segment finds the
member that has it. -/
theorem find?_segment_eq_some {children : List TrieNode} (h : SortedChildren children)
    {s : Str} {c : TrieNode} :
    children.find? (fun d => d.segment = s) = some c ↔ c ∈ children ∧ c.segment = s := by
  induction children with
  | nil => simp
  | cons d children ih =>
      rcases List.pairwise_cons.mp h with ⟨hd, hrest⟩
      by_cases hds : d.segment = s
      · rw [List.find?_cons_of_pos (by simpa using hds), Option.some.injEq, List.mem_cons]
        constructor
        · rintro rfl
          exact ⟨Or.inl rfl, hds⟩
        · rintro ⟨rfl | hc, hcs⟩
          · rfl
          · exact absurd (hds.trans hcs.symm) (hd c hc).ne
      · rw [List.find?_cons_of_neg (by simpa using hds), ih hrest, List.mem_cons]
        constructor
        · rintro ⟨hc, hcs⟩
          exact ⟨Or.inr hc, hcs⟩
        · rintro ⟨rfl | hc, hcs⟩
          · exact absurd hcs hds
          · exact ⟨hc, hcs⟩

/-- On sorted children the binary search and the scan find the same child. -/
theorem searchChild_eq_find? {node : TrieNode} (h : SortedChildren node.children) (head : Str) :
    node.searchChild head = node.children.find? (fun c => c.segment = head) := by
  have hcut : Cut (fun c : TrieNode => strCmp c.segment head) node.children := by
    refine h.imp fun {a b} hab hnot => ?_
    have hle : head ≤ a.segment := not_lt.mp fun hlt => hnot (strCmp_eq_lt.mpr hlt)
    exact strCmp_eq_gt.mpr (lt_of_le_of_lt hle hab)
  have hpred : (fun c : TrieNode => strCmp c.segment head == .eq) =
      fun c => decide (c.segment = head) := by
    funext c
    rw [Bool.eq_iff_iff]
    simp [strCmp_eq_eq]
  rw [searchChild, binarySearchBy_eq_findIdx? hcut, hpred, List.find?_eq_bind_findIdx?_getElem?]

/-! ## Insertion is a push -/

theorem insertPrefix_nil (node : TrieNode) (route : RouteConfig) :
    node.insertPrefix [] route = { node with routes := node.routes ++ [route] } := by
  rw [insertPrefix]
  simp

theorem insertPrefix_of_ne (node : TrieNode) {path : Str} (h : path ≠ []) (route : RouteConfig) :
    node.insertPrefix path route =
      match node.children.findIdx? (fun c => c.segment = (splitFirstSegment path).1) with
      | some idx =>
          { node with
            children := node.children.modify idx
              (fun c => c.insertPrefix (splitFirstSegment path).2 route) }
      | none =>
          { node with
            children := (node.children ++
                [(TrieNode.new (splitFirstSegment path).1).insertPrefix
                  (splitFirstSegment path).2 route]).mergeSort
              (fun a b => a.segment ≤ b.segment) } := by
  rw [insertPrefix]
  exact dif_neg h

theorem insertPrefix_segment (node : TrieNode) (path : Str) (route : RouteConfig) :
    (node.insertPrefix path route).segment = node.segment := by
  by_cases h : path = []
  · subst h
    rw [insertPrefix_nil]
  · rw [insertPrefix_of_ne node h]
    split <;> rfl

/-- Rewriting the child the scan found leaves every other segment's child. -/
theorem find?_modify {children : List TrieNode} {head : Str} {idx : ℕ}
    (hidx : children.findIdx? (fun c => c.segment = head) = some idx)
    {f : TrieNode → TrieNode} (hf : ∀ c, (f c).segment = c.segment) (s : Str) :
    (children.modify idx f).find? (fun c => c.segment = s) =
      if s = head then (children.find? (fun c => c.segment = head)).map f
      else children.find? (fun c => c.segment = s) := by
  induction children generalizing idx with
  | nil => simp at hidx
  | cons c children ih =>
      rw [List.findIdx?_cons] at hidx
      by_cases hc : c.segment = head
      · obtain rfl : 0 = idx := by simpa [hc] using hidx
        by_cases hs : s = head
        · subst hs
          simp [hf, hc]
        · have hcs : ¬ c.segment = s := by
            intro h
            exact hs (h.symm.trans hc)
          simp [hf, hcs, hs]
      · simp only [hc, decide_false, Bool.false_eq_true, ↓reduceIte, Option.map_eq_some_iff] at hidx
        obtain ⟨idx', hidx', rfl⟩ := hidx
        by_cases hs : s = head
        · subst hs
          simp [hc, ih hidx']
        · by_cases hcs : c.segment = s <;> simp [hcs, hs, ih hidx']

theorem sortedChildren_modify {children : List TrieNode} (h : SortedChildren children)
    {f : TrieNode → TrieNode} (hf : ∀ c, (f c).segment = c.segment) (idx : ℕ) :
    SortedChildren (children.modify idx f) := by
  have hmap : (children.modify idx f).map TrieNode.segment = children.map TrieNode.segment := by
    apply List.ext_getElem?
    intro i
    rw [List.getElem?_map, List.getElem?_map, List.getElem?_modify]
    cases children[i]? with
    | none => rfl
    | some c => by_cases hi : idx = i <;> simp [hi, hf]
  have h' : ((children.modify idx f).map TrieNode.segment).Pairwise (· < ·) := by
    rw [hmap]
    exact List.pairwise_map.mpr h
  exact List.pairwise_map.mp h'

/-- A child with a new segment, added and sorted in. -/
theorem sortedChildren_mergeSort {children : List TrieNode} (h : SortedChildren children)
    {child : TrieNode} (hnew : ∀ c ∈ children, c.segment ≠ child.segment) :
    SortedChildren ((children ++ [child]).mergeSort (fun a b => a.segment ≤ b.segment)) := by
  have hle : ((children ++ [child]).mergeSort (fun a b => a.segment ≤ b.segment)).Pairwise
      fun a b => decide (a.segment ≤ b.segment) = true := by
    apply List.pairwise_mergeSort
    · intro a b c hab hbc
      simp only [decide_eq_true_eq] at *
      exact hab.trans hbc
    · intro a b
      simpa using le_total a.segment b.segment
  have hne : ((children ++ [child]).mergeSort (fun a b => a.segment ≤ b.segment)).Pairwise
      fun a b => a.segment ≠ b.segment := by
    refine ((List.mergeSort_perm _ _).pairwise_iff fun hab => hab.symm).mpr ?_
    rw [List.pairwise_append]
    refine ⟨h.imp fun hab => hab.ne, List.pairwise_singleton _ _, ?_⟩
    intro a ha b hb
    obtain rfl := List.mem_singleton.mp hb
    exact hnew a ha
  refine (hle.and hne).imp fun {a b} hab => ?_
  exact lt_of_le_of_ne (of_decide_eq_true hab.1) hab.2

theorem mem_sortedIn {children : List TrieNode} {child c : TrieNode} :
    c ∈ (children ++ [child]).mergeSort (fun a b => a.segment ≤ b.segment) ↔
      c ∈ children ∨ c = child := by
  rw [(List.mergeSort_perm _ _).mem_iff]
  simp

/-- A child sorted in is found under its segment, and the others under theirs. -/
theorem find?_sortedIn {children : List TrieNode} (h : SortedChildren children) {child : TrieNode}
    (hnew : ∀ c ∈ children, c.segment ≠ child.segment) (s : Str) :
    ((children ++ [child]).mergeSort (fun a b => a.segment ≤ b.segment)).find?
        (fun c => c.segment = s) =
      if s = child.segment then some child else children.find? (fun c => c.segment = s) := by
  have hsorted := sortedChildren_mergeSort h hnew
  by_cases hs : s = child.segment
  · rw [if_pos hs, find?_segment_eq_some hsorted]
    exact ⟨mem_sortedIn.mpr (Or.inr rfl), hs.symm⟩
  · rw [if_neg hs]
    ext c
    rw [find?_segment_eq_some hsorted, find?_segment_eq_some h, mem_sortedIn]
    constructor
    · rintro ⟨hc | rfl, hcs⟩
      · exact ⟨hc, hcs⟩
      · exact absurd hcs.symm hs
    · rintro ⟨hc, hcs⟩
      exact ⟨Or.inl hc, hcs⟩

/-- Insertion keeps every node's children strictly sorted. -/
theorem Sorted.insertPrefix {node : TrieNode} (h : Sorted node) (path : Str) (route : RouteConfig) :
    Sorted (node.insertPrefix path route) := by
  induction path using pathSegments.induct generalizing node with
  | case1 =>
      rw [insertPrefix_nil]
      exact .node h.children fun c hc => h.child hc
  | case2 path hne _ ih =>
      rw [insertPrefix_of_ne node hne]
      split
      · refine .node (sortedChildren_modify h.children (fun c => insertPrefix_segment c _ _) _) ?_
        intro c hc
        rcases List.getElem_of_mem hc with ⟨i, hi, rfl⟩
        rw [List.getElem_modify]
        split
        · exact ih (h.child (List.getElem_mem _))
        · exact h.child (List.getElem_mem _)
      · rename_i hnone
        rw [List.findIdx?_eq_none_iff] at hnone
        refine .node (sortedChildren_mergeSort h.children ?_) ?_
        · intro c hc
          rw [insertPrefix_segment]
          simpa [TrieNode.new] using hnone c hc
        · intro c hc
          rcases mem_sortedIn.mp hc with hc | rfl
          · exact h.child hc
          · exact ih (sorted_new _)

/-- **Insertion refines `push`**: one more route at the segments of the path,
after those already there, and nothing else changes. -/
theorem toPathMap_insertPrefix {node : TrieNode} (h : Sorted node) (path : Str)
    (route : RouteConfig) :
    (node.insertPrefix path route).toPathMap =
      node.toPathMap.push (pathSegments path) route := by
  induction path using pathSegments.induct generalizing node with
  | case1 =>
      funext q
      rw [insertPrefix_nil, pathSegments_nil, PathMap.push_apply]
      cases q <;> simp [toPathMap_cons]
  | case2 path hne _ ih =>
      funext q
      rw [insertPrefix_of_ne node hne, pathSegments_of_ne hne, PathMap.push_apply]
      cases hidx : node.children.findIdx? (fun c => c.segment = (splitFirstSegment path).1) with
      | some idx =>
          -- the child exists: only what is below it changes
          cases q with
          | nil => simp
          | cons s q =>
              simp only [toPathMap_cons, List.cons.injEq]
              rw [find?_modify hidx (fun c => insertPrefix_segment c _ _)]
              by_cases hs : s = (splitFirstSegment path).1
              · subst hs
                cases hfind : node.children.find?
                    (fun c => c.segment = (splitFirstSegment path).1) with
                | none =>
                    rw [List.find?_eq_bind_findIdx?_getElem?, hidx] at hfind
                    have := (List.findIdx?_eq_some_iff_getElem.mp hidx).1
                    simp [this] at hfind
                | some c =>
                    have hc := ((find?_segment_eq_some h.children).mp hfind).1
                    simp [ih (h.child hc), PathMap.push_apply]
              · simp [hs]
      | none =>
          -- the child is new: it holds the pushed route only
          have hnew : ∀ c ∈ node.children, c.segment ≠ (splitFirstSegment path).1 := by
            simpa [List.findIdx?_eq_none_iff] using hidx
          cases q with
          | nil => simp
          | cons s q =>
              simp only [toPathMap_cons, List.cons.injEq]
              have hsegment : ((TrieNode.new (splitFirstSegment path).1).insertPrefix
                  (splitFirstSegment path).2 route).segment = (splitFirstSegment path).1 :=
                insertPrefix_segment _ _ _
              rw [find?_sortedIn h.children (by rwa [hsegment]), hsegment]
              by_cases hs : s = (splitFirstSegment path).1
              · subst hs
                have hold : node.children.find?
                    (fun c => c.segment = (splitFirstSegment path).1) = none := by
                  simpa using hnew
                simp [hold, ih (sorted_new _), PathMap.push_apply, toPathMap_new, PathMap.empty]
              · simp [hs]

/-! ## The lookups read the map -/

/-- `find_exact` reads the first route at the path's segments. -/
theorem findExact_eq {node : TrieNode} (h : Sorted node) (path : Str) :
    node.findExact path = (node.toPathMap (pathSegments path)).head? := by
  induction path using pathSegments.induct generalizing node with
  | case1 =>
      rw [findExact, pathSegments_nil]
      simp
  | case2 path hne _ ih =>
      rw [findExact, pathSegments_of_ne hne, toPathMap_cons, searchChild_eq_find? h.children]
      simp only [hne, ↓reduceDIte]
      cases hfind : node.children.find? (fun c => c.segment = (splitFirstSegment path).1) with
      | none => rfl
      | some c => exact ih (h.child ((find?_segment_eq_some h.children).mp hfind).1)

/-- `collect_prefix_matches` appends what the map holds along the path. -/
theorem collectPrefixMatches_eq {node : TrieNode} (h : Sorted node) (path : Str)
    (candidates : List RouteConfig) :
    node.collectPrefixMatches path candidates =
      candidates ++ node.toPathMap.along (pathSegments path) := by
  induction path using pathSegments.induct generalizing node candidates with
  | case1 =>
      rw [collectPrefixMatches, pathSegments_nil, PathMap.along_nil]
      simp
  | case2 path hne _ ih =>
      rw [collectPrefixMatches, pathSegments_of_ne hne, PathMap.along_cons,
        searchChild_eq_find? h.children]
      simp only [hne, ↓reduceDIte, toPathMap_nil, toPathMap_cons]
      cases hfind : node.children.find? (fun c => c.segment = (splitFirstSegment path).1) with
      | none => simp [PathMap.along]
      | some c =>
          simp only
          rw [ih (h.child ((find?_segment_eq_some h.children).mp hfind).1), List.append_assoc]

end TrieNode

end Stateform
