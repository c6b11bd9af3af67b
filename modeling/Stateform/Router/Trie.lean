import Stateform.Config.Schema
import Stateform.Library.BinarySearch

/-!
# The segment trie

`trie.rs`, on strings as the source has it: insertion looks a child up by a
linear scan and sorts the children after adding one, lookups use a binary
search. What the trie means is in `Stateform.Router.TrieRefinement`.
-/

namespace Stateform

open Library

/-- A node: its segment, the routes that end here, the child nodes. -/
structure TrieNode : Type where
  segment : Str
  routes : List RouteConfig
  children : List TrieNode

namespace TrieNode

/-- `TrieNode::default`. -/
def default : TrieNode := ⟨[], [], []⟩

def new (segment : Str) : TrieNode := ⟨segment, [], []⟩

end TrieNode

/-- Split off the first segment; leading slashes are consumed. -/
def splitFirstSegment (path : Str) : Str × Str :=
  let path := path.dropWhile (· = '/')
  (path.takeWhile (· ≠ '/'), (path.dropWhile (· ≠ '/')).drop 1)

/-- The tail of a split is shorter, so the recursions below end. -/
theorem splitFirstSegment_length {path : Str} (h : path ≠ []) :
    (splitFirstSegment path).2.length < path.length := by
  simp only [splitFirstSegment]
  set trimmed := path.dropWhile (· = '/') with htrim
  have hle : trimmed.length ≤ path.length := (List.dropWhile_suffix _).length_le
  have hdrop : (trimmed.dropWhile (· ≠ '/')).length ≤ trimmed.length :=
    (List.dropWhile_suffix _).length_le
  rcases Nat.eq_zero_or_pos trimmed.length with h0 | hpos
  · have := List.length_pos_of_ne_nil h
    simp only [List.length_drop]
    omega
  · simp only [List.length_drop]
    omega

namespace TrieNode

/-- `insert_prefix`: walk the segments of `path`, adding the nodes that are
missing, and append the route to the last node. -/
def insertPrefix (node : TrieNode) (path : Str) (route : RouteConfig) : TrieNode :=
  if h : path = [] then { node with routes := node.routes ++ [route] }
  else
    have := splitFirstSegment_length h
    let head := (splitFirstSegment path).1
    match node.children.findIdx? (fun c => c.segment = head) with
    | some idx =>
        { node with
          children := node.children.modify idx
            (fun c => c.insertPrefix (splitFirstSegment path).2 route) }
    | none =>
        let child := (TrieNode.new head).insertPrefix (splitFirstSegment path).2 route
        { node with
          children := (node.children ++ [child]).mergeSort
            (fun a b => a.segment ≤ b.segment) }
termination_by path.length

/-- The binary search for a child, as both lookups run it. -/
def searchChild (node : TrieNode) (head : Str) : Option TrieNode :=
  (binarySearchBy (fun c : TrieNode => strCmp c.segment head) node.children).bind
    (node.children[·]?)

/-- `collect_prefix_matches`: the routes met on the way down `path`, appended
to `candidates`. -/
def collectPrefixMatches (node : TrieNode) (path : Str) (candidates : List RouteConfig) :
    List RouteConfig :=
  let candidates := candidates ++ node.routes
  if h : path = [] then candidates
  else
    have := splitFirstSegment_length h
    match node.searchChild (splitFirstSegment path).1 with
    | some child => child.collectPrefixMatches (splitFirstSegment path).2 candidates
    | none => candidates
termination_by path.length

/-- `find_exact`: the first route of the node `path` leads to. -/
def findExact (node : TrieNode) (path : Str) : Option RouteConfig :=
  if h : path = [] then node.routes.head?
  else
    have := splitFirstSegment_length h
    match node.searchChild (splitFirstSegment path).1 with
    | some child => child.findExact (splitFirstSegment path).2
    | none => none
termination_by path.length

end TrieNode

end Stateform
