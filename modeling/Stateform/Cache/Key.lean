import Stateform.Http.Header

/-!
# Cache keys

`key.rs`: the flat text a response is stored under, and the headers that may
be stored.
-/

namespace Stateform

/-- A `CacheKey` wraps its text. -/
@[ext] structure CacheKey : Type where
  text : Str
deriving DecidableEq

/-- The path and query part of a key: an empty query is no query. -/
def pathQuery (path : Str) (query : Option Str) : Str :=
  match query with
  | some q => if q ≠ [] then path ++ '?' :: q else path
  | none => path

namespace CacheKey

def new (method routeId path : Str) (query : Option Str) : CacheKey :=
  ⟨"stateform:cache:".toList ++ toAsciiUppercase method ++ ':' :: routeId ++
    ':' :: pathQuery path query⟩

/-- The pairs `with_vary` appends, before they are sorted. A header that is
missing or not readable counts as empty. -/
def varyPairs (varyNames : List Str) (requestHeaders : HeaderMap) : List (Str × Str) :=
  varyNames.map fun name => (name, (requestHeaders.getStr name).getD [])

/-- The text of the sorted pairs. -/
def varySuffix (varyNames : List Str) (requestHeaders : HeaderMap) : Str :=
  ((varyPairs varyNames requestHeaders).insertionSort fun a b => strCmp a.1 b.1 ≠ .gt).flatMap
    fun e => ':' :: e.1 ++ '=' :: e.2

def withVary (key : CacheKey) (varyNames : List Str) (requestHeaders : HeaderMap) : CacheKey :=
  if varyNames.isEmpty then key else ⟨key.text ++ varySuffix varyNames requestHeaders⟩

@[simp] theorem withVary_nil (key : CacheKey) (headers : HeaderMap) :
    key.withVary [] headers = key := rfl

theorem varySuffix_ne_nil {names : List Str} (h : names ≠ []) (headers : HeaderMap) :
    varySuffix names headers ≠ [] := by
  rcases List.exists_cons_of_ne_nil h with ⟨name, rest, rfl⟩
  intro hnil
  have hmem : (name, (headers.getStr name).getD []) ∈
      (varyPairs (name :: rest) headers).insertionSort fun a b => strCmp a.1 b.1 ≠ .gt := by
    simp [varyPairs]
  have := List.flatMap_eq_nil_iff.mp hnil _ hmem
  simp at this

/-- A key with Vary names is longer than the key it extends. -/
theorem withVary_eq_self {key : CacheKey} {names : List Str} {headers : HeaderMap} :
    key.withVary names headers = key ↔ names = [] := by
  constructor
  · intro h
    by_contra hne
    have htext : key.text ++ varySuffix names headers = key.text := by
      simpa [withVary, hne] using congrArg CacheKey.text h
    exact varySuffix_ne_nil hne headers (by simpa using htext)
  · rintro rfl
    rfl

end CacheKey

/-- Headers that are never stored. -/
def hopByHop : List Str :=
  ["connection".toList, "keep-alive".toList, "proxy-authenticate".toList,
    "proxy-authorization".toList, "te".toList, "trailers".toList, "transfer-encoding".toList,
    "upgrade".toList]

def storableHeaders (headers : HeaderMap) : List (Str × Str) :=
  headers.fields.filterMap fun f =>
    let nameStr := toAsciiLowercase f.1.text
    if nameStr ∈ hopByHop then none
    else f.2.toStr.map fun v => (nameStr, v)

end Stateform
