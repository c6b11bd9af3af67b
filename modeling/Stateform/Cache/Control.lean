import Stateform.Http.Header

/-!
# Cache-Control and Vary

`control.rs`. Only the first line of either header is read. Lifetimes are
whole seconds.
-/

namespace Stateform

structure CacheControl : Type where
  noStore : Bool
  noCache : Bool
  private_ : Bool
  maxAge : Option ℕ
  sMaxage : Option ℕ
deriving DecidableEq

/-- `CacheControl::default`. -/
def CacheControl.default : CacheControl := ⟨false, false, false, none, none⟩

def parseDeltaSeconds (directive start : Str) : Option ℕ :=
  (stripPrefix directive start).bind parseU64

namespace CacheControl

/-- One round of the loop of `parse`. -/
def addDirective (cc : CacheControl) (directive : Str) : CacheControl :=
  let directive := toAsciiLowercase (trim directive)
  if directive = "no-store".toList then { cc with noStore := true }
  else if directive = "no-cache".toList then { cc with noCache := true }
  else if directive = "private".toList then { cc with private_ := true }
  else if directive = "public".toList then cc
  else
    match parseDeltaSeconds directive "max-age=".toList with
    | some secs => { cc with maxAge := some secs }
    | none =>
        match parseDeltaSeconds directive "s-maxage=".toList with
        | some secs => { cc with sMaxage := some secs }
        | none => cc

def parse (value : Str) : CacheControl := (value.splitOn ',').foldl addDirective .default

def isUncacheable (cc : CacheControl) : Bool := cc.noStore || cc.noCache

/-- `s-maxage` before `max-age`. -/
def sharedTtl (cc : CacheControl) : Option ℕ := cc.sMaxage.or cc.maxAge

/-- `control::from_headers`. -/
def fromHeaders (headers : HeaderMap) : Option CacheControl :=
  (headers.getStr "cache-control".toList).map parse

end CacheControl

/-- `resolve_ttl`: the smaller of the upstream's lifetime and the route's. -/
def resolveTtl (responseCc : Option CacheControl) (routeTtl : ℕ) : Option ℕ :=
  match responseCc with
  | none => some routeTtl
  | some cc =>
      if cc.isUncacheable then none
      else
        match cc.sharedTtl with
        | some upstreamTtl => some (min upstreamTtl routeTtl)
        | none => some routeTtl

/-- `header::VARY`. -/
def varyName : HeaderName := ⟨"vary".toList, by decide, by decide⟩

/-- `parse_vary`. A response without a readable `Vary` gives `none`, as one
that varies on everything. -/
def parseVary (headers : HeaderMap) : Option (List Str) :=
  (headers.getStr "vary".toList).bind fun vary =>
    if trim vary = "*".toList then none
    else some (((vary.splitOn ',').map fun s => toAsciiLowercase (trim s)).filter (· ≠ []))

/-- The names of a list are its lowered, trimmed, non-empty elements. -/
theorem parseVary_eq_some {headers : HeaderMap} {names : List Str} :
    parseVary headers = some names ↔
      ∃ vary, headers.getStr "vary".toList = some vary ∧ trim vary ≠ "*".toList ∧
        names = ((vary.splitOn ',').map fun s => toAsciiLowercase (trim s)).filter (· ≠ []) := by
  unfold parseVary
  cases headers.getStr "vary".toList with
  | none => simp
  | some vary =>
      by_cases hstar : trim vary = "*".toList
      · simp [hstar]
      · simp only [Option.bind_some, hstar, ↓reduceIte, Option.some.injEq, exists_eq_left', ne_eq,
          not_false_eq_true, true_and]
        exact eq_comm

end Stateform
