import Stateform.Cache.Layers
import Stateform.Config.Validation
import Stateform.Core.Upstream

/-!
# Requests out, responses back

The builders of `pipeline.rs` and `concurrency.rs`: error bodies, responses
from the cache and from an upstream, and the header mutations of a route.
-/

namespace Stateform

inductive CoreError : Type where
  | upstream (upstream message : Str)
  | upstreamTimeout (secs : ℕ)
  | noHealthyEndpoints (upstream : Str)
  | config (e : ConfigError)
deriving DecidableEq

/-- `Display`. -/
def CoreError.toText : CoreError → Str
  | .upstream name message => "upstream error at ".toList ++ name ++ ": ".toList ++ message
  | .upstreamTimeout secs => "upstream timed out after ".toList ++ decimal secs ++ "s".toList
  | .noHealthyEndpoints name => "no healthy endpoints for upstream `".toList ++ name ++ "`".toList
  | .config e => "config error: ".toList ++ e.toText

/-! ## Bodies -/

/-- A character of a JSON string, as `serde_json` writes it. -/
def jsonEscape (c : Char) : Str :=
  if c = '"' then ['\\', '"']
  else if c = '\\' then ['\\', '\\']
  else if c = '\n' then ['\\', 'n']
  else if c = '\r' then ['\\', 'r']
  else if c = '\t' then ['\\', 't']
  else if c.toNat = 8 then ['\\', 'b']
  else if c.toNat = 12 then ['\\', 'f']
  else if c.toNat < 32 then
    "\\u00".toList ++ (if c.toNat < 16 then ['0'] else []) ++ Nat.toDigits 16 c.toNat
  else [c]

/-- `json!(…)` of an error message, as text. -/
def errorBody (message : Str) : List UInt8 :=
  utf8 ("\x7b\"error\":\"".toList ++ message.flatMap jsonEscape ++ "\"\x7d".toList)

/-! ## Header names -/

def contentType : HeaderName := ⟨"content-type".toList, by decide, by decide⟩

def xRequestId : HeaderName := ⟨"x-request-id".toList, by decide, by decide⟩

def xCache : HeaderName := ⟨"x-cache".toList, by decide, by decide⟩

def ageName : HeaderName := ⟨"age".toList, by decide, by decide⟩

def retryAfter : HeaderName := ⟨"retry-after".toList, by decide, by decide⟩

/-- `HeaderValue::from_static`. -/
def staticValue (s : String) : HeaderValue := utf8 s.toList

/-- The pairs of texts that are a header name and a header value. -/
def validPairs (pairs : List (Str × Str)) : List (HeaderName × HeaderValue) :=
  pairs.filterMap fun e => do
    let name ← HeaderName.fromBytes e.1
    let value ← HeaderValue.fromStr e.2
    return (name, value)

/-- `insert` of every valid pair, in order. -/
def HeaderMap.insertAll (h : HeaderMap) (pairs : List (Str × Str)) : HeaderMap :=
  (validPairs pairs).foldl (fun h e => h.insert e.1 e.2) h

/-- `append` of every valid pair, in order. -/
def HeaderMap.appendAll (h : HeaderMap) (pairs : List (Str × Str)) : HeaderMap :=
  (validPairs pairs).foldl (fun h e => h.append e.1 e.2) h

/-! ## Which names a map has -/

namespace HeaderMap

/-- Some field has the name. -/
def Has (h : HeaderMap) (name : HeaderName) : Prop := ∃ f ∈ h.fields, f.1 = name

variable {h : HeaderMap} {name other : HeaderName} {value : HeaderValue}

theorem has_empty : ¬ empty.Has name := by
  rintro ⟨f, hf, _⟩
  exact absurd hf List.not_mem_nil

theorem has_append : (h.append other value).Has name ↔ name = other ∨ h.Has name := by
  have hsplit : h.fields = h.fields.takeWhile (fun f => f.1 ≠ other) ++
      ((h.fields.dropWhile fun f => f.1 ≠ other).takeWhile (fun f => f.1 = other) ++
        (h.fields.dropWhile fun f => f.1 ≠ other).dropWhile fun f => f.1 = other) := by
    rw [List.takeWhile_append_dropWhile, List.takeWhile_append_dropWhile]
  have hmem : ∀ f, f ∈ (h.append other value).fields ↔ f = (other, value) ∨ f ∈ h.fields := by
    intro f
    conv_rhs => rw [hsplit]
    simp only [append, List.mem_append, List.mem_cons]
    tauto
  unfold Has
  simp only [hmem]
  constructor
  · rintro ⟨f, rfl | hf, hname⟩
    · exact .inl hname.symm
    · exact .inr ⟨f, hf, hname⟩
  · rintro (rfl | ⟨f, hf, hname⟩)
    · exact ⟨(name, value), .inl rfl, rfl⟩
    · exact ⟨f, .inr hf, hname⟩

theorem mem_insert_self : (other, value) ∈ (h.insert other value).fields := by
  unfold insert
  split
  · simp
  · simp

/-- Fields of other names stay, and come from nowhere else. -/
theorem mem_insert {f : HeaderName × HeaderValue} (hne : f.1 ≠ other) :
    f ∈ (h.insert other value).fields ↔ f ∈ h.fields := by
  have hmem : f ∈ h.fields ↔ f ∈ h.fields.takeWhile (fun f => f.1 ≠ other) ∨
      f ∈ h.fields.dropWhile fun f => f.1 ≠ other := by
    rw [← List.mem_append, List.takeWhile_append_dropWhile]
  have hnew : f ≠ (other, value) := by
    rintro rfl
    exact hne rfl
  unfold insert
  split
  · rw [hmem]
    simp [hne, hnew]
  · simp [hnew]

theorem has_insert : (h.insert other value).Has name ↔ name = other ∨ h.Has name := by
  by_cases heq : name = other
  · subst heq
    simp only [true_or, iff_true]
    exact ⟨(name, value), mem_insert_self, rfl⟩
  · simp only [heq, false_or]
    constructor
    · rintro ⟨f, hf, rfl⟩
      exact ⟨f, (mem_insert heq).mp hf, rfl⟩
    · rintro ⟨f, hf, rfl⟩
      exact ⟨f, (mem_insert heq).mpr hf, rfl⟩

/-- Adding fields one after the other adds their names. -/
theorem has_foldl {f : HeaderMap → HeaderName → HeaderValue → HeaderMap}
    (hf : ∀ h n v, (f h n v).Has name ↔ name = n ∨ h.Has name)
    (fields : List (HeaderName × HeaderValue)) :
    (fields.foldl (fun h e => f h e.1 e.2) h).Has name ↔
      h.Has name ∨ ∃ e ∈ fields, e.1 = name := by
  induction fields generalizing h with
  | nil => simp
  | cons e fields ih =>
      rw [List.foldl_cons, ih, hf]
      simp only [List.mem_cons, exists_eq_or_imp, eq_comm (a := name)]
      tauto

theorem has_insertAll {pairs : List (Str × Str)} :
    (h.insertAll pairs).Has name ↔ h.Has name ∨ ∃ e ∈ validPairs pairs, e.1 = name :=
  has_foldl (f := insert) (fun _ _ _ => has_insert) (validPairs pairs)

theorem has_appendAll {pairs : List (Str × Str)} :
    (h.appendAll pairs).Has name ↔ h.Has name ∨ ∃ e ∈ validPairs pairs, e.1 = name :=
  has_foldl (f := append) (fun _ _ _ => has_append) (validPairs pairs)

end HeaderMap

/-- A valid pair has the text of some pair, lowered, for its name. -/
theorem text_of_validPairs {pairs : List (Str × Str)} {e : HeaderName × HeaderValue}
    (h : e ∈ validPairs pairs) : ∃ p ∈ pairs, e.1.text = toAsciiLowercase p.1 := by
  obtain ⟨p, hp, hvalid⟩ := List.mem_filterMap.mp h
  obtain ⟨name, hname, hrest⟩ := Option.bind_eq_some_iff.mp hvalid
  obtain ⟨value, _, hpair⟩ := Option.bind_eq_some_iff.mp hrest
  cases hpair
  refine ⟨p, hp, ?_⟩
  unfold HeaderName.fromBytes at hname
  split at hname
  · cases hname
    rfl
  · cases hname

/-! ## Responses -/

/-- `inject_request_id`. -/
def injectRequestId (headers : HeaderMap) (requestId : Str) : HeaderMap :=
  if !headers.containsKey "x-request-id".toList then
    match HeaderValue.fromStr requestId with
    | some val => headers.insert xRequestId val
    | none => headers
  else headers

theorem has_injectRequestId {headers : HeaderMap} {requestId : Str} {name : HeaderName}
    (hne : name ≠ xRequestId) :
    (injectRequestId headers requestId).Has name ↔ headers.Has name := by
  unfold injectRequestId
  split
  · split
    · simp [HeaderMap.has_insert, hne]
    · rfl
  · rfl

/-- `error_response`. -/
def errorResponse (status : ℕ) (message requestId : Str) : Response where
  status := status
  headers := injectRequestId (HeaderMap.empty.append contentType (staticValue "application/json"))
    requestId
  body := errorBody message

/-- `service_unavailable`. -/
def serviceUnavailable (msg : Str) : Response where
  status := 503
  headers := (HeaderMap.empty.append contentType (staticValue "application/json")).append retryAfter
    (staticValue "1")
  body := errorBody msg

/-- `build_cached_response`, at the time the `Age` header is made. -/
def buildCachedResponse (cached : CachedResponse) (now : ℕ) : Response where
  status := cached.status
  headers := ((HeaderMap.empty.append xCache (staticValue "HIT")).append ageName
    (utf8 (cached.ageHeader now))).appendAll cached.headers
  body := cached.body

/-- `build_upstream_response`. -/
def buildUpstreamResponse (resp : Response) (mutations : HeaderMutations) : Response :=
  { resp with
    headers := (resp.headers.insertAll (mutations.responseSet.entries.map fun e => (e.1, e.2))).insert
      xCache (staticValue "MISS") }

/-- `apply_request_mutations`. -/
def applyRequestMutations (req : Request) (mutations : HeaderMutations) : Request :=
  { req with
    headers := (mutations.requestRemove.foldl HeaderMap.remove req.headers).insertAll
      (mutations.requestSet.entries.map fun e => (e.1, e.2)) }

end Stateform
