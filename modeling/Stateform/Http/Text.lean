import Mathlib

/-!
# Text

A `str` is its list of Unicode scalar values. Its byte order is the
lexicographic order of the scalar values (UTF-8 keeps it), so comparisons and
separators mean the same on either reading.
-/

namespace Stateform

abbrev Str : Type := List Char

/-- Named, so that no definition carries a proof of its own. -/
instance : LawfulBEq Str := inferInstance

/-- `str::to_ascii_lowercase`. -/
def toAsciiLowercase (s : Str) : Str := s.map Char.toLower

/-- `str::to_ascii_uppercase`. -/
def toAsciiUppercase (s : Str) : Str := s.map Char.toUpper

/-- `str::eq_ignore_ascii_case`. -/
def eqIgnoreAsciiCase (s t : Str) : Bool := toAsciiLowercase s == toAsciiLowercase t

/-- `str::cmp`. -/
def strCmp (s t : Str) : Ordering := if s < t then .lt else if s = t then .eq else .gt

/-- `char::is_whitespace`: the Unicode `White_Space` property. -/
def isWhitespace (c : Char) : Bool :=
  let n := c.toNat
  (9 ≤ n && n ≤ 13) || n == 0x20 || n == 0x85 || n == 0xA0 || n == 0x1680 ||
    (0x2000 ≤ n && n ≤ 0x200A) || n == 0x2028 || n == 0x2029 || n == 0x202F ||
    n == 0x205F || n == 0x3000

/-- `str::trim`. -/
def trim (s : Str) : Str :=
  ((s.dropWhile isWhitespace).reverse.dropWhile isWhitespace).reverse

/-- `str::contains` with a literal pattern. -/
def contains (s pattern : Str) : Bool := decide (pattern <:+: s)

/-- `str::strip_prefix`. -/
def stripPrefix (s start : Str) : Option Str :=
  if start <+: s then some (s.drop start.length) else none

/-- `str::parse::<u64>`: an optional `+`, then at least one decimal digit, and
a value below `2^64`. -/
def parseU64 (s : Str) : Option ℕ :=
  let digits := if s.head? = some '+' then s.tail else s
  if digits ≠ [] ∧ digits.all Char.isDigit then
    let n := digits.foldl (fun acc c => acc * 10 + (c.toNat - '0'.toNat)) 0
    if n < 2 ^ 64 then some n else none
  else none

/-- The decimal text of a number. -/
def decimal (n : ℕ) : Str := (Nat.toDigits 10 n)

theorem strCmp_eq_lt {s t : Str} : strCmp s t = .lt ↔ s < t := by
  unfold strCmp
  split <;> [simp_all; split <;> simp_all]

theorem strCmp_eq_eq {s t : Str} : strCmp s t = .eq ↔ s = t := by
  unfold strCmp
  split
  · rename_i h
    simp [h.ne]
  · split <;> simp_all

theorem strCmp_eq_gt {s t : Str} : strCmp s t = .gt ↔ t < s := by
  unfold strCmp
  rcases lt_trichotomy s t with h | rfl | h
  · simp [h, h.not_gt]
  · simp
  · simp [h, h.not_gt, h.ne']

/-- The `regex` crate: whether a pattern compiles (and the error text where it
does not), and what a compiled pattern finds in a text (its named groups with
what they captured), as fixed functions of the pattern. -/
structure RegexCrate : Type where
  new : Str → Except Str Unit
  captures : Str → Str → Option (List (Str × Str))

/-- `Regex::is_match`. -/
def RegexCrate.isMatch (rx : RegexCrate) (pattern text : Str) : Bool :=
  (rx.captures pattern text).isSome

/-- Lowering a character changes letters into letters only. -/
theorem toLower_eq_of_notLetter {c d : Char} (hd : d.isAlpha = false) (h : c.toLower = d) :
    c = d := by
  have halpha : c.isAlpha = false := by
    rw [← Char.isAlpha_toLower_eq_isAlpha, h, hd]
  have hupper : ¬ c.isUpper := by
    simp only [Char.isAlpha, Bool.or_eq_false_iff] at halpha
    simp [halpha.1]
  rwa [Char.toLower_eq_of_not_isUpper hupper] at h

theorem mem_toAsciiLowercase {d : Char} (hd : d.isAlpha = false) (hfix : d.toLower = d)
    {s : Str} : d ∈ toAsciiLowercase s ↔ d ∈ s := by
  simp only [toAsciiLowercase, List.mem_map]
  constructor
  · rintro ⟨c, hc, h⟩
    rwa [← toLower_eq_of_notLetter hd h]
  · intro h
    exact ⟨d, h, hfix⟩

end Stateform
