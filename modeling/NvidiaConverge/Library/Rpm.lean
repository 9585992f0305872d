import Mathlib

/-!
# Package versions as RPM compares them

A version text is read as a list of segments: maximal runs of ASCII digits or letters, and the
two separators with a meaning of their own. Versions are ordered segment by segment. A
capability is a package name with a bound on its version, and a lock is a name pattern with
one. Nothing here refers to a particular program.
-/

namespace Rpm

/-- A segment of a version: a tilde, a caret, a number or a word. -/
inductive Segment where
  /-- `~`: sorts before everything, the end of the version included. -/
  | tilde
  /-- `^`: sorts behind the end of the version and before any other segment. -/
  | caret
  | number (value : Nat)
  | word (letters : List Char)
  deriving DecidableEq

/-- Two neighbouring characters belong to one run, of digits or of letters. -/
def sameRun (c d : Char) : Bool :=
  (c.isDigit && d.isDigit) || (c.isAlpha && d.isAlpha)

/-- The segment of a run; other characters only separate. -/
def segment? : List Char → Option Segment
  | [] => none
  | c :: run =>
      if c = '~' then some .tilde
      else if c = '^' then some .caret
      else if c.isDigit then some (.number (Nat.ofDigitChars 10 (c :: run) 0))
      else if c.isAlpha then some (.word (c :: run))
      else none

/-- The segments of a version: its runs of digits and of letters, its tildes and its carets. -/
def segments (version : List Char) : List Segment :=
  (version.splitBy sameRun).filterMap segment?

/-- The order of two versions by their segments. A number is newer than a word, and of two
versions that agree as far as the shorter one goes the longer one is newer. -/
def compareSegments : List Segment → List Segment → Ordering
  | [], [] => .eq
  | .tilde :: xs, .tilde :: ys => compareSegments xs ys
  | .tilde :: _, _ => .lt
  | _, .tilde :: _ => .gt
  | .caret :: xs, .caret :: ys => compareSegments xs ys
  | [], _ :: _ => .lt
  | _ :: _, [] => .gt
  | .caret :: _, _ :: _ => .lt
  | _ :: _, .caret :: _ => .gt
  | .number m :: xs, .number n :: ys => (compare m n).then (compareSegments xs ys)
  | .number _ :: _, .word _ :: _ => .gt
  | .word _ :: _, .number _ :: _ => .lt
  | .word s :: xs, .word t :: ys => (compare s t).then (compareSegments xs ys)

/-- `rpmvercmp`: the order of two versions by their segments. -/
def vercmp (version other : List Char) : Ordering :=
  compareSegments (segments version) (segments other)

/-! ## Capabilities and locks -/

/-- How a capability bounds the version that it names. -/
inductive Relation where
  | lt | le | eq | ge | gt
  deriving DecidableEq

/-- Whether the order of a version against the bound is in the relation. -/
def Relation.admits : Relation → Ordering → Bool
  | .lt, order => order == .lt
  | .le, order => order != .gt
  | .eq, order => order == .eq
  | .ge, order => order != .lt
  | .gt, order => order == .gt

/-- The character may stand in the name of a capability, before its relation. -/
def isNameChar (c : Char) : Bool :=
  c != '<' && c != '=' && c != '>'

/-- A relation at the start of a text, and the bound behind it. -/
def readRelation : List Char → Option (Relation × List Char)
  | '<' :: '=' :: bound => some (.le, bound)
  | '>' :: '=' :: bound => some (.ge, bound)
  | '<' :: bound => some (.lt, bound)
  | '>' :: bound => some (.gt, bound)
  | '=' :: bound => some (.eq, bound)
  | _ => none

/-- A capability is read as a name and, behind it, a relation with a bound. -/
def readCapability (text : List Char) : List Char × Option (Relation × List Char) :=
  let (name, bound) := text.span isNameChar
  (name, readRelation bound)

/-- Whether a capability leaves a version of a package to choose: its name is another one, or
its bound admits the version. -/
def satisfies (package version capability : List Char) : Bool :=
  match readCapability capability with
  | (_, none) => true
  | (name, some (relation, bound)) =>
      name != package || relation.admits (vercmp version bound)

/-- Whether a name matches a pattern in which `*` stands for any text. -/
def matchesGlob : List Char → List Char → Bool
  | [], name => name.isEmpty
  | c :: pattern, name =>
      if c = '*' then name.tails.any (matchesGlob pattern)
      else
        match name with
        | [] => false
        | d :: rest => c == d && matchesGlob pattern rest

/-- Whether a lock, a pattern with a bound that blanks may surround, excludes a version of a
package. -/
def lockExcludes (lock package version : List Char) : Bool :=
  match readCapability (lock.filter (· != ' ')) with
  | (pattern, none) => matchesGlob pattern package
  | (pattern, some (relation, bound)) =>
      matchesGlob pattern package && relation.admits (vercmp version bound)

/-! ## Segments -/

/-- Texts that do not meet inside a run are read one after the other. -/
theorem segments_append (version rest : List Char)
    (h : ∀ last ∈ version.getLast?, ∀ first ∈ rest.head?, sameRun last first = false) :
    segments (version ++ rest) = segments version ++ segments rest := by
  have hsplit : (version ++ rest).splitBy sameRun =
      version.splitBy sameRun ++ rest.splitBy sameRun :=
    List.splitBy_append h
  rw [segments, hsplit, List.filterMap_append]
  rfl

/-- A separator is dropped: the segments are those of the text behind it. -/
theorem segments_separator {c : Char} (hdigit : c.isDigit = false) (halpha : c.isAlpha = false)
    (htilde : c ≠ '~') (hcaret : c ≠ '^') (rest : List Char) :
    segments (c :: rest) = segments rest := by
  have hrun : ∀ last ∈ [c].getLast?, ∀ first ∈ rest.head?, sameRun last first = false := by
    intro last hlast first _
    have heq : last = c := by simpa using hlast.symm
    rw [heq, sameRun, hdigit, halpha]
    rfl
  have hnone : segments [c] = [] := by
    simp [segments, List.splitBy, List.splitBy.loop, segment?, hdigit, halpha, htilde, hcaret]
  rw [← List.singleton_append, segments_append _ _ hrun, hnone, List.nil_append]

/-- A run of digits is one number, whatever its leading zeros are. -/
theorem segments_digits {digits : List Char} (hne : digits ≠ [])
    (h : ∀ c ∈ digits, c.isDigit = true) :
    segments digits = [.number (Nat.ofDigitChars 10 digits 0)] := by
  have hchain : digits.IsChain fun c d => sameRun c d = true :=
    (List.pairwise_of_forall_mem_list fun c hc d hd => by simp [sameRun, h c hc, h d hd]).isChain
  rw [segments, List.splitBy_of_isChain hne hchain]
  cases digits with
  | nil => exact absurd rfl hne
  | cons c run =>
      have hc := h c List.mem_cons_self
      have htilde : c ≠ '~' := by rintro rfl; revert hc; decide
      have hcaret : c ≠ '^' := by rintro rfl; revert hc; decide
      simp [segment?, hc, htilde, hcaret]

/-- The printed digits of a number are one segment with its value. -/
theorem segments_to_digits (value : Nat) : segments (Nat.toDigits 10 value) = [.number value] := by
  rw [segments_digits Nat.toDigits_ne_nil fun c hc =>
    Nat.isDigit_of_mem_toDigits (by decide) (by decide) hc, Nat.ofDigitChars_ten_toDigits]

/-- A printed number in front of a text that does not go on with a digit. -/
theorem segments_number_append (value : Nat) {rest : List Char}
    (h : ∀ c ∈ rest.head?, c.isDigit = false) :
    segments (Nat.toDigits 10 value ++ rest) = .number value :: segments rest := by
  have hrun : ∀ last ∈ (Nat.toDigits 10 value).getLast?, ∀ first ∈ rest.head?,
      sameRun last first = false := by
    intro last hlast first hfirst
    have hdigit : last.isDigit = true :=
      Nat.isDigit_of_mem_toDigits (by decide) (by decide) (List.mem_of_mem_getLast? hlast)
    have halpha : last.isAlpha = false := by
      simp only [Char.isDigit, Char.isAlpha, Char.isUpper, Char.isLower] at hdigit ⊢
      grind
    rw [sameRun, h first hfirst, halpha]
    simp
  rw [segments_append _ _ hrun, segments_to_digits]
  rfl

/-! ## The order -/

/-- A version that goes on with another segment is newer. -/
theorem compare_append_self {extra : Segment} (hextra : extra ≠ .tilde) (more : List Segment)
    (version : List Segment) : compareSegments (version ++ extra :: more) version = .gt := by
  induction version with
  | nil => cases extra <;> first | rfl | exact absurd rfl hextra
  | cons first rest ih => cases first <;> simp [compareSegments, ih, Std.ReflCmp.compare_self]

/-- Against a single number a leading number decides, unless it is the same one. -/
theorem compare_number {value bound : Nat} (hne : value ≠ bound) (more : List Segment) :
    compareSegments (.number value :: more) [.number bound] = compare value bound := by
  have horder : compare value bound ≠ .eq := fun h => hne (Nat.compare_eq_eq.mp h)
  rw [compareSegments]
  cases h : compare value bound with
  | eq => exact absurd h horder
  | lt => rfl
  | gt => rfl

/-- A version without a leading `~` is at least the empty one. -/
theorem compare_nil {version : List Segment} (h : .tilde ∉ version) :
    compareSegments version [] ≠ .lt := by
  cases version with
  | nil => decide
  | cons first rest =>
      cases first with
      | tilde => exact absurd List.mem_cons_self h
      | caret | number value | word letters => simp [compareSegments]

/-- The same number is older than a bound only behind a `~`. -/
theorem compare_number_lt {value bound : Nat} {more : List Segment} (h : .tilde ∉ more) :
    compareSegments (.number value :: more) [.number bound] = .lt ↔ value < bound := by
  by_cases heq : value = bound
  · subst heq
    rw [compareSegments, Nat.compare_eq_eq.mpr rfl]
    exact ⟨fun hlt => absurd hlt (compare_nil h), fun hlt => absurd hlt (lt_irrefl _)⟩
  · rw [compare_number heq, Nat.compare_eq_lt]

/-- A version without the character has no `~` among its segments. -/
theorem tilde_not_mem_segments {version : List Char} (h : '~' ∉ version) :
    Segment.tilde ∉ segments version := by
  intro hmem
  obtain ⟨run, hrun, htilde⟩ := List.mem_filterMap.mp hmem
  cases run with
  | nil => cases htilde
  | cons c rest =>
      have hc : c ∈ version := by
        rw [← List.flatten_splitBy sameRun version]
        exact List.mem_flatten.mpr ⟨_, hrun, List.mem_cons_self⟩
      have hne : c ≠ '~' := fun heq => h (heq ▸ hc)
      rw [segment?, if_neg hne] at htilde
      grind

/-! ## Reading capabilities -/

/-- The name of a capability is read up to the first character of its relation. -/
theorem read_capability_append {name : List Char} (hname : ∀ c ∈ name, isNameChar c = true)
    (rest : List Char) (hrest : ∀ c ∈ rest.head?, isNameChar c = false) :
    readCapability (name ++ rest) = (name, readRelation rest) := by
  have hspan : (name ++ rest).span isNameChar = (name, rest) := by
    rw [List.span_eq_takeWhile_dropWhile, List.takeWhile_append_of_pos hname,
      List.dropWhile_append_of_pos hname]
    cases rest with
    | nil => simp
    | cons c rest =>
        have hc := hrest c rfl
        simp [hc]
  rw [readCapability, hspan]

/-- A strict upper bound is read, unless its text starts with `=`. -/
theorem read_relation_lt {bound : List Char} (h : bound.head? ≠ some '=') :
    readRelation ('<' :: bound) = some (.lt, bound) := by
  cases bound with
  | nil => rfl
  | cons c rest =>
      have hc : c ≠ '=' := fun heq => h (by rw [heq]; rfl)
      simp [readRelation, hc]

/-- A capability of a name that starts differently leaves a package alone. -/
theorem satisfies_of_head_ne {c d : Char} {name package : List Char}
    (hne : c ≠ d) (hname : isNameChar c = true) (version : List Char) :
    satisfies (d :: package) version (c :: name) = true := by
  have hread : ∃ more bound, readCapability (c :: name) = (c :: more, bound) := by
    refine ⟨name.takeWhile isNameChar, readRelation (name.dropWhile isNameChar), ?_⟩
    rw [readCapability, List.span_eq_takeWhile_dropWhile, List.takeWhile_cons_of_pos hname,
      List.dropWhile_cons_of_pos hname]
  obtain ⟨more, bound, hread⟩ := hread
  rw [satisfies, hread]
  cases bound with
  | none => rfl
  | some bound => simp [hne]

example : vercmp "575.57.08".toList "570".toList = .gt := by decide +kernel

example : vercmp "580~rc1".toList "580".toList = .lt := by decide +kernel

end Rpm
