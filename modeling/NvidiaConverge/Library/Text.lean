import Mathlib

/-!
# Python text operations

String operations with Python's meaning, computed on the list of code points so that they
reduce in the kernel: prefixes and suffixes, partitioning, stripping, Unicode decimal
digits (`\d` and `int`), and `repr`. Nothing here refers to a particular program.
-/

namespace Text

/-- `s.startswith(p)` on code points. -/
def startsWith (s p : String) : Bool :=
  p.toList.isPrefixOf s.toList

/-- `s.endswith(p)` on code points. -/
def endsWith (s p : String) : Bool :=
  p.toList.isSuffixOf s.toList

/-- Whether some suffix of the code points starts with the pattern. -/
def infixOf (pattern : List Char) : List Char → Bool
  | [] => pattern.isEmpty
  | c :: rest => pattern.isPrefixOf (c :: rest) || infixOf pattern rest

/-- `sub in s`: the code points of `sub` stand somewhere in `s`, without a gap. -/
def contains (s sub : String) : Bool :=
  infixOf sub.toList s.toList

/-- A text that contains a pattern contains the pattern's first code point. -/
theorem head_mem_of_infix_of {c : Char} {pattern text : List Char}
    (h : infixOf (c :: pattern) text = true) : c ∈ text := by
  induction text with
  | nil => cases h
  | cons first rest ih =>
      rcases Bool.or_eq_true_iff.mp h with hprefix | hrest
      · rw [List.isPrefixOf_cons_cons, Bool.and_eq_true, beq_iff_eq] at hprefix
        exact hprefix.1 ▸ List.mem_cons_self
      · exact List.mem_cons_of_mem _ (ih hrest)

/-- `s.removeprefix(p)`: the text behind the prefix, or the text where it has none. -/
def removePrefix (s p : String) : String :=
  if startsWith s p then String.ofList (s.toList.drop p.toList.length) else s

/-- The code points before the first separator, and those after it when there is one. -/
def splitFirst (sep : Char) : List Char → List Char × Option (List Char)
  | [] => ([], none)
  | c :: rest =>
      if c = sep then ([], some rest)
      else
        let (before, after) := splitFirst sep rest
        (c :: before, after)

/-- `s.split(sep, 1)[0]`: the text before the first separator. -/
def beforeFirst (sep : Char) (s : String) : String :=
  String.ofList (splitFirst sep s.toList).1

/-- `s.partition(sep)`: the parts around the first separator, or `none` without one. -/
def partition? (sep : Char) (s : String) : Option (String × String) :=
  match splitFirst sep s.toList with
  | (before, some after) => some (String.ofList before, String.ofList after)
  | (_, none) => none

/-- `s.rpartition(sep)`: the parts around the last separator, or `none` without one. -/
def rpartition? (sep : Char) (s : String) : Option (String × String) :=
  match splitFirst sep s.toList.reverse with
  | (after, some before) =>
      some (String.ofList before.reverse, String.ofList after.reverse)
  | (_, none) => none

/-- `sep.join(parts)`: the parts with the separator between them. -/
def join (sep : String) : List String → String
  | [] => ""
  | [part] => part
  | part :: rest => part ++ sep ++ join sep rest

/-- Python's whitespace code points (`str.isspace`). -/
def isSpace (c : Char) : Bool :=
  let n := c.toNat
  (9 ≤ n && n ≤ 13) || (28 ≤ n && n ≤ 32) || n == 0x85 || n == 0xa0 || n == 0x1680 ||
    (0x2000 ≤ n && n ≤ 0x200a) || n == 0x2028 || n == 0x2029 || n == 0x202f ||
    n == 0x205f || n == 0x3000

/-- `s.strip()`: the text without the whitespace at its two ends. -/
def strip (s : String) : String :=
  String.ofList ((s.toList.dropWhile isSpace).reverse.dropWhile isSpace).reverse

/-- `s.lower()` on ASCII letters; other code points are kept. -/
def lower (s : String) : String :=
  String.ofList (s.toList.map Char.toLower)

/-- The code points of the digit zero of every Unicode decimal script (category `Nd`). -/
def decimalZeros : List Nat :=
  [0x30, 0x660, 0x6f0, 0x7c0, 0x966, 0x9e6, 0xa66, 0xae6, 0xb66, 0xbe6, 0xc66, 0xce6, 0xd66,
   0xde6, 0xe50, 0xed0, 0xf20, 0x1040, 0x1090, 0x17e0, 0x1810, 0x1946, 0x19d0, 0x1a80, 0x1a90,
   0x1b50, 0x1bb0, 0x1c40, 0x1c50, 0xa620, 0xa8d0, 0xa900, 0xa9d0, 0xa9f0, 0xaa50, 0xabf0,
   0xff10, 0x104a0, 0x10d30, 0x11066, 0x110f0, 0x11136, 0x111d0, 0x112f0, 0x11450, 0x114d0,
   0x11650, 0x116c0, 0x11730, 0x118e0, 0x11950, 0x11c50, 0x11d50, 0x11da0, 0x16a60, 0x16ac0,
   0x16b50, 0x1d7ce, 0x1d7d8, 0x1d7e2, 0x1d7ec, 0x1d7f6, 0x1e140, 0x1e2f0, 0x1e950, 0x1fbf0]

/-- The decimal value of a code point that `\d` matches. -/
def digit? (c : Char) : Option Nat :=
  (decimalZeros.find? fun base => base ≤ c.toNat && c.toNat < base + 10).map
    fun base => c.toNat - base

/-- The code point is matched by `\d`: a decimal digit of some script. -/
def isDigit (c : Char) : Bool :=
  (digit? c).isSome

/-- `s.isdecimal()`: the text is not empty and has decimal digits only. -/
def isDecimal (s : String) : Bool :=
  !s.toList.isEmpty && s.toList.all isDigit

/-- The ranges of the other code points with a digit value: superscripts, circled digits and the
like. -/
def otherDigits : List (Nat × Nat) :=
  [(0xb2, 0xb3), (0xb9, 0xb9), (0x1369, 0x1371), (0x19da, 0x19da), (0x2070, 0x2070),
   (0x2074, 0x2079), (0x2080, 0x2089), (0x2460, 0x2468), (0x2474, 0x247c), (0x2488, 0x2490),
   (0x24ea, 0x24ea), (0x24f5, 0x24fd), (0x24ff, 0x24ff), (0x2776, 0x277e), (0x2780, 0x2788),
   (0x278a, 0x2792), (0x10a40, 0x10a43), (0x10e60, 0x10e68), (0x11052, 0x1105a),
   (0x1f100, 0x1f10a)]

/-- `s.isdigit()`: the text is not empty and has digits only, superscripts included. -/
def isDigitText (s : String) : Bool :=
  !s.toList.isEmpty && s.toList.all fun c =>
    isDigit c || otherDigits.any fun (first, last) => first ≤ c.toNat && c.toNat ≤ last

/-- `int(s)` for a string of decimal digits, of whatever scripts. -/
def decimalValue (s : String) : Nat :=
  s.toList.foldl (fun value c => 10 * value + (digit? c).getD 0) 0

/-- `int(s)`: an optional sign and at most 4300 digits, which single underscores may separate. -/
def readInteger? (s : String) : Option Int :=
  let (negative, digits) :=
    match (strip s).toList with
    | '-' :: rest => (true, rest)
    | '+' :: rest => (false, rest)
    | rest => (false, rest)
  let groups := digits.splitOn '_'
  if groups.all (fun group => !group.isEmpty && group.all isDigit) &&
      groups.flatten.length ≤ 4300 then
    let value := (decimalValue (String.ofList groups.flatten) : Int)
    some (if negative then -value else value)
  else none

/-- The leading run that `\d+` matches greedily, and the rest. -/
def spanDigits (cs : List Char) : List Char × List Char :=
  cs.span isDigit

/-- The code points before a single final newline: where `$` may match besides the end. -/
def dropFinalNewline (cs : List Char) : List Char :=
  if cs.getLast? = some (Char.ofNat 10) then cs.dropLast else cs

/-- The code points at which `s.splitlines()` ends a line. -/
def isLineBreak (c : Char) : Bool :=
  [10, 11, 12, 13, 28, 29, 30, 0x85, 0x2028, 0x2029].contains c.toNat

/-- `s.splitlines()` on code points; a line feed behind a carriage return ends no second line. -/
def splitLinesAfter (afterReturn : Bool) : List Char → List (List Char)
  | [] => []
  | c :: rest =>
      if afterReturn && c == Char.ofNat 10 then splitLinesAfter false rest
      else if isLineBreak c then [] :: splitLinesAfter (c == Char.ofNat 13) rest
      else
        match splitLinesAfter false rest with
        | [] => [[c]]
        | line :: lines => (c :: line) :: lines

/-- `s.splitlines()` on code points, where a carriage return and a line feed are one break. -/
def splitLines (cs : List Char) : List (List Char) :=
  splitLinesAfter false cs

/-- `s.splitlines()`: the lines of a text, without their breaks. -/
def lines (s : String) : List String :=
  (splitLines s.toList).map String.ofList

/-- `s.split()` on code points: the runs between whitespace. -/
def words : List Char → List (List Char)
  | [] => []
  | c :: rest =>
      if isSpace c then words rest
      else if rest.head?.all isSpace then [c] :: words rest
      else
        match words rest with
        | [] => [[c]]
        | word :: more => (c :: word) :: more

/-- The words with one blank between them. -/
def unwords : List (List Char) → List Char
  | [] => []
  | [word] => word
  | word :: next :: more => word ++ ' ' :: unwords (next :: more)

/-- A nonempty run of code points without whitespace. -/
def IsWord (word : List Char) : Prop :=
  word ≠ [] ∧ ∀ c ∈ word, isSpace c = false

/-- A property of every code point of a text, by evaluation. -/
theorem forall_of_all {p : Char → Prop} [DecidablePred p] {text : List Char}
    (h : (text.all fun c => decide (p c)) = true) : ∀ c ∈ text, p c :=
  fun c hc => of_decide_eq_true (List.all_eq_true.mp h c hc)

/-- The code point of the single quote. -/
def singleQuote : Char := Char.ofNat 39

/-- The code point of the double quote. -/
def doubleQuote : Char := Char.ofNat 34

/-- The code point of the backslash, which starts an escape. -/
def backslash : Char := Char.ofNat 92

/-- `repr` of one code point between the quotes: itself or an escape. -/
def reprChar (quote c : Char) : List Char :=
  if c = backslash then [backslash, backslash]
  else if c = quote then [backslash, quote]
  else if c = Char.ofNat 10 then [backslash, 'n']
  else if c = Char.ofNat 13 then [backslash, 'r']
  else if c = Char.ofNat 9 then [backslash, 't']
  else [c]

/-- `repr(s)` for printable text: single quotes unless only they occur inside. -/
def repr (s : String) : String :=
  let quote :=
    if s.toList.contains singleQuote && !s.toList.contains doubleQuote then doubleQuote
    else singleQuote
  String.ofList (quote :: s.toList.flatMap (reprChar quote) ++ [quote])

/-- `repr` of an optional string: `None`, or the quoted text. -/
def reprOption : Option String → String
  | none => "None"
  | some s => repr s

/-- `s.encode("utf-8")`: the bytes of a text. -/
def utf8 (s : String) : List UInt8 :=
  s.toList.flatMap String.utf8EncodeChar

/-- The bytes are valid UTF-8, so that `data.decode("utf-8")` succeeds. -/
def isUtf8 (bytes : List UInt8) : Bool :=
  bytes.toByteArray.validateUTF8

/-- The bytes of an encoded text are valid UTF-8. -/
theorem is_utf8_utf8 (s : String) : isUtf8 (utf8 s) = true := by
  rw [isUtf8, ByteArray.validateUTF8_eq_true_iff]
  exact ⟨s.toList, rfl⟩

/-- Only the empty text has an empty encoding. -/
theorem utf8_eq_nil {s : String} : utf8 s = [] ↔ s = "" := by
  rw [utf8, List.flatMap_eq_nil_iff]
  constructor
  · intro h
    cases hs : s.toList with
    | nil => exact String.toList_inj.mp hs
    | cons c cs =>
        have hempty := congrArg List.length (h c (by simp [hs]))
        have hpos := Char.utf8Size_pos c
        rw [String.length_utf8EncodeChar] at hempty
        simp only [List.length_nil] at hempty
        omega
  · rintro rfl
    simp

/-- A text has at most four bytes for each of its code points. -/
theorem length_utf8_le (s : String) : (utf8 s).length ≤ 4 * s.toList.length := by
  rw [utf8]
  induction s.toList with
  | nil => simp
  | cons c cs ih =>
      have hsize := Char.utf8Size_le_four c
      simp only [List.flatMap_cons, List.length_append, String.length_utf8EncodeChar,
        List.length_cons] at ih ⊢
      omega

/-- Add a value to the reversed list of those seen, unless it is there. -/
def addSeen (seen : List String) (value : String) : List String :=
  if seen.contains value then seen else value :: seen

/-- `list(dict.fromkeys(values))`: the first occurrence of every value, in order. -/
def deduplicate (values : List String) : List String :=
  (values.foldl addSeen []).reverse

/-- Folding `addSeen` collects the values seen before and the new ones. -/
theorem mem_foldl_add_seen {value : String} {values seen : List String} :
    value ∈ values.foldl addSeen seen ↔ value ∈ seen ∨ value ∈ values := by
  induction values generalizing seen with
  | nil => simp
  | cons first rest ih =>
      rw [List.foldl_cons, ih]
      have hadd : value ∈ addSeen seen first ↔ value ∈ seen ∨ value = first := by
        unfold addSeen
        split
        · next hseen =>
            have hfirst : first ∈ seen := by simpa using hseen
            exact ⟨Or.inl, fun h => h.elim id fun heq => heq ▸ hfirst⟩
        · simp [or_comm]
      rw [hadd, List.mem_cons, or_assoc]

/-- Deduplication keeps exactly the values there were. -/
theorem mem_deduplicate {value : String} {values : List String} :
    value ∈ deduplicate values ↔ value ∈ values := by
  simp [deduplicate, mem_foldl_add_seen]

/-- The values that are left after deduplication are distinct. -/
theorem nodup_deduplicate (values : List String) : (deduplicate values).Nodup := by
  have hfold : ∀ {rest seen : List String}, seen.Nodup → (rest.foldl addSeen seen).Nodup := by
    intro rest
    induction rest with
    | nil => exact id
    | cons first rest ih =>
        intro seen hseen
        refine ih ?_
        unfold addSeen
        split
        · exact hseen
        · next hnew => exact List.nodup_cons.mpr ⟨by simpa using hnew, hseen⟩
  exact (List.reverse_perm _).nodup_iff.mpr (hfold List.nodup_nil)

/-- Deduplication leaves nothing only where there was nothing. -/
theorem deduplicate_eq_nil {values : List String} : deduplicate values = [] ↔ values = [] := by
  simp only [List.eq_nil_iff_forall_not_mem, mem_deduplicate]

/-- A pattern occurs only where its first code point does. -/
theorem infix_of_head_not_mem {first : Char} {pattern text : List Char} (h : first ∉ text) :
    infixOf (first :: pattern) text = false := by
  induction text with
  | nil => rfl
  | cons c rest ih =>
      rw [List.mem_cons, not_or] at h
      have hhead : (first == c) = false := by simpa using h.1
      rw [infixOf, List.isPrefixOf_cons_cons, hhead, ih h.2]
      rfl

/-- A pattern that occurs brings all of its code points. -/
theorem subset_of_infix {pattern text : List Char} (h : infixOf pattern text = true) :
    pattern ⊆ text := by
  induction text with
  | nil =>
      rw [infixOf, List.isEmpty_iff] at h
      exact h ▸ List.Subset.refl _
  | cons c rest ih =>
      rw [infixOf, Bool.or_eq_true, List.isPrefixOf_iff_prefix] at h
      rcases h with hstart | hinfix
      · exact hstart.subset
      · exact List.Subset.trans (ih hinfix) (List.subset_cons_self _ _)

/-- A line with its line feed is split off whole. -/
theorem split_lines_append {line : List Char} (h : ∀ c ∈ line, isLineBreak c = false)
    (rest : List Char) :
    splitLines (line ++ Char.ofNat 10 :: rest) = line :: splitLines rest := by
  induction line with
  | nil => rfl
  | cons c line ih =>
      have htail := ih fun c hc => h c (List.mem_cons_of_mem _ hc)
      rw [splitLines] at htail ⊢
      rw [List.cons_append, splitLinesAfter, htail]
      simp [h c List.mem_cons_self]

/-- Lines that are written with line feeds are read back. -/
theorem split_lines_join (texts : List (List Char))
    (h : ∀ text ∈ texts, ∀ c ∈ text, isLineBreak c = false) :
    splitLines (texts.flatMap (· ++ [Char.ofNat 10])) = texts := by
  induction texts with
  | nil => rfl
  | cons text texts ih =>
      rw [List.flatMap_cons, List.append_assoc, List.singleton_append,
        split_lines_append (h text List.mem_cons_self), ih fun other hother =>
          h other (List.mem_cons_of_mem _ hother)]

/-- A word at the end, or before whitespace, is split off whole. -/
theorem words_append {word rest : List Char} (h : IsWord word)
    (hrest : rest.head?.all isSpace = true) : words (word ++ rest) = word :: words rest := by
  obtain ⟨hne, hspace⟩ := h
  induction word with
  | nil => exact absurd rfl hne
  | cons c word ih =>
      have hc : isSpace c = false := hspace c List.mem_cons_self
      rw [List.cons_append, words, if_neg (by simp [hc])]
      cases word with
      | nil => rw [List.nil_append, if_pos hrest]
      | cons d word =>
          have hd : isSpace d = false := hspace d (by simp)
          rw [List.cons_append, if_neg (by simp [hd]), ← List.cons_append,
            ih (by simp) fun e he => hspace e (List.mem_cons_of_mem _ he)]

/-- Words that are written with blanks are read back. -/
theorem words_unwords {texts : List (List Char)} (h : ∀ text ∈ texts, IsWord text) :
    words (unwords texts) = texts := by
  induction texts with
  | nil => rfl
  | cons text texts ih =>
      have htext := h text List.mem_cons_self
      have hrest := ih fun other hother => h other (List.mem_cons_of_mem _ hother)
      cases texts with
      | nil =>
          rw [unwords, ← List.append_nil text, words_append htext rfl, List.append_nil]
          rfl
      | cons next more =>
          rw [unwords, words_append htext rfl, words, if_pos (by decide), hrest]

/-- The last word of a line ends in the last character of the line, unless that is whitespace. -/
theorem words_last {line : List Char} {c : Char} (h : line.getLast? = some c)
    (hc : isSpace c = false) :
    ∃ word, (words line).getLast? = some word ∧ word.getLast? = some c := by
  induction line with
  | nil => cases h
  | cons first rest ih =>
      cases rest with
      | nil =>
          obtain rfl : first = c := by simpa using h
          exact ⟨[first], by simp [words, hc], rfl⟩
      | cons second rest =>
          obtain ⟨word, hlast, hend⟩ := ih (by rwa [List.getLast?_cons_cons] at h)
          have hsome : words (second :: rest) ≠ [] := by
            intro hnil
            rw [hnil] at hlast
            cases hlast
          rw [words]
          split
          · exact ⟨word, hlast, hend⟩
          · split
            · exact ⟨word, by rw [List.getLast?_cons_of_ne_nil hsome, hlast], hend⟩
            · -- The first character belongs to the first word of the rest.
              split
              · next hnil => exact absurd hnil hsome
              · next start more hmore =>
                  rw [hmore] at hlast
                  cases more with
                  | nil =>
                      obtain rfl : start = word := by simpa using hlast
                      refine ⟨first :: start, rfl, ?_⟩
                      rw [List.getLast?_cons_of_ne_nil, hend]
                      rintro rfl
                      cases hend
                  | cons next more =>
                      exact ⟨word, by rwa [List.getLast?_cons_cons] at hlast ⊢, hend⟩

/-- A text without the separator is not split. -/
theorem split_first_of_not_mem {sep : Char} {cs : List Char} (h : sep ∉ cs) :
    splitFirst sep cs = (cs, none) := by
  induction cs with
  | nil => rfl
  | cons c cs ih =>
      have hc : c ≠ sep := fun heq => h (by simp [heq])
      rw [splitFirst, if_neg hc, ih fun hmem => h (List.mem_cons_of_mem _ hmem)]

/-- A text is split at its first separator, into what stands before it and behind it. -/
theorem split_first_append {sep : Char} {before : List Char} (after : List Char)
    (h : sep ∉ before) : splitFirst sep (before ++ sep :: after) = (before, some after) := by
  induction before with
  | nil => simp [splitFirst]
  | cons c before ih =>
      have hc : c ≠ sep := fun heq => h (by simp [heq])
      rw [List.cons_append, splitFirst, if_neg hc, ih fun hmem => h (List.mem_cons_of_mem _ hmem)]

/-- The two parts of a split text make up the text with the separator between them. -/
theorem split_first_eq_some {sep : Char} {cs before after : List Char}
    (h : splitFirst sep cs = (before, some after)) : cs = before ++ sep :: after := by
  induction cs generalizing before with
  | nil => cases h
  | cons c cs ih =>
      rw [splitFirst] at h
      split at h
      · next hc =>
          obtain ⟨rfl, hafter⟩ := Prod.mk.inj h
          rw [hc, Option.some.inj hafter, List.nil_append]
      · obtain ⟨rfl, hafter⟩ := Prod.mk.inj h
        rw [List.cons_append, ← ih (Prod.ext rfl hafter)]

/-- Every character that ends a line counts as whitespace. -/
theorem is_space_of_is_line_break {c : Char} (h : isLineBreak c = true) : isSpace c = true := by
  simp only [isLineBreak, List.contains_cons, List.contains_nil, Bool.or_false, Bool.or_eq_true,
    beq_iff_eq] at h
  simp only [isSpace, Bool.or_eq_true, Bool.and_eq_true, decide_eq_true_eq, beq_iff_eq]
  omega

/-- Words with blanks between them are one line. -/
theorem unwords_no_line_break {texts : List (List Char)} (h : ∀ text ∈ texts, IsWord text) :
    ∀ c ∈ unwords texts, isLineBreak c = false := by
  induction texts with
  | nil => simp [unwords]
  | cons text texts ih =>
      have htext : ∀ c ∈ text, isLineBreak c = false := by
        intro c hc
        rw [← Bool.not_eq_true]
        intro hbreak
        have hspace := (h text List.mem_cons_self).2 c hc
        rw [is_space_of_is_line_break hbreak] at hspace
        cases hspace
      cases texts with
      | nil => simpa [unwords] using htext
      | cons next more =>
          intro c hc
          rw [unwords, List.mem_append, List.mem_cons] at hc
          rcases hc with hc | rfl | hc
          · exact htext c hc
          · decide
          · exact ih (fun other hother => h other (List.mem_cons_of_mem _ hother)) c hc

/-- Words with blanks between them end in the last word. -/
theorem unwords_last {texts : List (List Char)} {last : List Char} (hne : last ≠ []) :
    (unwords (texts ++ [last])).getLast? = last.getLast? := by
  induction texts with
  | nil => rfl
  | cons text texts ih =>
      have hsome : unwords (texts ++ [last]) ≠ [] := by
        intro hnil
        rw [hnil, List.getLast?_nil, eq_comm, List.getLast?_eq_none_iff] at ih
        exact hne ih
      cases hrest : texts ++ [last] with
      | nil => simp at hrest
      | cons next more =>
          rw [List.cons_append, hrest, unwords, ← hrest, List.getLast?_append_of_ne_nil _ (by simp),
            List.getLast?_cons_of_ne_nil hsome, ih]

/-- Texts that are cut at the first separator agree before and after it. -/
theorem cut_left_injective {α : Type} {c : α} {before before' after after' : List α}
    (h : c ∉ before) (h' : c ∉ before') (heq : before ++ c :: after = before' ++ c :: after') :
    before = before' ∧ after = after' := by
  induction before generalizing before' with
  | nil =>
      cases before' with
      | nil => exact ⟨rfl, (List.cons.inj heq).2⟩
      | cons d rest' => exact absurd (by simp [(List.cons.inj heq).1]) h'
  | cons d rest ih =>
      cases before' with
      | nil => exact absurd (by simp [(List.cons.inj heq).1]) h
      | cons d' rest' =>
          obtain ⟨rfl, hrest⟩ := List.cons.inj heq
          obtain ⟨rfl, hafter⟩ := ih (fun hmem => h (List.mem_cons_of_mem _ hmem))
            (fun hmem => h' (List.mem_cons_of_mem _ hmem)) hrest
          exact ⟨rfl, hafter⟩

/-- A text is cut at its last separator in one way only. -/
theorem cut_right_injective {α : Type} {c : α} {before before' after after' : List α}
    (h : c ∉ after) (h' : c ∉ after') (heq : before ++ c :: after = before' ++ c :: after') :
    before = before' ∧ after = after' := by
  have hreverse : after.reverse ++ c :: before.reverse = after'.reverse ++
      c :: before'.reverse := by
    simpa using congrArg List.reverse heq
  obtain ⟨hafter, hbefore⟩ := cut_left_injective (by simpa using h) (by simpa using h') hreverse
  exact ⟨List.reverse_inj.mp hbefore, List.reverse_inj.mp hafter⟩

/-- The decimal scripts start at `0` or beyond the Latin letters. -/
theorem digit_zero_cases {base : Nat} (h : base ∈ decimalZeros) : base = 0x30 ∨ 0x660 ≤ base := by
  revert base
  decide +kernel

/-- A decimal digit is one of the ten code points from the zero of its script on. -/
theorem is_digit_iff {c : Char} :
    isDigit c = true ↔ ∃ base ∈ decimalZeros, base ≤ c.toNat ∧ c.toNat < base + 10 := by
  simp [isDigit, digit?]

/-- An ASCII digit is a decimal digit with the value that its code point has. -/
theorem digit_of_ascii {c : Char} (h : c.isDigit = true) : digit? c = some (c.toNat - 48) := by
  have hrange : 48 ≤ c.toNat ∧ c.toNat < 58 := by
    simp only [Char.isDigit, Bool.and_eq_true, decide_eq_true_eq, ge_iff_le,
      UInt32.le_iff_toNat_le] at h
    have hlow : '0'.val.toNat = 48 := rfl
    have hhigh : '9'.val.toNat = 57 := rfl
    have hval : c.toNat = c.val.toNat := rfl
    omega
  have hfind : (decimalZeros.find? fun base => base ≤ c.toNat && c.toNat < base + 10) =
      some 0x30 := by
    rw [decimalZeros, List.find?_cons_of_pos]
    simpa using hrange
  rw [digit?, hfind]
  rfl

/-- An ASCII digit is a decimal digit. -/
theorem is_digit_of_ascii {c : Char} (h : c.isDigit = true) : isDigit c = true := by
  rw [isDigit, digit_of_ascii h]
  rfl

/-- A decimal digit of any script is no ASCII letter. -/
theorem not_is_alpha_of_is_digit {c : Char} (h : isDigit c = true) : c.isAlpha = false := by
  obtain ⟨base, hbase, hlow, hhigh⟩ := is_digit_iff.mp h
  have hcases := digit_zero_cases hbase
  rw [← Bool.not_eq_true]
  intro halpha
  simp only [Char.isAlpha, Char.isUpper, Char.isLower, Bool.or_eq_true, Bool.and_eq_true,
    decide_eq_true_eq, ge_iff_le, UInt32.le_iff_toNat_le] at halpha
  have hval : c.toNat = c.val.toNat := rfl
  have hA : 'A'.val.toNat = 65 := rfl
  have hZ : 'Z'.val.toNat = 90 := rfl
  have ha : 'a'.val.toNat = 97 := rfl
  have hz : 'z'.val.toNat = 122 := rfl
  omega

/-- Further digits do not make a decimal value smaller. -/
theorem le_foldl_digits (value : Nat) (cs : List Char) :
    value ≤ cs.foldl (fun value c => 10 * value + (digit? c).getD 0) value := by
  induction cs generalizing value with
  | nil => exact le_refl value
  | cons c cs ih => exact le_trans (by omega) (ih (10 * value + (digit? c).getD 0))

/-- Digits in front do not make a decimal value smaller. -/
theorem foldl_digits_mono (cs : List Char) : Monotone fun value =>
    cs.foldl (fun value c => 10 * value + (digit? c).getD 0) value := by
  induction cs with
  | nil => exact monotone_id
  | cons c cs ih =>
      intro value value' hle
      exact ih (Nat.add_le_add_right (Nat.mul_le_mul_left 10 hle) _)

/-- The value of ASCII digits is the number they print. -/
theorem decimal_value_ascii {cs : List Char} (h : ∀ c ∈ cs, c.isDigit = true) :
    decimalValue (String.ofList cs) = Nat.ofDigitChars 10 cs 0 := by
  have hfold : ∀ value, cs.foldl (fun value c => 10 * value + (digit? c).getD 0) value =
      Nat.ofDigitChars 10 cs value := by
    induction cs with
    | nil => exact fun value => rfl
    | cons c cs ih =>
        intro value
        rw [List.foldl_cons, ih (fun d hd => h d (List.mem_cons_of_mem _ hd)), digit_of_ascii
          (h c List.mem_cons_self), Nat.ofDigitChars_cons]
        rfl
  rw [decimalValue, String.toList_ofList, hfold]

/-- The digits of a printed number are read in front of a text without a leading digit. -/
theorem span_digits_number (value : Nat) {rest : List Char}
    (h : ∀ c ∈ rest.head?, isDigit c = false) :
    spanDigits (Nat.toDigits 10 value ++ rest) = (Nat.toDigits 10 value, rest) := by
  have hdigits : ∀ c ∈ Nat.toDigits 10 value, isDigit c = true := fun c hc =>
    is_digit_of_ascii (Nat.isDigit_of_mem_toDigits (by decide) (by decide) hc)
  rw [spanDigits, List.span_eq_takeWhile_dropWhile, List.takeWhile_append_of_pos hdigits,
    List.dropWhile_append_of_pos hdigits]
  cases rest with
  | nil => simp
  | cons c rest => simp [h c rfl]

/-- A pattern of one code point occurs where the code point does. -/
theorem infix_singleton {c : Char} {cs : List Char} : infixOf [c] cs = true ↔ c ∈ cs := by
  induction cs with
  | nil => simp [infixOf]
  | cons d rest ih => simp [infixOf, ih]

/-- A run is cut off where the tests agree on the text. -/
theorem take_while_congr {p q : Char → Bool} {cs : List Char} (h : ∀ c ∈ cs, p c = q c) :
    cs.takeWhile p = cs.takeWhile q := by
  induction cs with
  | nil => rfl
  | cons c rest ih =>
      rw [List.takeWhile_cons, List.takeWhile_cons, h c List.mem_cons_self,
        ih fun d hd => h d (List.mem_cons_of_mem _ hd)]

/-- The prefix and the text that is left without it make up the text. -/
theorem remove_prefix_append {text start : String} (h : startsWith text start = true) :
    start.toList ++ (removePrefix text start).toList = text.toList := by
  obtain ⟨rest, hrest⟩ := List.isPrefixOf_iff_prefix.mp h
  rw [removePrefix, if_pos h, String.toList_ofList, ← hrest, List.drop_left]

/-- A text without a final newline is matched whole. -/
theorem drop_final_newline_self {cs : List Char} (h : cs.getLast? ≠ some (Char.ofNat 10)) :
    dropFinalNewline cs = cs :=
  if_neg h

/-- A text that ends before its final newline begins like the whole text. -/
theorem drop_final_newline_prefix (cs : List Char) : dropFinalNewline cs <+: cs := by
  unfold dropFinalNewline
  split
  · exact List.dropLast_prefix cs
  · exact List.prefix_refl cs

example : rpartition? '-' "5.14.21-150500.55-default" = some ("5.14.21-150500.55", "default") := by
  decide

end Text
