import NvidiaConverge.Library.Text

/-!
# JSON text

JSON values, their ASCII serialization and a strict parser, as Python's `json` module computes
them: `dumps` with `ensure_ascii`, with or without an indent, and `loads` with a hook that
refuses duplicate keys. A string with an unpaired surrogate has no counterpart here; the parser
refuses it.
-/

namespace Json

/-- A JSON value; a number with a fraction or an exponent keeps its literal. -/
inductive Value where
  | null
  | bool (value : Bool)
  | int (value : Int)
  | float (literal : String)
  | string (value : String)
  | array (items : List Value)
  | object (fields : List (String × Value))

/-! ## Rendering -/

/-- The code points of an integer literal: decimal digits behind an optional minus sign. -/
def renderInt : Int → List Char
  | .ofNat n => Nat.toDigits 10 n
  | .negSucc n => '-' :: Nat.toDigits 10 (n + 1)

/-- The four lowercase hexadecimal digits of a code unit. -/
def hex4 (n : Nat) : List Char :=
  [Nat.digitChar (n / 4096 % 16), Nat.digitChar (n / 256 % 16), Nat.digitChar (n / 16 % 16),
    Nat.digitChar (n % 16)]

/-- The UTF-16 code units of a code point: one, or a pair of surrogates. -/
def codeUnits (c : Char) : List Nat :=
  if c.toNat < 0x10000 then [c.toNat]
  else [0xd800 + (c.toNat - 0x10000) / 1024, 0xdc00 + (c.toNat - 0x10000) % 1024]

/-- The letter of a short escape, for the code points that have one. -/
def shortEscape (c : Char) : Option Char :=
  if c = Text.doubleQuote then some Text.doubleQuote
  else if c = Text.backslash then some Text.backslash
  else if c = Char.ofNat 8 then some 'b'
  else if c = Char.ofNat 9 then some 't'
  else if c = Char.ofNat 10 then some 'n'
  else if c = Char.ofNat 12 then some 'f'
  else if c = Char.ofNat 13 then some 'r'
  else none

/-- A code point inside a string literal: itself, a short escape or `\u` escapes. -/
def renderChar (c : Char) : List Char :=
  match shortEscape c with
  | some letter => [Text.backslash, letter]
  | none =>
      if 32 ≤ c.toNat ∧ c.toNat ≤ 126 then [c]
      else (codeUnits c).flatMap fun u => Text.backslash :: 'u' :: hex4 u

/-- A string literal: its escaped code points between double quotes. -/
def renderString (s : String) : List Char :=
  Text.doubleQuote :: s.toList.flatMap renderChar ++ [Text.doubleQuote]

/-- `indent=k` breaks lines; without it the separators are `","` and `":"`. -/
abbrev Style := Option Nat

/-- The line break and the indentation before an item; nothing without an indent. -/
def newline (style : Style) (level : Nat) : List Char :=
  match style with
  | none => []
  | some width => Char.ofNat 10 :: List.replicate (width * level) ' '

/-- The separator between a key and its value. -/
def keySeparator (style : Style) : List Char :=
  if style.isSome then [':', ' '] else [':']

mutual
/-- `json.dumps` of a value that starts at a nesting level. -/
def render (style : Style) (level : Nat) : Value → List Char
  | .null => ['n', 'u', 'l', 'l']
  | .bool true => ['t', 'r', 'u', 'e']
  | .bool false => ['f', 'a', 'l', 's', 'e']
  | .int value => renderInt value
  | .float literal => literal.toList
  | .string value => renderString value
  | .array [] => ['[', ']']
  | .array (item :: items) =>
      '[' :: newline style (level + 1) ++ renderItems style (level + 1) (item :: items) ++
        newline style level ++ [']']
  | .object [] => ['\x7b', '\x7d']
  | .object (field :: fields) =>
      '\x7b' :: newline style (level + 1) ++ renderFields style (level + 1) (field :: fields) ++
        newline style level ++ ['\x7d']

/-- The items of an array, with a comma and a line break between them. -/
def renderItems (style : Style) (level : Nat) : List Value → List Char
  | [] => []
  | [item] => render style level item
  | item :: next :: items =>
      render style level item ++ ',' :: newline style level ++
        renderItems style level (next :: items)

/-- The fields of an object, with a comma and a line break between them. -/
def renderFields (style : Style) (level : Nat) : List (String × Value) → List Char
  | [] => []
  | [(key, value)] => renderString key ++ keySeparator style ++ render style level value
  | (key, value) :: next :: fields =>
      renderString key ++ keySeparator style ++ render style level value ++
        ',' :: newline style level ++ renderFields style level (next :: fields)
end

/-- `json.dumps(value, indent=..., sort_keys=True)` of a value whose keys are in order. -/
def dumps (style : Style) (value : Value) : String :=
  String.ofList (render style 0 value)

/-! ## Size -/

mutual
/-- A bound on the length of a rendered value: twelve code points for a character of a string,
and a line break with its indent around every item. -/
def weight (indent level : Nat) : Value → Nat
  | .null => 4
  | .bool _ => 5
  | .int value => (renderInt value).length
  | .float literal => literal.toList.length
  | .string value => 2 + 12 * value.toList.length
  | .array items => weightItems indent (level + 1) items + indent * level + 3
  | .object fields => weightFields indent (level + 1) fields + indent * level + 3

/-- The same for the items of an array, each with a separator. -/
def weightItems (indent level : Nat) : List Value → Nat
  | [] => 0
  | item :: items =>
      weight indent level item + (indent * level + 2) + weightItems indent level items

/-- The same bound for the fields of an object, keys and separators included. -/
def weightFields (indent level : Nat) : List (String × Value) → Nat
  | [] => 0
  | (key, value) :: fields =>
      (4 + 12 * key.toList.length) + weight indent level value + (indent * level + 2) +
        weightFields indent level fields
end

/-- A character of a string is written with at most twelve. -/
theorem length_render_char_le (c : Char) : (renderChar c).length ≤ 12 := by
  unfold renderChar
  split
  · simp
  · split
    · simp
    · unfold codeUnits
      split <;> simp [hex4]

/-- A string literal has at most twelve characters for each code point, and two quotes. -/
theorem length_render_string_le (s : String) :
    (renderString s).length ≤ 2 + 12 * s.toList.length := by
  have hchars : ∀ cs : List Char, (cs.flatMap renderChar).length ≤ 12 * cs.length := by
    intro cs
    induction cs with
    | nil => simp
    | cons c cs ih =>
        have hchar := length_render_char_le c
        rw [List.flatMap_cons, List.length_append, List.length_cons]
        omega
  have hlength := hchars s.toList
  simp only [renderString, List.cons_append, List.length_cons, List.length_append,
    List.length_nil]
  omega

/-- A line break is followed by one blank for each column of its level. -/
theorem length_newline_le (indent level : Nat) :
    (newline (some indent) level).length = indent * level + 1 := by
  simp [newline]

mutual
/-- An indented value is at most as long as its weight. -/
theorem length_render_le (indent level : Nat) (value : Value) :
    (render (some indent) level value).length ≤ weight indent level value := by
  match value with
  | .null => simp [render, weight]
  | .bool true => simp [render, weight]
  | .bool false => simp [render, weight]
  | .int value => simp [render, weight]
  | .float literal => simp [render, weight]
  | .string value => exact length_render_string_le value
  | .array [] => simp [render, weight]
  | .array (item :: items) =>
      have hitems := length_render_items_le indent (level + 1) (item :: items) (by simp)
      simp only [render, weight, List.cons_append, List.length_cons, List.length_append,
        length_newline_le, List.length_nil] at hitems ⊢
      omega
  | .object [] => simp [render, weight]
  | .object (field :: fields) =>
      have hfields := length_render_fields_le indent (level + 1) (field :: fields) (by simp)
      simp only [render, weight, List.cons_append, List.length_cons, List.length_append,
        length_newline_le, List.length_nil] at hfields ⊢
      omega

/-- The items of an array; the line break before the first one is part of their weight. -/
theorem length_render_items_le (indent level : Nat) (items : List Value) (hne : items ≠ []) :
    (renderItems (some indent) level items).length + (indent * level + 2) ≤
      weightItems indent level items := by
  match items with
  | [] => exact absurd rfl hne
  | [item] =>
      have hitem := length_render_le indent level item
      simp only [renderItems, weightItems]
      omega
  | item :: next :: items =>
      have hitem := length_render_le indent level item
      have hitems := length_render_items_le indent level (next :: items) (by simp)
      rw [renderItems, weightItems]
      simp only [List.cons_append, List.append_assoc, List.length_append, List.length_cons,
        length_newline_le]
      omega

/-- The fields of an object; the line break before the first one is part of their weight. -/
theorem length_render_fields_le (indent level : Nat) (fields : List (String × Value))
    (hne : fields ≠ []) :
    (renderFields (some indent) level fields).length + (indent * level + 2) ≤
      weightFields indent level fields := by
  have hseparator : (keySeparator (some indent)).length = 2 := rfl
  match fields with
  | [] => exact absurd rfl hne
  | [(key, value)] =>
      have hkey := length_render_string_le key
      have hvalue := length_render_le indent level value
      simp only [renderFields, weightFields, List.length_append, hseparator]
      omega
  | (key, value) :: next :: fields =>
      have hkey := length_render_string_le key
      have hvalue := length_render_le indent level value
      have hfields := length_render_fields_le indent level (next :: fields) (by simp)
      rw [renderFields, weightFields]
      simp only [List.cons_append, List.append_assoc, List.length_append, List.length_cons,
        length_newline_le, hseparator]
      omega
end

/-- The size of the UTF-8 encoding of an indented value with a final line break. -/
theorem length_utf8_dumps_le (indent : Nat) (value : Value) :
    (Text.utf8 (dumps (some indent) value ++ String.ofList [Char.ofNat 10])).length ≤
      4 * (weight indent 0 value + 1) := by
  have hbytes := Text.length_utf8_le (dumps (some indent) value ++ String.ofList [Char.ofNat 10])
  have hlength := length_render_le indent 0 value
  simp only [dumps, String.toList_append, String.toList_ofList, List.length_append,
    List.length_singleton] at hbytes ⊢
  omega

/-! ## Parsing -/

/-- The code point is JSON whitespace: a blank, a tab, a line feed or a carriage return. -/
def isBlank (c : Char) : Bool :=
  c.toNat == 32 || c.toNat == 9 || c.toNat == 10 || c.toNat == 13

/-- What follows the whitespace at the head of a text. -/
def skipBlanks (cs : List Char) : List Char :=
  cs.dropWhile isBlank

/-- The value of a hexadecimal digit of either case. -/
def hexValue? (c : Char) : Option Nat :=
  if '0' ≤ c ∧ c ≤ '9' then some (c.toNat - 48)
  else if 'a' ≤ c ∧ c ≤ 'f' then some (c.toNat - 87)
  else if 'A' ≤ c ∧ c ≤ 'F' then some (c.toNat - 55)
  else none

/-- The value of the four hexadecimal digits of a `\u` escape, and the text behind them. -/
def readHex4 : List Char → Option (Nat × List Char)
  | a :: b :: c :: d :: rest => do
      let a ← hexValue? a
      let b ← hexValue? b
      let c ← hexValue? c
      let d ← hexValue? d
      some (4096 * a + 256 * b + 16 * c + d, rest)
  | _ => none

/-- The code point that a short escape stands for, by the letter behind its backslash. -/
def shortEscapeValue (letter : Char) : Option Nat :=
  if letter = Text.doubleQuote then some 34
  else if letter = Text.backslash then some 92
  else if letter = '/' then some 47
  else if letter = 'b' then some 8
  else if letter = 't' then some 9
  else if letter = 'n' then some 10
  else if letter = 'f' then some 12
  else if letter = 'r' then some 13
  else none

/-- The code unit of an escape, after its backslash. -/
def readEscape : List Char → Option (Nat × List Char)
  | [] => none
  | letter :: rest =>
      if letter = 'u' then readHex4 rest
      else (shortEscapeValue letter).map fun u => (u, rest)

/-- The code units up to the closing quote of a string literal. -/
def readUnits : Nat → List Char → Option (List Nat × List Char)
  | 0, _ => none
  | _ + 1, [] => none
  | fuel + 1, c :: rest =>
      if c = Text.doubleQuote then some ([], rest)
      else if c = Text.backslash then do
        let (u, rest) ← readEscape rest
        let (units, rest) ← readUnits fuel rest
        some (u :: units, rest)
      else if c.toNat < 32 then none
      else do
        let (units, rest) ← readUnits fuel rest
        some (c.toNat :: units, rest)

/-- The text of code units: a surrogate pair is one code point. -/
def joinUnits : List Nat → Option (List Char)
  | [] => some []
  | u :: rest =>
      if 0xd800 ≤ u ∧ u ≤ 0xdbff then
        match rest with
        | [] => none
        | low :: rest =>
            if 0xdc00 ≤ low ∧ low ≤ 0xdfff then
              (joinUnits rest).map
                (Char.ofNat (0x10000 + (u - 0xd800) * 1024 + (low - 0xdc00)) :: ·)
            else none
      else if 0xdc00 ≤ u ∧ u ≤ 0xdfff then none
      else (joinUnits rest).map (Char.ofNat u :: ·)

/-- A string literal, after its opening quote. -/
def readString (fuel : Nat) (cs : List Char) : Option (String × List Char) := do
  let (units, rest) ← readUnits fuel cs
  let text ← joinUnits units
  some (String.ofList text, rest)

/-- The integer part of a number, and the rest. -/
def readDigits (cs : List Char) : Option (List Char × List Char) :=
  match cs with
  | [] => none
  | c :: rest =>
      if c = '0' then some (['0'], rest)
      else if c.isDigit then some (c :: rest.takeWhile Char.isDigit, rest.dropWhile Char.isDigit)
      else none

/-- The fraction at the head of a text, if there is one, and the text behind it. -/
def readFraction (cs : List Char) : List Char × List Char :=
  match cs with
  | [] => ([], [])
  | c :: rest =>
      if c = '.' ∧ rest.takeWhile Char.isDigit ≠ [] then
        (c :: rest.takeWhile Char.isDigit, rest.dropWhile Char.isDigit)
      else ([], c :: rest)

/-- The sign of an exponent, if there is one, and the text behind it. -/
def readSign (cs : List Char) : List Char × List Char :=
  match cs with
  | [] => ([], [])
  | c :: rest => if c = '+' ∨ c = '-' then ([c], rest) else ([], c :: rest)

/-- The exponent at the head of a text, if there is one, and the text behind it. -/
def readExponent (cs : List Char) : List Char × List Char :=
  match cs with
  | [] => ([], [])
  | c :: rest =>
      let (sign, digits) := readSign rest
      if (c = 'e' ∨ c = 'E') ∧ digits.takeWhile Char.isDigit ≠ [] then
        (c :: sign ++ digits.takeWhile Char.isDigit, digits.dropWhile Char.isDigit)
      else ([], c :: rest)

/-- A number without its sign: an integer, or the literal of a float. -/
def readMagnitude (cs : List Char) : Option ((Nat ⊕ List Char) × List Char) := do
  let (digits, rest) ← readDigits cs
  let (fraction, rest) := readFraction rest
  let (exponent, rest) := readExponent rest
  if fraction = [] ∧ exponent = [] then some (.inl (Nat.ofDigitChars 10 digits 0), rest)
  else some (.inr (digits ++ fraction ++ exponent), rest)

/-- The number at the head of a text: an integer, or the literal of a float. -/
def readNumber (cs : List Char) : Option (Value × List Char) :=
  if cs.head? = some '-' then do
    let (magnitude, rest) ← readMagnitude cs.tail
    match magnitude with
    | .inl n => some (.int (-n), rest)
    | .inr literal => some (.float (String.ofList ('-' :: literal)), rest)
  else do
    let (magnitude, rest) ← readMagnitude cs
    match magnitude with
    | .inl n => some (.int n, rest)
    | .inr literal => some (.float (String.ofList literal), rest)

/-- The named constants, with the floats that `loads` accepts. -/
def constants : List (List Char × Value) :=
  [("null".toList, .null), ("true".toList, .bool true), ("false".toList, .bool false),
   ("NaN".toList, .float "NaN"), ("Infinity".toList, .float "Infinity"),
   ("-Infinity".toList, .float "-Infinity")]

/-- The constant or the number at the head of a text, and the text behind it. -/
def readAtom (cs : List Char) : Option (Value × List Char) :=
  match constants.find? fun constant => constant.1.isPrefixOf cs with
  | some (word, value) => some (value, cs.drop word.length)
  | none => readNumber cs

mutual
/-- A value at the head of the text, and what follows it. -/
def parseValue : Nat → List Char → Option (Value × List Char)
  | 0, _ => none
  | _ + 1, [] => none
  | fuel + 1, c :: rest =>
      if c = Text.doubleQuote then
        (readString fuel rest).map fun (text, rest) => (.string text, rest)
      else if c = '[' then
        match skipBlanks rest with
        | [] => none
        | next :: tail =>
            if next = ']' then some (.array [], tail)
            else (parseItems fuel (next :: tail)).map fun (items, rest) => (.array items, rest)
      else if c = '\x7b' then
        match skipBlanks rest with
        | [] => none
        | next :: tail =>
            if next = '\x7d' then some (.object [], tail)
            else do
              let (fields, rest) ← parseFields fuel (next :: tail)
              -- An object that repeats a key is refused.
              if (fields.map Prod.fst).Nodup then some (.object fields, rest) else none
      else readAtom (c :: rest)

/-- The items of an array up to its closing bracket. -/
def parseItems : Nat → List Char → Option (List Value × List Char)
  | 0, _ => none
  | fuel + 1, cs => do
      let (item, rest) ← parseValue fuel cs
      match skipBlanks rest with
      | [] => none
      | c :: rest =>
          if c = ']' then some ([item], rest)
          else if c = ',' then do
            let (items, rest) ← parseItems fuel (skipBlanks rest)
            some (item :: items, rest)
          else none

/-- The fields of an object up to its closing brace. -/
def parseFields : Nat → List Char → Option (List (String × Value) × List Char)
  | 0, _ => none
  | _ + 1, [] => none
  | fuel + 1, quote :: cs =>
      if quote ≠ Text.doubleQuote then none
      else do
        let (key, rest) ← readString fuel cs
        match skipBlanks rest with
        | [] => none
        | colon :: rest =>
            if colon ≠ ':' then none
            else do
              let (value, rest) ← parseValue fuel (skipBlanks rest)
              match skipBlanks rest with
              | [] => none
              | c :: rest =>
                  if c = '\x7d' then some ([(key, value)], rest)
                  else if c = ',' then do
                    let (fields, rest) ← parseFields fuel (skipBlanks rest)
                    some ((key, value) :: fields, rest)
                  else none
end

/-- `json.loads(text, object_pairs_hook=_object_without_duplicates)`. -/
def loads (text : String) : Option Value := do
  let (value, rest) ← parseValue (text.toList.length + 1) (skipBlanks text.toList)
  if skipBlanks rest = [] then some value else none

/-! ## Plain values -/

mutual
/-- Values without float literals and without duplicate keys. -/
def Plain : Value → Prop
  | .float _ => False
  | .array items => PlainItems items
  | .object fields => (fields.map Prod.fst).Nodup ∧ PlainFields fields
  | _ => True

/-- Every item of the array is plain. -/
def PlainItems : List Value → Prop
  | [] => True
  | item :: items => Plain item ∧ PlainItems items

/-- The value of every field of the object is plain. -/
def PlainFields : List (String × Value) → Prop
  | [] => True
  | (_, value) :: fields => Plain value ∧ PlainFields fields
end

/-- The items of an array are plain exactly when each of them is. -/
theorem plain_items_iff {items : List Value} : PlainItems items ↔ ∀ item ∈ items, Plain item := by
  induction items with
  | nil => simp [PlainItems]
  | cons item items ih => simp [PlainItems, ih]

end Json
