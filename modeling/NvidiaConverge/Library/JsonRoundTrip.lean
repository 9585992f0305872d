import NvidiaConverge.Library.JsonLiterals

/-!
# The round trip of JSON text

`loads_dumps`: a value without float literals and without duplicate keys is read back from its
rendering, in every style. The induction on the value is `parse_value_render`, under every text that
may follow.
-/

namespace Json

/-- The line break before an item is whitespace, and the parser skips it. -/
theorem skip_newline {style : Style} {level : Nat} {cs : List Char} :
    skipBlanks (newline style level ++ cs) = skipBlanks cs := by
  cases style with
  | none => rfl
  | some width =>
      have hspaces : ∀ n, skipBlanks (List.replicate n ' ' ++ cs) = skipBlanks cs := by
        intro n
        induction n with
        | zero => rfl
        | succ n ih => simpa [List.replicate_succ, skipBlanks, isBlank] using ih
      simpa [newline, skipBlanks, isBlank] using hspaces (width * level)

/-- A number ends before a line break, and without one where the text behind it ends a number. -/
theorem ends_number_newline {style : Style} {level : Nat} {cs : List Char} (h : EndsNumber cs) :
    EndsNumber (newline style level ++ cs) := by
  cases style with
  | none => exact h
  | some width => simp [newline]

/-- What follows a key's separator is reached by skipping whitespace. -/
theorem skip_key_separator (style : Style) (cs : List Char) :
    ∃ rest, keySeparator style ++ cs = ':' :: rest ∧ skipBlanks rest = skipBlanks cs := by
  cases style with
  | none => exact ⟨cs, rfl, rfl⟩
  | some width => exact ⟨' ' :: cs, rfl, rfl⟩

/-- A text that starts a value: no whitespace and no closing bracket. -/
def StartsValue (cs : List Char) : Prop :=
  ∃ c rest, cs = c :: rest ∧ isBlank c = false ∧ c ≠ ']'

/-- There is no whitespace to skip before a text that starts a value. -/
theorem StartsValue.skip {cs : List Char} (h : StartsValue cs) (rest : List Char) :
    skipBlanks (cs ++ rest) = cs ++ rest := by
  obtain ⟨c, tail, rfl, hblank, _⟩ := h
  simp [skipBlanks, hblank]

/-- The rendering of a plain value starts a value, with no whitespace before it. -/
theorem starts_value_render (style : Style) (level : Nat) {value : Value} (h : Plain value) :
    StartsValue (render style level value) := by
  cases value with
  | null => exact ⟨'n', _, rfl, rfl, by decide⟩
  | bool b => cases b with
    | true => exact ⟨'t', _, rfl, rfl, by decide⟩
    | false => exact ⟨'f', _, rfl, rfl, by decide⟩
  | float literal => exact h.elim
  | string s => exact ⟨Text.doubleQuote, _, by simp [render, renderString]; rfl, rfl, by decide⟩
  | array items => cases items with
    | nil => exact ⟨'[', _, rfl, rfl, by decide⟩
    | cons item items => exact ⟨'[', _, by simp [render]; rfl, rfl, by decide⟩
  | object fields => cases fields with
    | nil => exact ⟨'\x7b', _, rfl, rfl, by decide⟩
    | cons field fields => exact ⟨'\x7b', _, by simp [render]; rfl, rfl, by decide⟩
  | int n =>
      have hdigit : ∀ c : Char, c.isDigit = true → isBlank c = false ∧ c ≠ ']' := by
        intro c hc
        simp only [Char.isDigit, Bool.and_eq_true, decide_eq_true_eq] at hc
        have hlow : 48 ≤ c.toNat := hc.1
        constructor
        · simp only [isBlank, Bool.or_eq_false_iff, beq_eq_false_iff_ne]
          omega
        · intro heq
          rw [heq] at hc
          exact absurd hc.2 (by decide)
      cases n with
      | ofNat n =>
          rcases to_digits_shape n with ⟨_, heq⟩ | ⟨c, cs, heq, _, hc, _⟩
          · exact ⟨'0', [], by simp [render, renderInt, heq], rfl, by decide⟩
          · exact ⟨c, cs, by simp [render, renderInt, heq], hdigit c hc⟩
      | negSucc n => exact ⟨'-', _, rfl, rfl, by decide⟩

/-- The items of a nonempty array start a value. -/
theorem starts_items_render (style : Style) (level : Nat) {item : Value} (items : List Value)
    (h : Plain item) : StartsValue (renderItems style level (item :: items)) := by
  obtain ⟨c, rest, heq, hblank, hclose⟩ := starts_value_render style level h
  cases items with
  | nil => exact ⟨c, rest, by rw [renderItems, heq], hblank, hclose⟩
  | cons next items =>
      exact ⟨c, _, by rw [renderItems, heq, List.cons_append, List.cons_append], hblank, hclose⟩

/-- The fields of a nonempty object start with the quote of the first key. -/
theorem starts_fields_render (style : Style) (level : Nat) (field : String × Value)
    (fields : List (String × Value)) :
    ∃ cs, renderFields style level (field :: fields) = Text.doubleQuote :: cs := by
  obtain ⟨key, value⟩ := field
  cases fields with
  | nil => exact ⟨_, by simp [renderFields, renderString]; rfl⟩
  | cons next fields => exact ⟨_, by simp [renderFields, renderString]; rfl⟩

/-- An integer literal begins with none of the characters that open a string, array or object. -/
theorem render_int_head (n : Int) :
    ∃ c cs, renderInt n = c :: cs ∧ c ≠ Text.doubleQuote ∧ c ≠ '[' ∧ c ≠ '\x7b' := by
  have hdigit : ∀ c : Char, c.isDigit = true →
      c ≠ Text.doubleQuote ∧ c ≠ '[' ∧ c ≠ '\x7b' := by
    intro c hc
    refine ⟨?_, ?_, ?_⟩ <;>
      · intro heq
        rw [heq] at hc
        exact absurd hc (by decide)
  cases n with
  | ofNat n =>
      rcases to_digits_shape n with ⟨_, heq⟩ | ⟨c, cs, heq, _, hc, _⟩
      · exact ⟨'0', [], heq, by decide⟩
      · exact ⟨c, cs, heq, hdigit c hc⟩
  | negSucc n => exact ⟨'-', _, rfl, by decide⟩

/-- An integer is parsed back, before a text that ends a number. -/
theorem parse_value_int {n : Int} {rest : List Char} {fuel : Nat} (hrest : EndsNumber rest) :
    parseValue (fuel + 1) (renderInt n ++ rest) = some (.int n, rest) := by
  have hread := read_atom_render_int (n := n) hrest
  obtain ⟨c, cs, heq, hquote, harray, hobject⟩ := render_int_head n
  rw [heq, List.cons_append] at hread ⊢
  rw [parseValue, if_neg hquote, if_neg harray, if_neg hobject, hread]

/-- A string is parsed back, whatever text follows it. -/
theorem parse_value_string {s : String} {rest : List Char} {fuel : Nat}
    (h : (renderString s).length ≤ fuel + 1) :
    parseValue (fuel + 1) (renderString s ++ rest) = some (.string s, rest) := by
  have hfuel : (s.toList.flatMap renderChar).length + 1 ≤ fuel := by
    simp only [renderString, List.cons_append, List.length_cons, List.length_append,
      List.length_nil] at h
    omega
  have hread := read_string_render rest hfuel
  simp only [renderString, List.cons_append, List.append_assoc, List.nil_append]
  rw [parseValue, if_pos rfl, hread]
  rfl

/-- A key and its value are read: behind a brace they are the last field, behind a comma the fields
go on. -/
theorem parse_fields_field {style : Style} {level fuel : Nat} {key : String} {value : Value}
    {tail : List Char} (hkey : (renderString key).length ≤ fuel + 1) (hplain : Plain value)
    (hvalue : parseValue fuel (render style level value ++ tail) = some (value, tail)) :
    (∀ rest, skipBlanks tail = '\x7d' :: rest →
      parseFields (fuel + 1)
        (renderString key ++ (keySeparator style ++ (render style level value ++ tail))) =
          some ([(key, value)], rest)) ∧
    ∀ rest fields last, skipBlanks tail = ',' :: rest →
      parseFields fuel (skipBlanks rest) = some (fields, last) →
      parseFields (fuel + 1)
        (renderString key ++ (keySeparator style ++ (render style level value ++ tail))) =
          some ((key, value) :: fields, last) := by
  have hfuel : (key.toList.flatMap renderChar).length + 1 ≤ fuel := by
    simp only [renderString, List.cons_append, List.length_cons, List.length_append,
      List.length_nil] at hkey
    omega
  have hread := read_string_render (keySeparator style ++ (render style level value ++ tail)) hfuel
  obtain ⟨rest, hcolon, hskip⟩ := skip_key_separator style
    (render style level value ++ tail)
  rw [(starts_value_render style level hplain).skip] at hskip
  have hcolon' : skipBlanks (':' :: rest) = ':' :: rest := rfl
  simp only [renderString, List.cons_append, List.append_assoc, List.nil_append]
  rw [parseFields, if_neg (by simp), hread]
  simp only [Option.bind_eq_bind, Option.bind_some, hcolon, hcolon', hskip, hvalue,
    ne_eq, not_true_eq_false, if_false]
  constructor
  · intro rest hclose
    simp [hclose]
  · intro rest fields last hcomma hfields
    simp [hcomma, hfields]

mutual
/-- A rendered value is parsed back, whatever follows it. -/
theorem parse_value_render (style : Style) :
    ∀ (value : Value) (level fuel : Nat) (rest : List Char), Plain value → EndsNumber rest →
      (render style level value).length ≤ fuel →
        parseValue fuel (render style level value ++ rest) = some (value, rest)
  | .null, _, fuel + 1, _, _, _, _ => by
      simp [render, parseValue, readAtom, constants, Text.doubleQuote]
  | .bool true, _, fuel + 1, _, _, _, _ => by
      simp [render, parseValue, readAtom, constants, Text.doubleQuote]
  | .bool false, _, fuel + 1, _, _, _, _ => by
      simp [render, parseValue, readAtom, constants, Text.doubleQuote]
  | .int n, _, fuel, _, _, hrest, h => by
      obtain ⟨c, cs, heq, _⟩ := render_int_head n
      cases fuel with
      | zero => simp [render, heq] at h
      | succ fuel => exact parse_value_int hrest
  | .string s, _, fuel, _, _, _, h => by
      cases fuel with
      | zero => simp [render, renderString] at h
      | succ fuel => exact parse_value_string h
  | .array [], _, fuel + 1, _, _, _, _ => by
      simp [render, parseValue, skipBlanks, isBlank, Text.doubleQuote]
  | .array (item :: items), level, fuel, rest, hplain, _, h => by
      simp only [render, List.cons_append, List.length_cons, List.length_append,
        List.length_nil] at h
      obtain ⟨fuel, rfl⟩ : ∃ left, fuel = left + 1 := ⟨fuel - 1, by omega⟩
      have hitems := parse_items_render style item items (level + 1) level fuel rest hplain
        (by omega)
      have hstart : StartsValue (renderItems style (level + 1) (item :: items)) :=
        starts_items_render style (level + 1) items hplain.1
      obtain ⟨c, cs, heq, hblank, hclose⟩ := hstart
      simp only [render, List.cons_append, List.append_assoc, List.nil_append]
      rw [parseValue, if_neg (by decide), if_pos rfl, skip_newline]
      rw [heq, List.cons_append] at hitems ⊢
      simp only [skipBlanks, List.dropWhile_cons, hblank, Bool.false_eq_true, if_false,
        if_neg hclose, hitems, Option.map_some]
  | .object [], _, fuel + 1, _, _, _, _ => by
      simp [render, parseValue, skipBlanks, isBlank, Text.doubleQuote]
  | .object (field :: fields), level, fuel, rest, hplain, _, h => by
      simp only [render, List.cons_append, List.length_cons, List.length_append,
        List.length_nil] at h
      obtain ⟨fuel, rfl⟩ : ∃ left, fuel = left + 1 := ⟨fuel - 1, by omega⟩
      have hfields := parse_fields_render style field fields (level + 1) level fuel rest
        hplain.2 (by omega)
      obtain ⟨cs, heq⟩ : ∃ cs, renderFields style (level + 1) (field :: fields) =
          Text.doubleQuote :: cs := starts_fields_render style (level + 1) field fields
      simp only [render, List.cons_append, List.append_assoc, List.nil_append]
      rw [parseValue, if_neg (by decide), if_neg (by decide), if_pos rfl, skip_newline]
      rw [heq, List.cons_append] at hfields ⊢
      have hblank : isBlank Text.doubleQuote = false := by decide
      simp only [skipBlanks, List.dropWhile_cons, hblank, Bool.false_eq_true, if_false,
        if_neg (show Text.doubleQuote ≠ '\x7d' by decide), hfields, Option.bind_eq_bind,
        Option.bind_some, if_pos hplain.1]
termination_by _ _ fuel => fuel

/-- Rendered items are parsed back up to the closing bracket. -/
theorem parse_items_render (style : Style) :
    ∀ (item : Value) (items : List Value) (level outer fuel : Nat) (rest : List Char),
      PlainItems (item :: items) →
      (renderItems style level (item :: items)).length + 1 ≤ fuel →
        parseItems fuel (renderItems style level (item :: items) ++
          (newline style outer ++ ']' :: rest)) = some (item :: items, rest)
  | item, [], level, outer, fuel + 1, rest, hplain, h => by
      have hvalue := parse_value_render style _ level fuel
        (newline style outer ++ ']' :: rest) hplain.1
        (ends_number_newline (by simp)) (by simp only [renderItems] at h; omega)
      have hskip : skipBlanks (newline style outer ++ ']' :: rest) = ']' :: rest := by
        rw [skip_newline]
        rfl
      simp [renderItems, parseItems, hvalue, hskip]
  | item, next :: items, level, outer, fuel + 1, rest, hplain, h => by
      simp only [renderItems, List.length_append, List.length_cons] at h
      have hvalue := parse_value_render style _ level fuel
        (',' :: (newline style level ++
          (renderItems style level (next :: items) ++ (newline style outer ++ ']' :: rest))))
        hplain.1 (by simp) (by omega)
      have hitems := parse_items_render style next items level outer fuel rest hplain.2
        (by omega)
      have hstart := (starts_items_render style level items hplain.2.1).skip
        (newline style outer ++ ']' :: rest)
      have hcomma : ∀ cs, skipBlanks (',' :: cs) = ',' :: cs := fun _ => rfl
      simp only [renderItems, List.append_assoc, List.cons_append]
      rw [parseItems, hvalue]
      simp [hcomma, skip_newline, hstart, hitems]
termination_by _ _ _ _ fuel => fuel

/-- Rendered fields are parsed back up to the closing brace. -/
theorem parse_fields_render (style : Style) :
    ∀ (field : String × Value) (fields : List (String × Value)) (level outer fuel : Nat)
      (rest : List Char), PlainFields (field :: fields) →
      (renderFields style level (field :: fields)).length + 1 ≤ fuel →
        parseFields fuel (renderFields style level (field :: fields) ++
          (newline style outer ++ '\x7d' :: rest)) = some (field :: fields, rest)
  | (key, value), [], level, outer, fuel + 1, rest, hplain, h => by
      simp only [renderFields, List.length_append] at h
      have hvalue := parse_value_render style _ level fuel
        (newline style outer ++ '\x7d' :: rest) hplain.1
        (ends_number_newline (by simp)) (by omega)
      have hskip : skipBlanks (newline style outer ++ '\x7d' :: rest) = '\x7d' :: rest := by
        rw [skip_newline]
        rfl
      simp only [renderFields, List.append_assoc]
      exact (parse_fields_field (by omega) hplain.1 hvalue).1 rest hskip
  | (key, value), next :: fields, level, outer, fuel + 1, rest, hplain, h => by
      simp only [renderFields, List.length_append, List.length_cons] at h
      have hvalue := parse_value_render style _ level fuel
        (',' :: (newline style level ++
          (renderFields style level (next :: fields) ++ (newline style outer ++ '\x7d' :: rest))))
        hplain.1 (by simp) (by omega)
      have hfields := parse_fields_render style next fields level outer fuel rest hplain.2
        (by omega)
      have hskip : skipBlanks (newline style level ++
          (renderFields style level (next :: fields) ++ (newline style outer ++ '\x7d' :: rest))) =
            renderFields style level (next :: fields) ++
              (newline style outer ++ '\x7d' :: rest) := by
        obtain ⟨cs, heq⟩ := starts_fields_render style level next fields
        rw [skip_newline, heq]
        rfl
      simp only [renderFields, List.append_assoc, List.cons_append]
      exact (parse_fields_field (by omega) hplain.1 hvalue).2 _ _ _ rfl (by rw [hskip, hfields])
termination_by _ _ _ _ fuel => fuel
end

/-- `json.loads` reads back what `json.dumps` wrote. -/
theorem loads_dumps {style : Style} {value : Value} (h : Plain value) :
    loads (dumps style value) = some value := by
  have hparse := parse_value_render style value 0 _ [] h ends_number_nil
    (Nat.le_succ (render style 0 value).length)
  have hstart := (starts_value_render style 0 h).skip []
  rw [List.append_nil] at hparse hstart
  simp only [loads, dumps, String.toList_ofList, hstart, hparse, Option.bind_eq_bind,
    Option.bind_some]
  rfl

/-- Text after a value may only be whitespace: a final line break is ignored. -/
theorem loads_dumps_newline {style : Style} {value : Value} (h : Plain value) :
    loads (dumps style value ++ String.ofList [Char.ofNat 10]) = some value := by
  have hparse := parse_value_render style value 0 ((render style 0 value).length + 1 + 1)
    [Char.ofNat 10] h (by simp) (by omega)
  have hstart := (starts_value_render style 0 h).skip
    [Char.ofNat 10]
  simp only [loads, dumps, String.toList_append, String.toList_ofList, hstart,
    List.length_append, List.length_singleton, hparse, Option.bind_eq_bind, Option.bind_some]
  rfl

end Json
