import NvidiaConverge.Library.Json

/-!
# JSON literals

A string literal and a number are read back as they were rendered, whatever text follows them:
`read_string_render` and `read_atom_int`.
-/

namespace Json

/-! ## Strings -/

/-- A hexadecimal digit has the value it was written for. -/
theorem hex_value_digit_char {n : Nat} (h : n < 16) : hexValue? (Nat.digitChar n) = some n := by
  have hall : ∀ k : Fin 16, hexValue? (Nat.digitChar k) = some k.val := by decide
  exact hall ⟨n, h⟩

/-- The four hexadecimal digits of a code unit are read back. -/
theorem read_hex4 {n : Nat} {rest : List Char} (h : n < 0x10000) :
    readHex4 (hex4 n ++ rest) = some (n, rest) := by
  have hsum : 4096 * (n / 4096 % 16) + 256 * (n / 256 % 16) + 16 * (n / 16 % 16) + n % 16 = n := by
    omega
  simp [hex4, readHex4, hex_value_digit_char, Nat.mod_lt, hsum]

/-- A short escape is read as the code point that it was written for. -/
theorem short_escape_value {c letter : Char} (h : shortEscape c = some letter) :
    letter ≠ 'u' ∧ shortEscapeValue letter = some c.toNat := by
  unfold shortEscape at h
  repeat' split at h
  all_goals
    first
      | contradiction
      | (cases h; subst c; decide)

/-- What has no short escape is neither a quote nor a backslash. -/
theorem not_quote_of_short_escape {c : Char} (h : shortEscape c = none) :
    c ≠ Text.doubleQuote ∧ c ≠ Text.backslash := by
  constructor
  · intro hc
    subst c
    exact absurd h (by decide)
  · intro hc
    subst c
    exact absurd h (by decide)

/-- A code point is below the Unicode bound and is no surrogate. -/
theorem code_point_range (c : Char) :
    c.toNat < 0xd800 ∨ (0xdfff < c.toNat ∧ c.toNat < 0x110000) := by
  have h := c.valid
  simp only [UInt32.isValidChar, Nat.isValidChar] at h
  show c.val.toNat < _ ∨ _ < c.val.toNat ∧ c.val.toNat < _
  omega

/-- A code unit fits the four hexadecimal digits of an escape. -/
theorem code_unit_lt {c : Char} {u : Nat} (h : u ∈ codeUnits c) : u < 0x10000 := by
  have hc := code_point_range c
  unfold codeUnits at h
  split at h
  · simp only [List.mem_singleton] at h
    omega
  · simp only [List.mem_cons, List.not_mem_nil, or_false] at h
    omega

/-- The code units that reading a rendered code point yields. -/
def renderedUnits (c : Char) : List Nat :=
  if (shortEscape c).isSome = true ∨ (32 ≤ c.toNat ∧ c.toNat ≤ 126) then [c.toNat]
  else codeUnits c

/-- Joining the units of a code point gives it back. -/
theorem join_rendered_units {c : Char} {units : List Nat} {text : List Char}
    (h : joinUnits units = some text) :
    joinUnits (renderedUnits c ++ units) = some (c :: text) := by
  have hc := code_point_range c
  have hsingle : joinUnits (c.toNat :: units) = some (c :: text) := by
    have hhigh : ¬ (0xd800 ≤ c.toNat ∧ c.toNat ≤ 0xdbff) := by omega
    have hlow : ¬ (0xdc00 ≤ c.toNat ∧ c.toNat ≤ 0xdfff) := by omega
    rw [joinUnits.eq_def]
    simp only [if_neg hhigh, if_neg hlow, h, Option.map_some, Char.ofNat_toNat]
  unfold renderedUnits codeUnits
  split
  · exact hsingle
  · split
    · exact hsingle
    · next hbig =>
        have hn : 0x10000 ≤ c.toNat ∧ c.toNat < 0x110000 := by omega
        generalize hn' : c.toNat = n at hn hbig
        have hc' : c = Char.ofNat n := by rw [← hn', Char.ofNat_toNat]
        show joinUnits (_ :: _ :: units) = _
        rw [joinUnits.eq_def]
        have hhigh : 0xd800 ≤ 0xd800 + (n - 0x10000) / 1024 ∧
            0xd800 + (n - 0x10000) / 1024 ≤ 0xdbff := by omega
        have hlow : 0xdc00 ≤ 0xdc00 + (n - 0x10000) % 1024 ∧
            0xdc00 + (n - 0x10000) % 1024 ≤ 0xdfff := by omega
        have hback : 0x10000 + (0xd800 + (n - 0x10000) / 1024 - 0xd800) * 1024 +
            (0xdc00 + (n - 0x10000) % 1024 - 0xdc00) = n := by omega
        simp only [if_pos hhigh, if_pos hlow, h, hback, Option.map_some, ← hc']

/-- Reading a rendered code point yields its units; every unit costs fuel. -/
theorem read_units_render_char {c : Char} {cs rest : List Char} {units : List Nat} {fuel : Nat}
    (h : readUnits fuel cs = some (units, rest)) :
    readUnits (fuel + (renderedUnits c).length) (renderChar c ++ cs) =
      some (renderedUnits c ++ units, rest) := by
  have hescape : ∀ {us : List Nat}, (∀ u ∈ us, u < 0x10000) →
      readUnits (fuel + us.length)
        (us.flatMap (fun u => Text.backslash :: 'u' :: hex4 u) ++ cs) =
        some (us ++ units, rest) := by
    intro us hus
    induction us with
    | nil => simpa using h
    | cons u us ih =>
        have hu : u < 0x10000 := hus u (by simp)
        have htail := ih fun v hv => hus v (by simp [hv])
        rw [List.length_cons, ← Nat.add_assoc, List.flatMap_cons, List.cons_append,
          List.cons_append, List.cons_append, readUnits,
          if_neg (by decide), if_pos rfl, List.cons_append, List.append_assoc]
        simp [readEscape, read_hex4 hu, htail]
  unfold renderChar renderedUnits
  cases hshort : shortEscape c with
  | some letter =>
      obtain ⟨hletter, hvalue⟩ := short_escape_value hshort
      simp [readUnits, readEscape, hletter, hvalue, h,
        show Text.backslash ≠ Text.doubleQuote by decide]
  | none =>
      obtain ⟨hquote, hbackslash⟩ := not_quote_of_short_escape hshort
      by_cases hplain : 32 ≤ c.toNat ∧ c.toNat ≤ 126
      · have hcontrol : ¬ c.toNat < 32 := by omega
        simp [hplain, readUnits, hquote, hbackslash, hcontrol, h]
      · simp only [hplain, Option.isSome_none, Bool.false_eq_true, or_self, if_false]
        exact hescape fun u hu => code_unit_lt hu

/-- A rendered code point is at least as long as its units. -/
theorem rendered_units_length (c : Char) : (renderedUnits c).length ≤ (renderChar c).length := by
  unfold renderedUnits renderChar
  cases shortEscape c with
  | some letter => simp
  | none =>
      by_cases hplain : 32 ≤ c.toNat ∧ c.toNat ≤ 126
      · simp [hplain]
      · simp only [Option.isSome_none, Bool.false_eq_true, hplain, or_self, if_false]
        unfold codeUnits
        split <;> simp [hex4]

/-- The units of a whole text are read up to its closing quote. -/
theorem read_units_text {rest : List Char} :
    ∀ {cs : List Char} {fuel : Nat}, (cs.flatMap renderChar).length + 1 ≤ fuel →
      readUnits fuel (cs.flatMap renderChar ++ Text.doubleQuote :: rest) =
        some (cs.flatMap renderedUnits, rest)
  | [], fuel + 1, _ => by simp [readUnits]
  | c :: cs, fuel, h => by
      simp only [List.flatMap_cons, List.length_append] at h ⊢
      have hunits := rendered_units_length c
      -- One unit of fuel for each unit of the first code point, the rest for the others.
      obtain ⟨left, rfl⟩ : ∃ left, fuel = left + (renderedUnits c).length :=
        ⟨fuel - (renderedUnits c).length, by omega⟩
      rw [List.append_assoc]
      exact read_units_render_char (read_units_text (by omega))

/-- The code units of a whole text join to the text again. -/
theorem join_text_units : ∀ cs : List Char, joinUnits (cs.flatMap renderedUnits) = some cs
  | [] => rfl
  | c :: cs => by
      rw [List.flatMap_cons]
      exact join_rendered_units (join_text_units cs)

/-- A string literal is read back with its closing quote, whatever text follows it. -/
theorem read_string_render {s : String} (rest : List Char) {fuel : Nat}
    (h : (s.toList.flatMap renderChar).length + 1 ≤ fuel) :
    readString fuel (s.toList.flatMap renderChar ++ Text.doubleQuote :: rest) = some (s, rest) := by
  simp [readString, read_units_text h, join_text_units, String.ofList_toList]

/-! ## Numbers -/

/-- The text cannot continue a number: no digit, point or exponent stands at its head. -/
def EndsNumber (cs : List Char) : Prop :=
  ∀ c ∈ cs.head?, c.isDigit = false ∧ c ≠ '.' ∧ c ≠ 'e' ∧ c ≠ 'E'

@[simp] theorem ends_number_nil : EndsNumber [] := by
  simp [EndsNumber]

/-- A text ends a number exactly when its first character does not continue one. -/
@[simp] theorem ends_number_cons {c : Char} {cs : List Char} :
    EndsNumber (c :: cs) ↔ c.isDigit = false ∧ c ≠ '.' ∧ c ≠ 'e' ∧ c ≠ 'E' := by
  simp [EndsNumber]

/-- A decimal literal starts with a nonzero digit, unless it is `0`. -/
theorem to_digits_shape (n : Nat) :
    (n = 0 ∧ Nat.toDigits 10 n = ['0']) ∨
      ∃ c cs, Nat.toDigits 10 n = c :: cs ∧ c ≠ '0' ∧ c.isDigit = true ∧
        cs.all Char.isDigit = true := by
  induction n using Nat.strongRecOn with
  | ind n ih =>
      by_cases hsmall : n < 10
      · rw [Nat.toDigits_of_lt_base hsmall]
        have hall : ∀ k : Fin 10, (k.val = 0 ∧ [Nat.digitChar k] = ['0']) ∨
            (Nat.digitChar k ≠ '0' ∧ (Nat.digitChar k).isDigit = true) := by decide
        rcases hall ⟨n, hsmall⟩ with hzero | ⟨hne, hdigit⟩
        · exact Or.inl hzero
        · exact Or.inr ⟨_, [], rfl, hne, hdigit, rfl⟩
      · right
        rw [Nat.toDigits_of_base_le (by omega) (by omega)]
        have hlast : (Nat.digitChar (n % 10)).isDigit = true := by
          have hall : ∀ k : Fin 10, (Nat.digitChar k).isDigit = true := by decide
          exact hall ⟨n % 10, Nat.mod_lt _ (by omega)⟩
        rcases ih (n / 10) (by omega) with ⟨hzero, _⟩ | ⟨c, cs, heq, hne, hdigit, hall⟩
        · omega
        · refine ⟨c, cs ++ [Nat.digitChar (n % 10)], by rw [heq]; rfl, hne, hdigit, ?_⟩
          simp [hall, hlast]

/-- A run of digits is read up to a text that ends a number, and no further. -/
theorem span_digits_append {cs rest : List Char} (hcs : cs.all Char.isDigit = true)
    (hrest : EndsNumber rest) :
    (cs ++ rest).takeWhile Char.isDigit = cs ∧ (cs ++ rest).dropWhile Char.isDigit = rest := by
  have hhead : rest.takeWhile Char.isDigit = [] ∧ rest.dropWhile Char.isDigit = rest := by
    cases rest with
    | nil => simp
    | cons c rest => simp [(ends_number_cons.mp hrest).1]
  have hall : ∀ c ∈ cs, c.isDigit = true := by simpa using hcs
  rw [List.takeWhile_append_of_pos hall, List.dropWhile_append_of_pos hall, hhead.1, hhead.2]
  simp

/-- Neither a fraction nor an exponent follows where a number ends. -/
theorem read_no_fraction {rest : List Char} (h : EndsNumber rest) :
    readFraction rest = ([], rest) ∧ readExponent rest = ([], rest) := by
  cases rest with
  | nil => simp [readFraction, readExponent]
  | cons c rest =>
      obtain ⟨_, hdot, he, hE⟩ := ends_number_cons.mp h
      simp [readFraction, readExponent, hdot, he, hE]

/-- The decimal digits of a number are read back, before a text that ends it. -/
theorem read_magnitude_to_digits {n : Nat} {rest : List Char} (h : EndsNumber rest) :
    readMagnitude (Nat.toDigits 10 n ++ rest) = some (.inl n, rest) := by
  have hdigits : readDigits (Nat.toDigits 10 n ++ rest) = some (Nat.toDigits 10 n, rest) := by
    rcases to_digits_shape n with ⟨_, heq⟩ | ⟨c, cs, heq, hne, hdigit, hall⟩
    · simp [heq, readDigits]
    · obtain ⟨htake, hdrop⟩ := span_digits_append hall h
      simp [heq, readDigits, hne, hdigit, htake, hdrop]
  obtain ⟨hfraction, hexponent⟩ := read_no_fraction h
  simp [readMagnitude, hdigits, hfraction, hexponent, Nat.ofDigitChars_ten_toDigits]

/-- No constant begins with a digit, so that a digit starts a number. -/
theorem find_constant_digit {c : Char} {cs : List Char} (h : c.isDigit = true) :
    constants.find? (fun constant => constant.1.isPrefixOf (c :: cs)) = none := by
  rw [List.find?_eq_none]
  have hne : ∀ letter : Char, letter.isDigit = false → letter ≠ c := by
    intro letter hletter heq
    rw [heq, h] at hletter
    cases hletter
  simp [constants, hne 'n' rfl, hne 't' rfl, hne 'f' rfl, hne 'N' rfl, hne 'I' rfl, hne '-' rfl]

/-- A minus sign before a digit starts no constant. -/
theorem find_constant_minus {c : Char} {cs : List Char} (h : c.isDigit = true) :
    constants.find? (fun constant => constant.1.isPrefixOf ('-' :: c :: cs)) = none := by
  rw [List.find?_eq_none]
  have hne : 'I' ≠ c := by
    intro heq
    rw [← heq] at h
    cases h
  simp [constants, hne]

/-- An integer literal is read back, before a text that ends it. -/
theorem read_atom_render_int {n : Int} {rest : List Char} (h : EndsNumber rest) :
    readAtom (renderInt n ++ rest) = some (.int n, rest) := by
  have hdigit : ∀ n : Nat, ∃ c cs, Nat.toDigits 10 n = c :: cs ∧ c.isDigit = true := by
    intro n
    rcases to_digits_shape n with ⟨_, heq⟩ | ⟨c, cs, heq, _, hdigit, _⟩
    · exact ⟨'0', [], heq, rfl⟩
    · exact ⟨c, cs, heq, hdigit⟩
  cases n with
  | ofNat n =>
      have hread := read_magnitude_to_digits (n := n) h
      obtain ⟨c, cs, heq, hc⟩ := hdigit n
      have hminus : c ≠ '-' := by
        intro hc'
        rw [hc'] at hc
        cases hc
      simp only [renderInt, heq, List.cons_append] at hread ⊢
      simp [readAtom, find_constant_digit hc, readNumber, hminus, hread]
  | negSucc n =>
      have hread := read_magnitude_to_digits (n := n + 1) h
      obtain ⟨c, cs, heq, hc⟩ := hdigit (n + 1)
      simp only [renderInt, heq, List.cons_append] at hread ⊢
      simp [readAtom, find_constant_minus hc, readNumber, hread, Int.negSucc_eq]

end Json
