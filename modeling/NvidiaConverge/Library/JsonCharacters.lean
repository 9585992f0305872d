import NvidiaConverge.Library.JsonRoundTrip

/-!
# The characters of JSON text

Python renders JSON in one line of printable ASCII characters, unless it indents.
-/

namespace Json

/-- A character of one byte that neither controls nor ends a line. -/
def IsPrintable (c : Char) : Prop :=
  32 ≤ c.toNat ∧ c.toNat ≤ 126

instance (c : Char) : Decidable (IsPrintable c) :=
  inferInstanceAs (Decidable (_ ∧ _))

theorem printable_of_is_digit {c : Char} (h : c.isDigit = true) : IsPrintable c := by
  simp only [Char.isDigit, Bool.and_eq_true, decide_eq_true_eq] at h
  have hlow : '0'.toNat ≤ c.toNat := h.1
  have hhigh : c.toNat ≤ '9'.toNat := h.2
  simp only [IsPrintable]
  constructor
  · exact le_trans (by decide) hlow
  · exact le_trans hhigh (by decide)

theorem printable_to_digits (n : Nat) : ∀ c ∈ Nat.toDigits 10 n, IsPrintable c := by
  rcases to_digits_shape n with ⟨-, heq⟩ | ⟨first, rest, heq, -, hdigit, hall⟩
  · rw [heq]
    exact fun c hc => by rw [List.mem_singleton.mp hc]; decide
  · rw [heq]
    intro c hc
    rcases List.mem_cons.mp hc with rfl | hrest
    · exact printable_of_is_digit hdigit
    · exact printable_of_is_digit (List.all_eq_true.mp hall c hrest)

theorem printable_hex4 (n : Nat) : ∀ c ∈ hex4 n, IsPrintable c := by
  have hdigit : ∀ k : Fin 16, IsPrintable (Nat.digitChar k) := by decide
  have hall : ∀ m, IsPrintable (Nat.digitChar (m % 16)) := fun m =>
    hdigit ⟨m % 16, Nat.mod_lt _ (by omega)⟩
  simp [hex4, hall]

/-- A code point is written in printable characters, as itself or as an escape. -/
theorem printable_render_char (char : Char) : ∀ c ∈ renderChar char, IsPrintable c := by
  unfold renderChar
  split
  · next letter hletter =>
      have hprintable : IsPrintable letter := by
        unfold shortEscape at hletter
        split_ifs at hletter <;> cases hletter <;> decide
      intro c hc
      rcases List.mem_cons.mp hc with rfl | hrest
      · decide
      · rwa [List.mem_singleton.mp hrest]
  · split
    · next hrange =>
        intro c hc
        rwa [List.mem_singleton.mp hc]
    · intro c hc
      obtain ⟨u, -, hunit⟩ := List.mem_flatMap.mp hc
      rcases List.mem_cons.mp hunit with rfl | hunit
      · decide
      rcases List.mem_cons.mp hunit with rfl | hunit
      · decide
      · exact printable_hex4 u c hunit

theorem printable_render_string (s : String) : ∀ c ∈ renderString s, IsPrintable c := by
  intro c hc
  rcases List.mem_cons.mp hc with rfl | hrest
  · decide
  rcases List.mem_append.mp hrest with htext | hquote
  · obtain ⟨char, -, hchar⟩ := List.mem_flatMap.mp htext
    exact printable_render_char char c hchar
  · rw [List.mem_singleton.mp hquote]
    decide

theorem printable_text {text : List Char} (h : text.all (fun c => decide (IsPrintable c)) = true) :
    ∀ c ∈ text, IsPrintable c :=
  fun c hc => of_decide_eq_true (List.all_eq_true.mp h c hc)

mutual
/-- A value without an indent is written in printable characters. -/
theorem printable_render (level : Nat) (value : Value) (h : Plain value) :
    ∀ c ∈ render none level value, IsPrintable c := by
  match value with
  | .null => exact printable_text rfl
  | .bool true => exact printable_text rfl
  | .bool false => exact printable_text rfl
  | .int (.ofNat n) => exact printable_to_digits n
  | .int (.negSucc n) =>
      intro c hc
      rcases List.mem_cons.mp hc with rfl | hdigits
      · decide
      · exact printable_to_digits (n + 1) c hdigits
  | .float literal => exact h.elim
  | .string text => exact printable_render_string text
  | .array [] => exact printable_text rfl
  | .array (item :: items) =>
      intro c hc
      simp only [render, newline, List.append_nil, List.cons_append, List.mem_cons,
        List.mem_append, List.not_mem_nil, or_false, false_or] at hc
      rcases hc with rfl | hitems | rfl
      · decide
      · exact printable_render_items (level + 1) (item :: items) h c hitems
      · decide
  | .object [] => exact printable_text rfl
  | .object (field :: fields) =>
      intro c hc
      simp only [render, newline, List.append_nil, List.cons_append, List.mem_cons,
        List.mem_append, List.not_mem_nil, or_false, false_or] at hc
      rcases hc with rfl | hfields | rfl
      · decide
      · exact printable_render_fields (level + 1) (field :: fields) h.2 c hfields
      · decide

/-- The items of an array are written in printable characters. -/
theorem printable_render_items (level : Nat) (items : List Value) (h : PlainItems items) :
    ∀ c ∈ renderItems none level items, IsPrintable c := by
  match items with
  | [] => exact printable_text rfl
  | [item] => exact printable_render level item h.1
  | item :: next :: items =>
      intro c hc
      simp only [renderItems, newline, List.mem_append, List.mem_cons, List.not_mem_nil,
        or_false] at hc
      rcases hc with (hitem | rfl) | hitems
      · exact printable_render level item h.1 c hitem
      · decide
      · exact printable_render_items level (next :: items) h.2 c hitems

/-- The fields of an object are written in printable characters. -/
theorem printable_render_fields (level : Nat) (fields : List (String × Value))
    (h : PlainFields fields) : ∀ c ∈ renderFields none level fields, IsPrintable c := by
  have hseparator : ∀ c ∈ keySeparator none, IsPrintable c := printable_text rfl
  match fields with
  | [] => exact printable_text rfl
  | [(key, value)] =>
      intro c hc
      simp only [renderFields, List.mem_append] at hc
      rcases hc with (hkey | hcolon) | hvalue
      · exact printable_render_string key c hkey
      · exact hseparator c hcolon
      · exact printable_render level value h.1 c hvalue
  | (key, value) :: next :: fields =>
      intro c hc
      simp only [renderFields, newline, List.mem_append, List.mem_cons, List.not_mem_nil,
        or_false] at hc
      rcases hc with (((hkey | hcolon) | hvalue) | rfl) | hfields
      · exact printable_render_string key c hkey
      · exact hseparator c hcolon
      · exact printable_render level value h.1 c hvalue
      · decide
      · exact printable_render_fields level (next :: fields) h.2 c hfields
end

end Json
