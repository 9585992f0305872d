import NvidiaConverge.Library.Text

/-!
# ISO timestamps

The UTC clock to the second, its `isoformat`, and the texts `datetime.fromisoformat` has
accepted since Python 3.7: `YYYY-MM-DD`, then optionally any separator, a time to hours,
minutes, seconds or fractions, and an offset. `accepts_isoformat` says that the clock's text
is always one of them.
-/

namespace IsoTime

/-- The days of a month of the Gregorian calendar. -/
def daysInMonth (year month : Nat) : Nat :=
  if month = 2 then
    if (year % 4 = 0 ∧ year % 100 ≠ 0) ∨ year % 400 = 0 then 29 else 28
  else if month = 4 ∨ month = 6 ∨ month = 9 ∨ month = 11 then 30
  else 31

/-- A date of the calendar that `datetime` supports. -/
def ValidDate (year month day : Nat) : Prop :=
  1 ≤ year ∧ year ≤ 9999 ∧ 1 ≤ month ∧ month ≤ 12 ∧ 1 ≤ day ∧ day ≤ daysInMonth year month

instance {year month day : Nat} : Decidable (ValidDate year month day) := by
  unfold ValidDate
  infer_instance

/-- A time of the UTC clock, whose date and whose time of day exist. -/
structure UtcTime where
  year : Nat
  month : Nat
  day : Nat
  hour : Nat
  minute : Nat
  second : Nat
  date : ValidDate year month day
  clock : hour < 24 ∧ minute < 60 ∧ second < 60

/-- The decimal digits of a number in a fixed width, with leading zeros. -/
def pad : Nat → Nat → List Char
  | 0, _ => []
  | width + 1, n => pad width (n / 10) ++ [Nat.digitChar (n % 10)]

/-- `datetime.now(timezone.utc).replace(microsecond=0).isoformat()`. -/
def UtcTime.isoformat (time : UtcTime) : String :=
  String.ofList (pad 4 time.year ++ '-' :: pad 2 time.month ++ '-' :: pad 2 time.day ++
    'T' :: pad 2 time.hour ++ ':' :: pad 2 time.minute ++ ':' :: pad 2 time.second ++
    "+00:00".toList)

/-- A number of exactly so many ASCII digits, and the rest. -/
def fixedDigits : Nat → Nat → List Char → Option (Nat × List Char)
  | 0, n, cs => some (n, cs)
  | _ + 1, _, [] => none
  | width + 1, n, c :: cs =>
      if c.isDigit then fixedDigits width (10 * n + (c.toNat - 48)) cs else none

/-- The number of two digits that stands behind a separator, and the text after it. -/
def separated (separator : Char) (cs : List Char) : Option (Nat × List Char) :=
  match cs with
  | [] => none
  | c :: rest => if c = separator then fixedDigits 2 0 rest else none

/-- An optional fraction of three or six digits. -/
def skipFraction (cs : List Char) : Option (List Char) :=
  match cs with
  | '.' :: rest =>
      match fixedDigits 6 0 rest with
      | some (_, rest) => some rest
      | none => (fixedDigits 3 0 rest).map Prod.snd
  | _ => some cs

/-- `HH[:MM[:SS[.fff[fff]]]]`, with its range check. -/
def skipClock (cs : List Char) : Option (List Char) := do
  let (hour, rest) ← fixedDigits 2 0 cs
  if hour ≥ 24 then none
  else
    match separated ':' rest with
    | none => some rest
    | some (minute, rest) =>
        if minute ≥ 60 then none
        else
          match separated ':' rest with
          | none => some rest
          | some (second, rest) => if second ≥ 60 then none else skipFraction rest

/-- The text is an offset `[+-]HH:MM[:SS[.ffffff]]`, or empty. -/
def acceptsOffset (cs : List Char) : Bool :=
  match cs with
  | [] => true
  | sign :: rest =>
      (sign == '+' || sign == '-') && rest.length ≥ 5 && skipClock rest == some []

/-- The text behind a date `YYYY-MM-DD`, when that date exists. -/
def skipDate (cs : List Char) : Option (List Char) := do
  let (year, rest) ← fixedDigits 4 0 cs
  let (month, rest) ← separated '-' rest
  let (day, rest) ← separated '-' rest
  if ValidDate year month day then some rest else none

/-- Whether `datetime.fromisoformat` accepts a text. -/
def accepts (text : String) : Bool :=
  match skipDate text.toList with
  | none => false
  | some [] => true
  | some (_ :: clock) =>
      match skipClock clock with
      | none => false
      | some offset => acceptsOffset offset

/-- Reading a number of a fixed width takes that many code points. -/
theorem fixed_digits_length {width start : Nat} {cs : List Char} {result : Nat × List Char}
    (h : fixedDigits width start cs = some result) : result.2.length + width = cs.length := by
  induction width generalizing start cs with
  | zero =>
      simp only [fixedDigits, Option.some.injEq] at h
      simp [← h]
  | succ width ih =>
      cases cs with
      | nil => simp [fixedDigits] at h
      | cons c cs =>
          rw [fixedDigits] at h
          split at h
          · have hrest := ih h
            simp only [List.length_cons]
            omega
          · cases h

/-- A number that is followed by a digit is read with one more place. -/
theorem fixed_digits_snoc {width start value : Nat} {digits rest : List Char} {c : Char}
    (h : fixedDigits width start (digits ++ c :: rest) = some (value, c :: rest))
    (hc : c.isDigit = true) :
    fixedDigits (width + 1) start (digits ++ c :: rest) =
      some (10 * value + (c.toNat - 48), rest) := by
  induction width generalizing start digits with
  | zero =>
      simp only [fixedDigits, Option.some.injEq, Prod.mk.injEq] at h
      obtain ⟨rfl, hdigits⟩ := h
      simp [hdigits, fixedDigits, hc]
  | succ width ih =>
      cases digits with
      | nil =>
          have hlength := fixed_digits_length h
          simp at hlength
      | cons d digits =>
          rw [List.cons_append, fixedDigits] at h ⊢
          split at h
          · next hd =>
              rw [if_pos hd]
              exact ih h
          · cases h

/-- A padded number is read back, whatever text follows it. -/
theorem fixed_digits_pad {width n start : Nat} {cs : List Char} (h : n < 10 ^ width) :
    fixedDigits width start (pad width n ++ cs) = some (start * 10 ^ width + n, cs) := by
  induction width generalizing n cs with
  | zero =>
      simp only [Nat.pow_zero, Nat.lt_one_iff] at h
      simp [fixedDigits, pad, h]
  | succ width ih =>
      have hdigit : ∀ k : Fin 10, (Nat.digitChar k).isDigit = true ∧
          (Nat.digitChar k).toNat - 48 = k.val := by decide
      obtain ⟨hlast, hvalue⟩ := hdigit ⟨n % 10, Nat.mod_lt _ (by omega)⟩
      have hhead := @ih (n / 10) (Nat.digitChar (n % 10) :: cs)
        (by rw [Nat.pow_succ] at h; omega)
      rw [pad, List.append_assoc, List.singleton_append, fixed_digits_snoc hhead hlast, hvalue]
      have hdiv := Nat.div_add_mod n 10
      have hmul : start * 10 ^ (width + 1) = 10 * (start * 10 ^ width) := by
        rw [Nat.pow_succ, ← Nat.mul_assoc, Nat.mul_comm]
      have hsum : 10 * (start * 10 ^ width + n / 10) + n % 10 = start * 10 ^ (width + 1) + n := by
        omega
      exact congrArg (fun k => some (k, cs)) hsum

/-- What `isoformat` prints for the clock is accepted as a timestamp. -/
theorem accepts_isoformat (time : UtcTime) : accepts time.isoformat = true := by
  obtain ⟨hyear, hyear', hmonth, hmonth', hday, hday'⟩ := time.date
  obtain ⟨hhour, hminute, hsecond⟩ := time.clock
  have hdays : daysInMonth time.year time.month ≤ 31 := by
    unfold daysInMonth
    repeat' split
    all_goals omega
  have hdate : skipDate time.isoformat.toList =
      some ('T' :: pad 2 time.hour ++ ':' :: pad 2 time.minute ++ ':' :: pad 2 time.second ++
        "+00:00".toList) := by
    have hvalid : ValidDate time.year time.month time.day := time.date
    simp only [UtcTime.isoformat, String.toList_ofList, List.append_assoc, List.cons_append]
    rw [skipDate, fixed_digits_pad (by omega)]
    simp [separated, @fixed_digits_pad 2 time.month _ _ (by omega),
      @fixed_digits_pad 2 time.day _ _ (by omega), hvalid]
  have hclock : skipClock (pad 2 time.hour ++ ':' :: pad 2 time.minute ++
      ':' :: pad 2 time.second ++ "+00:00".toList) = some "+00:00".toList := by
    simp only [List.append_assoc, List.cons_append]
    rw [skipClock, fixed_digits_pad (by omega)]
    have hnot : ¬ time.hour ≥ 24 := by omega
    have hnot' : ¬ time.minute ≥ 60 := by omega
    have hnot'' : ¬ time.second ≥ 60 := by omega
    simp [separated, @fixed_digits_pad 2 time.minute _ _ (by omega),
      @fixed_digits_pad 2 time.second _ _ (by omega), hnot, hnot', hnot'',
      skipFraction]
  unfold accepts
  rw [hdate]
  simp only [List.cons_append, hclock]
  decide

end IsoTime
