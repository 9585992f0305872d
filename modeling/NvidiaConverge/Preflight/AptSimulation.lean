import NvidiaConverge.Preflight.Apt

/-!
# APT simulations

The lines that `apt-get --simulate --purge` prints: an `Inst` line for an installed package and,
because it purges, a `Purg` line for a removed one. Behind either, APT lists the packages that are
broken at this point. `parse_printed_simulation` says what the parser reads from such a transcript,
the installs and no removal, and `parse_broken_simulation` that it reads nothing once an `Inst`
line lists broken packages.
-/

namespace NvidiaConverge

/-! ## Printed simulations -/

/-- A line of a simulation that purges what it removes. -/
inductive SimulationLine where
  /-- A package that is installed, with the words of its origin and the lists of broken packages
  behind it. -/
  | inst (install : AptInstall) (explicitArchitecture : Bool) (origin broken : List (List Char))
  /-- A package that is removed, with the lists of broken packages behind it. -/
  | purg (identity : AptIdentity) (explicitArchitecture : Bool) (broken : List (List Char))
  /-- A `Conf` line or free text. -/
  | other (text : List Char)

/-- The package of a line: its name, and its architecture where APT prints it. -/
def packageToken (name architecture : String) (explicitArchitecture : Bool) : List Char :=
  if explicitArchitecture then name.toList ++ ':' :: architecture.toList else name.toList

/-- The words of an `Inst` line in front of its list of broken packages. -/
def installWords (install : AptInstall) (explicitArchitecture : Bool)
    (origin : List (List Char)) : List (List Char) :=
  "Inst".toList :: packageToken install.name install.architecture explicitArchitecture ::
    (install.old.toList.map fun old => '[' :: old.toList ++ [']']) ++
    ('(' :: install.version.toList) :: origin ++
    ['[' :: install.architecture.toList ++ [']', ')']]

/-- The words of a `Purg` line in front of its list of broken packages. -/
def purgeWords (identity : AptIdentity) (explicitArchitecture : Bool) : List (List Char) :=
  ["Purg".toList, packageToken identity.1 identity.2.1 explicitArchitecture,
    '[' :: identity.2.2.toList ++ [']']]

/-- Lists of broken packages, each in brackets. -/
def brokenTail (broken : List (List Char)) : List Char :=
  broken.flatMap fun packages => ' ' :: '[' :: packages ++ [']']

/-- The text that is printed for a line of the simulation. -/
def SimulationLine.text : SimulationLine → List Char
  | .inst install explicitArchitecture origin broken =>
      Text.unwords (installWords install explicitArchitecture origin) ++ brokenTail broken
  | .purg identity explicitArchitecture broken =>
      Text.unwords (purgeWords identity explicitArchitecture) ++ brokenTail broken
  | .other text => text

/-- What APT prints in the fields of a line. -/
def SimulationLine.WellFormed : SimulationLine → Prop
  | .inst install _ origin broken =>
      isAptName install.name.toList = true ∧
        isAptArchitecture install.architecture.toList = true ∧
        Text.IsWord install.version.toList ∧
        (∀ old, install.old = some old → Text.IsWord old.toList ∧ ']' ∉ old.toList) ∧
        (∀ word ∈ origin, Text.IsWord word) ∧
        ∀ packages ∈ broken, ∀ c ∈ packages, Text.isLineBreak c = false
  | .purg (name, architecture, version) _ broken =>
      isAptName name.toList = true ∧ isAptArchitecture architecture.toList = true ∧
        Text.IsWord version.toList ∧
        ∀ packages ∈ broken, ∀ c ∈ packages, Text.isLineBreak c = false
  | .other text =>
      (∀ c ∈ text, Text.isLineBreak c = false) ∧ "Inst ".toList.isPrefixOf text = false ∧
        "Remv ".toList.isPrefixOf text = false

/-- The packages that a simulation installs, in their order. -/
def simulatedInstalls (lines : List SimulationLine) : List AptInstall :=
  lines.filterMap fun line =>
    match line with
    | .inst install _ _ _ => some install
    | .purg _ _ _ | .other _ => none

/-- The packages that a simulation removes, in their order. -/
def simulatedRemovals (lines : List SimulationLine) : List AptIdentity :=
  lines.filterMap fun line =>
    match line with
    | .purg identity _ _ => some identity
    | .inst _ _ _ _ | .other _ => none

/-- Whether a line of the simulation removes a package. -/
def SimulationLine.removes : SimulationLine → Bool
  | .purg _ _ _ => true
  | .inst _ _ _ _ | .other _ => false

/-- Whether an `Inst` line lists packages that are broken at this point. -/
def SimulationLine.listsBroken : SimulationLine → Bool
  | .inst _ _ _ broken => !broken.isEmpty
  | .purg _ _ _ | .other _ => false

/-- What a simulation prints: its lines, each with a line feed. -/
def printedSimulation (lines : List SimulationLine) : String :=
  String.ofList (lines.flatMap fun line => line.text ++ [Char.ofNat 10])

/-! ## Reading tokens back -/

/-- Letters of a token are no whitespace, and none is a colon. -/
theorem lower_alphanumeric_plain {c : Char} (h : isLowerAlphanumeric c = true) :
    Text.isSpace c = false ∧ c ≠ ':' := by
  have hrange : (97 ≤ c.toNat ∧ c.toNat ≤ 122) ∨ (48 ≤ c.toNat ∧ c.toNat ≤ 57) := by
    simp only [isLowerAlphanumeric, Bool.or_eq_true, Char.isLower, Char.isDigit,
      Bool.and_eq_true, decide_eq_true_eq] at h
    exact h
  constructor
  · simp only [Text.isSpace, Bool.or_eq_false_iff, Bool.and_eq_false_iff, decide_eq_false_iff_not,
      beq_eq_false_iff_ne, ne_eq]
    omega
  · rintro rfl
    revert hrange
    decide

/-- A token of letters and plain characters is a word without a colon. -/
theorem starts_lower_word {others text : List Char}
    (hothers : ∀ c ∈ others, Text.isSpace c = false ∧ c ≠ ':')
    (h : startsLower others text = true) : Text.IsWord text ∧ ':' ∉ text := by
  cases text with
  | nil => cases h
  | cons first rest =>
      simp only [startsLower, Bool.and_eq_true, List.all_eq_true, Bool.or_eq_true,
        List.contains_iff_mem] at h
      have hplain : ∀ c ∈ first :: rest, Text.isSpace c = false ∧ c ≠ ':' := by
        intro c hc
        rcases List.mem_cons.mp hc with rfl | hc
        · exact lower_alphanumeric_plain h.1
        · rcases h.2 c hc with hlower | hother
          · exact lower_alphanumeric_plain hlower
          · exact hothers c hother
      exact ⟨⟨List.cons_ne_nil _ _, fun c hc => (hplain c hc).1⟩,
        fun hmem => (hplain ':' hmem).2 rfl⟩

theorem apt_name_word {text : List Char} (h : isAptName text = true) :
    Text.IsWord text ∧ ':' ∉ text :=
  starts_lower_word (Text.forall_of_all (by decide)) h

theorem apt_architecture_word {text : List Char} (h : isAptArchitecture text = true) :
    Text.IsWord text ∧ ':' ∉ text :=
  starts_lower_word (Text.forall_of_all (by decide)) h

/-- Words and plain characters behind each other are a word. -/
theorem word_append {left right : List Char} (hleft : Text.IsWord left)
    (hright : ∀ c ∈ right, Text.isSpace c = false) : Text.IsWord (left ++ right) := by
  refine ⟨by simp [hleft.1], fun c hc => ?_⟩
  rcases List.mem_append.mp hc with hc | hc
  · exact hleft.2 c hc
  · exact hright c hc

/-- A character that is no blank makes a word of any text without blanks. -/
theorem word_cons {c : Char} {text : List Char} (hc : Text.isSpace c = false)
    (htext : ∀ d ∈ text, Text.isSpace d = false) : Text.IsWord (c :: text) :=
  ⟨List.cons_ne_nil _ _, List.forall_mem_cons.mpr ⟨hc, htext⟩⟩

variable {name architecture : String} {explicitArchitecture : Bool}

/-- The package of a printed line is one word. -/
theorem package_token_word (hname : isAptName name.toList = true)
    (harch : isAptArchitecture architecture.toList = true) :
    Text.IsWord (packageToken name architecture explicitArchitecture) := by
  unfold packageToken
  split
  · exact word_append (apt_name_word hname).1
      (word_cons (by decide) (apt_architecture_word harch).1.2).2
  · exact (apt_name_word hname).1

/-- The package of a printed line is read back, with its architecture where it is printed. -/
theorem parse_package_token (hname : isAptName name.toList = true)
    (harch : isAptArchitecture architecture.toList = true) :
    parseAptPackageToken (packageToken name architecture explicitArchitecture) =
      some (name, if explicitArchitecture then some architecture else none) := by
  unfold packageToken parseAptPackageToken
  cases explicitArchitecture with
  | true =>
      rw [if_pos rfl, Text.split_first_append _ (apt_name_word hname).2]
      simp [hname, harch]
  | false =>
      rw [if_neg (by decide), Text.split_first_of_not_mem (apt_name_word hname).2]
      simp [hname]

/-- A word in brackets is read back. -/
theorem bracketed_eq {text : List Char} (hne : text ≠ []) (hbracket : ']' ∉ text) :
    bracketed ('[' :: text ++ [']']) = some (String.ofList text) := by
  simp [bracketed, hne, hbracket]

/-- The architecture that closes the parenthesis is read back. -/
theorem closed_architecture_eq {text : List Char} (h : isAptArchitecture text = true) :
    closedArchitecture ('[' :: text ++ [']', ')']) = some (String.ofList text) := by
  have hlast : (text ++ [']', ')']).dropLast.dropLast = text := by
    rw [show text ++ [']', ')'] = (text ++ [']']) ++ [')'] by simp, List.dropLast_concat,
      List.dropLast_concat]
  have hsuffix : [']', ')'].isSuffixOf (text ++ [']', ')']) = true := by
    rw [List.isSuffixOf_iff_suffix]
    exact List.suffix_append _ _
  show (if [']', ')'].isSuffixOf (text ++ [']', ')']) &&
      isAptArchitecture (text ++ [']', ')']).dropLast.dropLast then
        some (String.ofList (text ++ [']', ')']).dropLast.dropLast)
      else none) = _
  rw [hsuffix, hlast, h]
  rfl

/-- The version that opens the parenthesis is read back. -/
theorem opened_version_eq {text : List Char} (h : text ≠ []) :
    openedVersion ('(' :: text) = some (String.ofList text) := by
  cases text with
  | nil => exact absurd rfl h
  | cons c rest => rfl

/-! ## Reading lines back -/

variable {install : AptInstall} {origin broken : List (List Char)}

/-- A printed `Inst` line is made of words. -/
theorem install_words
    (h : (SimulationLine.inst install explicitArchitecture origin broken).WellFormed) :
    ∀ word ∈ installWords install explicitArchitecture origin, Text.IsWord word := by
  obtain ⟨hname, harch, hversion, hold, horigin, -⟩ := h
  intro word hword
  simp only [installWords, List.cons_append, List.mem_cons, List.mem_append, List.mem_map,
    Option.mem_toList, List.not_mem_nil, or_false] at hword
  rcases hword with rfl | rfl | (⟨old, hsome, rfl⟩ | rfl | hword) | rfl
  · exact ⟨by decide, Text.forall_of_all (by decide)⟩
  · exact package_token_word hname harch
  · exact word_append (word_cons (by decide) (hold old hsome).1.2) (Text.forall_of_all (by decide))
  · exact word_cons (by decide) hversion.2
  · exact horigin word hword
  · exact word_append (word_cons (by decide) (apt_architecture_word harch).1.2)
      (Text.forall_of_all (by decide))

/-- What follows the package token of an `Inst` line. -/
def installTail (install : AptInstall) (origin : List (List Char)) : List (List Char) :=
  ('(' :: install.version.toList) :: (origin ++ ['[' :: install.architecture.toList ++ [']', ')']])

/-- The version that an install replaces is read back. -/
theorem replaced_version_eq
    (h : (SimulationLine.inst install explicitArchitecture origin broken).WellFormed) :
    replacedVersion ((install.old.toList.map fun old => '[' :: old.toList ++ [']']) ++
      installTail install origin) = (install.old, installTail install origin) := by
  obtain ⟨-, -, -, hold, -, -⟩ := h
  cases hsome : install.old with
  | none => rfl
  | some old =>
      obtain ⟨hword, hbracket⟩ := hold old hsome
      have hread := bracketed_eq hword.1 hbracket
      simp only [Option.toList_some, List.map_cons, List.map_nil, List.singleton_append,
        replacedVersion, hread, String.ofList_toList]

/-- A printed `Inst` line without broken packages is read back. -/
theorem parse_install_line
    (h : (SimulationLine.inst install explicitArchitecture origin []).WellFormed) :
    parseAptInstall (SimulationLine.inst install explicitArchitecture origin []).text =
      some install := by
  have htext : (SimulationLine.inst install explicitArchitecture origin []).text =
      Text.unwords (installWords install explicitArchitecture origin) :=
    List.append_nil _
  have hwords : Text.words (SimulationLine.inst install explicitArchitecture origin []).text =
      "Inst".toList :: packageToken install.name install.architecture explicitArchitecture ::
        ((install.old.toList.map fun old => '[' :: old.toList ++ [']']) ++
          installTail install origin) := by
    rw [htext, Text.words_unwords (install_words h)]
    simp [installWords, installTail]
  have hend : (SimulationLine.inst install explicitArchitecture origin []).text.getLast? =
      some ')' := by
    rw [htext, installWords, Text.unwords_last (by simp), List.getLast?_eq_some_iff]
    exact ⟨'[' :: install.architecture.toList ++ [']'], by simp⟩
  have hreplaced := replaced_version_eq h
  obtain ⟨hname, harch, hversion, -, -, -⟩ := h
  -- The last word closes the architecture, however many words the origin has.
  obtain ⟨next, more, hrest⟩ : ∃ next more,
      origin ++ ['[' :: install.architecture.toList ++ [']', ')']] = next :: more := by
    cases origin with
    | nil => exact ⟨_, _, rfl⟩
    | cons word words => exact ⟨_, _, rfl⟩
  have hclosed : closedArchitecture ((next :: more).getLast (List.cons_ne_nil _ _)) =
      some install.architecture := by
    have hlast : (next :: more).getLast (List.cons_ne_nil _ _) =
        '[' :: install.architecture.toList ++ [']', ')'] := by
      simp only [← hrest, List.getLast_append_of_ne_nil _ (List.cons_ne_nil _ _),
        List.getLast_singleton]
    rw [hlast, closed_architecture_eq harch, String.ofList_toList]
  have hexplicit : ((if explicitArchitecture then some install.architecture else none).all
      (· = install.architecture)) = true := by
    cases explicitArchitecture <;> simp
  rw [installTail, hrest] at hreplaced hwords
  rw [parseAptInstall, hend, hwords]
  simp only [hreplaced, opened_version_eq hversion.1, hclosed, parse_package_token hname harch,
    Option.bind_eq_bind, Option.bind_some, hexplicit, String.ofList_toList, and_self, if_true]
  rfl

/-! ## Lines with broken packages -/

/-- A word that ends in no parenthesis closes no architecture. -/
theorem closed_architecture_eq_none {token : List Char} (h : token.getLast? ≠ some ')') :
    closedArchitecture token = none := by
  unfold closedArchitecture
  split
  · next rest =>
      refine if_neg fun hclosed => h ?_
      rw [Bool.and_eq_true, List.isSuffixOf_iff_suffix] at hclosed
      obtain ⟨front, rfl⟩ := hclosed.1
      exact List.getLast?_eq_some_iff.mpr ⟨'[' :: front ++ [']'], by simp⟩
  · rfl

/-- Reading a replaced version leaves the end of the words. -/
theorem replaced_version_suffix (tokens : List (List Char)) :
    (replacedVersion tokens).2 <:+ tokens := by
  unfold replacedVersion
  split
  · exact List.suffix_refl _
  · split
    · exact List.suffix_cons _ _
    · exact List.suffix_refl _

/-- The pattern of an `Inst` line matches no line that ends in a square bracket. -/
theorem parse_broken_line {line : List Char} (h : line.getLast? = some ']') :
    parseAptInstall line = none := by
  obtain ⟨word, hlast, hend⟩ := Text.words_last h (by decide)
  rw [parseAptInstall, h, Option.any_some, if_neg (by decide)]
  split
  · next inst package rest hwords =>
      have hsuffix := replaced_version_suffix rest
      split
      · next old opened next more hreplaced =>
          -- What follows the replaced version ends in the last word of the line.
          rw [hreplaced] at hsuffix
          obtain ⟨front, rfl⟩ := hsuffix
          have hword : (next :: more).getLast (List.cons_ne_nil _ _) = word := by
            rw [hwords, show inst :: package :: (front ++ opened :: next :: more) =
                (inst :: package :: front ++ [opened]) ++ next :: more by simp,
              List.getLast?_append_of_ne_nil _ (List.cons_ne_nil _ _),
              List.getLast?_eq_some_getLast (List.cons_ne_nil _ _)] at hlast
            exact Option.some.inj hlast
          rw [hword, closed_architecture_eq_none (by rw [hend]; decide)]
          cases openedVersion opened <;> rfl
      · rfl
  · rfl

/-- Lists of broken packages end in a square bracket. -/
theorem broken_tail_last {broken : List (List Char)} (h : broken ≠ []) :
    (brokenTail broken).getLast? = some ']' := by
  obtain ⟨front, last, rfl⟩ := (List.eq_nil_or_concat' broken).resolve_left h
  rw [brokenTail, List.flatMap_append, List.flatMap_singleton, List.getLast?_eq_some_iff]
  exact ⟨brokenTail front ++ ' ' :: '[' :: last, by simp [brokenTail]⟩

/-- Lists of broken packages have no line break. -/
theorem broken_tail_no_break {broken : List (List Char)}
    (h : ∀ packages ∈ broken, ∀ c ∈ packages, Text.isLineBreak c = false) :
    ∀ c ∈ brokenTail broken, Text.isLineBreak c = false := by
  intro c hc
  obtain ⟨packages, hpackages, hc⟩ := List.mem_flatMap.mp hc
  simp only [List.cons_append, List.mem_cons, List.mem_append, List.not_mem_nil, or_false] at hc
  rcases hc with rfl | rfl | hc | rfl
  · decide
  · decide
  · exact h packages hpackages c hc
  · decide

/-! ## Reading simulations -/


/-- A line that starts with two words starts with the first and a blank. -/
theorem unwords_prefix (first second : List Char) (rest : List (List Char)) (more : List Char) :
    ∃ tail, Text.unwords (first :: second :: rest) ++ more = first ++ ' ' :: tail :=
  ⟨Text.unwords (second :: rest) ++ more, by simp [Text.unwords]⟩

/-- A printed `Inst` line starts as one. -/
theorem install_line_start :
    "Inst ".toList.isPrefixOf
      (SimulationLine.inst install explicitArchitecture origin broken).text = true := by
  obtain ⟨tail, htail⟩ : ∃ tail,
      (SimulationLine.inst install explicitArchitecture origin broken).text =
        "Inst".toList ++ ' ' :: tail := unwords_prefix _ _ _ _
  rw [htail]
  rfl

/-- The parser passes over a printed `Purg` line, and records no removal for it. -/
theorem parse_purge_line {identity : AptIdentity}
    (transaction : List AptInstall × List AptRemoval) :
    parseAptLine transaction (SimulationLine.purg identity explicitArchitecture broken).text =
      some transaction := by
  obtain ⟨tail, htail⟩ : ∃ tail,
      (SimulationLine.purg identity explicitArchitecture broken).text =
        "Purg".toList ++ ' ' :: tail := unwords_prefix _ _ _ _
  have hinst : "Inst ".toList.isPrefixOf ("Purg".toList ++ ' ' :: tail) = false := rfl
  have hremv : "Remv ".toList.isPrefixOf ("Purg".toList ++ ' ' :: tail) = false := rfl
  rw [htail, parseAptLine, hinst, hremv]
  rfl

/-- The lines of a simulation without broken packages are read one by one. -/
theorem parse_simulation_line {line : SimulationLine} (h : line.WellFormed)
    (hbroken : line.listsBroken = false) {installs : List AptInstall} {removals : List AptRemoval}
    (hnew : ∀ install ∈ simulatedInstalls [line], install.slot ∉ installs.map AptInstall.slot) :
    parseAptLine (installs, removals) line.text =
      some (installs ++ simulatedInstalls [line], removals) := by
  cases line with
  | inst install explicitArchitecture origin broken =>
      obtain rfl : broken = [] := by simpa [SimulationLine.listsBroken] using hbroken
      have hslot : install.slot ∉ installs.map AptInstall.slot := hnew install (by
        simp [simulatedInstalls])
      rw [parseAptLine, if_pos install_line_start, parse_install_line h]
      simp only [Option.bind_eq_bind, Option.bind_some, if_neg hslot]
      rfl
  | purg identity explicitArchitecture broken =>
      rw [parse_purge_line]
      simp [simulatedInstalls]
  | other text =>
      obtain ⟨-, hinst, hremv⟩ := h
      rw [SimulationLine.text, parseAptLine, hinst, hremv]
      simp [simulatedInstalls]

/-- A line that lists broken packages behind an install is not read. -/
theorem parse_broken_simulation_line {line : SimulationLine} (h : line.listsBroken = true)
    (transaction : List AptInstall × List AptRemoval) :
    parseAptLine transaction line.text = none := by
  cases line with
  | inst install explicitArchitecture origin broken =>
      have hne : broken ≠ [] := by
        simpa [SimulationLine.listsBroken] using h
      have hend : (SimulationLine.inst install explicitArchitecture origin broken).text.getLast? =
          some ']' := by
        rw [SimulationLine.text, List.getLast?_append, broken_tail_last hne]
        rfl
      rw [parseAptLine, if_pos install_line_start, parse_broken_line hend]
      rfl
  | purg | other => cases h

/-- The lines of a printed simulation are single lines. -/
theorem simulation_line_no_break {line : SimulationLine} (h : line.WellFormed) :
    ∀ c ∈ line.text, Text.isLineBreak c = false := by
  cases line with
  | inst install explicitArchitecture origin broken =>
      intro c hc
      rcases List.mem_append.mp hc with hc | hc
      · exact Text.unwords_no_line_break (install_words h) c hc
      · exact broken_tail_no_break h.2.2.2.2.2 c hc
  | purg identity explicitArchitecture broken =>
      obtain ⟨name, architecture, version⟩ := identity
      obtain ⟨hname, harch, hversion, hbroken⟩ := h
      intro c hc
      rcases List.mem_append.mp hc with hc | hc
      · refine Text.unwords_no_line_break (fun word hword => ?_) c hc
        simp only [purgeWords, List.mem_cons, List.not_mem_nil, or_false] at hword
        rcases hword with rfl | rfl | rfl
        · exact ⟨by decide, Text.forall_of_all (by decide)⟩
        · exact package_token_word hname harch
        · exact word_append (word_cons (by decide) hversion.2) (Text.forall_of_all (by decide))
      · exact broken_tail_no_break hbroken c hc
  | other text => exact h.1

/-- The lines of a simulation without broken packages are read in order. -/
theorem parse_simulation_lines {lines : List SimulationLine}
    (h : ∀ line ∈ lines, line.WellFormed) (hbroken : ∀ line ∈ lines, line.listsBroken = false)
    {installs : List AptInstall} {removals : List AptRemoval}
    (hslots : ((installs ++ simulatedInstalls lines).map AptInstall.slot).Nodup) :
    (lines.map SimulationLine.text).foldlM parseAptLine (installs, removals) =
      some (installs ++ simulatedInstalls lines, removals) := by
  induction lines generalizing installs with
  | nil => simp [simulatedInstalls]
  | cons line lines ih =>
      have hsplit : simulatedInstalls (line :: lines) =
          simulatedInstalls [line] ++ simulatedInstalls lines := by
        simp only [simulatedInstalls, ← List.filterMap_append, List.singleton_append]
      rw [hsplit, ← List.append_assoc] at hslots ⊢
      have hnew : ∀ install ∈ simulatedInstalls [line],
          install.slot ∉ installs.map AptInstall.slot := by
        intro install hinstall hmem
        rw [List.map_append, List.map_append, List.append_assoc] at hslots
        exact List.disjoint_of_nodup_append hslots hmem
          (List.mem_append_left _ (List.mem_map_of_mem hinstall))
      rw [List.map_cons, List.foldlM_cons, parse_simulation_line (h line List.mem_cons_self)
        (hbroken line List.mem_cons_self) hnew]
      exact ih (fun other hother => h other (List.mem_cons_of_mem _ hother))
        (fun other hother => hbroken other (List.mem_cons_of_mem _ hother)) hslots

/-- One line that lists broken packages makes the whole transcript unreadable, whatever was read
before it. -/
theorem parse_broken_simulation_lines {lines : List SimulationLine}
    (h : ∃ line ∈ lines, line.listsBroken = true)
    (transaction : List AptInstall × List AptRemoval) :
    (lines.map SimulationLine.text).foldlM parseAptLine transaction = none := by
  obtain ⟨broken, hmem, hbroken⟩ := h
  induction lines generalizing transaction with
  | nil => cases hmem
  | cons line lines ih =>
      rw [List.map_cons, List.foldlM_cons]
      rcases List.mem_cons.mp hmem with rfl | hmem
      · rw [parse_broken_simulation_line hbroken]
        rfl
      · cases parseAptLine transaction line.text with
        | none => rfl
        | some next => exact ih next hmem

/-- What a simulation prints is split into its lines. -/
theorem split_printed_simulation {lines : List SimulationLine}
    (h : ∀ line ∈ lines, line.WellFormed) :
    Text.splitLines (printedSimulation lines).toList = lines.map SimulationLine.text := by
  have htexts : lines.flatMap (fun line => line.text ++ [Char.ofNat 10]) =
      (lines.map SimulationLine.text).flatMap (· ++ [Char.ofNat 10]) := by
    rw [List.flatMap_map]
  rw [printedSimulation, String.toList_ofList, htexts, Text.split_lines_join]
  intro text htext
  obtain ⟨line, hline, rfl⟩ := List.mem_map.mp htext
  exact simulation_line_no_break (h line hline)

/-- A complete transcript of a simulation is read as its lines. -/
theorem parse_transcript_eq {lines : List SimulationLine} (h : ∀ line ∈ lines, line.WellFormed)
    {result : CommandResult} (hcomplete : outputTruncated result = false)
    (hprinted : result.stdout = printedSimulation lines) :
    parseAptTransaction result =
      (lines.map SimulationLine.text).foldlM parseAptLine ([], []) := by
  rw [parseAptTransaction, hcomplete, hprinted, split_printed_simulation h]
  rfl

/-- From a simulation that purges and lists no broken packages behind an install, the parser reads
the installs and no removal. -/
theorem parse_printed_simulation {lines : List SimulationLine}
    (h : ∀ line ∈ lines, line.WellFormed) (hbroken : ∀ line ∈ lines, line.listsBroken = false)
    (hslots : ((simulatedInstalls lines).map AptInstall.slot).Nodup) {result : CommandResult}
    (hcomplete : outputTruncated result = false)
    (hprinted : result.stdout = printedSimulation lines) :
    parseAptTransaction result = some (simulatedInstalls lines, []) := by
  rw [parse_transcript_eq h hcomplete hprinted]
  exact parse_simulation_lines h hbroken hslots

/-- From a simulation that lists broken packages behind an install, the parser reads nothing. -/
theorem parse_broken_simulation {lines : List SimulationLine}
    (h : ∀ line ∈ lines, line.WellFormed) (hbroken : ∃ line ∈ lines, line.listsBroken = true)
    {result : CommandResult} (hcomplete : outputTruncated result = false)
    (hprinted : result.stdout = printedSimulation lines) : parseAptTransaction result = none := by
  rw [parse_transcript_eq h hcomplete hprinted]
  exact parse_broken_simulation_lines hbroken _

/-- Dropping the removals of a simulation changes nothing that the parser reads. -/
theorem parse_kept_lines (lines : List SimulationLine)
    (transaction : List AptInstall × List AptRemoval) :
    ((lines.filter fun line => !line.removes).map SimulationLine.text).foldlM parseAptLine
        transaction =
      (lines.map SimulationLine.text).foldlM parseAptLine transaction := by
  induction lines generalizing transaction with
  | nil => rfl
  | cons line lines ih =>
      cases line with
      | purg identity explicitArchitecture broken =>
          rw [List.filter_cons_of_neg (by simp [SimulationLine.removes]), List.map_cons,
            List.foldlM_cons, parse_purge_line, ih]
          rfl
      | inst | other =>
          rw [List.filter_cons_of_pos (by simp [SimulationLine.removes]), List.map_cons,
            List.map_cons, List.foldlM_cons, List.foldlM_cons]
          exact congrArg _ (funext ih)

/-- The parser reads a simulation as if it printed no removal. -/
theorem parse_without_removals {lines : List SimulationLine}
    (h : ∀ line ∈ lines, line.WellFormed) {result other : CommandResult}
    (hcomplete : outputTruncated result = false) (hother : outputTruncated other = false)
    (hprinted : result.stdout = printedSimulation lines)
    (hkept : other.stdout = printedSimulation (lines.filter fun line => !line.removes)) :
    parseAptTransaction other = parseAptTransaction result := by
  rw [parse_transcript_eq h hcomplete hprinted, parse_transcript_eq (fun line hline =>
    h line (List.mem_filter.mp hline).1) hother hkept]
  exact parse_kept_lines lines _

end NvidiaConverge
