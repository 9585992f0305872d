import NvidiaConverge.Planning.ZypperBranch
import NvidiaConverge.Records.DesiredFile

/-!
# What an accepted selector means

The driver selector and the container image have a documented ASCII grammar, and everything
that planning derives from them is cut out of the accepted text: the branch, the module flavour,
the pinning package, the module stream and the Zypper bound. `selector_meaning_iff` says for
which texts of a desired-state file the derived operands say what the file says. The two patterns
of the source admit more than the grammar: `$` matches before a final newline, and `\d` matches
the digits of every script.
-/

namespace NvidiaConverge

/-! ## The documented grammars -/

/-- The characters are a nonempty run of ASCII digits. -/
def AsciiNumber (cs : List Char) : Prop :=
  cs ≠ [] ∧ ∀ c ∈ cs, c.isDigit = true

/-- The characters are a dotted version of two or three groups of digits. -/
def DottedVersion (driver : List Char) : Prop :=
  ∃ major minor, AsciiNumber major ∧ AsciiNumber minor ∧
    (driver = major ++ '.' :: minor ∨
      ∃ patch, AsciiNumber patch ∧ driver = major ++ '.' :: (minor ++ '.' :: patch))

/-- A branch, a branch with the open flavour, or a dotted version. -/
def DriverGrammar (driver : List Char) : Prop :=
  AsciiNumber driver ∨ (∃ branch, AsciiNumber branch ∧ driver = branch ++ "-open".toList) ∨
    DottedVersion driver

/-- An `nvidia/cuda` tag with a lowercase sha256 digest. -/
def ImageGrammar (image : List Char) : Prop :=
  ∃ first tag digest,
    image = "nvidia/cuda:".toList ++ (first :: tag) ++ "@sha256:".toList ++ digest ∧
      isAsciiAlphanumeric first = true ∧ tag.length ≤ 127 ∧
      (∀ c ∈ tag, isAsciiAlphanumeric c = true ∨ c = '.' ∨ c = '_' ∨ c = '-') ∧
      digest.length = 64 ∧ ∀ c ∈ digest, isLowerHex c = true

/-- A code point that is neither whitespace nor a control character, in ASCII. -/
def Visible (c : Char) : Prop :=
  33 ≤ c.toNat ∧ c.toNat ≤ 126

instance (c : Char) : Decidable (Visible c) :=
  inferInstanceAs (Decidable (_ ∧ _))

/-- A state says what the texts of its two selectors say. -/
structure Means (driver image : String) (desired : DesiredState) : Prop where
  driverGrammar : DriverGrammar driver.toList
  imageGrammar : ImageGrammar image.toList
  major : desired.driverMajor.toList = driver.toList.takeWhile Char.isDigit
  openModule : desired.openKernelModule = true ↔ "-open".toList <:+ driver.toList
  exactVersion : desired.exactDriverVersion = true ↔ DottedVersion driver.toList
  /-- The pin names the exact version, or the branch. -/
  pin : (aptPinningPackage desired).toList = "nvidia-driver-pinning-".toList ++
    (if desired.exactDriverVersion then driver.toList else driver.toList.takeWhile Char.isDigit)
  /-- The stream names the branch and the flavour. -/
  stream : (dnfModuleStream desired).toList = driver.toList.takeWhile Char.isDigit ++ '-' ::
    (if desired.openKernelModule then "open".toList else "dkms".toList)
  /-- The bound is the branch, rounded up. -/
  bound : (nextDriverBranch desired.driverMajor).toList = Nat.toDigits 10
    (branchBound (Nat.ofDigitChars 10 (driver.toList.takeWhile Char.isDigit) 0))
  /-- The operand of the container runtime is the image. -/
  operand : desired.containerTestImage = image
  visible : ∀ text ∈ [aptPinningPackage desired, dnfModuleStream desired,
    nextDriverBranch desired.driverMajor, desired.containerTestImage], ∀ c ∈ text.toList, Visible c

/-- The texts that the patterns and the grammar read alike: neither ends in a newline, and the
driver has no digits of another script. -/
def PlainSelectors (driver image : String) : Prop :=
  driver.toList.getLast? ≠ some (Char.ofNat 10) ∧ image.toList.getLast? ≠ some (Char.ofNat 10) ∧
    ∀ c ∈ driver.toList, Text.isDigit c = true → c.isDigit = true

/-! ## Characters -/

/-- The code points of the ASCII digits are those from 48 to 57. -/
theorem is_digit_range {c : Char} (h : c.isDigit = true) : 48 ≤ c.toNat ∧ c.toNat ≤ 57 := by
  simp only [Char.isDigit, Bool.and_eq_true, decide_eq_true_eq, ge_iff_le,
    UInt32.le_iff_toNat_le] at h
  exact h

/-- ASCII letters and digits are visible characters. -/
theorem visible_of_alphanum {c : Char} (h : isAsciiAlphanumeric c = true) : Visible c := by
  simp only [isAsciiAlphanumeric, Char.isAlphanum, Char.isAlpha, Char.isUpper, Char.isLower,
    Char.isDigit, Bool.or_eq_true, Bool.and_eq_true, decide_eq_true_eq, ge_iff_le,
    UInt32.le_iff_toNat_le] at h
  have hval : c.toNat = c.val.toNat := rfl
  have hA : 'A'.val.toNat = 65 := rfl
  have hZ : 'Z'.val.toNat = 90 := rfl
  have ha : 'a'.val.toNat = 97 := rfl
  have hz : 'z'.val.toNat = 122 := rfl
  have h0 : '0'.val.toNat = 48 := rfl
  have h9 : '9'.val.toNat = 57 := rfl
  unfold Visible
  omega

/-- ASCII digits are visible characters. -/
theorem visible_of_digit {c : Char} (h : c.isDigit = true) : Visible c := by
  obtain ⟨hlow, hhigh⟩ := is_digit_range h
  exact ⟨by omega, by omega⟩

/-- Lowercase hexadecimal digits are visible characters. -/
theorem visible_of_lower_hex {c : Char} (h : isLowerHex c = true) : Visible c := by
  rw [isLowerHex, Bool.or_eq_true] at h
  rcases h with hdigit | hletter
  · exact visible_of_digit hdigit
  · refine visible_of_alphanum ?_
    simp only [Bool.and_eq_true, decide_eq_true_eq, Char.le_def, UInt32.le_iff_toNat_le] at hletter
    have hf : 'f'.val.toNat = 102 := rfl
    have hz : 'z'.val.toNat = 122 := rfl
    simp only [isAsciiAlphanumeric, Char.isAlphanum, Char.isAlpha, Char.isLower, Bool.or_eq_true,
      Bool.and_eq_true, decide_eq_true_eq, ge_iff_le, UInt32.le_iff_toNat_le]
    omega

/-- The printed digits of a number are visible characters. -/
theorem visible_to_digits (value : Nat) : ∀ c ∈ Nat.toDigits 10 value, Visible c :=
  fun _ hc => visible_of_digit (Nat.isDigit_of_mem_toDigits (by decide) (by decide) hc)

/-- Every character of a driver selector is a digit, a dot, or one of `-open`. -/
theorem DriverGrammar.mem {driver : List Char} (h : DriverGrammar driver) :
    ∀ c ∈ driver, c.isDigit = true ∨ c ∈ ".-open".toList := by
  have hopen : ∀ c ∈ "-open".toList, c ∈ ".-open".toList := Text.forall_of_all rfl
  intro c hc
  rcases h with hnumber | ⟨branch, hbranch, rfl⟩ |
    ⟨major, minor, hmajor, hminor, rfl | ⟨patch, hpatch, rfl⟩⟩
  · exact .inl (hnumber.2 c hc)
  · rcases List.mem_append.mp hc with hc | hc
    · exact .inl (hbranch.2 c hc)
    · exact .inr (hopen c hc)
  · rcases List.mem_append.mp hc with hc | hc
    · exact .inl (hmajor.2 c hc)
    · rcases List.mem_cons.mp hc with rfl | hc
      · exact .inr (by decide)
      · exact .inl (hminor.2 c hc)
  · rcases List.mem_append.mp hc with hc | hc
    · exact .inl (hmajor.2 c hc)
    · rcases List.mem_cons.mp hc with rfl | hc
      · exact .inr (by decide)
      · rcases List.mem_append.mp hc with hc | hc
        · exact .inl (hminor.2 c hc)
        · rcases List.mem_cons.mp hc with rfl | hc
          · exact .inr (by decide)
          · exact .inl (hpatch.2 c hc)

/-- A driver selector of the grammar consists of visible characters. -/
theorem DriverGrammar.visible {driver : List Char} (h : DriverGrammar driver) :
    ∀ c ∈ driver, Visible c := by
  have hrest : ∀ c ∈ ".-open".toList, Visible c := Text.forall_of_all rfl
  intro c hc
  rcases h.mem c hc with hdigit | hother
  · exact visible_of_digit hdigit
  · exact hrest c hother

/-- An image of the grammar consists of visible characters. -/
theorem ImageGrammar.visible {image : List Char} (h : ImageGrammar image) :
    ∀ c ∈ image, Visible c := by
  have hprefix : ∀ c ∈ "nvidia/cuda:".toList, Visible c := Text.forall_of_all rfl
  have hdigest : ∀ c ∈ "@sha256:".toList, Visible c := Text.forall_of_all rfl
  obtain ⟨first, tag, digest, rfl, hfirst, _, htag, _, hhex⟩ := h
  intro c hc
  simp only [List.mem_append, List.mem_cons] at hc
  rcases hc with ((hc | rfl | hc) | hc) | hc
  · exact hprefix c hc
  · exact visible_of_alphanum hfirst
  · rcases htag c hc with halnum | rfl | rfl | rfl
    · exact visible_of_alphanum halnum
    · decide
    · decide
    · decide
  · exact hdigest c hc
  · exact visible_of_lower_hex (hhex c hc)

/-! ## What the patterns accept -/

/-- A greedy run of digits, in a text whose digits are ASCII. -/
theorem span_digits_ascii {cs digits rest : List Char}
    (hascii : ∀ c ∈ cs, Text.isDigit c = true → c.isDigit = true) (hne : digits ≠ [])
    (h : Text.spanDigits cs = (digits, rest)) : AsciiNumber digits ∧ cs = digits ++ rest := by
  rw [Text.spanDigits, List.span_eq_takeWhile_dropWhile] at h
  obtain ⟨hdigits, hrest⟩ := Prod.mk.inj h
  have hsplit := List.takeWhile_append_dropWhile (p := Text.isDigit) (l := cs)
  rw [hdigits, hrest] at hsplit
  refine ⟨⟨hne, fun c hc => ?_⟩, hsplit.symm⟩
  have hcs : c ∈ cs := by
    rw [← hsplit]
    exact List.mem_append_left rest hc
  rw [← hdigits] at hc
  exact hascii c hcs (List.mem_takeWhile_imp hc)

/-- The last group of a dotted run of ASCII digits is a number. -/
theorem dotted_digits_one {cs : List Char}
    (hascii : ∀ c ∈ cs, Text.isDigit c = true → c.isDigit = true)
    (h : (dottedDigits 1 cs).map Prod.snd = some []) : AsciiNumber cs := by
  rw [dottedDigits] at h
  split at h
  · cases h
  · next digits rest hne hspan =>
      have hrest : rest = [] := by simpa using h
      obtain ⟨hnumber, hcs⟩ := span_digits_ascii hascii hne hspan
      rw [hcs, hrest, List.append_nil]
      exact hnumber

/-- A dotted run with one more group begins with a number and a point. -/
theorem dotted_digits_succ {cs : List Char} {count : Nat}
    (hascii : ∀ c ∈ cs, Text.isDigit c = true → c.isDigit = true)
    (h : (dottedDigits (count + 2) cs).map Prod.snd = some []) :
    ∃ digits rest, AsciiNumber digits ∧ cs = digits ++ '.' :: rest ∧
      (∀ c ∈ rest, Text.isDigit c = true → c.isDigit = true) ∧
      (dottedDigits (count + 1) rest).map Prod.snd = some [] := by
  rw [dottedDigits] at h
  split at h
  · cases h
  · next digits tail hne hspan =>
      obtain ⟨hnumber, hcs⟩ := span_digits_ascii hascii hne hspan
      split at h
      · next rest hcount => cases hcount
      · next more rest hcount =>
          cases Nat.succ.inj hcount
          refine ⟨digits, rest, hnumber, hcs, fun c hc => hascii c ?_, ?_⟩
          · rw [hcs]
            exact List.mem_append_right _ (List.mem_cons_of_mem _ hc)
          · cases hmore : dottedDigits (count + 1) rest with
            | none => simp [hmore] at h
            | some pair => simpa [hmore] using h
      · cases h

/-- The driver pattern is the grammar, on texts that both read alike. -/
theorem driver_grammar_of_pattern {driver : String} (h : isDriver driver = true)
    (hnewline : driver.toList.getLast? ≠ some (Char.ofNat 10))
    (hascii : ∀ c ∈ driver.toList, Text.isDigit c = true → c.isDigit = true) :
    DriverGrammar driver.toList := by
  rw [isDriver, Text.drop_final_newline_self hnewline] at h
  cases hspan : Text.spanDigits driver.toList with
  | mk digits rest =>
      simp only [hspan] at h
      cases hdigits : digits with
      | nil => simp [hdigits] at h
      | cons first more =>
          have hne : digits ≠ [] := by simp [hdigits]
          obtain ⟨hnumber, hcs⟩ := span_digits_ascii hascii hne hspan
          simp only [hdigits, Bool.or_eq_true, beq_iff_eq, List.any_cons, List.any_nil,
            Bool.or_false] at h
          rcases h with (hend | hopen) | (htwo | hthree)
          · exact .inl (by rw [hcs, hend, List.append_nil]; exact hnumber)
          · exact .inr (.inl ⟨digits, hnumber, by rw [hcs, hopen]⟩)
          · obtain ⟨major, minor, hmajor, htext, hminor, hlast⟩ := dotted_digits_succ hascii htwo
            exact .inr (.inr ⟨major, minor, hmajor, dotted_digits_one hminor hlast, .inl htext⟩)
          · obtain ⟨major, tail, hmajor, htext, htail, hmore⟩ := dotted_digits_succ hascii hthree
            obtain ⟨minor, patch, hminor, htailText, hpatch, hlast⟩ :=
              dotted_digits_succ htail hmore
            exact .inr (.inr ⟨major, minor, hmajor, hminor,
              .inr ⟨patch, dotted_digits_one hpatch hlast, by rw [htext, htailText]⟩⟩)

/-- The image pattern is the grammar, on a text without a final newline. -/
theorem image_grammar_of_pattern {image : String} (h : isPinnedImage image = true)
    (hnewline : image.toList.getLast? ≠ some (Char.ofNat 10)) : ImageGrammar image.toList := by
  rw [isPinnedImage, Bool.and_eq_true] at h
  obtain ⟨hstarts, h⟩ := h
  have hprefix : "nvidia/cuda:".toList ++ (Text.removePrefix image "nvidia/cuda:").toList =
      image.toList := Text.remove_prefix_append hstarts
  split at h
  · next first tag digest hsplit =>
      have hbody := Text.split_first_eq_some hsplit
      simp only [Bool.and_eq_true, decide_eq_true_eq, beq_iff_eq, List.all_eq_true] at h
      obtain ⟨⟨⟨⟨hfirst, hlength⟩, htag⟩, hsha⟩, hhexLength, hhex⟩ := h
      obtain ⟨hex, hdigest⟩ := List.isPrefixOf_iff_prefix.mp hsha
      have hdrop : digest.drop 7 = hex := by
        rw [← hdigest]
        rfl
      have htext : image.toList =
          "nvidia/cuda:".toList ++ (first :: tag) ++ "@sha256:".toList ++ hex := by
        rw [← hprefix, hbody, ← hdigest]
        simp
      have hhexNewline : Text.dropFinalNewline hex = hex := by
        refine Text.drop_final_newline_self fun hlast => hnewline ?_
        have hne : hex ≠ [] := by
          rintro rfl
          cases hlast
        rw [htext, List.getLast?_append_of_ne_nil _ hne, hlast]
      rw [hdrop, hhexNewline] at hhexLength hhex
      refine ⟨first, tag, hex, htext, hfirst, hlength, fun c hc => ?_, hhexLength, hhex⟩
      have hclass := htag c hc
      simp only [Bool.or_eq_true, beq_iff_eq, or_assoc] at hclass
      exact hclass
  · cases h

/-! ## What planning derives -/

variable {desired : DesiredState}

/-- Where the digits are ASCII, the branch is the leading ASCII number. -/
theorem driver_major_ascii (hdigits : (Text.spanDigits desired.driver.toList).1 ≠ [])
    (hascii : ∀ c ∈ desired.driver.toList, Text.isDigit c = true → c.isDigit = true) :
    desired.driverMajor.toList = desired.driver.toList.takeWhile Char.isDigit := by
  have hclass : ∀ c ∈ desired.driver.toList, Text.isDigit c = c.isDigit := fun c hc =>
    Bool.eq_iff_iff.mpr ⟨hascii c hc, Text.is_digit_of_ascii⟩
  have hspan : (Text.spanDigits desired.driver.toList).1 =
      desired.driver.toList.takeWhile Char.isDigit := by
    rw [Text.spanDigits, List.span_eq_takeWhile_dropWhile]
    exact Text.take_while_congr hclass
  rw [DesiredState.driverMajor]
  cases hcs : (Text.spanDigits desired.driver.toList).1 with
  | nil => exact absurd hcs hdigits
  | cons c rest => rw [String.toList_ofList, ← hspan, hcs]

/-- A selector of the grammar has a dot exactly when it is a dotted version. -/
theorem dot_mem_iff {driver : List Char} (h : DriverGrammar driver) :
    '.' ∈ driver ↔ DottedVersion driver := by
  have hdot : ∀ {cs : List Char}, AsciiNumber cs → '.' ∉ cs := fun hcs hmem =>
    absurd (hcs.2 _ hmem) (by decide)
  constructor
  · intro hmem
    rcases h with hnumber | ⟨branch, hbranch, rfl⟩ | hversion
    · exact absurd hmem (hdot hnumber)
    · rcases List.mem_append.mp hmem with hbranch' | hopen
      · exact absurd hbranch' (hdot hbranch)
      · exact absurd hopen (by decide)
    · exact hversion
  · rintro ⟨major, minor, _, _, rfl | ⟨patch, _, rfl⟩⟩ <;> simp

/-- Every character of a leading number is visible. -/
theorem visible_take_while (driver : List Char) :
    ∀ c ∈ driver.takeWhile Char.isDigit, Visible c :=
  fun _ hc => visible_of_digit (List.mem_takeWhile_imp hc)

/-- Within the grammars everything that is derived says what the texts say. -/
theorem means_of_plain (haccepted : Accepted desired)
    (hplain : PlainSelectors desired.driver desired.containerTestImage) :
    Means desired.driver desired.containerTestImage desired := by
  obtain ⟨hnewline, himageNewline, hascii⟩ := hplain
  have hgrammar := driver_grammar_of_pattern haccepted.driver hnewline hascii
  have himage := image_grammar_of_pattern haccepted.pinned_image himageNewline
  have hmajor := driver_major_ascii (is_driver_starts_with_digit haccepted.driver) hascii
  have hpin : (aptPinningPackage desired).toList = "nvidia-driver-pinning-".toList ++
      (if desired.exactDriverVersion then desired.driver.toList
        else desired.driver.toList.takeWhile Char.isDigit) := by
    unfold aptPinningPackage
    simp only [String.toList_append, ← hmajor, apply_ite String.toList]
  have hstream : (dnfModuleStream desired).toList =
      desired.driver.toList.takeWhile Char.isDigit ++ '-' ::
        (if desired.openKernelModule then "open".toList else "dkms".toList) := by
    unfold dnfModuleStream
    simp only [String.toList_append, hmajor, apply_ite String.toList, List.append_assoc]
    rfl
  have hbound : (nextDriverBranch desired.driverMajor).toList = Nat.toDigits 10
      (branchBound (Nat.ofDigitChars 10 (desired.driver.toList.takeWhile Char.isDigit) 0)) := by
    have hlead : ∀ c ∈ desired.driver.toList.takeWhile Char.isDigit, c.isDigit = true :=
      fun c hc => List.mem_takeWhile_imp hc
    rw [next_branch_to_list, ← Text.decimal_value_ascii hlead, ← hmajor, String.ofList_toList]
  -- Every derived text is visible throughout, so that no selector is split into two operands.
  have hvisible : ∀ text ∈ [aptPinningPackage desired, dnfModuleStream desired,
      nextDriverBranch desired.driverMajor, desired.containerTestImage],
      ∀ c ∈ text.toList, Visible c := by
    have hprefix : ∀ c ∈ "nvidia-driver-pinning-".toList, Visible c := Text.forall_of_all rfl
    have hopen : ∀ c ∈ '-' :: "open".toList, Visible c := Text.forall_of_all rfl
    have hdkms : ∀ c ∈ '-' :: "dkms".toList, Visible c := Text.forall_of_all rfl
    intro text htext c hc
    simp only [List.mem_cons, List.not_mem_nil, or_false] at htext
    rcases htext with rfl | rfl | rfl | rfl
    · rw [hpin, List.mem_append] at hc
      rcases hc with hc | hc
      · exact hprefix c hc
      · split at hc
        · exact hgrammar.visible c hc
        · exact visible_take_while _ c hc
    · rw [hstream, List.mem_append] at hc
      rcases hc with hc | hc
      · exact visible_take_while _ c hc
      · split at hc
        · exact hopen c hc
        · exact hdkms c hc
    · rw [hbound] at hc
      exact visible_to_digits _ c hc
    · exact himage.visible c hc
  exact
    { driverGrammar := hgrammar
      imageGrammar := himage
      major := hmajor
      openModule := List.isSuffixOf_iff_suffix
      exactVersion := Text.infix_singleton.trans (dot_mem_iff hgrammar)
      pin := hpin
      stream := hstream
      bound := hbound
      operand := rfl
      visible := hvisible }

/-- A text of the grammars is read alike by the patterns. -/
theorem plain_of_grammar {driver image : String} (hdriver : DriverGrammar driver.toList)
    (himage : ImageGrammar image.toList) : PlainSelectors driver image := by
  have hnewline : ∀ {text : List Char}, (∀ c ∈ text, Visible c) →
      text.getLast? ≠ some (Char.ofNat 10) := fun hvisible hlast =>
    absurd (hvisible _ (List.mem_of_mem_getLast? hlast)) (by decide)
  have hother : ∀ c ∈ ".-open".toList, Text.isDigit c = false := Text.forall_of_all rfl
  refine ⟨hnewline hdriver.visible, hnewline himage.visible, fun c hc hdigit => ?_⟩
  rcases hdriver.mem c hc with hascii | hmem
  · exact hascii
  · rw [hother c hmem] at hdigit
    cases hdigit

/-- The text of a field as the file writes it, or the default where it does not. -/
def writtenText (file field default : String) : Except String String := do
  DesiredFile.textField (← DesiredFile.desiredMapping file) field default

/-- Of every text that loads: the state says what the two written selectors say exactly when
these are free of a final newline and of digits of other scripts. -/
theorem selector_meaning_iff {file : String} {desired : DesiredState}
    (h : DesiredFile.loadDesired file = .ok desired) :
    ∃ driver image, writtenText file "driver" ({} : DesiredState).driver = .ok driver ∧
      writtenText file "container_test_image" ({} : DesiredState).containerTestImage = .ok image ∧
      (Means driver image desired ↔ PlainSelectors driver image) := by
  obtain ⟨haccepted, values, hvalues, hdriver, himage⟩ := DesiredFile.load_desired_eq_ok h
  refine ⟨desired.driver, desired.containerTestImage, ?_, ?_, ?_⟩
  · rw [writtenText, hvalues]
    exact hdriver
  · rw [writtenText, hvalues]
    exact himage
  · exact ⟨fun hmeans => plain_of_grammar hmeans.driverGrammar hmeans.imageGrammar,
      means_of_plain haccepted⟩

/-- The meaning of a file in the YAML subset with an exact version. -/
theorem selector_meaning_exact_version :
    DesiredFile.loadDesired "driver: 595.71.05 # exact" = .ok { driver := "595.71.05" } ∧
      ∃ driver image,
        writtenText "driver: 595.71.05 # exact" "driver" ({} : DesiredState).driver = .ok driver ∧
        writtenText "driver: 595.71.05 # exact" "container_test_image"
          ({} : DesiredState).containerTestImage = .ok image ∧
        (Means driver image { driver := "595.71.05" } ↔ PlainSelectors driver image) := by
  have hload : DesiredFile.loadDesired "driver: 595.71.05 # exact" =
      .ok { driver := "595.71.05" } := by decide +kernel
  exact ⟨hload, selector_meaning_iff hload⟩

/-- A JSON file whose driver is `580-open` with a newline escape behind it is accepted, selects
the closed kernel module, and does not mean what it says. -/
theorem newline_selects_closed_module :
    DesiredFile.loadDesired "\x7b\"driver\": \"580-open\\n\"\x7d" =
        .ok { driver := "580-open\n" } ∧
      driverPackageName { driver := "580-open\n" } = "cuda-drivers" ∧
      ¬ Means "580-open\n" ({} : DesiredState).containerTestImage { driver := "580-open\n" } := by
  refine ⟨by decide +kernel, by decide +kernel, fun h => ?_⟩
  exact absurd (h.driverGrammar.visible (Char.ofNat 10) (by decide +kernel)) (by decide)

end NvidiaConverge
