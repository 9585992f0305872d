import NvidiaConverge.Library.Rpm
import NvidiaConverge.Planning.PackagePolicy

/-!
# The versions Zypper may choose

On a Zypper host the driver packages are installed under two operands, `package>=branch` and
`package<bound`, and the policy plan excludes `*nvidia*` packages from the bound on, so that
resolution stays within the desired branch. The bound is the branch rounded up to the next
multiple of ten, while `matches_driver_version` compares the branch itself.
`zypper_branch_confinement` says which versions are left to the resolver and rejected by the
host audit afterwards.
-/

namespace NvidiaConverge

/-- The packages that bring a driver, of either flavour. -/
def driverPackages : List String := ["cuda-drivers", "nvidia-open"]

/-- The lock that `lock_actions` plans for Zypper. -/
def zypperLock (desired : DesiredState) : String :=
  "*nvidia* >= " ++ nextDriverBranch desired.driverMajor

/-- A version of a package that the operands and the lock leave to the resolver. -/
def Admitted (desired : DesiredState) (audit : HostAudit) (package version : String) : Prop :=
  (∀ operand ∈ packageInstallOperands desired audit,
    Rpm.satisfies package.toList version.toList operand.toList = true) ∧
  Rpm.lockExcludes (zypperLock desired).toList package.toList version.toList = false

instance (desired : DesiredState) (audit : HostAudit) (package version : String) :
    Decidable (Admitted desired audit package version) :=
  inferInstanceAs (Decidable (_ ∧ _))

/-- The first branch beyond the bound, as a number. -/
def branchBound (branch : Nat) : Nat :=
  (branch / 10 + 1) * 10

/-- What may follow the first component of a version: nothing, or a dot and further text
without a pre-release mark. -/
def VersionTail (tail : String) : Prop :=
  (∀ c ∈ tail.toList.head?, c = '.') ∧ '~' ∉ tail.toList

variable {desired : DesiredState} {audit : HostAudit}

/-! ## What the operands and the lock say about one package -/

/-- The operands of one install target: the NVIDIA packages get a lower and an upper bound. -/
def boundedOperands (lowerBound upperBound target : String) : List String :=
  if ["cuda-drivers", "nvidia-fabricmanager", "nvidia-open"].contains target then
    [target ++ ">=" ++ lowerBound, target ++ "<" ++ upperBound]
  else [target]

/-- A target whose name starts differently does not bound the package. -/
theorem bounded_of_head_ne {c d : Char} {name rest : List Char} {target package : String}
    (htarget : target.toList = c :: name) (hpackage : package.toList = d :: rest) (hne : c ≠ d)
    (hname : Rpm.isNameChar c = true) (lowerBound upperBound version : String) :
    ∀ operand ∈ boundedOperands lowerBound upperBound target,
      Rpm.satisfies package.toList version.toList operand.toList = true := by
  have hsatisfies : ∀ more, Rpm.satisfies package.toList version.toList
      (target.toList ++ more) = true := by
    intro more
    rw [htarget, hpackage]
    exact Rpm.satisfies_of_head_ne hne hname version.toList
  intro operand hoperand
  unfold boundedOperands at hoperand
  split at hoperand
  · rcases List.mem_cons.mp hoperand with rfl | hoperand
    · simpa using hsatisfies (">=".toList ++ lowerBound.toList)
    · rw [List.mem_singleton.mp hoperand]
      simpa using hsatisfies ("<".toList ++ upperBound.toList)
  · rw [List.mem_singleton.mp hoperand]
    simpa using hsatisfies []

/-- The package's own target bounds it on both sides. -/
theorem bounded_self {package : String} (hpackage : package ∈ driverPackages)
    (lowerBound version : String) (upper : Nat) :
    (∀ operand ∈ boundedOperands lowerBound (toString upper) package,
        Rpm.satisfies package.toList version.toList operand.toList = true) ↔
      Rpm.vercmp version.toList lowerBound.toList ≠ .lt ∧
        Rpm.vercmp version.toList (Nat.toDigits 10 upper) = .lt := by
  have hcontains : ["cuda-drivers", "nvidia-fabricmanager", "nvidia-open"].contains package =
      true := by
    revert package
    decide
  have hname : ∀ c ∈ package.toList, Rpm.isNameChar c = true := by
    rw [driverPackages, List.mem_pair] at hpackage
    rcases hpackage with rfl | rfl <;> exact Text.forall_of_all rfl
  have hupper : (Nat.toDigits 10 upper).head? ≠ some '=' := by
    intro hhead
    have hdigit := Nat.isDigit_of_mem_toDigits (b := 10) (by decide) (by decide)
      (List.mem_of_mem_head? hhead)
    revert hdigit
    decide
  have hge : Rpm.satisfies package.toList version.toList (package ++ ">=" ++ lowerBound).toList =
      (Rpm.vercmp version.toList lowerBound.toList != .lt) := by
    have hread := Rpm.read_capability_append hname ('>' :: '=' :: lowerBound.toList)
      (by simp [Rpm.isNameChar])
    simp [Rpm.satisfies, hread, Rpm.readRelation, Rpm.Relation.admits]
  have hlt : Rpm.satisfies package.toList version.toList
      (package ++ "<" ++ toString upper).toList =
      (Rpm.vercmp version.toList (Nat.toDigits 10 upper) == .lt) := by
    have hread := Rpm.read_capability_append hname ('<' :: Nat.toDigits 10 upper)
      (by simp [Rpm.isNameChar])
    simp [Rpm.satisfies, hread, Rpm.read_relation_lt hupper, Rpm.Relation.admits]
  rw [boundedOperands, if_pos hcontains]
  rw [List.forall_mem_cons, List.forall_mem_singleton, hge, hlt, bne_iff_ne, beq_iff_eq]

/-- A name that starts like neither of the driver packages. -/
def StartsApart (target : String) : Prop :=
  ∃ c rest, target.toList = c :: rest ∧ c ≠ 'c' ∧ c ≠ 'n' ∧ Rpm.isNameChar c = true

/-- The kernel headers are named after the kernel. -/
theorem suse_kernel_devel_starts_apart {kernel name : String}
    (h : suseKernelDevel kernel = some name) :
    StartsApart name := by
  unfold suseKernelDevel at h
  split at h
  · cases h
  · split at h
    · cases h
    · next version variant _ _ =>
        rw [← Option.some.inj h]
        exact ⟨'k', "ernel-".toList ++ variant.toList ++ "-devel=".toList ++ version.toList,
          by simp, by decide, by decide, by decide⟩

/-- An install target of a Zypper host is a driver, the container toolkit, or a package of another
name. -/
theorem zypper_target_cases (hzypper : audit.packageManager = some .zypper) {target : String}
    (h : target ∈ packageInstallTargets desired audit) :
    target ∈ driverPackages ∨ target = "nvidia-container-toolkit" ∨ StartsApart target := by
  have happart : ∀ name ∈ ["docker-ce", "gcc", "make"], StartsApart name := by
    intro name hname
    simp only [List.mem_cons, List.not_mem_nil, or_false] at hname
    rcases hname with rfl | rfl | rfl <;> exact ⟨_, _, rfl, by decide, by decide, by decide⟩
  rw [packageInstallTargets, Text.mem_deduplicate] at h
  simp only [driftedTargets, List.mem_append] at h
  rcases h with (((hdriver | htoolkit) | hdocker) | hheaders) | hcompiler
  · left
    unfold driverPackageName driverPackages at *
    grind
  · grind
  · grind
  · right; right
    split at hheaders
    · cases hheaders
    · rw [kernelBuildTargets, hzypper] at hheaders
      exact suse_kernel_devel_starts_apart (by simpa using hheaders)
  · grind

/-- The operands bound exactly the package among the install targets. -/
theorem satisfies_operands (hzypper : audit.packageManager = some .zypper) {package : String}
    (hpackage : package ∈ driverPackages) (version : String) :
    (∀ operand ∈ packageInstallOperands desired audit,
        Rpm.satisfies package.toList version.toList operand.toList = true) ↔
      (package ∈ packageInstallTargets desired audit →
        Rpm.vercmp version.toList desired.driverMajor.toList ≠ .lt ∧
          Rpm.vercmp version.toList
            (Nat.toDigits 10 (branchBound (Text.decimalValue desired.driverMajor))) = .lt) := by
  have hoperands : packageInstallOperands desired audit =
      (packageInstallTargets desired audit).flatMap
        (boundedOperands desired.driverMajor (nextDriverBranch desired.driverMajor)) := by
    rw [packageInstallOperands, if_neg (by simp [hzypper])]
    rfl
  have hother : ∀ target ∈ packageInstallTargets desired audit, target ≠ package →
      ∀ operand ∈ boundedOperands desired.driverMajor (nextDriverBranch desired.driverMajor) target,
        Rpm.satisfies package.toList version.toList operand.toList = true := by
    intro target htarget hne
    rw [driverPackages, List.mem_pair] at hpackage
    rcases zypper_target_cases hzypper htarget with hdriver | rfl | ⟨c, rest, htext, hc, hn, hname⟩
    · rw [driverPackages, List.mem_pair] at hdriver
      rcases hpackage with rfl | rfl <;> rcases hdriver with rfl | rfl
      · exact absurd rfl hne
      · exact bounded_of_head_ne rfl rfl (by decide) (by decide) _ _ version
      · exact bounded_of_head_ne rfl rfl (by decide) (by decide) _ _ version
      · exact absurd rfl hne
    · intro operand hoperand
      rw [List.mem_singleton.mp hoperand]
      rfl
    · rcases hpackage with rfl | rfl
      · exact bounded_of_head_ne htext rfl hc hname _ _ version
      · exact bounded_of_head_ne htext rfl hn hname _ _ version
  rw [hoperands, List.forall_mem_flatMap]
  constructor
  · intro h hmem
    exact (bounded_self hpackage _ _ _).mp (h package hmem)
  · intro h target htarget
    by_cases heq : target = package
    · subst heq
      exact (bounded_self hpackage _ _ _).mpr (h htarget)
    · exact hother target htarget heq

/-- The text of the next branch is the printed number of its bound. -/
theorem next_branch_to_list (driverMajor : String) :
    (nextDriverBranch driverMajor).toList =
      Nat.toDigits 10 (branchBound (Text.decimalValue driverMajor)) := by
  rw [nextDriverBranch, Nat.toString_eq_ofList_toDigits, String.toList_ofList]
  rfl

/-- The lock excludes `nvidia-open` from the bound on. Its pattern does not match
`cuda-drivers`. -/
theorem lock_excludes_iff {package : String} (hpackage : package ∈ driverPackages)
    (version : String) :
    Rpm.lockExcludes (zypperLock desired).toList package.toList version.toList = false ↔
      (package = "nvidia-open" →
        Rpm.vercmp version.toList
          (Nat.toDigits 10 (branchBound (Text.decimalValue desired.driverMajor))) = .lt) := by
  have hblank : ∀ c ∈ Nat.toDigits 10 (branchBound (Text.decimalValue desired.driverMajor)),
      (c != ' ') = true := by
    intro c hc
    have hdigit := Nat.isDigit_of_mem_toDigits (b := 10) (by decide) (by decide) hc
    rw [bne_iff_ne]
    rintro rfl
    revert hdigit
    decide
  have htext : (zypperLock desired).toList.filter (· != ' ') =
      "*nvidia*".toList ++ '>' :: '=' ::
        Nat.toDigits 10 (branchBound (Text.decimalValue desired.driverMajor)) := by
    rw [zypperLock, String.toList_append, List.filter_append, next_branch_to_list,
      List.filter_eq_self.mpr hblank]
    rfl
  have hpattern : ∀ c ∈ "*nvidia*".toList, Rpm.isNameChar c = true := Text.forall_of_all rfl
  have hread := Rpm.read_capability_append hpattern
    ('>' :: '=' :: Nat.toDigits 10 (branchBound (Text.decimalValue desired.driverMajor)))
    (by simp [Rpm.isNameChar])
  have hlock : Rpm.lockExcludes (zypperLock desired).toList package.toList version.toList =
      (Rpm.matchesGlob "*nvidia*".toList package.toList &&
        (Rpm.vercmp version.toList
          (Nat.toDigits 10 (branchBound (Text.decimalValue desired.driverMajor))) != .lt)) := by
    rw [Rpm.lockExcludes, htext, hread]
    rfl
  rw [hlock]
  rw [driverPackages, List.mem_pair] at hpackage
  rcases hpackage with rfl | rfl
  · have hglob : Rpm.matchesGlob "*nvidia*".toList "cuda-drivers".toList = false := by
      decide +kernel
    rw [hglob]
    simp
  · have hglob : Rpm.matchesGlob "*nvidia*".toList "nvidia-open".toList = true := by
      decide +kernel
    rw [hglob]
    simp

/-- What a version must satisfy to be left to the resolver: the operands where the package is an
install target, and the lock where it is `nvidia-open`. -/
theorem admitted_iff (hzypper : audit.packageManager = some .zypper) {package : String}
    (hpackage : package ∈ driverPackages) (version : String) :
    Admitted desired audit package version ↔
      (package ∈ packageInstallTargets desired audit →
        Rpm.vercmp version.toList desired.driverMajor.toList ≠ .lt ∧
          Rpm.vercmp version.toList
            (Nat.toDigits 10 (branchBound (Text.decimalValue desired.driverMajor))) = .lt) ∧
      (package = "nvidia-open" →
        Rpm.vercmp version.toList
          (Nat.toDigits 10 (branchBound (Text.decimalValue desired.driverMajor))) = .lt) :=
  and_congr (satisfies_operands hzypper hpackage version) (lock_excludes_iff hpackage version)

/-! ## The first component of a version -/

/-- A printed number before a version tail is the leading segment. -/
theorem segments_version (major : Nat) {tail : String} (htail : VersionTail tail) :
    Rpm.segments (toString major ++ tail).toList =
      .number major :: Rpm.segments tail.toList := by
  have hhead : ∀ c ∈ tail.toList.head?, c.isDigit = false := by
    intro c hc
    rw [htail.1 c hc]
    decide
  rw [String.toList_append, Nat.toString_eq_ofList_toDigits, String.toList_ofList,
    Rpm.segments_number_append major hhead]

/-- Against a number the first component of a version decides. -/
theorem vercmp_version_lt (major bound : Nat) {tail : String} (htail : VersionTail tail) :
    Rpm.vercmp (toString major ++ tail).toList (Nat.toDigits 10 bound) = .lt ↔ major < bound := by
  rw [Rpm.vercmp, segments_version major htail, Rpm.segments_to_digits,
    Rpm.compare_number_lt (Rpm.tilde_not_mem_segments htail.2)]

/-- The leading number RPM reads in a text of decimal digits is at most its value. Digits of
other scripts only separate. -/
theorem segments_decimal {digits : List Char} (h : ∀ c ∈ digits, Text.isDigit c = true) :
    Rpm.segments digits = [] ∨ ∃ value more, Rpm.segments digits = .number value :: more ∧
      value ≤ Text.decimalValue (String.ofList digits) := by
  induction digits with
  | nil => exact .inl rfl
  | cons c rest ih =>
      by_cases hc : c.isDigit = true
      · -- the leading ASCII run is the first segment
        right
        have hrun : ∀ d ∈ (c :: rest).takeWhile Char.isDigit, d.isDigit = true :=
          fun d hd => List.mem_takeWhile_imp hd
        have hsplit := List.takeWhile_append_dropWhile (p := Char.isDigit) (l := c :: rest)
        have hnext : ∀ d ∈ ((c :: rest).dropWhile Char.isDigit).head?, d.isDigit = false := by
          intro d hd
          have hstop := List.head?_dropWhile_not Char.isDigit (c :: rest)
          rw [Option.mem_def.mp hd] at hstop
          exact hstop
        have hseg := Rpm.segments_append ((c :: rest).takeWhile Char.isDigit)
          ((c :: rest).dropWhile Char.isDigit) fun last hlast first hfirst => by
            have hlast' := hrun last (List.mem_of_mem_getLast? hlast)
            rw [Rpm.sameRun, hnext first hfirst,
              Text.not_is_alpha_of_is_digit (Text.is_digit_of_ascii hlast')]
            simp
        rw [hsplit, Rpm.segments_digits (by simp [hc]) hrun] at hseg
        refine ⟨_, _, hseg, ?_⟩
        rw [← Text.decimal_value_ascii hrun]
        conv_rhs => rw [← hsplit]
        rw [Text.decimalValue, Text.decimalValue, String.toList_ofList, String.toList_ofList,
          List.foldl_append]
        exact Text.le_foldl_digits _ _
      · -- a digit of another script separates, and makes the value no smaller
        have hdigit := h c List.mem_cons_self
        have halpha := Text.not_is_alpha_of_is_digit hdigit
        have htilde : c ≠ '~' := by rintro rfl; revert hdigit; decide +kernel
        have hcaret : c ≠ '^' := by rintro rfl; revert hdigit; decide +kernel
        rw [Rpm.segments_separator (by simpa using hc) halpha htilde hcaret]
        have hvalue : Text.decimalValue (String.ofList rest) ≤
            Text.decimalValue (String.ofList (c :: rest)) := by
          rw [Text.decimalValue, Text.decimalValue, String.toList_ofList, String.toList_ofList,
            List.foldl_cons]
          exact Text.foldl_digits_mono rest (Nat.zero_le _)
        rcases ih fun d hd => h d (List.mem_cons_of_mem _ hd) with hnil | ⟨value, more, hseg, hle⟩
        · exact .inl hnil
        · exact .inr ⟨value, more, hseg, hle.trans hvalue⟩

/-- The branch's text with a letter behind it is between the operands and not the branch. -/
theorem letter_suffix_admitted (haccepted : Accepted desired)
    (hzypper : audit.packageManager = some .zypper) {package : String}
    (hpackage : package ∈ driverPackages) :
    Admitted desired audit package (desired.driverMajor ++ "a") := by
  obtain ⟨hne, hdigits⟩ := haccepted.driver_major
  have hseg : Rpm.segments (desired.driverMajor ++ "a").toList =
      Rpm.segments desired.driverMajor.toList ++ [.word ['a']] := by
    rw [String.toList_append, Rpm.segments_append]
    · rfl
    · intro last hlast first hfirst
      have hfirst' : first = 'a' := by simpa using hfirst.symm
      have halpha :=
        Text.not_is_alpha_of_is_digit (hdigits last (List.mem_of_mem_getLast? hlast))
      rw [hfirst', Rpm.sameRun, halpha]
      simp
  have hlower :
      Rpm.vercmp (desired.driverMajor ++ "a").toList desired.driverMajor.toList ≠ .lt := by
    rw [Rpm.vercmp, hseg, Rpm.compare_append_self (by simp)]
    decide
  have hupper : Rpm.vercmp (desired.driverMajor ++ "a").toList
      (Nat.toDigits 10 (branchBound (Text.decimalValue desired.driverMajor))) = .lt := by
    rw [Rpm.vercmp, hseg, Rpm.segments_to_digits]
    rcases segments_decimal hdigits with hnil | ⟨value, more, hnumber, hle⟩
    · rw [hnil]
      rfl
    · have hlt : value < branchBound (Text.decimalValue desired.driverMajor) := by
        rw [String.ofList_toList] at hle
        unfold branchBound
        omega
      rw [hnumber, List.cons_append, Rpm.compare_number hlt.ne, Nat.compare_eq_lt]
      exact hlt
  exact (admitted_iff hzypper hpackage _).mpr ⟨fun _ => ⟨hlower, hupper⟩, fun _ => hupper⟩

/-- A branch selector does not match its own text with a letter behind it. -/
theorem letter_suffix_rejected (haccepted : Accepted desired)
    (hbranch : desired.exactDriverVersion = false) :
    desired.matchesDriverVersion (some (desired.driverMajor ++ "a")) = false := by
  obtain ⟨hne, hdigits⟩ := haccepted.driver_major
  have hspan : Text.spanDigits (desired.driverMajor ++ "a").toList =
      (desired.driverMajor.toList, ['a']) := by
    rw [String.toList_append, Text.spanDigits, List.span_eq_takeWhile_dropWhile,
      List.takeWhile_append_of_pos hdigits, List.dropWhile_append_of_pos hdigits]
    have ha : Text.isDigit 'a' = false := by decide +kernel
    simp [ha]
  have hnone : DesiredState.versionBranch (desired.driverMajor ++ "a") = none := by
    unfold DesiredState.versionBranch
    rw [hspan]
    cases hmajor : desired.driverMajor.toList with
    | nil => exact absurd hmajor hne
    | cons c rest => rfl
  rw [DesiredState.matchesDriverVersion, hbranch, hnone]
  simp

/-- A plain version matches a plainly written branch when its first component is the branch. -/
theorem matches_version_iff (hbranch : desired.exactDriverVersion = false) {branch : Nat}
    (hmajor : desired.driverMajor = toString branch) (major : Nat) {tail : String}
    (htail : VersionTail tail) :
    desired.matchesDriverVersion (some (toString major ++ tail)) = true ↔ major = branch := by
  have hdot : ∀ c ∈ tail.toList.head?, Text.isDigit c = false := by
    intro c hc
    rw [htail.1 c hc]
    decide +kernel
  have hspan : Text.spanDigits (toString major ++ tail).toList =
      (Nat.toDigits 10 major, tail.toList) := by
    rw [String.toList_append, Nat.toString_eq_ofList_toDigits, String.toList_ofList,
      Text.span_digits_number major hdot]
  have hends : tail.toList.head? = some '.' ∨ Text.dropFinalNewline tail.toList = [] := by
    cases htext : tail.toList with
    | nil => exact .inr rfl
    | cons c rest => exact .inl (congrArg some (htail.1 c (by rw [htext]; rfl)))
  have hversion : DesiredState.versionBranch (toString major ++ tail) = some (toString major) := by
    unfold DesiredState.versionBranch
    rw [hspan]
    cases hdigits : Nat.toDigits 10 major with
    | nil => exact absurd hdigits Nat.toDigits_ne_nil
    | cons c rest => simp only [if_pos hends, Nat.toString_eq_ofList_toDigits, hdigits]
  have hnonempty : toString major ++ tail ≠ "" := by
    intro hempty
    have htoList := congrArg String.toList hempty
    rw [String.toList_append, Nat.toString_eq_ofList_toDigits, String.toList_ofList] at htoList
    exact Nat.toDigits_ne_nil (List.append_eq_nil_iff.mp htoList).1
  rw [DesiredState.matchesDriverVersion, if_neg hnonempty, hbranch, hversion, hmajor]
  simp [Nat.repr_inj]

/-! ## Confinement -/

/-- Of every accepted branch and both driver packages: some version text is left to the resolver
and does not match. For a plainly written branch and the versions whose first component is a plain
number, this is so exactly for the numbers that the operands and the lock leave besides the
branch. -/
theorem zypper_branch_confinement (haccepted : Accepted desired)
    (hbranch : desired.exactDriverVersion = false)
    (hzypper : audit.packageManager = some .zypper) {package : String}
    (hpackage : package ∈ driverPackages) :
    (∃ version, Admitted desired audit package version ∧
      desired.matchesDriverVersion (some version) = false) ∧
    ∀ (branch major : Nat) (tail : String), desired.driverMajor = toString branch →
      VersionTail tail →
      ((Admitted desired audit package (toString major ++ tail) →
          desired.matchesDriverVersion (some (toString major ++ tail)) = true) ↔
        major = branch ∨
          (package ∈ packageInstallTargets desired audit ∧
            (major < branch ∨ branchBound branch ≤ major)) ∨
          (package = "nvidia-open" ∧ branchBound branch ≤ major)) := by
  refine ⟨⟨_, letter_suffix_admitted haccepted hzypper hpackage,
    letter_suffix_rejected haccepted hbranch⟩, ?_⟩
  intro branch major tail hmajor htail
  have hdigits : desired.driverMajor.toList = Nat.toDigits 10 branch := by
    rw [hmajor, Nat.toString_eq_ofList_toDigits, String.toList_ofList]
  have hvalue : Text.decimalValue desired.driverMajor = branch := by
    rw [← String.ofList_toList (s := desired.driverMajor), hdigits,
      Text.decimal_value_ascii fun c hc =>
        Nat.isDigit_of_mem_toDigits (by decide) (by decide) hc, Nat.ofDigitChars_ten_toDigits]
  rw [matches_version_iff hbranch hmajor major htail, admitted_iff hzypper hpackage, hvalue,
    hdigits, vercmp_version_lt major _ htail, Ne, vercmp_version_lt major _ htail]
  by_cases htarget : package ∈ packageInstallTargets desired audit <;>
    by_cases hopen : package = "nvidia-open" <;> simp only [htarget, hopen] <;> grind

/-- The desired state of branch 590 with the open kernel module. -/
def branch590 : DesiredState := { driver := "590-open" }

/-- A SLES 15 host with nothing of the stack installed. -/
def slesHost : HostAudit where
  osId := some "sles"
  osVersion := some "15.6"
  packageManager := some .zypper
  kernel :=
    { running := "6.4.0-150600.23-default", headersInstalled := true, compiler := some "gcc" }
  module := { loaded := false }
  runtime := { dockerInstalled := false, nvidiaContainerRuntimeInstalled := false }
  packages := []
  nvidiaSmi := { command := ["nvidia-smi"], returncode := none }
  nvml := { command := ["nvidia-smi", "-L"], returncode := none }
  migMode := none
  packagePolicy := { backend := some .zypper, observable := true }

/-- The confinement at branch 590 of a SLES host. -/
theorem zypper_branch_confinement_590 :
    Accepted branch590 ∧ branch590.exactDriverVersion = false ∧
      ((Admitted branch590 slesHost "nvidia-open" (toString 595 ++ ".71.05") →
          branch590.matchesDriverVersion (some (toString 595 ++ ".71.05")) = true) ↔
        595 = 590 ∨
          ("nvidia-open" ∈ packageInstallTargets branch590 slesHost ∧
            (595 < 590 ∨ branchBound 590 ≤ 595)) ∨
          ("nvidia-open" = "nvidia-open" ∧ branchBound 590 ≤ 595)) := by
  have haccepted : Accepted branch590 := by decide +kernel
  have hbranch : branch590.exactDriverVersion = false := by decide +kernel
  have htail : VersionTail ".71.05" := by
    refine ⟨fun c hc => ?_, by decide +kernel⟩
    simpa using hc.symm
  have h := @zypper_branch_confinement branch590 slesHost haccepted hbranch rfl "nvidia-open"
    (by decide)
  exact ⟨haccepted, hbranch, h.2 590 595 ".71.05" (by decide +kernel) htail⟩

/-- Under the plan for branch 590 the resolver may choose driver 595.71.05, which the desired
state does not match. -/
theorem branch_595_admitted_for_590 :
    Accepted branch590 ∧
      (lockActions branch590 slesHost).toOption.map (·.flatMap (·.commands)) =
        some [["zypper", "--non-interactive", "addlock", "*nvidia* >= 600"]] ∧
      packageInstallOperands branch590 slesHost =
        ["nvidia-open>=590", "nvidia-open<600", "nvidia-container-toolkit", "docker-ce"] ∧
      Admitted branch590 slesHost "nvidia-open" "595.71.05" ∧
      branch590.matchesDriverVersion (some "595.71.05") = false := by
  refine ⟨by decide +kernel, by decide +kernel, by decide +kernel, ⟨?_, ?_⟩, by decide +kernel⟩
  · decide +kernel
  · decide +kernel

end NvidiaConverge
