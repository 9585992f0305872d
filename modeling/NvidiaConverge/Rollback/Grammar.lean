import NvidiaConverge.Rollback.Created

/-!
# The derived command and its grammar

When `_allowed_rollback_command` accepts what `_rollback_commands` derives from a validated
bundle. The retained paths always fit; `derived_commands_loadable_iff` leaves the number of
parts and, for DNF and YUM, the spelling of the expected RPM packages.
-/

namespace NvidiaConverge

open Posix (AbsolutePath)

/-! ## Retained paths -/

/-- The local path of a retained payload, beside the snapshot. -/
def payloadPath (path : AbsolutePath) (bundle : PackagePayloadBundle) (entry : PackagePayload) :
    String :=
  Posix.pathText (path.parent ++ [bundle.directory, entry.filename])

/-- A digest is made of characters that no path uses otherwise. -/
theorem digest_chars {digest : String} (h : Sha256.isDigest digest = true) :
    digest.toList.length = 64 ∧ ∀ c ∈ digest.toList, Sha256.isHexDigit c = true := by
  simpa [Sha256.isDigest] using h

/-- A file name of a valid entry is its digest and the format. -/
theorem valid_entry_filename {manager : PackageManager} {entry : PackagePayload}
    (h : validPayloadEntry manager entry = true) :
    Sha256.isDigest entry.sha256 = true ∧
      entry.filename = entry.sha256 ++ "." ++ expectedFormat manager := by
  simp only [validPayloadEntry, Bool.and_eq_true, beq_iff_eq] at h
  obtain ⟨⟨⟨⟨⟨⟨⟨⟨⟨⟨⟨hformat, -⟩, hdigest⟩, hfilename⟩, -⟩, -⟩, -⟩, -⟩, -⟩, -⟩, -⟩, -⟩ := h
  refine ⟨hdigest, ?_⟩
  rw [hfilename, hformat, String.append_assoc]
  cases manager <;> rfl

/-- A retained file name is a payload file name. -/
theorem payload_filename_valid {manager : PackageManager} {entry : PackagePayload}
    (h : validPayloadEntry manager entry = true) :
    isPayloadFilename (expectedFormat manager) entry.filename = true := by
  obtain ⟨hdigest, hfilename⟩ := valid_entry_filename h
  obtain ⟨hlength, -⟩ := digest_chars hdigest
  have hchars : entry.filename.toList =
      entry.sha256.toList ++ '.' :: (expectedFormat manager).toList := by
    rw [hfilename]
    simp
  simp [isPayloadFilename, hchars, ← hlength, hdigest]

/-- A retained file name is a component of a path. -/
theorem payload_filename_component {manager : PackageManager} {entry : PackagePayload}
    (h : validPayloadEntry manager entry = true) : Posix.isComponent entry.filename = true := by
  obtain ⟨hdigest, hfilename⟩ := valid_entry_filename h
  obtain ⟨hlength, hhex⟩ := digest_chars hdigest
  have hlong : ∀ other : String, other.toList.length ≤ 2 → entry.filename ≠ other := by
    intro other hshort heq
    rw [← heq, hfilename] at hshort
    simp only [String.toList_append, List.length_append] at hshort
    omega
  have hslash : '/' ∉ entry.filename.toList := by
    rw [hfilename]
    simp only [String.toList_append, List.mem_append, not_or]
    refine ⟨⟨?_, by decide⟩, by cases manager <;> decide⟩
    intro hmem
    exact absurd (hhex '/' hmem) (by decide)
  simp [Posix.isComponent, hslash, hlong "" (by decide),
    hlong "." (by decide), hlong ".." (by decide)]

variable {path : AbsolutePath} {bundle : PackagePayloadBundle} {packages : List PackageInfo}
  {manager : PackageManager}

/-- The components of a retained path are normalized. -/
theorem payload_path_normalized (h : ValidPayloads path bundle packages manager)
    {entry : PackagePayload} (hentry : entry ∈ bundle.packages) :
    (path.parent ++ [bundle.directory, entry.filename]).all Posix.isComponent = true := by
  obtain ⟨hsafe, heq⟩ := Result.check_bind_eq_ok.mp h.directory
  have hdirectory : Posix.isComponent bundle.directory = true := by
    rw [Result.pure_eq_ok.mp heq] at hsafe
    have hsafe' : safeComponent bundle.directory = true := by
      simpa using Result.refuse_eq_ok.mp hsafe
    simp only [safeComponent, Bool.and_eq_true] at hsafe'
    simp only [Posix.isComponent, Bool.and_eq_true]
    exact hsafe'.1.1
  have hparent : path.parent.all Posix.isComponent = true := by
    rw [List.all_eq_true]
    intro name hname
    exact List.all_eq_true.mp path.normalized name (List.dropLast_subset _ hname)
  rw [List.all_append, hparent]
  simp [hdirectory, payload_filename_component (h.each entry hentry)]

/-- The bundle directory carries the suffix that the grammar asks for. -/
theorem bundle_directory_suffix (h : ValidPayloads path bundle packages manager) :
    Text.endsWith bundle.directory ".payloads" = true := by
  obtain ⟨_, heq⟩ := Result.check_bind_eq_ok.mp h.directory
  rw [← Result.pure_eq_ok.mp heq, Text.endsWith, List.isSuffixOf_iff_suffix, String.toList_append]
  exact List.suffix_append _ _

/-- The path of a retained payload fits the grammar of recorded commands. -/
theorem payload_path_valid (h : ValidPayloads path bundle packages manager)
    {entry : PackagePayload} (hentry : entry ∈ bundle.packages) :
    validLocalPayloadPath (expectedFormat manager) (payloadPath path bundle entry) = true := by
  have hcomponents := Posix.components_path_text (payload_path_normalized h hentry)
  have hlast : (path.parent ++ [bundle.directory, entry.filename]).getLastD "" =
      entry.filename := by
    simp
  have hdirectory : (path.parent ++ [bundle.directory, entry.filename]).dropLast.getLastD "" =
      bundle.directory := by
    rw [List.dropLast_append_of_ne_nil (by simp)]
    simp
  simp only [validLocalPayloadPath, payloadPath, hcomponents, hlast, hdirectory,
    bundle_directory_suffix h, payload_filename_valid (h.each entry hentry), Bool.and_self]

/-- Different file names have different paths. -/
theorem payload_path_injective (h : ValidPayloads path bundle packages manager)
    {entry other : PackagePayload} (hentry : entry ∈ bundle.packages)
    (hother : other ∈ bundle.packages)
    (heq : payloadPath path bundle entry = payloadPath path bundle other) :
    entry.filename = other.filename := by
  have hread := Posix.components_path_text (payload_path_normalized h hentry)
  rw [payloadPath] at heq
  rw [heq, payloadPath, Posix.components_path_text (payload_path_normalized h hother)] at hread
  simpa using hread.symm

/-- The text of a path starts with the separator. -/
theorem path_text_head (components : List String) :
    ∃ rest, (Posix.pathText components).toList = '/' :: rest := by
  cases components with
  | nil => exact ⟨[], rfl⟩
  | cons name names =>
      exact ⟨name.toList ++ names.flatMap fun name => '/' :: name.toList, by simp [Posix.pathText]⟩

/-- A nonempty text starts with a separator exactly when it is cut there. -/
theorem starts_with_dash_iff {text : String} :
    Text.startsWith text "-" = true ↔ text.toList.head? = some '-' := by
  rw [Text.startsWith]
  cases text.toList with
  | nil => simp
  | cons c rest =>
      show ('-' == c && true) = true ↔ some c = some '-'
      rw [Bool.and_true, beq_iff_eq, Option.some.injEq]
      exact eq_comm

/-- The path of a retained payload is no option and no removal, as it starts with no dash. -/
theorem payload_path_no_dash (entry : PackagePayload) :
    Text.startsWith (payloadPath path bundle entry) "-" = false := by
  obtain ⟨rest, hrest⟩ := path_text_head (path.parent ++ [bundle.directory, entry.filename])
  rw [← Bool.not_eq_true, starts_with_dash_iff, payloadPath, hrest]
  simp

/-- A text ends with a dash exactly when its last code point is one. -/
theorem ends_with_dash_iff {text : String} :
    Text.endsWith text "-" = true ↔ text.toList.getLast? = some '-' := by
  rw [Text.endsWith, List.isSuffixOf_iff_suffix, List.getLast?_eq_some_iff]
  exact ⟨fun ⟨start, h⟩ => ⟨start, h.symm⟩, fun ⟨start, h⟩ => ⟨start, h.symm⟩⟩

/-- The path of a retained payload does not end with a dash, as an APT removal does. -/
theorem payload_path_no_final_dash (h : ValidPayloads path bundle packages manager)
    {entry : PackagePayload} (hentry : entry ∈ bundle.packages) :
    Text.endsWith (payloadPath path bundle entry) "-" = false := by
  obtain ⟨-, hfilename⟩ := valid_entry_filename (h.each entry hentry)
  have hchars : ∃ start, (payloadPath path bundle entry).toList =
      start ++ (expectedFormat manager).toList := by
    refine ⟨(path.parent.flatMap fun name => '/' :: name.toList) ++
      '/' :: bundle.directory.toList ++
      '/' :: entry.sha256.toList ++ ['.'], ?_⟩
    rw [payloadPath, Posix.pathText]
    · simp [hfilename]
    · simp
  obtain ⟨start, hchars⟩ := hchars
  have hlast : ∃ c, c ≠ '-' ∧ (expectedFormat manager).toList.getLast? = some c := by
    cases manager with
    | aptGet => exact ⟨'b', by decide, rfl⟩
    | dnf | yum | zypper => exact ⟨'m', by decide, rfl⟩
  obtain ⟨c, hne, hlast⟩ := hlast
  rw [← Bool.not_eq_true, ends_with_dash_iff, hchars, List.getLast?_append, hlast]
  simpa using hne

/-- The local paths of the restored packages, one for each of them. -/
structure RetainedPaths (path : AbsolutePath) (bundle : PackagePayloadBundle)
    (packages : List PackageInfo) (manager : PackageManager) (paths : List String) : Prop where
  length : paths.length = packages.length
  valid : ∀ text ∈ paths, validLocalPayloadPath (expectedFormat manager) text = true
  noDash : ∀ text ∈ paths, Text.startsWith text "-" = false
  noFinalDash : ∀ text ∈ paths, Text.endsWith text "-" = false
  slash : ∀ text ∈ paths, ∃ rest, text.toList = '/' :: rest
  distinct : paths.Nodup

/-- The retained file of a package is the file of an entry with its identity. -/
theorem local_payload_path_ok {package : PackageInfo} {text : String}
    (h : localPayloadPath path.text bundle package = .ok text) :
    ∃ entry ∈ bundle.packages, entry.identity = package.identity ∧
      text = payloadPath path bundle entry := by
  unfold localPayloadPath at h
  split at h
  · cases h
  · next entry hfind =>
      have hmem := List.mem_of_find?_eq_some hfind
      have hidentity : entry.identity = package.identity := by
        simpa using List.find?_some hfind
      refine ⟨entry, (List.mem_filter.mp (List.mem_reverse.mp hmem)).1, hidentity, ?_⟩
      rw [path.path_components_text] at h
      exact (Result.pure_eq_ok.mp h).symm

/-- The local paths of a validated bundle are those of its payloads. -/
theorem local_payloads_ok (h : ValidPayloads path bundle packages manager)
    {paths : Option (List String)}
    (hpaths : localPayloads packages (some path.text) (some bundle) = .ok paths) :
    ∃ texts, paths = some texts ∧ RetainedPaths path bundle packages manager texts := by
  obtain ⟨texts, htexts, heq⟩ := Result.bind_eq_ok.mp hpaths
  have hall := Result.mapM_eq_ok.mp htexts
  have hentry : ∀ text ∈ texts, ∃ entry ∈ bundle.packages,
      text = payloadPath path bundle entry := by
    intro text htext
    obtain ⟨package, -, hpackage⟩ := Result.forall₂_exists_left hall htext
    obtain ⟨entry, hentry, -, heq⟩ := local_payload_path_ok hpackage
    exact ⟨entry, hentry, heq⟩
  refine ⟨texts, (Result.pure_eq_ok.mp heq).symm, hall.length_eq.symm, ?_, ?_, ?_, ?_, ?_⟩
  · intro text htext
    obtain ⟨entry, hentry, rfl⟩ := hentry text htext
    exact payload_path_valid h hentry
  · intro text htext
    obtain ⟨entry, _, rfl⟩ := hentry text htext
    exact payload_path_no_dash entry
  · intro text htext
    obtain ⟨entry, hentry, rfl⟩ := hentry text htext
    exact payload_path_no_final_dash h hentry
  · intro text htext
    obtain ⟨entry, _, rfl⟩ := hentry text htext
    exact path_text_head _
  · -- Two packages with one path have one file name, hence one entry and one identity.
    refine Result.forall₂_nodup ?_ hall h.distinct
    intro package package' text hpackage hpackage'
    obtain ⟨entry, hmem, hidentity, rfl⟩ := local_payload_path_ok hpackage
    obtain ⟨entry', hmem', hidentity', heq⟩ := local_payload_path_ok hpackage'
    have hname := payload_path_injective h hmem hmem' heq
    rw [← hidentity, ← hidentity', List.inj_on_of_nodup_map h.filenames hmem hmem' hname]

/-! ## Sorted lists -/

/-- Sorting rearranges its values. -/
theorem sorted_perm (values : List String) : (sorted values).Perm values :=
  List.perm_insertionSort _ _

@[simp] theorem length_sorted (values : List String) : (sorted values).length = values.length :=
  (sorted_perm values).length_eq

@[simp] theorem mem_sorted {value : String} {values : List String} :
    value ∈ sorted values ↔ value ∈ values :=
  (sorted_perm values).mem_iff

@[simp] theorem nodup_sorted {values : List String} : (sorted values).Nodup ↔ values.Nodup :=
  (sorted_perm values).nodup_iff

@[simp] theorem sorted_eq_nil {values : List String} : sorted values = [] ↔ values = [] :=
  ⟨fun h => List.length_eq_zero_iff.mp (by rw [← length_sorted, h]; rfl), fun h => by rw [h]; rfl⟩

/-! ## Derived commands -/

/-- The number of parts of the derived command. -/
def derivedCommandParts (manager : PackageManager) (restored introduced : Nat) : Nat :=
  match manager with
  | .aptGet => 8 + restored + introduced
  | .dnf | .yum => 8 + 2 * restored + 2 * introduced
  | .zypper => 9 + restored + introduced

/-- The conditions under which the derived command fits the grammar. -/
structure AcceptedTransaction (manager : PackageManager) (packages : List PackageInfo)
    (introduced : List String) : Prop where
  parts : derivedCommandParts manager packages.length introduced.length ≤ maxCommandParts
  specs : manager = .dnf ∨ manager = .yum →
    (∀ package ∈ packages, validPackageSpec (rpmPackageSpec package) = true) ∧
      (packages.map rpmPackageSpec).Nodup

/-- An accepted command is loadable when its parts are few and not empty. -/
theorem loadable_command_of_allowed {command : List String} (hparts : "" ∉ command)
    (hallowed : allowedRollbackCommand command = true) :
    LoadableCommand command ↔ command.length ≤ maxCommandParts := by
  refine ⟨LoadableCommand.count, fun hcount => ⟨?_, hcount, hparts, hallowed⟩⟩
  rintro rfl
  exact absurd hallowed (by decide)

/-- A list with at most one derived command is read back exactly when that command is. -/
theorem derived_command_list_iff {nothing bound : Prop} [Decidable nothing]
    {command : List String} (hempty : nothing → bound)
    (hcommand : ¬ nothing → (LoadableCommand command ↔ bound)) :
    (((if nothing then [] else [command]).length ≤ maxSnapshotCommands ∧
      ∀ derived ∈ if nothing then [] else [command], LoadableCommand derived) ↔ bound) := by
  by_cases h : nothing
  · simp [if_pos h, hempty h]
  · simp [if_neg h, hcommand h, maxSnapshotCommands]

/-- A name that can be introduced is a package spec that does not start with a dash. -/
theorem introducible_spec {name : String} (h : introducible name = true) :
    name ≠ "" ∧ validPackageSpec name = true ∧ Text.startsWith name "-" = false := by
  simp only [introducible, Bool.and_eq_true] at h
  refine ⟨interesting_ne_empty h.1, h.2, ?_⟩
  have hspec := h.2
  simp only [validPackageSpec, Bool.and_eq_true, Bool.not_eq_true'] at hspec
  exact hspec.1

/-- The path of a retained payload is not empty. -/
theorem RetainedPaths.ne_empty {paths : List String}
    (h : RetainedPaths path bundle packages manager paths) : "" ∉ paths := by
  intro hmem
  obtain ⟨rest, hrest⟩ := h.slash "" hmem
  cases hrest

/-- The APT command over retained paths and removals is one that may be recorded. -/
theorem apt_command_allowed {paths removals : List String}
    (hpaths : RetainedPaths path bundle packages .aptGet paths)
    (hremovals : ∀ name ∈ removals, introducible name = true)
    (hne : paths ++ removals.map (· ++ "-") ≠ []) :
    allowedRollbackCommand (aptRestorePrefix ++ (paths ++ removals.map (· ++ "-"))) = true := by
  have hpath : paths.all allowedAptOperand = true := by
    rw [List.all_eq_true]
    intro text htext
    rw [allowedAptOperand, hpaths.noFinalDash text htext]
    exact hpaths.valid text htext
  have hremoval : (removals.map (· ++ "-")).all allowedAptOperand = true := by
    rw [List.all_map, List.all_eq_true]
    intro name hname
    have hdash : Text.endsWith (name ++ "-") "-" = true := by
      rw [ends_with_dash_iff]
      simp
    simp only [Function.comp, allowedAptOperand, hdash, if_true]
    simpa using (introducible_spec (hremovals name hname)).2.1
  have hdnf : dnfRestorePrefix.isPrefixOf
      (aptRestorePrefix ++ (paths ++ removals.map (· ++ "-"))) = false := by
    simp [dnfRestorePrefix, aptRestorePrefix, List.isPrefixOf]
  have hapt : aptRestorePrefix.isPrefixOf
      (aptRestorePrefix ++ (paths ++ removals.map (· ++ "-"))) = true := by
    rw [List.isPrefixOf_iff_prefix]
    exact List.prefix_append _ _
  have hdrop : (aptRestorePrefix ++ (paths ++ removals.map (· ++ "-"))).drop 8 =
      paths ++ removals.map (· ++ "-") := rfl
  rw [allowedRollbackCommand, hdnf, hapt, hdrop]
  simp only [Bool.false_eq_true, if_false, if_true, List.all_append, hpath, hremoval,
    Bool.and_self, Bool.and_true, Bool.not_eq_true', List.isEmpty_eq_false_iff]
  exact hne

/-- The Zypper command over retained paths and removals is one that may be recorded. -/
theorem zypper_command_allowed {paths removals : List String}
    (hpaths : RetainedPaths path bundle packages .zypper paths)
    (hremovals : ∀ name ∈ removals, introducible name = true)
    (hne : paths ++ removals.map ("-" ++ ·) ≠ []) :
    allowedRollbackCommand
      (zypperRestorePrefix ++ "--" :: (paths ++ removals.map ("-" ++ ·))) = true := by
  have hpath : paths.all allowedZypperOperand = true := by
    rw [List.all_eq_true]
    intro text htext
    rw [allowedZypperOperand, hpaths.noDash text htext]
    exact hpaths.valid text htext
  have hremoval : (removals.map ("-" ++ ·)).all allowedZypperOperand = true := by
    rw [List.all_map, List.all_eq_true]
    intro name hname
    have hdash : Text.startsWith ("-" ++ name) "-" = true := by
      rw [starts_with_dash_iff]
      simp
    simp only [Function.comp, allowedZypperOperand, hdash, if_true]
    simpa using (introducible_spec (hremovals name hname)).2.1
  have hlength : 10 ≤
      (zypperRestorePrefix ++ "--" :: (paths ++ removals.map ("-" ++ ·))).length := by
    have hpos := List.length_pos_iff.mpr hne
    simp only [zypperRestorePrefix, List.length_append, List.length_cons, List.length_nil] at hpos ⊢
    omega
  have hdrop : (zypperRestorePrefix ++ "--" :: (paths ++ removals.map ("-" ++ ·))).drop 9 =
      paths ++ removals.map ("-" ++ ·) := rfl
  have hmarker : (zypperRestorePrefix ++ "--" :: (paths ++ removals.map ("-" ++ ·)))[8]? =
      some "--" := rfl
  have hzypper : zypperRestorePrefix.isPrefixOf
      (zypperRestorePrefix ++ "--" :: (paths ++ removals.map ("-" ++ ·))) = true := by
    rw [List.isPrefixOf_iff_prefix]
    exact List.prefix_append _ _
  rw [allowedRollbackCommand, hzypper, hdrop, hmarker]
  simp only [List.all_append, hpath, hremoval, hlength]
  simp [dnfRestorePrefix, aptRestorePrefix, zypperRestorePrefix, dnfCommandWith]

/-- A list is cut at the first occurrence of a marker. -/
theorem cut_at_append {marker : String} {before after : List String} (h : marker ∉ before) :
    cutAt marker (before ++ marker :: after) = some (before, after) := by
  induction before with
  | nil => simp [cutAt]
  | cons part before ih =>
      have hpart : part ≠ marker := fun heq => h (by simp [heq])
      have hrest := ih fun hmem => h (List.mem_cons_of_mem _ hmem)
      simp [cutAt, hpart, hrest]

/-- The slices of a DNF transaction whose lists hold no marker are these lists. -/
theorem dnf_operands_of_no_marker {paths removals installs removed : List String}
    (hpaths : "--remove" ∉ paths) (hremovals : "--expect-install" ∉ removals)
    (hinstalls : "--expect-remove" ∉ installs) :
    dnfOperands? ((dnfLocalTransactionCommand true paths removals installs removed).drop 5) =
      some ⟨paths, removals, installs, removed⟩ := by
  have hdrop : (dnfLocalTransactionCommand true paths removals installs removed).drop 5 =
      paths ++ "--remove" :: (removals ++ "--expect-install" ::
        (installs ++ "--expect-remove" :: removed)) := by
    simp [dnfLocalTransactionCommand]
  simp only [hdrop, dnfOperands?, cut_at_append hpaths, cut_at_append hremovals,
    cut_at_append hinstalls, Option.bind_eq_bind, Option.bind_some]

/-- How often a marker occurs in a DNF transaction. -/
theorem dnf_marker_count {marker : String} {paths removals installs removed : List String}
    (hmarker : marker ∈ ["--remove", "--expect-install", "--expect-remove"]) :
    (dnfLocalTransactionCommand true paths removals installs removed).count marker =
      paths.count marker + removals.count marker + installs.count marker + removed.count marker +
        1 := by
  simp only [List.mem_cons, List.not_mem_nil, or_false] at hmarker
  rcases hmarker with rfl | rfl | rfl <;>
    simp [dnfLocalTransactionCommand, dnfLocalTransactionScript] <;> omega

/-- Whether a DNF command may be recorded is decided by the slices it is read into. -/
theorem allowed_dnf_command_eq {paths removals installs removed : List String} :
    allowedRollbackCommand (dnfLocalTransactionCommand true paths removals installs removed) =
      match dnfOperands? ((dnfLocalTransactionCommand true paths removals installs removed).drop 5)
      with
      | none => false
      | some operands =>
          allowedDnfOperands (dnfLocalTransactionCommand true paths removals installs removed)
            operands := by
  have hstart : dnfRestorePrefix.isPrefixOf
      (dnfLocalTransactionCommand true paths removals installs removed) = true := by
    rw [List.isPrefixOf_iff_prefix, dnfLocalTransactionCommand]
    simp only [List.append_assoc]
    exact List.prefix_append _ _
  unfold allowedRollbackCommand
  exact if_pos hstart

/-- A valid package spec is not one of the markers. -/
theorem marker_not_spec {marker : String}
    (hmarker : marker ∈ ["--remove", "--expect-install", "--expect-remove"]) :
    validPackageSpec marker = false := by
  simp only [List.mem_cons, List.not_mem_nil, or_false] at hmarker
  rcases hmarker with rfl | rfl | rfl <;> rfl

/-- The DNF command is accepted when the expected packages are distinct package specs. -/
theorem dnf_command_allowed_iff {paths removals : List String} (installs : List String)
    (hformat : expectedFormat manager = "rpm")
    (hpaths : RetainedPaths path bundle packages manager paths)
    (hremovals : ∀ name ∈ removals, introducible name = true) (hnodup : removals.Nodup)
    (hlength : paths.length = installs.length) (hne : ¬ (paths = [] ∧ removals = [])) :
    allowedRollbackCommand (dnfLocalTransactionCommand true paths removals installs removals) =
        true ↔
      (∀ spec ∈ installs, validPackageSpec spec = true) ∧ installs.Nodup := by
  have hpathMarker : ∀ marker ∈ ["--remove", "--expect-install", "--expect-remove"],
      marker ∉ paths := by
    intro marker hmarker hmem
    obtain ⟨rest, hrest⟩ := hpaths.slash marker hmem
    simp only [List.mem_cons, List.not_mem_nil, or_false] at hmarker
    rcases hmarker with rfl | rfl | rfl <;> simp at hrest
  have hremovalMarker : ∀ marker ∈ ["--remove", "--expect-install", "--expect-remove"],
      marker ∉ removals := by
    intro marker hmarker hmem
    have hspec := (introducible_spec (hremovals marker hmem)).2.1
    rw [marker_not_spec hmarker] at hspec
    cases hspec
  -- The operands are split at the markers: neither a path nor a removal is one, an install may be.
  have hcount : ∀ marker ∈ ["--remove", "--expect-install", "--expect-remove"],
      (dnfLocalTransactionCommand true paths removals installs removals).count marker =
        installs.count marker + 1 := by
    intro marker hmarker
    rw [dnf_marker_count hmarker, List.count_eq_zero_of_not_mem (hpathMarker marker hmarker),
      List.count_eq_zero_of_not_mem (hremovalMarker marker hmarker)]
    omega
  have hvalidPaths : paths.all (validLocalPayloadPath "rpm") = true := by
    rw [List.all_eq_true, ← hformat]
    exact hpaths.valid
  have hvalidRemovals : (removals.isEmpty || validPackageSpecs removals) = true := by
    cases removals with
    | nil => rfl
    | cons name names =>
        have hall : ∀ other ∈ name :: names, validPackageSpec other = true :=
          fun other hother => (introducible_spec (hremovals other hother)).2.1
        simpa [validPackageSpecs] using hall
  rw [allowed_dnf_command_eq]
  constructor
  · intro h
    have hmarkers : ∀ marker ∈ ["--remove", "--expect-install", "--expect-remove"],
        (dnfLocalTransactionCommand true paths removals installs removals).count marker = 1 := by
      split at h
      · cases h
      · simp only [allowedDnfOperands, Bool.and_eq_true, beq_iff_eq] at h
        simp [h]
    -- A marker among the installs would stand twice in the command, which the grammar refuses.
    have hinstalls : "--expect-remove" ∉ installs := by
      rw [← List.count_eq_zero]
      have hone := hmarkers "--expect-remove" (by simp)
      rw [hcount "--expect-remove" (by simp)] at hone
      omega
    rw [dnf_operands_of_no_marker (hpathMarker _ (by simp)) (hremovalMarker _ (by simp))
      hinstalls] at h
    simp only [allowedDnfOperands, Bool.and_eq_true, decide_eq_true_eq, Bool.or_eq_true,
      List.isEmpty_iff, validPackageSpecs, List.all_eq_true] at h
    obtain ⟨⟨⟨⟨⟨⟨-, hdistinct⟩, -⟩, -⟩, -⟩, hspecs⟩, -⟩ := h
    refine ⟨?_, hdistinct⟩
    rcases hspecs with rfl | hspecs
    · simp
    · exact hspecs.2
  · rintro ⟨hspecs, hdistinct⟩
    have hnone : ∀ marker ∈ ["--remove", "--expect-install", "--expect-remove"],
        marker ∉ installs := by
      intro marker hmarker hmem
      have hspec := hspecs marker hmem
      rw [marker_not_spec hmarker] at hspec
      cases hspec
    have hone : ∀ marker ∈ ["--remove", "--expect-install", "--expect-remove"],
        (dnfLocalTransactionCommand true paths removals installs removals).count marker = 1 := by
      intro marker hmarker
      rw [hcount marker hmarker, List.count_eq_zero_of_not_mem (hnone marker hmarker)]
    have hvalidInstalls : (installs.isEmpty || validPackageSpecs installs) = true := by
      cases installs with
      | nil => rfl
      | cons spec specs => simpa [validPackageSpecs] using hspecs
    rw [dnf_operands_of_no_marker (hpathMarker _ (by simp)) (hremovalMarker _ (by simp))
      (hnone _ (by simp))]
    simp only [allowedDnfOperands, hone "--remove" (by simp), hone "--expect-install" (by simp),
      hone "--expect-remove" (by simp), hlength, hpaths.distinct, hnodup, hdistinct, hvalidPaths,
      hvalidRemovals, hvalidInstalls]
    have hsome : paths ≠ [] ∨ removals ≠ [] := Decidable.not_and_iff_not_or_not.mp hne
    simpa using hsome

/-- The specs of the restored RPM packages: every package is one. -/
theorem restored_rpms (h : ValidPayloads path bundle packages manager)
    (hformat : expectedFormat manager = "rpm") :
    packages.filter (fun package => package.manager = some "rpm") = packages := by
  rw [List.filter_eq_self]
  intro package hpackage
  have hcomplete := h.complete package hpackage
  simp only [completeIdentity, Bool.and_eq_true, beq_iff_eq] at hcomplete
  have hmanager : expectedManager manager = "rpm" := by
    cases manager with
    | aptGet => exact absurd hformat (by decide)
    | dnf | yum | zypper => rfl
  simp [hcomplete.1.1.1.2, hmanager]

variable {all : List PackageInfo} {introduced : List String} {commands : List (List String)}

/-- The DNF and YUM case of the derived command. -/
theorem derived_dnf_command_iff (h : ValidPayloads path bundle packages manager)
    (hmanager : manager = .dnf ∨ manager = .yum) {paths : List String}
    (hpaths : RetainedPaths path bundle packages manager paths)
    (hintroduced : ∀ name ∈ introduced, introducible name = true) (hnodup : introduced.Nodup)
    (hne : ¬ (paths = [] ∧ sorted introduced = [])) :
    LoadableCommand (dnfLocalTransactionCommand true paths (sorted introduced)
        (sorted ((packages.filter fun package => package.manager = some "rpm").map rpmPackageSpec))
        (sorted (sorted introduced))) ↔
      AcceptedTransaction manager packages introduced := by
  have hformat : expectedFormat manager = "rpm" := by
    rcases hmanager with rfl | rfl <;> rfl
  rw [restored_rpms h hformat]
  have hsorted : sorted (sorted introduced) = sorted introduced :=
    (List.pairwise_insertionSort (· ≤ ·) introduced).insertionSort_eq
  rw [hsorted]
  have hremovals : ∀ name ∈ sorted introduced, introducible name = true := by
    intro name hname
    exact hintroduced name (mem_sorted.mp hname)
  have hallowed := dnf_command_allowed_iff (sorted (packages.map rpmPackageSpec))
    hformat hpaths hremovals (nodup_sorted.mpr hnodup) (by simp [hpaths.length]) hne
  have hlength : (dnfLocalTransactionCommand true paths (sorted introduced)
      (sorted (packages.map rpmPackageSpec)) (sorted introduced)).length =
        derivedCommandParts manager packages.length introduced.length := by
    rcases hmanager with rfl | rfl <;>
      simp [dnfLocalTransactionCommand, derivedCommandParts, hpaths.length] <;> omega
  have hparts : "" ∉ dnfLocalTransactionCommand true paths (sorted introduced)
      (sorted (packages.map rpmPackageSpec)) (sorted introduced) := by
    have hname : "" ∉ introduced := by
      intro hmem
      exact (introducible_spec (hintroduced "" hmem)).1 rfl
    have hspec : ∀ package : PackageInfo, rpmPackageSpec package ≠ "" := by
      intro package heq
      have hchars := congrArg String.toList heq
      simp [rpmPackageSpec] at hchars
    simp [dnfLocalTransactionCommand, dnfLocalTransactionScript, hpaths.ne_empty, hname, hspec]
  constructor
  · intro hload
    obtain ⟨hspecs, hdistinct⟩ := hallowed.mp hload.allowed
    refine ⟨hlength ▸ hload.count, fun _ => ⟨?_, nodup_sorted.mp hdistinct⟩⟩
    simpa using hspecs
  · intro haccepted
    obtain ⟨hspecs, hdistinct⟩ := haccepted.specs hmanager
    have hcommand := hallowed.mpr ⟨by simpa using hspecs, nodup_sorted.mpr hdistinct⟩
    exact (loadable_command_of_allowed hparts hcommand).mpr (hlength ▸ haccepted.parts)

/-- The derived commands are loadable exactly when the derived transaction is accepted. -/
theorem derived_commands_loadable_iff
    (h : ValidPayloads path bundle (restoredPackages all) manager)
    (hintroduced : ∀ name ∈ introduced, introducible name = true) (hnodup : introduced.Nodup)
    (hcommands : rollbackCommands all (some manager) introduced (some path.text) (some bundle) =
      .ok commands) :
    (commands.length ≤ maxSnapshotCommands ∧ ∀ command ∈ commands, LoadableCommand command) ↔
      AcceptedTransaction manager (restoredPackages all) introduced := by
  obtain ⟨found, hfound, hcommands⟩ := Result.bind_eq_ok.mp hcommands
  obtain ⟨paths, rfl, hpaths⟩ := local_payloads_ok h hfound
  have hremovals : ∀ name ∈ sorted introduced, introducible name = true := by
    intro name hname
    exact hintroduced name (mem_sorted.mp hname)
  -- A transaction without packages is within every bound.
  have hempty : paths = [] → introduced = [] →
      AcceptedTransaction manager (restoredPackages all) introduced := by
    rintro rfl rfl
    have hnone : restoredPackages all = [] := List.length_eq_zero_iff.mp hpaths.length.symm
    rw [hnone]
    refine ⟨by cases manager <;> decide, fun _ => ⟨by simp, by simp⟩⟩
  simp only [hnodup.dedup, Option.getD_some, Option.getD_none] at hcommands
  cases manager with
  | aptGet =>
      obtain rfl := Result.pure_eq_ok.mp hcommands
      refine derived_command_list_iff ?_ ?_
      · intro hnil
        obtain ⟨hnone, hnone'⟩ := List.append_eq_nil_iff.mp hnil
        exact hempty hnone (by simpa using hnone')
      · intro hne
        rw [loadable_command_of_allowed (by simp [aptRestorePrefix, hpaths.ne_empty])
          (apt_command_allowed hpaths hremovals hne)]
        have hlength : (aptRestorePrefix ++ (paths ++ (sorted introduced).map (· ++ "-"))).length =
            derivedCommandParts .aptGet (restoredPackages all).length introduced.length := by
          simp [aptRestorePrefix, derivedCommandParts, hpaths.length]
          omega
        rw [hlength]
        refine ⟨fun hparts => ⟨hparts, ?_⟩, AcceptedTransaction.parts⟩
        rintro (hno | hno) <;> cases hno
  | zypper =>
      obtain rfl := Result.pure_eq_ok.mp hcommands
      refine derived_command_list_iff ?_ ?_
      · intro hnil
        obtain ⟨hnone, hnone'⟩ := List.append_eq_nil_iff.mp hnil
        exact hempty hnone (by simpa using hnone')
      · intro hne
        rw [loadable_command_of_allowed (by simp [zypperRestorePrefix, hpaths.ne_empty])
          (zypper_command_allowed hpaths hremovals hne)]
        have hlength : (zypperRestorePrefix ++ "--" ::
            (paths ++ (sorted introduced).map ("-" ++ ·))).length =
              derivedCommandParts .zypper (restoredPackages all).length introduced.length := by
          simp [zypperRestorePrefix, derivedCommandParts, hpaths.length]
          omega
        rw [hlength]
        refine ⟨fun hparts => ⟨hparts, ?_⟩, AcceptedTransaction.parts⟩
        rintro (hno | hno) <;> cases hno
  | dnf =>
      obtain rfl := Result.pure_eq_ok.mp hcommands
      refine derived_command_list_iff ?_ ?_
      · rintro ⟨hnone, hnone'⟩
        exact hempty hnone (by simpa using hnone')
      · exact derived_dnf_command_iff h (.inl rfl) hpaths hintroduced hnodup
  | yum =>
      obtain rfl := Result.pure_eq_ok.mp hcommands
      refine derived_command_list_iff ?_ ?_
      · rintro ⟨hnone, hnone'⟩
        exact hempty hnone (by simpa using hnone')
      · exact derived_dnf_command_iff h (.inr rfl) hpaths hintroduced hnodup

end NvidiaConverge
