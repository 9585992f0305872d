import NvidiaConverge.Rollback.Delta

/-!
# Operands of a rollback

The preflight reads the operands of the derived commands back from their text and resolves them
against the snapshot and the audit. `derived_rollback_commands` says which commands those are
for a snapshot whose payloads are retained, `derived_restore_specs` and `derived_remove_specs`
what is read back.
-/

namespace NvidiaConverge

open Posix (AbsolutePath)

/-- `_apt_restore_spec`: the operand that restores an installed APT package. -/
def aptRestoreSpec (package : PackageInfo) : Option String :=
  if package.installed && package.manager == some "apt" && truthy package.version then
    some (aptPackageSpec package)
  else none

/-- `_apt_remove_spec`: the operand that removes an installed APT package. -/
def aptRemoveSpec (package : PackageInfo) : Option String :=
  if package.installed && package.manager == some "apt" then some (aptRemovalSpec package)
  else none

/-- `_snapshot_payload_operand`: the path of the package's payload, or its specification where the
snapshot retains none. -/
def snapshotPayloadOperand (snapshot : RollbackSnapshot) (package : PackageInfo) : String :=
  match snapshot.path, snapshot.packagePayloads with
  | some path, some bundle =>
      match bundle.packages.find? fun entry =>
          entry.roles.contains "baseline" && entry.identity = package.identity with
      | none => ""
      | some payload =>
          Posix.pathText (((Posix.pathComponents path).getD []).dropLast ++
            [bundle.directory, payload.filename])
  | _, _ =>
      match snapshot.packageManager with
      | some .aptGet => (aptRestoreSpec package).getD ""
      | some .dnf | some .yum => rpmPackageSpec package
      | some .zypper => zypperPackageSpec package
      | none => ""

/-- The fixed parts of a DNF local transaction. -/
def dnfScriptPrefix : List String :=
  ["python3", "-I", "-c", dnfLocalTransactionScript]

/-- The operands of a command that are not options. -/
def plainOperands (operands : List String) : List String :=
  operands.filter fun operand => !Text.startsWith operand "-"

/-- Whether the program of a command is DNF or YUM. -/
def isDnfProgram (command : List String) : Bool :=
  command.head?.any (["dnf", "yum"].contains ·)

/-- `_rollback_restore_specs`: the operands of a command that restore packages. -/
def rollbackRestoreSpecs (command : List String) : List String :=
  if dnfScriptPrefix.isPrefixOf command then
    match cutAt "--remove" (command.drop 5) with
    | none => []
    | some (restorePaths, _) => restorePaths
  else if ["apt-get", "install"].isPrefixOf command then
    (plainOperands (command.drop 2)).filter fun operand => !Text.endsWith operand "-"
  else if isDnfProgram command then
    match (cutAt "install-nevra" command).or (cutAt "install" command) with
    | none => []
    | some (_, operands) => plainOperands operands
  else if ["zypper", "--non-interactive"].isPrefixOf command then
    match cutAt "--" command with
    | none => []
    | some (_, operands) => plainOperands operands
  else []

/-- `_rollback_remove_specs`: the operands of a command that remove packages. -/
def rollbackRemoveSpecs (command : List String) : List String :=
  if dnfScriptPrefix.isPrefixOf command then
    match (cutAt "--remove" (command.drop 5)).bind fun (_, rest) =>
      cutAt "--expect-install" rest with
    | none => []
    | some (removeSpecs, _) => removeSpecs
  else if ["apt-get", "install"].isPrefixOf command then
    ((plainOperands (command.drop 2)).filter (Text.endsWith · "-")).map fun operand =>
      String.ofList operand.toList.dropLast
  else if isDnfProgram command then
    plainOperands (command.dropWhile fun part =>
      !(["remove", "remove-n", "remove-nevra"].contains part)).tail
  else if ["zypper", "--non-interactive"].isPrefixOf command then
    match cutAt "--" command with
    | none => []
    | some (_, operands) =>
        (operands.filter (Text.startsWith · "-")).map fun operand =>
          String.ofList operand.toList.tail
  else []

/-- The values behind `--expect-install` and `--expect-remove` of a DNF local transaction. -/
def dnfExpectations (command : List String) : List String × List String :=
  match dnfOperands? (command.drop 5) with
  | none => ([], [])
  | some operands => (operands.expectedInstalls, operands.expectedRemovals)

/-! ## Retained baselines -/

/-- A snapshot of a package manager whose baseline packages are all retained and validated. -/
structure RetainedBaseline (snapshot : RollbackSnapshot) (manager : PackageManager)
    (path : AbsolutePath) (bundle : PackagePayloadBundle) : Prop where
  located : snapshot.path = some path.text
  backend : snapshot.packageManager = some manager
  retained : snapshot.packagePayloads = some bundle
  payloads : ValidPayloads path bundle snapshot.packages manager
  inventory : Inventory manager snapshot.packages

variable {snapshot : RollbackSnapshot} {audit : HostAudit} {manager : PackageManager}
  {path : AbsolutePath} {bundle : PackagePayloadBundle} {package other : PackageInfo}

/-- Payload identities of inventory rows are state identities. -/
theorem state_of_identity (h : InventoryRow manager package) (h' : InventoryRow manager other)
    (heq : package.identity = other.identity) :
    packageStateIdentity package = packageStateIdentity other := by
  obtain ⟨architecture, harch, -⟩ := h.architecture_known
  obtain ⟨architecture', harch', -⟩ := h'.architecture_known
  have hversion := h.version_truthy
  have hversion' := h'.version_truthy
  simp only [PackageInfo.identity, PackageIdentity.mk.injEq, harch, harch', Option.getD_some]
    at heq
  cases hv : package.version with
  | none => simp [hv, truthy] at hversion
  | some version =>
      cases hv' : other.version with
      | none => simp [hv', truthy] at hversion'
      | some version' =>
          simp only [hv, hv', Option.getD_some] at heq
          simp [packageStateIdentity, harch, harch', hv, hv', heq]

/-- The one retained file of a baseline package. -/
theorem RetainedBaseline.entry (h : RetainedBaseline snapshot manager path bundle)
    (hmem : package ∈ snapshot.packages) :
    ∃ entry ∈ bundle.packages, entry.identity = package.identity ∧
      localPayloadPath path.text bundle package = .ok (payloadPath path bundle entry) ∧
      snapshotPayloadOperand snapshot package = payloadPath path bundle entry := by
  have hheld := h.payloads.oneToOne
  simp only [sameMembers, Bool.and_eq_true, List.all_eq_true, List.contains_iff_mem] at hheld
  obtain ⟨entry, hentry, hidentity⟩ := List.mem_map.mp
    (hheld.2 package.identity (List.mem_map_of_mem hmem))
  obtain ⟨hentry, hrole⟩ := List.mem_filter.mp hentry
  -- Identities are distinct, so the first and the last entry of one identity are the same.
  have honly : ∀ found ∈ bundle.packages, found.identity = package.identity → found = entry := by
    intro found hfound heq
    exact List.inj_on_of_nodup_map h.payloads.identities hfound hentry (heq.trans hidentity.symm)
  have hfind : ∀ entries : List PackagePayload, (∀ found ∈ entries, found ∈ bundle.packages) →
      entry ∈ entries → ∀ accepts : PackagePayload → Bool,
        (∀ found, accepts found = true → found.identity = package.identity) →
        accepts entry = true → entries.find? accepts = some entry := by
    intro entries hsub hin accepts hsound haccepted
    cases hfound : entries.find? accepts with
    | none => exact absurd haccepted (by simpa using List.find?_eq_none.mp hfound entry hin)
    | some found =>
        rw [honly found (hsub found (List.mem_of_find?_eq_some hfound))
          (hsound found (List.find?_some hfound))]
  refine ⟨entry, hentry, hidentity, ?_, ?_⟩
  · rw [localPayloadPath, hfind _ (fun found hfound => (List.mem_filter.mp
      (List.mem_reverse.mp hfound)).1) (List.mem_reverse.mpr (List.mem_filter.mpr ⟨hentry, hrole⟩))
      _ (fun found hfound => by simpa using hfound) (by simpa using hidentity),
      path.path_components_text]
    rfl
  · rw [snapshotPayloadOperand, h.located, h.retained]
    simp only []
    rw [hfind _ (fun _ hfound => hfound) hentry _ (fun found hfound => by
      simp only [Bool.and_eq_true, decide_eq_true_eq] at hfound
      exact hfound.2) (by rw [hrole]; simp [hidentity]), path.path_components_text]
    rfl

/-- Retained files tell baseline packages apart. -/
theorem RetainedBaseline.operand_injective (h : RetainedBaseline snapshot manager path bundle)
    (hmem : package ∈ snapshot.packages) (hother : other ∈ snapshot.packages)
    (heq : snapshotPayloadOperand snapshot package = snapshotPayloadOperand snapshot other) :
    packageStateIdentity package = packageStateIdentity other := by
  obtain ⟨entry, hentry, hidentity, -, hoperand⟩ := h.entry hmem
  obtain ⟨entry', hentry', hidentity', -, hoperand'⟩ := h.entry hother
  rw [hoperand, hoperand'] at heq
  have hname := payload_path_injective h.payloads hentry hentry' heq
  obtain rfl := List.inj_on_of_nodup_map h.payloads.filenames hentry hentry' hname
  exact state_of_identity (h.inventory.rows package hmem) (h.inventory.rows other hother)
    (hidentity.symm.trans hidentity')

/-- The local paths of restored packages are their operands. -/
theorem RetainedBaseline.local_payloads (h : RetainedBaseline snapshot manager path bundle)
    {packages : List PackageInfo} (hsub : ∀ package ∈ packages, package ∈ snapshot.packages) :
    localPayloads packages (some path.text) (some bundle) =
      .ok (some (packages.map (snapshotPayloadOperand snapshot))) := by
  have hpaths : packages.mapM (localPayloadPath path.text bundle) =
      .ok (packages.map (snapshotPayloadOperand snapshot)) := by
    rw [Result.mapM_eq_ok]
    induction packages with
    | nil => exact .nil
    | cons package packages ih =>
        obtain ⟨entry, -, -, hlocal, hoperand⟩ := h.entry (hsub package List.mem_cons_self)
        exact .cons (hoperand ▸ hlocal) (ih fun other hother => hsub other
          (List.mem_cons_of_mem _ hother))
  rw [localPayloads, hpaths]
  rfl

/-- An operand of a retained package is a path. -/
theorem RetainedBaseline.operand_dashes (h : RetainedBaseline snapshot manager path bundle)
    (hmem : package ∈ snapshot.packages) :
    Text.startsWith (snapshotPayloadOperand snapshot package) "-" = false ∧
      Text.endsWith (snapshotPayloadOperand snapshot package) "-" = false := by
  obtain ⟨entry, hentry, -, -, hoperand⟩ := h.entry hmem
  rw [hoperand]
  exact ⟨payload_path_no_dash entry, payload_path_no_final_dash h.payloads hentry⟩

/-! ## Derived commands -/

/-- The command by which a package manager carries out a delta. -/
def deltaCommand (manager : PackageManager) (paths removals expectedInstalls
    expectedRemovals : List String) : List String :=
  match manager with
  | .aptGet => aptRestorePrefix ++ (paths ++ removals.map (· ++ "-"))
  | .zypper => zypperRestorePrefix ++ "--" :: (paths ++ removals.map ("-" ++ ·))
  | .dnf | .yum => dnfLocalTransactionCommand true paths removals expectedInstalls expectedRemovals

/-- The removals of the delta between a snapshot and an audit. -/
def deltaRemovals (snapshot : RollbackSnapshot) (audit : HostAudit) : List String :=
  packageRemovalSpecs (addedPackages snapshot audit) snapshot.packageManager

/-- The retained files of the delta between a snapshot and an audit. -/
def deltaPaths (snapshot : RollbackSnapshot) (audit : HostAudit) : List String :=
  (restorePackages snapshot audit).map (snapshotPayloadOperand snapshot)

/-- The installs that a DNF transaction for the delta must list. -/
def deltaInstallSpecs (snapshot : RollbackSnapshot) (audit : HostAudit) : List String :=
  sorted ((restorePackages snapshot audit).map rpmPackageSpec)

/-- The removals that a DNF transaction for the delta must list. -/
def deltaRemovalSpecs (snapshot : RollbackSnapshot) (audit : HostAudit) : List String :=
  sorted (deltaRemovals snapshot audit ++
    (displacedRpmPackages snapshot audit).map rpmPackageSpec).dedup

@[simp] theorem sorted_sorted (values : List String) : sorted (sorted values) = sorted values :=
  (List.pairwise_insertionSort (· ≤ ·) values).insertionSort_eq

/-- The removals of a delta are sorted and distinct already. -/
theorem sorted_delta_removals :
    sorted (deltaRemovals snapshot audit).dedup = deltaRemovals snapshot audit := by
  unfold deltaRemovals packageRemovalSpecs
  split
  · rfl
  · next manager _ =>
      have hnodup := nodup_sorted.mpr (List.nodup_dedup
        ((addedPackages snapshot audit).map (removalSpec manager)))
      rw [hnodup.dedup, sorted_sorted]

/-- Restored packages are rows of the baseline. -/
theorem restore_packages_subset (h : Inventory manager snapshot.packages) :
    ∀ package ∈ restorePackages snapshot audit, package ∈ snapshot.packages :=
  fun _ hpackage => ((mem_restore_packages h).mp hpackage).1

/-- `_rollback_commands` restores every restored package. -/
theorem restored_restore_packages (h : Inventory manager snapshot.packages) :
    restoredPackages (restorePackages snapshot audit) = restorePackages snapshot audit := by
  refine List.filter_eq_self.mpr fun package hpackage => ?_
  have hrow := h.rows package (restore_packages_subset h package hpackage)
  simp [hrow.installed, hrow.version_truthy, hrow.interesting]

/-- Every restored package of an RPM baseline is an RPM package. -/
theorem restored_rpm_packages (h : Inventory manager snapshot.packages)
    (hmanager : manager ≠ .aptGet) :
    restoredRpmPackages snapshot audit = restorePackages snapshot audit := by
  refine List.filter_eq_self.mpr fun package hpackage => ?_
  have hrow := h.rows package (restore_packages_subset h package hpackage)
  have hrpm : package.manager = some "rpm" := by
    rw [hrow.backend, expectedManager, if_neg hmanager]
  simp [hrow.installed, hrow.version_truthy, hrow.interesting, hrpm]

/-- `_rollback_commands` on retained packages: nothing, or one command. -/
theorem rollback_commands_retained {packages : List PackageInfo} {removals paths : List String}
    {snapshotPath : Option String} {payloads : Option PackagePayloadBundle}
    {options : RollbackCommandOptions} (hrestored : restoredPackages packages = packages)
    (hsorted : sorted removals.dedup = removals)
    (hpaths : localPayloads packages snapshotPath payloads = .ok (some paths)) :
    rollbackCommands packages (some manager) removals snapshotPath payloads options =
      .ok (if paths = [] ∧ removals = [] then []
        else
          [deltaCommand manager paths removals
            (sorted (options.expectedRpmInstalls.getD
              ((packages.filter fun package => package.manager = some "rpm").map rpmPackageSpec)))
            (sorted (options.expectedRpmRemovals.getD removals))]) := by
  unfold rollbackCommands
  simp only [hrestored, hsorted, hpaths, Result.ok_bind, Option.getD_some]
  cases manager with
  | aptGet | zypper => simp only [List.append_eq_nil_iff, List.map_eq_nil_iff]; rfl
  | dnf | yum => rfl

/-- The commands of a delta: none, or the one that carries it. -/
theorem derived_rollback_commands (h : RetainedBaseline snapshot manager path bundle)
    (audit : HostAudit) :
    rollbackPackageCommands snapshot (some audit) =
      .ok (if deltaPaths snapshot audit = [] ∧ deltaRemovals snapshot audit = [] then []
        else
          [deltaCommand manager (deltaPaths snapshot audit) (deltaRemovals snapshot audit)
            (deltaInstallSpecs snapshot audit) (deltaRemovalSpecs snapshot audit)]) := by
  have hpaths : localPayloads (restorePackages snapshot audit) snapshot.path
      snapshot.packagePayloads = .ok (some (deltaPaths snapshot audit)) := by
    rw [h.located, h.retained]
    exact h.local_payloads (restore_packages_subset h.inventory)
  have hrestore : (auditedDelta snapshot audit).restorePackages =
      restorePackages snapshot audit := by
    unfold auditedDelta
    split <;> rfl
  have hremove : (auditedDelta snapshot audit).removePackages = deltaRemovals snapshot audit := by
    unfold auditedDelta
    split <;> rfl
  show rollbackCommands (auditedDelta snapshot audit).restorePackages snapshot.packageManager
    (auditedDelta snapshot audit).removePackages snapshot.path snapshot.packagePayloads
    { exactRemovals := true
      expectedRpmInstalls := (auditedDelta snapshot audit).expectedRpmInstalls
      expectedRpmRemovals := (auditedDelta snapshot audit).expectedRpmRemovals } = _
  rw [hrestore, hremove, h.backend, rollback_commands_retained
    (restored_restore_packages h.inventory) sorted_delta_removals hpaths]
  cases manager with
  | aptGet | zypper => rfl
  | dnf | yum =>
      have hrpm : snapshot.packageManager = some .dnf ∨ snapshot.packageManager = some .yum := by
        simp [h.backend]
      unfold auditedDelta
      simp only [if_pos hrpm, Option.getD_some, sorted_sorted,
        restored_rpm_packages h.inventory (show _ ≠ PackageManager.aptGet by decide)]
      rfl

/-! ## Reading a delta back -/

/-- A text that starts with a name of the stack is no option. -/
theorem interesting_no_dash {name : String} (h : interestingPackage name = true) (rest : String) :
    Text.startsWith (name ++ rest) "-" = false := by
  have hhead : ∃ c cs, name.toList = c :: cs ∧ c ≠ '-' := by
    simp only [interestingPackage, Bool.or_eq_true, List.any_eq_true, List.contains_iff_mem] at h
    rcases h with (⟨start, hstart, hstart⟩ | hname) | hname
    · rw [Text.startsWith, List.isPrefixOf_iff_prefix] at hstart
      obtain ⟨cs, hcs⟩ := hstart
      simp only [List.mem_cons, List.not_mem_nil, or_false] at hstart
      rcases hstart with rfl | rfl | rfl | rfl | rfl | rfl <;>
        exact ⟨_, _, hcs.symm, by decide⟩
    · simp only [List.mem_cons, List.not_mem_nil, or_false] at hname
      rcases hname with rfl | rfl | rfl | rfl | rfl | rfl | rfl | rfl | rfl <;>
        exact ⟨_, _, rfl, by decide⟩
    · simp only [List.mem_cons, List.not_mem_nil, or_false] at hname
      rcases hname with rfl | rfl | rfl <;> exact ⟨_, _, rfl, by decide⟩
  obtain ⟨c, cs, hcs, hne⟩ := hhead
  rw [← Bool.not_eq_true, starts_with_dash_iff, String.toList_append, hcs]
  simpa using hne

/-- Operands that the readers cannot mistake for options or for each other. -/
structure ReadableDelta (paths removals installs : List String) : Prop where
  paths : ∀ text ∈ paths, Text.startsWith text "-" = false ∧ Text.endsWith text "-" = false
  removals : ∀ spec ∈ removals, Text.startsWith spec "-" = false ∧ spec ≠ ""
  installs : ∀ spec ∈ installs, Text.startsWith spec "-" = false

variable {paths removals installs removed : List String}

/-- An option is not among operands that start without a dash. -/
theorem option_not_mem {option : String} (hoption : Text.startsWith option "-" = true)
    {operands : List String} (h : ∀ text ∈ operands, Text.startsWith text "-" = false) :
    option ∉ operands := by
  intro hmem
  rw [h option hmem] at hoption
  cases hoption

/-- The operand of an APT removal is no option, and gives back what it removes. -/
theorem apt_removal_operand {spec : String} (hdash : Text.startsWith spec "-" = false)
    (hne : spec ≠ "") :
    Text.startsWith (spec ++ "-") "-" = false ∧ Text.endsWith (spec ++ "-") "-" = true ∧
      String.ofList (spec ++ "-").toList.dropLast = spec := by
  refine ⟨?_, ?_, ?_⟩
  · rw [← Bool.not_eq_true, starts_with_dash_iff] at hdash ⊢
    rw [String.toList_append]
    cases hchars : spec.toList with
    | nil => exact absurd (String.toList_inj.mp hchars) hne
    | cons c cs =>
        rw [hchars] at hdash
        simpa using hdash
  · rw [ends_with_dash_iff]
    simp
  · simp

/-- Operands that start without a dash are plain. -/
theorem plain_operands_self {operands : List String}
    (h : ∀ text ∈ operands, Text.startsWith text "-" = false) :
    plainOperands operands = operands :=
  List.filter_eq_self.mpr fun text htext => by simp [h text htext]

/-- The plain operands of two parts are those of the first and then those of the second. -/
theorem plain_operands_append (front back : List String) :
    plainOperands (front ++ back) = plainOperands front ++ plainOperands back :=
  List.filter_append ..

/-- The plain operands of an APT restore are its paths and its removals. -/
theorem apt_plain_operands (h : ReadableDelta paths removals installs) :
    plainOperands ((aptRestorePrefix ++ (paths ++ removals.map (· ++ "-"))).drop 2) =
      paths ++ removals.map (· ++ "-") := by
  show plainOperands (["-y", "--allow-change-held-packages", "--allow-downgrades",
    "--no-download", "--no-install-recommends", "--purge"] ++ _) = _
  have hremovals : ∀ text ∈ removals.map (· ++ "-"), Text.startsWith text "-" = false := by
    intro text htext
    obtain ⟨spec, hspec, rfl⟩ := List.mem_map.mp htext
    obtain ⟨hdash, hne⟩ := h.removals spec hspec
    exact (apt_removal_operand hdash hne).1
  rw [plain_operands_append, plain_operands_append,
    plain_operands_self fun text htext => (h.paths text htext).1, plain_operands_self hremovals]
  rfl

/-- The operands of a local DNF transaction are its four slices with their separators. -/
theorem dnf_command_operands {apply : Bool} :
    (dnfLocalTransactionCommand apply paths removals installs removed).drop 5 =
      paths ++ "--remove" :: (removals ++ "--expect-install" ::
        (installs ++ "--expect-remove" :: removed)) := by
  simp [dnfLocalTransactionCommand]

/-- The restore operands of a delta's command are its paths. -/
theorem restore_specs_delta_command (h : ReadableDelta paths removals installs) :
    rollbackRestoreSpecs (deltaCommand manager paths removals installs removed) = paths := by
  have hpaths : ∀ text ∈ paths, Text.startsWith text "-" = false := fun text htext =>
    (h.paths text htext).1
  cases manager with
  | aptGet =>
      show (plainOperands ((aptRestorePrefix ++ (paths ++ removals.map (· ++ "-"))).drop 2)).filter
        _ = paths
      rw [apt_plain_operands h, List.filter_append, List.filter_eq_self.mpr,
        List.filter_eq_nil_iff.mpr,
        List.append_nil]
      · intro text htext
        obtain ⟨spec, hspec, rfl⟩ := List.mem_map.mp htext
        obtain ⟨hdash, hne⟩ := h.removals spec hspec
        simp [(apt_removal_operand hdash hne).2.1]
      · intro text htext
        simp [(h.paths text htext).2]
  | zypper =>
      show plainOperands (paths ++ removals.map ("-" ++ ·)) = paths
      have hoptions : plainOperands (removals.map ("-" ++ ·)) = [] := by
        refine List.filter_eq_nil_iff.mpr fun text htext => ?_
        obtain ⟨spec, -, rfl⟩ := List.mem_map.mp htext
        simp [starts_with_dash_iff.mpr]
      rw [plain_operands_append, plain_operands_self hpaths, hoptions, List.append_nil]
  | dnf | yum =>
      show (match cutAt "--remove"
        ((dnfLocalTransactionCommand true paths removals installs removed).drop 5) with
          | none => []
          | some (restorePaths, _) => restorePaths) = paths
      rw [dnf_command_operands, cut_at_append (option_not_mem rfl hpaths)]

/-- The removal operands of a delta's command are its removals. -/
theorem remove_specs_delta_command (h : ReadableDelta paths removals installs) :
    rollbackRemoveSpecs (deltaCommand manager paths removals installs removed) = removals := by
  have hpaths : ∀ text ∈ paths, Text.startsWith text "-" = false := fun text htext =>
    (h.paths text htext).1
  have hremovals : ∀ spec ∈ removals, Text.startsWith spec "-" = false := fun spec hspec =>
    (h.removals spec hspec).1
  cases manager with
  | aptGet =>
      show ((plainOperands ((aptRestorePrefix ++ (paths ++ removals.map (· ++ "-"))).drop 2)).filter
        _).map _ = removals
      have hkept : (removals.map (· ++ "-")).filter (Text.endsWith · "-") =
          removals.map (· ++ "-") := by
        refine List.filter_eq_self.mpr fun text htext => ?_
        obtain ⟨spec, hspec, rfl⟩ := List.mem_map.mp htext
        exact (apt_removal_operand (hremovals spec hspec) (h.removals spec hspec).2).2.1
      have hdropped : paths.filter (Text.endsWith · "-") = [] :=
        List.filter_eq_nil_iff.mpr fun text htext => by simp [(h.paths text htext).2]
      rw [apt_plain_operands h, List.filter_append, hkept, hdropped, List.nil_append, List.map_map]
      refine List.map_id'' (fun spec => ?_) removals
      simp
  | zypper =>
      show ((paths ++ removals.map ("-" ++ ·)).filter (Text.startsWith · "-")).map _ = removals
      have hkept : (removals.map ("-" ++ ·)).filter (Text.startsWith · "-") =
          removals.map ("-" ++ ·) := by
        refine List.filter_eq_self.mpr fun text htext => ?_
        obtain ⟨spec, -, rfl⟩ := List.mem_map.mp htext
        simp [starts_with_dash_iff]
      have hdropped : paths.filter (Text.startsWith · "-") = [] :=
        List.filter_eq_nil_iff.mpr fun text htext => by simp [hpaths text htext]
      rw [List.filter_append, hkept, hdropped, List.nil_append, List.map_map]
      refine List.map_id'' (fun spec => ?_) removals
      simp
  | dnf | yum =>
      show (match (cutAt "--remove"
        ((dnfLocalTransactionCommand true paths removals installs removed).drop 5)).bind
          fun (_, rest) => cutAt "--expect-install" rest with
          | none => []
          | some (removeSpecs, _) => removeSpecs) = removals
      have hcut := @cut_at_append "--expect-install" removals
        (installs ++ "--expect-remove" :: removed) (option_not_mem rfl hremovals)
      rw [dnf_command_operands, cut_at_append (option_not_mem rfl hpaths), Option.bind_some]
      simp only [hcut]

/-- The expectations of a delta's DNF command. -/
theorem dnf_expectations_delta_command (h : ReadableDelta paths removals installs) :
    dnfExpectations (dnfLocalTransactionCommand true paths removals installs removed) =
      (installs, removed) := by
  rw [dnfExpectations, dnf_operands_of_no_marker
    (option_not_mem rfl fun text htext => (h.paths text htext).1)
    (option_not_mem rfl fun spec hspec => (h.removals spec hspec).1)
    (option_not_mem rfl h.installs)]

/-- What `rollback_package_commands` derives can be read back. -/
theorem readable_delta (h : RetainedBaseline snapshot manager path bundle)
    (haudit : ∀ package ∈ audit.packages, interestingPackage package.name = true) :
    ReadableDelta (deltaPaths snapshot audit) (deltaRemovals snapshot audit)
      (deltaInstallSpecs snapshot audit) := by
  have hspec : ∀ package : PackageInfo, interestingPackage package.name = true →
      Text.startsWith (rpmPackageSpec package) "-" = false := by
    intro package hname
    have hdash := interesting_no_dash hname ("-" ++ epochPrefix package ++
      formatOption package.version ++ architectureSuffix package)
    simpa only [rpmPackageSpec, String.append_assoc] using hdash
  refine ⟨?_, ?_, ?_⟩
  · intro text htext
    obtain ⟨package, hpackage, rfl⟩ := List.mem_map.mp htext
    exact h.operand_dashes (restore_packages_subset h.inventory package hpackage)
  · intro spec hspecs
    rw [deltaRemovals, h.backend, mem_package_removal_specs] at hspecs
    obtain ⟨package, hpackage, rfl⟩ := hspecs
    have hname := haudit package (mem_added_packages.mp hpackage).1
    have hrest : ∃ rest, removalSpec manager package = package.name ++ rest := by
      cases manager with
      | aptGet => exact ⟨_, rfl⟩
      | dnf | yum => exact ⟨_, by rw [removalSpec, rpmPackageSpec, String.append_assoc,
          String.append_assoc, String.append_assoc]⟩
      | zypper => exact ⟨_, by rw [removalSpec, String.append_assoc]⟩
    obtain ⟨rest, hrest⟩ := hrest
    rw [hrest]
    refine ⟨interesting_no_dash hname rest, fun hempty => ?_⟩
    have hnone : package.name = "" := by
      have hchars := congrArg String.toList hempty
      simp only [String.toList_append, String.toList_empty, List.append_eq_nil_iff] at hchars
      exact String.toList_inj.mp hchars.1
    exact interesting_ne_empty hname hnone
  · intro spec hspecs
    rw [deltaInstallSpecs, mem_sorted] at hspecs
    obtain ⟨package, hpackage, rfl⟩ := List.mem_map.mp hspecs
    exact hspec package (h.inventory.rows package
      (restore_packages_subset h.inventory package hpackage)).interesting

end NvidiaConverge
