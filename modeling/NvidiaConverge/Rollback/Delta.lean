import NvidiaConverge.Rollback.Inventory

/-!
# The package delta

`rollback_package_commands` compares a snapshot with a complete audit. Its lists stand for the
sets of `SlotDelta`: the packages to restore are the missing identities, the removals the added
ones, and the expected RPM removals the added and the displaced ones.
-/

namespace NvidiaConverge

open SlotDelta (missing added displaced)

/-- The spelling by which a package manager removes one exact package. -/
def removalSpec (packageManager : PackageManager) (package : PackageInfo) : String :=
  match packageManager with
  | .aptGet => aptRemovalSpec package
  | .dnf | .yum => rpmPackageSpec package
  | .zypper =>
      package.name ++ architectureSuffix package ++
        if truthy package.version then "=" ++ rpmEdition package else ""

/-- `_package_removal_specs`: the removals of some packages, sorted and without repetition. -/
def packageRemovalSpecs (packages : List PackageInfo) (packageManager : Option PackageManager) :
    List String :=
  match packageManager with
  | none => []
  | some manager => sorted (packages.map (removalSpec manager)).dedup

/-- The packages that a snapshot recorded as installed. -/
def baselinePackages (snapshot : RollbackSnapshot) : List PackageInfo :=
  snapshot.packages.filter (·.installed)

/-- `restore_packages` of `rollback_package_commands`. -/
def restorePackages (snapshot : RollbackSnapshot) (audit : HostAudit) : List PackageInfo :=
  let currentStates := (installedPackages audit).map packageStateIdentity
  snapshot.packages.filter fun package =>
    package.installed && truthy package.version &&
      !currentStates.contains (packageStateIdentity package)

/-- `added_packages` of `rollback_package_commands`. -/
def addedPackages (snapshot : RollbackSnapshot) (audit : HostAudit) : List PackageInfo :=
  let baselineStates := (baselinePackages snapshot).map packageStateIdentity
  let baselineSlots := (baselinePackages snapshot).map packageSlot
  let currentBaselineSlots :=
    ((installedPackages audit).filter fun package =>
      baselineStates.contains (packageStateIdentity package)).map packageSlot
  (installedPackages audit).filter fun package =>
    !baselineStates.contains (packageStateIdentity package) &&
      (!baselineSlots.contains (packageSlot package) ||
        currentBaselineSlots.contains (packageSlot package))

/-- `restored_rpm_packages`: the restored packages that a DNF transaction must list as installs. -/
def restoredRpmPackages (snapshot : RollbackSnapshot) (audit : HostAudit) : List PackageInfo :=
  (restorePackages snapshot audit).filter fun package =>
    package.installed && package.manager == some "rpm" && truthy package.version &&
      interestingPackage package.name

/-- The audited packages in a restored slot that the baseline does not hold. -/
def displacedRpmPackages (snapshot : RollbackSnapshot) (audit : HostAudit) : List PackageInfo :=
  let baselineStates := (baselinePackages snapshot).map packageStateIdentity
  let restoreSlots := (restoredRpmPackages snapshot audit).map packageSlot
  audit.packages.filter fun package =>
    package.installed && package.manager == some "rpm" && truthy package.version &&
      restoreSlots.contains (packageSlot package) &&
      !baselineStates.contains (packageStateIdentity package)

/-- What `rollback_package_commands` derives before it renders commands. -/
structure RollbackDelta where
  restorePackages : List PackageInfo
  removePackages : List String
  expectedRpmInstalls : Option (List String) := none
  expectedRpmRemovals : Option (List String) := none

/-- The delta between a snapshot and a complete audit: what is restored and what is removed. -/
def auditedDelta (snapshot : RollbackSnapshot) (audit : HostAudit) : RollbackDelta :=
  let removals := packageRemovalSpecs (addedPackages snapshot audit) snapshot.packageManager
  let delta : RollbackDelta :=
    { restorePackages := restorePackages snapshot audit, removePackages := removals }
  if snapshot.packageManager = some .dnf ∨ snapshot.packageManager = some .yum then
    { delta with
      expectedRpmInstalls := some (sorted ((restoredRpmPackages snapshot audit).map rpmPackageSpec))
      expectedRpmRemovals := some (sorted
        (removals ++ (displacedRpmPackages snapshot audit).map rpmPackageSpec).dedup) }
  else delta

/-- `rollback_package_commands`: the commands that the delta to an audit needs, if there is an
audit. -/
def rollbackPackageCommands (snapshot : RollbackSnapshot) (currentAudit : Option HostAudit) :
    Except String (List (List String)) :=
  let delta : RollbackDelta :=
    match currentAudit with
    | none =>
        { restorePackages := snapshot.packages, removePackages := snapshot.introducedPackages }
    | some audit => auditedDelta snapshot audit
  rollbackCommands delta.restorePackages snapshot.packageManager delta.removePackages snapshot.path
    snapshot.packagePayloads
    { exactRemovals := currentAudit.isSome
      expectedRpmInstalls := delta.expectedRpmInstalls
      expectedRpmRemovals := delta.expectedRpmRemovals }

theorem mem_package_removal_specs {packages : List PackageInfo} {manager : PackageManager}
    {spec : String} : spec ∈ packageRemovalSpecs packages (some manager) ↔
      ∃ package ∈ packages, removalSpec manager package = spec := by
  rw [packageRemovalSpecs, mem_sorted, List.mem_dedup, List.mem_map]

/-! ## Verification -/

/-- `Verification`, without the command that only the report prints. -/
structure Verification where
  name : String
  ok : Bool
  detail : Option String := none

/-- `_format_package_identity` of a package's state. -/
def formatState (state : PackageState) : String :=
  formatPackageIdentity
    { name := state.1, architecture := state.2.1.getD "", epoch := state.2.2.1,
      version := state.2.2.2.getD "" }

/-- `expected_packages` of `verify_rollback`: the states that the snapshot recorded. -/
def expectedPackages (snapshot : RollbackSnapshot) : List PackageState :=
  ((snapshot.packages.filter fun package => package.installed && truthy package.version).map
    packageStateIdentity).dedup

/-- `mismatched` of `verify_rollback`: the expected states that the audit does not show. -/
def mismatchedPackages (snapshot : RollbackSnapshot) (audit : HostAudit) : List String :=
  sorted (((expectedPackages snapshot).filter fun state =>
    !((installedPackages audit).map packageStateIdentity).contains state).map formatState)

/-- `remaining_added` of `verify_rollback`: the audited states that were not expected. -/
def remainingAddedPackages (snapshot : RollbackSnapshot) (audit : HostAudit) : List String :=
  sorted ((((installedPackages audit).map packageStateIdentity).dedup.filter fun state =>
    !(expectedPackages snapshot).contains state).map formatState)

/-- The package checks of `verify_rollback`, with their details. -/
def verifyRollbackPackages (snapshot : RollbackSnapshot) (audit : HostAudit) :
    List Verification :=
  let mismatched := mismatchedPackages snapshot audit
  let remainingAdded := remainingAddedPackages snapshot audit
  [{ name := "rollback.packages-restored"
     ok := audit.packageInventoryComplete && mismatched.isEmpty
     detail := some (
       if mismatched = [] then "Snapshot package versions restored."
       else "Package versions not restored: " ++ Text.join ", " mismatched ++ ".") },
   { name := "rollback.added-packages-removed"
     ok := remainingAdded.isEmpty
     detail := some (
       if remainingAdded = [] then "Packages added by convergence removed."
       else "Added packages still installed: " ++ Text.join ", " remainingAdded ++ ".") }]

variable {snapshot : RollbackSnapshot} {audit : HostAudit} {manager : PackageManager}
  {state : PackageState}

/-! ## The lists as sets -/

/-- The baseline, as a set of package states. -/
abbrev RollbackSnapshot.states (snapshot : RollbackSnapshot) : Set PackageState :=
  installedStates snapshot.packages

/-- The audited packages, as a set of package states. -/
abbrev HostAudit.states (audit : HostAudit) : Set PackageState :=
  installedStates audit.packages

/-- The list of baseline packages contains a state exactly when the baseline does. -/
theorem baseline_contains_iff : ((baselinePackages snapshot).map packageStateIdentity).contains
    state = true ↔ state ∈ snapshot.states := by
  rw [List.contains_iff_mem, mem_installed_states, baselinePackages]

/-- The list of audited packages contains a state exactly when the audit does. -/
theorem audited_contains_iff : ((installedPackages audit).map packageStateIdentity).contains
    state = true ↔ state ∈ audit.states := by
  rw [List.contains_iff_mem, mem_installed_states, installedPackages]

/-- The list of baseline slots contains a slot exactly when some baseline package is in it. -/
theorem baseline_slots_contains_iff {slot : PackageSlot} :
    ((baselinePackages snapshot).map packageSlot).contains slot = true ↔
      slot ∈ stateSlot '' snapshot.states := by
  rw [List.contains_iff_mem, List.mem_map]
  constructor
  · rintro ⟨package, hpackage, rfl⟩
    obtain ⟨hmem, hinstalled⟩ := List.mem_filter.mp hpackage
    exact ⟨_, identity_mem_installed_states hmem hinstalled, rfl⟩
  · rintro ⟨_, ⟨package, hmem, hinstalled, rfl⟩, rfl⟩
    exact ⟨package, List.mem_filter.mpr ⟨hmem, hinstalled⟩, rfl⟩

/-- A package is restored exactly when it was recorded and the audit lacks its state. -/
theorem mem_restore_packages (h : Inventory manager snapshot.packages) {package : PackageInfo} :
    package ∈ restorePackages snapshot audit ↔
      package ∈ snapshot.packages ∧ packageStateIdentity package ∉ audit.states := by
  rw [restorePackages, List.mem_filter]
  refine and_congr_right fun hmem => ?_
  rw [Bool.and_eq_true, Bool.not_eq_true', ← Bool.not_eq_true, audited_contains_iff]
  simp [(h.rows package hmem).installed, (h.rows package hmem).version_truthy]

/-- An added package is audited, and its identity is an added one. -/
theorem mem_added_packages {package : PackageInfo} :
    package ∈ addedPackages snapshot audit ↔
      package ∈ audit.packages ∧ package.installed = true ∧
        packageStateIdentity package ∈ added stateSlot snapshot.states audit.states := by
  have hheld : (((installedPackages audit).filter fun package =>
      ((baselinePackages snapshot).map packageStateIdentity).contains
        (packageStateIdentity package)).map packageSlot).contains (packageSlot package) = true ↔
      packageSlot package ∈ stateSlot '' (audit.states ∩ snapshot.states) := by
    rw [List.contains_iff_mem, List.mem_map]
    constructor
    · rintro ⟨other, hother, heq⟩
      obtain ⟨hmem, hbaseline⟩ := List.mem_filter.mp hother
      obtain ⟨hmem, hinstalled⟩ := List.mem_filter.mp hmem
      exact ⟨_, ⟨identity_mem_installed_states hmem hinstalled,
        baseline_contains_iff.mp hbaseline⟩, heq⟩
    · rintro ⟨_, ⟨⟨other, hmem, hinstalled, rfl⟩, hbaseline⟩, heq⟩
      exact ⟨other, List.mem_filter.mpr ⟨List.mem_filter.mpr ⟨hmem, hinstalled⟩,
        baseline_contains_iff.mpr hbaseline⟩, heq⟩
  rw [addedPackages, List.mem_filter, installedPackages, List.mem_filter, and_assoc]
  refine and_congr_right fun hmem => and_congr_right fun hinstalled => ?_
  rw [← installedPackages, Bool.and_eq_true, Bool.or_eq_true, hheld, Bool.not_eq_true',
    Bool.not_eq_true', ← Bool.not_eq_true, ← Bool.not_eq_true, baseline_contains_iff,
    baseline_slots_contains_iff]
  exact ⟨fun h => ⟨⟨identity_mem_installed_states hmem hinstalled, h.1⟩, h.2⟩,
    fun h => ⟨h.1.2, h.2⟩⟩

end NvidiaConverge
