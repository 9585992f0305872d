import NvidiaConverge.Preflight.Operands

/-!
# Exactness of the package delta

The transaction that the derived commands carry, and what executing it leaves installed.
`derived_transaction_eq` says which sets are installed and removed; `executed_eq_baseline_iff`
follows from the laws of `SlotDelta` for installers that put packages side by side (DNF, YUM)
or replace the occupants of a slot (APT, Zypper).
-/

namespace NvidiaConverge

open Posix (AbsolutePath)
open SlotDelta (missing added displaced sideBySide replacing WholeSlots)

/-- The packages whose spelling is among the operands. -/
def resolve (render : PackageInfo → String) (packages : List PackageInfo)
    (operands : List String) : Set PackageState :=
  {state | ∃ package ∈ packages, render package ∈ operands ∧ packageStateIdentity package = state}

/-- The identities that a transaction installs and removes. -/
structure PackageTransaction where
  installs : Set PackageState
  removals : Set PackageState

/-- The transaction that derived commands carry: the expectations of a DNF transaction, the
operands of an APT or a Zypper command. -/
def commandTransaction (manager : PackageManager) (snapshot : RollbackSnapshot)
    (audit : HostAudit) (commands : List (List String)) : PackageTransaction :=
  match manager with
  | .dnf | .yum =>
      { installs := resolve rpmPackageSpec snapshot.packages
          (commands.flatMap fun command => (dnfExpectations command).1)
        removals := resolve rpmPackageSpec audit.packages
          (commands.flatMap fun command => (dnfExpectations command).2) }
  | .aptGet | .zypper =>
      { installs := resolve (snapshotPayloadOperand snapshot) snapshot.packages
          (commands.flatMap rollbackRestoreSpecs)
        removals := resolve (removalSpec manager) audit.packages
          (commands.flatMap rollbackRemoveSpecs) }

/-- The identities installed after a transaction. -/
def executed (manager : PackageManager) (current : Set PackageState)
    (transaction : PackageTransaction) : Set PackageState :=
  match manager with
  | .dnf | .yum => sideBySide current transaction.removals transaction.installs
  | .aptGet | .zypper => replacing stateSlot current transaction.removals transaction.installs

variable {snapshot : RollbackSnapshot} {audit : HostAudit} {manager : PackageManager}
  {path : AbsolutePath} {bundle : PackagePayloadBundle} {package : PackageInfo}

/-! ## The carried transaction -/

/-- Resolving the spellings of chosen packages gives the chosen packages. -/
theorem resolve_eq {render : PackageInfo → String} {packages chosen : List PackageInfo}
    {operands : List String}
    (hinj : ∀ package ∈ packages, ∀ other ∈ packages, render package = render other →
      packageStateIdentity package = packageStateIdentity other)
    (hsub : ∀ package ∈ chosen, package ∈ packages)
    (hoperands : ∀ text, text ∈ operands ↔ ∃ package ∈ chosen, render package = text) :
    resolve render packages operands =
      {state | ∃ package ∈ chosen, packageStateIdentity package = state} := by
  ext state
  constructor
  · rintro ⟨package, hpackage, hoperand, rfl⟩
    obtain ⟨other, hother, heq⟩ := (hoperands _).mp hoperand
    exact ⟨other, hother, hinj other (hsub other hother) package hpackage heq⟩
  · rintro ⟨package, hpackage, rfl⟩
    exact ⟨package, hsub package hpackage, (hoperands _).mpr ⟨package, hpackage, rfl⟩, rfl⟩

/-- The restored packages are the missing identities. -/
theorem restore_states (h : Inventory manager snapshot.packages) :
    {state | ∃ package ∈ restorePackages snapshot audit, packageStateIdentity package = state} =
      missing snapshot.states audit.states := by
  ext state
  constructor
  · rintro ⟨package, hpackage, rfl⟩
    obtain ⟨hmem, hcurrent⟩ := (mem_restore_packages h).mp hpackage
    exact ⟨identity_mem_installed_states hmem (h.rows package hmem).installed, hcurrent⟩
  · rintro ⟨⟨package, hmem, -, rfl⟩, hcurrent⟩
    exact ⟨package, (mem_restore_packages h).mpr ⟨hmem, hcurrent⟩, rfl⟩

/-- The added packages are the added identities. -/
theorem added_states :
    {state | ∃ package ∈ addedPackages snapshot audit, packageStateIdentity package = state} =
      added stateSlot snapshot.states audit.states := by
  ext state
  constructor
  · rintro ⟨package, hpackage, rfl⟩
    exact (mem_added_packages.mp hpackage).2.2
  · intro hadded
    obtain ⟨package, hmem, hinstalled, rfl⟩ := hadded.1.1
    exact ⟨package, mem_added_packages.mpr ⟨hmem, hinstalled, hadded⟩, rfl⟩

/-- A displaced package is audited, and its identity is a displaced one. -/
theorem mem_displaced_packages (h : Inventory manager snapshot.packages)
    (haudit : Inventory manager audit.packages) (hmanager : manager ≠ .aptGet) :
    package ∈ displacedRpmPackages snapshot audit ↔
      package ∈ audit.packages ∧
        packageStateIdentity package ∈ displaced stateSlot snapshot.states audit.states := by
  have hslots : ∀ slot, ((restoredRpmPackages snapshot audit).map packageSlot).contains slot =
      true ↔ slot ∈ stateSlot '' missing snapshot.states audit.states := by
    intro slot
    rw [List.contains_iff_mem, restored_rpm_packages h hmanager, ← restore_states h, List.mem_map]
    constructor
    · rintro ⟨other, hother, rfl⟩
      exact ⟨_, ⟨other, hother, rfl⟩, rfl⟩
    · rintro ⟨_, ⟨other, hother, rfl⟩, rfl⟩
      exact ⟨other, hother, rfl⟩
  rw [displacedRpmPackages, List.mem_filter]
  refine and_congr_right fun hmem => ?_
  have hrow := haudit.rows package hmem
  have hrpm : package.manager = some "rpm" := by
    rw [hrow.backend, expectedManager, if_neg hmanager]
  simp only [hrow.installed, hrpm, hrow.version_truthy, Bool.true_and, beq_self_eq_true,
    Bool.and_eq_true, Bool.not_eq_true', ← Bool.not_eq_true, hslots, baseline_contains_iff]
  exact ⟨fun hkept => ⟨⟨identity_mem_installed_states hmem hrow.installed, hkept.2⟩, hkept.1⟩,
    fun hdisplaced => ⟨hdisplaced.2, hdisplaced.1.2⟩⟩

/-- Nothing is displaced where nothing is restored. -/
theorem displaced_of_no_restore (h : restorePackages snapshot audit = []) :
    displacedRpmPackages snapshot audit = [] := by
  refine List.filter_eq_nil_iff.mpr fun package _ => ?_
  simp [restoredRpmPackages, h]

/-- The operands that are read back from the derived commands. -/
theorem derived_operands (h : RetainedBaseline snapshot manager path bundle)
    (haudit : Inventory manager audit.packages) :
    ∃ commands, rollbackPackageCommands snapshot (some audit) = .ok commands ∧
      commands.flatMap rollbackRestoreSpecs = deltaPaths snapshot audit ∧
      commands.flatMap rollbackRemoveSpecs = deltaRemovals snapshot audit ∧
      (manager = .dnf ∨ manager = .yum →
        (commands.flatMap fun command => (dnfExpectations command).1) =
            deltaInstallSpecs snapshot audit ∧
          (commands.flatMap fun command => (dnfExpectations command).2) =
            deltaRemovalSpecs snapshot audit) := by
  have hread := readable_delta h fun package hpackage => (haudit.rows package hpackage).interesting
  refine ⟨_, derived_rollback_commands h audit, ?_⟩
  split
  · next hempty =>
      -- Without a command there is nothing to restore, hence nothing is displaced either.
      have hnone : restorePackages snapshot audit = [] := List.map_eq_nil_iff.mp hempty.1
      refine ⟨hempty.1.symm, hempty.2.symm, fun _ => ⟨?_, ?_⟩⟩
      · simp [deltaInstallSpecs, hnone, sorted]
      · simp [deltaRemovalSpecs, hempty.2, displaced_of_no_restore hnone, sorted]
  · refine ⟨?_, ?_, fun hmanager => ?_⟩
    · rw [List.flatMap_singleton, restore_specs_delta_command hread]
    · rw [List.flatMap_singleton, remove_specs_delta_command hread]
    · have hcommand : deltaCommand manager (deltaPaths snapshot audit)
          (deltaRemovals snapshot audit)
          (deltaInstallSpecs snapshot audit) (deltaRemovalSpecs snapshot audit) =
            dnfLocalTransactionCommand true (deltaPaths snapshot audit)
              (deltaRemovals snapshot audit) (deltaInstallSpecs snapshot audit)
              (deltaRemovalSpecs snapshot audit) := by
        rcases hmanager with rfl | rfl <;> rfl
      rw [List.flatMap_singleton, List.flatMap_singleton, hcommand,
        dnf_expectations_delta_command hread]
      exact ⟨rfl, rfl⟩

/-- A removal names one package state of the audit. -/
theorem removal_spec_injective (h : Inventory manager audit.packages) {other : PackageInfo}
    (hmem : package ∈ audit.packages) (hother : other ∈ audit.packages)
    (heq : removalSpec manager package = removalSpec manager other) :
    packageStateIdentity package = packageStateIdentity other := by
  have hrow := h.rows package hmem
  have hrow' := h.rows other hother
  cases manager with
  | aptGet =>
      have hslot := apt_removal_spec_injective hrow.apt hrow'.apt heq
      rw [List.inj_on_of_nodup_map (h.slots rfl) hmem hother hslot]
  | dnf | yum =>
      exact rpm_package_spec_injective (hrow.rpm (by decide)) (hrow'.rpm (by decide)) heq
  | zypper =>
      have hspec : ∀ {p : PackageInfo}, truthy p.version = true →
          removalSpec .zypper p = zypperPackageSpec p := by
        intro p hversion
        simp [removalSpec, hversion, zypperPackageSpec, rpmEdition, String.append_assoc]
      rw [hspec hrow.version_truthy, hspec hrow'.version_truthy] at heq
      exact zypper_package_spec_injective (hrow.rpm (by decide)) (hrow'.rpm (by decide)) heq

/-- The removals of a delta are the added identities. -/
theorem resolve_delta_removals (h : RetainedBaseline snapshot manager path bundle)
    (haudit : Inventory manager audit.packages) :
    resolve (removalSpec manager) audit.packages (deltaRemovals snapshot audit) =
      added stateSlot snapshot.states audit.states := by
  rw [← added_states]
  refine resolve_eq (fun package hpackage other hother heq =>
    removal_spec_injective haudit hpackage hother heq)
    (fun package hpackage => (mem_added_packages.mp hpackage).1) fun text => ?_
  rw [deltaRemovals, h.backend, mem_package_removal_specs]

/-- The expected removals of an RPM delta are all extra identities. -/
theorem resolve_delta_removal_specs (h : RetainedBaseline snapshot manager path bundle)
    (haudit : Inventory manager audit.packages) (hmanager : manager = .dnf ∨ manager = .yum) :
    resolve rpmPackageSpec audit.packages (deltaRemovalSpecs snapshot audit) =
      audit.states \ snapshot.states := by
  have hne : manager ≠ .aptGet := by
    rcases hmanager with rfl | rfl <;> decide
  have hspec : removalSpec manager = rpmPackageSpec := by
    rcases hmanager with rfl | rfl <;> rfl
  have hset : {state | ∃ package ∈ addedPackages snapshot audit ++
      displacedRpmPackages snapshot audit, packageStateIdentity package = state} =
        audit.states \ snapshot.states := by
    rw [← @SlotDelta.added_union_displaced _ _ stateSlot, ← added_states]
    ext state
    simp only [List.mem_append, Set.mem_ofPred_eq, Set.mem_union, or_and_right, exists_or]
    refine or_congr_right ⟨?_, ?_⟩
    · rintro ⟨package, hpackage, rfl⟩
      exact ((mem_displaced_packages h.inventory haudit hne).mp hpackage).2
    · intro hdisplaced
      obtain ⟨package, hmem, -, rfl⟩ := hdisplaced.1.1
      exact ⟨package, (mem_displaced_packages h.inventory haudit hne).mpr ⟨hmem, hdisplaced⟩, rfl⟩
  rw [← hset]
  refine resolve_eq (fun package hpackage other hother heq =>
    removal_spec_injective haudit hpackage hother (by rw [hspec]; exact heq)) ?_ fun text => ?_
  · intro package hpackage
    rcases List.mem_append.mp hpackage with hadded | hdisplaced
    · exact (mem_added_packages.mp hadded).1
    · exact ((mem_displaced_packages h.inventory haudit hne).mp hdisplaced).1
  · rw [deltaRemovalSpecs, mem_sorted, List.mem_dedup, List.mem_append, deltaRemovals, h.backend,
      mem_package_removal_specs, hspec, List.mem_map]
    simp only [List.mem_append, or_and_right, exists_or]

/-- The identities that the removal operands of derived commands name. -/
def namedRemovals (manager : PackageManager) (audit : HostAudit)
    (commands : List (List String)) : Set PackageState :=
  resolve (removalSpec manager) audit.packages (commands.flatMap rollbackRemoveSpecs)

/-- What the derived commands install and remove. -/
theorem derived_transaction_eq (h : RetainedBaseline snapshot manager path bundle)
    (haudit : Inventory manager audit.packages) :
    ∃ commands, rollbackPackageCommands snapshot (some audit) = .ok commands ∧
      (commandTransaction manager snapshot audit commands).installs =
        missing snapshot.states audit.states ∧
      (commandTransaction manager snapshot audit commands).removals =
        (if manager = .dnf ∨ manager = .yum then audit.states \ snapshot.states
        else added stateSlot snapshot.states audit.states) ∧
      namedRemovals manager audit commands = added stateSlot snapshot.states audit.states := by
  obtain ⟨commands, hcommands, hrestores, hremoves, hexpected⟩ := derived_operands h haudit
  have hnamed : namedRemovals manager audit commands =
      added stateSlot snapshot.states audit.states := by
    rw [namedRemovals, hremoves, resolve_delta_removals h haudit]
  have hoperands : resolve (snapshotPayloadOperand snapshot) snapshot.packages
      (commands.flatMap rollbackRestoreSpecs) = missing snapshot.states audit.states := by
    rw [hrestores, ← restore_states h.inventory]
    refine resolve_eq (fun package hpackage other hother => h.operand_injective hpackage hother)
      (restore_packages_subset h.inventory) fun text => ?_
    rw [deltaPaths, List.mem_map]
  refine ⟨commands, hcommands, ?_, ?_, hnamed⟩
  · cases manager with
    | aptGet | zypper => exact hoperands
    | dnf | yum =>
        rw [commandTransaction, (hexpected (by simp)).1, ← restore_states h.inventory]
        refine resolve_eq (fun package hpackage other hother =>
          rpm_package_spec_injective ((h.inventory.rows package hpackage).rpm (by decide))
            ((h.inventory.rows other hother).rpm (by decide)))
          (restore_packages_subset h.inventory) fun text => ?_
        rw [deltaInstallSpecs, mem_sorted, List.mem_map]
  · cases manager with
    | aptGet | zypper => exact hnamed
    | dnf | yum =>
        rw [commandTransaction, (hexpected (by simp)).2,
          resolve_delta_removal_specs h haudit (by simp), if_pos (by simp)]

/-- Executing the derived transaction leaves the baseline, under Zypper exactly when every
restored slot is restored whole. -/
theorem executed_eq_baseline_iff (h : RetainedBaseline snapshot manager path bundle)
    {transaction : PackageTransaction}
    (hinstalls : transaction.installs = missing snapshot.states audit.states)
    (hremovals : transaction.removals =
      if manager = .dnf ∨ manager = .yum then audit.states \ snapshot.states
      else added stateSlot snapshot.states audit.states) :
    executed manager audit.states transaction = snapshot.states ↔
      (manager = .zypper → WholeSlots stateSlot snapshot.states audit.states) := by
  cases manager with
  | aptGet =>
      rw [executed, hinstalls, hremovals, if_neg (by simp), SlotDelta.replacing_exact_iff]
      exact ⟨fun _ hno => (by cases hno),
        fun _ => SlotDelta.whole_slots_of_inj h.inventory.slot_injective⟩
  | zypper =>
      rw [executed, hinstalls, hremovals, if_neg (by simp), SlotDelta.replacing_exact_iff]
      exact ⟨fun hwhole _ => hwhole, fun hwhole => hwhole rfl⟩
  | dnf | yum =>
      rw [executed, hinstalls, hremovals, if_pos (by simp), SlotDelta.side_by_side_extra]
      exact ⟨fun _ hno => (by cases hno), fun _ => rfl⟩

/-! ## Verification -/

/-- The states that `verify_rollback` expects are those of the baseline. -/
theorem mem_expected_packages (h : Inventory manager snapshot.packages) {state : PackageState} :
    state ∈ expectedPackages snapshot ↔ state ∈ snapshot.states := by
  rw [expectedPackages, List.mem_dedup, List.mem_map]
  constructor
  · rintro ⟨package, hpackage, rfl⟩
    obtain ⟨hmem, -⟩ := List.mem_filter.mp hpackage
    exact identity_mem_installed_states hmem (h.rows package hmem).installed
  · rintro ⟨package, hmem, -, rfl⟩
    have hrow := h.rows package hmem
    exact ⟨package, List.mem_filter.mpr ⟨hmem, by simp [hrow.installed, hrow.version_truthy]⟩, rfl⟩

/-- The package checks of `verify_rollback` pass on a complete audit exactly when it shows the
baseline. -/
theorem package_checks_pass_iff (h : Inventory manager snapshot.packages) {after : HostAudit}
    (hcomplete : after.packageInventoryComplete = true) :
    (∀ check ∈ verifyRollbackPackages snapshot after, check.ok = true) ↔
      after.states = snapshot.states := by
  have hmismatched : mismatchedPackages snapshot after = [] ↔ snapshot.states ⊆ after.states := by
    rw [mismatchedPackages, sorted_eq_nil, List.map_eq_nil_iff, List.filter_eq_nil_iff]
    simp only [Bool.not_eq_true', Bool.not_eq_false, audited_contains_iff,
      mem_expected_packages h]
    exact Iff.rfl
  have hadded : remainingAddedPackages snapshot after = [] ↔ after.states ⊆ snapshot.states := by
    rw [remainingAddedPackages, sorted_eq_nil, List.map_eq_nil_iff, List.filter_eq_nil_iff]
    simp only [Bool.not_eq_true', Bool.not_eq_false, List.mem_dedup, List.contains_iff_mem,
      mem_expected_packages h]
    refine forall_congr' fun state => imp_congr_left ?_
    rw [mem_installed_states, installedPackages]
  rw [Set.Subset.antisymm_iff, ← hadded, ← hmismatched]
  simp only [verifyRollbackPackages, List.forall_mem_cons, List.not_mem_nil, hcomplete,
    Bool.true_and, List.isEmpty_iff, IsEmpty.forall_iff, implies_true, and_true]
  exact and_comm

/-! ## The delta is exact -/

/-- The derived transaction restores exactly the baseline (with Zypper, whose installs replace
slots, exactly when no restored slot still holds a baseline version), removes no baseline
identity, and names a removal in a restored slot only where a baseline version stays. -/
theorem rollback_delta_exact (h : RetainedBaseline snapshot manager path bundle)
    (haudit : Inventory manager audit.packages) :
    ∃ commands, rollbackPackageCommands snapshot (some audit) = .ok commands ∧
      let transaction := commandTransaction manager snapshot audit commands
      let after := executed manager audit.states transaction
      (after = snapshot.states ↔
        (manager = .zypper → WholeSlots stateSlot snapshot.states audit.states)) ∧
      Disjoint transaction.removals snapshot.states ∧
      (∀ slot ∈ stateSlot '' transaction.installs,
        slot ∈ stateSlot '' namedRemovals manager audit commands →
          manager ≠ .aptGet ∧ slot ∈ stateSlot '' (audit.states ∩ snapshot.states)) ∧
      (∀ verified : HostAudit, verified.packageInventoryComplete = true →
        verified.states = after →
        ((∀ check ∈ verifyRollbackPackages snapshot verified, check.ok = true) ↔
          (manager = .zypper → WholeSlots stateSlot snapshot.states audit.states))) := by
  obtain ⟨commands, hcommands, hinstalls, hremovals, hnamed⟩ := derived_transaction_eq h haudit
  have hexact := executed_eq_baseline_iff h hinstalls hremovals
  refine ⟨commands, hcommands, hexact, ?_, ?_, ?_⟩
  · rw [hremovals]
    split
    · exact Set.disjoint_sdiff_left
    · exact SlotDelta.extra_disjoint.mono_left Set.subset_union_left
  · intro slot hrestored hremoved
    rw [hinstalls] at hrestored
    rw [hnamed] at hremoved
    refine ⟨?_, SlotDelta.restored_and_added_slot hrestored hremoved⟩
    rintro rfl
    have hwhole : WholeSlots stateSlot snapshot.states audit.states :=
      SlotDelta.whole_slots_of_inj h.inventory.slot_injective
    exact Set.disjoint_left.mp (SlotDelta.restored_added_disjoint hwhole) hrestored hremoved
  · intro verified hcomplete hstates
    rw [package_checks_pass_iff h.inventory hcomplete, hstates]
    exact hexact

/-! ### A package with two versions -/

/-- The name of the kernel headers on a SUSE host and on a Red Hat host. -/
def develName (manager : PackageManager) : String :=
  if manager = .zypper then "kernel-default-devel" else "kernel-devel"

/-- The version of one build of the kernel headers. -/
def develVersion (manager : PackageManager) (build : String) : String :=
  if manager = .zypper then "6.4.0-" ++ build else "5.14.0-" ++ build

/-- One installed version of the kernel headers. -/
def develPackage (manager : PackageManager) (build : String) : PackageInfo where
  name := develName manager
  version := some (develVersion manager build)
  manager := some "rpm"
  installed := true
  architecture := some "x86_64"

/-- The retained file of one build. -/
def develPayload (manager : PackageManager) (build : String) (digit : Char) : PackagePayload where
  name := develName manager
  architecture := "x86_64"
  epoch := none
  version := develVersion manager build
  format := "rpm"
  filename := String.ofList (List.replicate 64 digit) ++ ".rpm"
  sha256 := String.ofList (List.replicate 64 digit)
  sizeBytes := 1
  verification := "rpm-signature"
  roles := ["baseline"]
  signerIds := ["00000000"]

/-- The retained files of two builds. -/
def develBundle (manager : PackageManager) : PackagePayloadBundle where
  directory := "rollback.json.payloads"
  packages := [develPayload manager "1" 'a', develPayload manager "2" 'b']
  totalSizeBytes := 2

/-- A place for the snapshot of the kernel headers. -/
def develPath : AbsolutePath where
  components := ["var", "rollback.json"]
  normalized := by decide

/-- A baseline with two versions of one package. -/
def develSnapshot (manager : PackageManager) : RollbackSnapshot where
  path := some develPath.text
  packages := [develPackage manager "1", develPackage manager "2"]
  kernel := develVersion manager "2"
  moduleVersion := none
  commands := []
  packageManager := some manager
  packagePayloads := some (develBundle manager)

/-- A host on which some builds of the kernel headers are installed. -/
def develAudit (manager : PackageManager) (builds : List String) : HostAudit where
  osId := some (if manager = .zypper then "sles" else "rhel")
  osVersion := some (if manager = .zypper then "15.6" else "9.4")
  packageManager := some manager
  kernel := { running := develVersion manager "2", headersInstalled := true }
  module := { loaded := false }
  runtime := { dockerInstalled := false, nvidiaContainerRuntimeInstalled := false }
  packages := builds.map (develPackage manager)
  nvidiaSmi := { command := ["nvidia-smi"], returncode := some 0 }
  nvml := { command := ["python3"], returncode := some 0 }
  migMode := none

/-- A recorded build of the kernel headers is a row of the inventory. -/
theorem devel_row (hmanager : manager ≠ .aptGet) (build : String) (hbuild : '-' ∉ build.toList) :
    InventoryRow manager (develPackage manager build) where
  installed := rfl
  backend := by
    rw [expectedManager, if_neg hmanager]
    rfl
  interesting := by
    show interestingPackage (develName manager) = true
    cases manager <;> decide
  fields := by
    rw [if_neg hmanager]
    exact
      { name := by
          show '=' ∉ (develName manager).toList
          cases manager <;> decide
        architecture := ⟨"x86_64", rfl, by decide, by decide, by decide, by decide⟩
        version := by
          by_cases hzypper : manager = .zypper
          · exact ⟨"6.4.0", build, by rw [develPackage, develVersion, if_pos hzypper]; rfl,
              by decide, by decide, hbuild⟩
          · exact ⟨"5.14.0", build, by rw [develPackage, develVersion, if_neg hzypper]; rfl,
              by decide, by decide, hbuild⟩
        epoch := by
          intro epoch hepoch
          cases hepoch }

/-- The two builds are the rows of an inventory. -/
theorem devel_inventory (hmanager : manager ≠ .aptGet) :
    Inventory manager [develPackage manager "1", develPackage manager "2"] where
  rows := by
    intro package hpackage
    simp only [List.mem_cons, List.not_mem_nil, or_false] at hpackage
    rcases hpackage with rfl | rfl
    · exact devel_row hmanager "1" (by decide)
    · exact devel_row hmanager "2" (by decide)
  distinct := by cases manager <;> decide
  slots := fun hno => absurd hno hmanager

/-- The retained files of the two builds are valid for them. -/
theorem devel_payloads (hmanager : manager ≠ .aptGet) :
    ValidPayloads develPath (develBundle manager)
      [develPackage manager "1", develPackage manager "2"] manager where
  complete := by
    cases manager with
    | aptGet => exact absurd rfl hmanager
    | dnf | yum | zypper => decide
  count := by cases manager <;> decide
  entries := by cases manager <;> decide
  directory := by cases manager <;> decide
  distinct := by cases manager <;> decide
  identities := by cases manager <;> decide
  oneToOne := by cases manager <;> decide
  filenames := by cases manager <;> decide
  each := by
    cases manager with
    | aptGet => exact absurd rfl hmanager
    | dnf | yum | zypper => decide
  total := by cases manager <;> decide

/-- The snapshot of the two builds is retained with its payloads. -/
theorem devel_retained (manager : PackageManager) (hmanager : manager ≠ .aptGet) :
    RetainedBaseline (develSnapshot manager) manager develPath (develBundle manager) where
  located := rfl
  backend := rfl
  retained := rfl
  payloads := devel_payloads hmanager
  inventory := devel_inventory hmanager

/-- Two builds are told apart by their versions. -/
theorem devel_version_injective {build other : String}
    (h : develVersion manager build = develVersion manager other) : build = other := by
  have hchars := congrArg String.toList h
  unfold develVersion at hchars
  split at hchars <;> simpa [String.toList_inj] using hchars

/-- Audits of distinct versions are complete inventories. -/
theorem devel_audited (manager : PackageManager) (hmanager : manager ≠ .aptGet)
    (builds : List String) (hbuilds : ∀ build ∈ builds, '-' ∉ build.toList)
    (hnodup : builds.Nodup) : Inventory manager (develAudit manager builds).packages where
  rows := by
    intro package hpackage
    obtain ⟨build, hbuild, rfl⟩ := List.mem_map.mp hpackage
    exact devel_row hmanager build (hbuilds build hbuild)
  distinct := by
    refine (hnodup.map_on ?_).map_on ?_
    · intro build _ other _ heq
      exact devel_version_injective (Option.some.inj (congrArg PackageInfo.version heq))
    · intro package hpackage other hother heq
      obtain ⟨build, -, rfl⟩ := List.mem_map.mp hpackage
      obtain ⟨build', -, rfl⟩ := List.mem_map.mp hother
      have hversion : some (develVersion manager build) = some (develVersion manager build') :=
        congrArg (fun state : PackageState => state.2.2.2) heq
      rw [devel_version_injective (Option.some.inj hversion)]
  slots := fun hno => absurd hno hmanager

/-- A list of builds shows a build exactly when it holds it. -/
theorem devel_states_iff {builds : List String} {build : String} :
    packageStateIdentity (develPackage manager build) ∈
        installedStates (builds.map (develPackage manager)) ↔ build ∈ builds := by
  constructor
  · rintro ⟨package, hpackage, -, heq⟩
    obtain ⟨other, hother, rfl⟩ := List.mem_map.mp hpackage
    have hversion : some (develVersion manager other) = some (develVersion manager build) :=
      congrArg (fun state : PackageState => state.2.2.2) heq
    exact devel_version_injective (Option.some.inj hversion) ▸ hother
  · intro hbuild
    exact identity_mem_installed_states (List.mem_map_of_mem hbuild) rfl

/-- An audit shows a build exactly when it was made with it. -/
theorem devel_audited_iff {builds : List String} {build : String} :
    packageStateIdentity (develPackage manager build) ∈ (develAudit manager builds).states ↔
      build ∈ builds :=
  devel_states_iff

/-- The baseline holds exactly the two builds. -/
theorem devel_baseline_iff {build : String} :
    packageStateIdentity (develPackage manager build) ∈ (develSnapshot manager).states ↔
      build ∈ ["1", "2"] :=
  @devel_states_iff manager ["1", "2"] build

/-- A version that is missing sits beside the one that stays. -/
theorem devel_slots_not_whole (manager : PackageManager) {builds : List String}
    (hfirst : "1" ∈ builds) (hsecond : "2" ∉ builds) :
    ¬ WholeSlots stateSlot (develSnapshot manager).states (develAudit manager builds).states := by
  intro hwhole
  have hmissing : packageStateIdentity (develPackage manager "2") ∈
      missing (develSnapshot manager).states (develAudit manager builds).states :=
    ⟨devel_baseline_iff.mpr (by simp), fun hshown => hsecond (devel_audited_iff.mp hshown)⟩
  have hstays : packageStateIdentity (develPackage manager "1") ∈
      (develAudit manager builds).states ∩ (develSnapshot manager).states :=
    ⟨devel_audited_iff.mpr hfirst, devel_baseline_iff.mpr (by simp)⟩
  exact Set.disjoint_left.mp hwhole ⟨_, hmissing, rfl⟩ ⟨_, hstays, rfl⟩

/-- A DNF host that lost its second build of the kernel headers gets exactly that one back. -/
theorem rollback_delta_exact_devel :
    ∃ commands, rollbackPackageCommands (develSnapshot .dnf) (some (develAudit .dnf ["1"])) =
        .ok commands ∧
      executed .dnf (develAudit .dnf ["1"]).states
          (commandTransaction .dnf (develSnapshot .dnf) (develAudit .dnf ["1"]) commands) =
        (develSnapshot .dnf).states := by
  obtain ⟨commands, hcommands, hexact, -⟩ := rollback_delta_exact
    (devel_retained .dnf (by decide)) (devel_audited .dnf (by decide) ["1"] (by decide) (by decide))
  exact ⟨commands, hcommands, hexact.mpr fun hno => (by cases hno)⟩

/-- Where Zypper replaces the slot of a version that stays, the baseline is not restored; where
the slot also gained a version, DNF restores and removes in one slot. -/
theorem kept_version_not_exact :
    (∀ manager, manager ≠ .aptGet →
      RetainedBaseline (develSnapshot manager) manager develPath (develBundle manager) ∧
        Inventory manager (develAudit manager ["1"]).packages ∧
        Inventory manager (develAudit manager ["1", "3"]).packages) ∧
    (∃ commands, rollbackPackageCommands (develSnapshot .zypper)
        (some (develAudit .zypper ["1"])) = .ok commands ∧
      executed .zypper (develAudit .zypper ["1"]).states
          (commandTransaction .zypper (develSnapshot .zypper) (develAudit .zypper ["1"])
            commands) ≠ (develSnapshot .zypper).states) ∧
    ∃ commands, rollbackPackageCommands (develSnapshot .dnf)
        (some (develAudit .dnf ["1", "3"])) = .ok commands ∧
      ("kernel-devel", some "x86_64") ∈ stateSlot ''
        (commandTransaction .dnf (develSnapshot .dnf) (develAudit .dnf ["1", "3"])
          commands).installs ∧
      ("kernel-devel", some "x86_64") ∈ stateSlot ''
        namedRemovals .dnf (develAudit .dnf ["1", "3"]) commands := by
  refine ⟨?_, ?_, ?_⟩
  · intro manager hmanager
    exact ⟨devel_retained manager hmanager,
      devel_audited manager hmanager ["1"] (by decide) (by decide),
      devel_audited manager hmanager ["1", "3"] (by decide) (by decide)⟩
  · have hretained := devel_retained .zypper (by decide)
    have haudited := devel_audited .zypper (by decide) ["1"] (by decide) (by decide)
    obtain ⟨commands, hcommands, hinstalls, hremovals, -⟩ :=
      derived_transaction_eq hretained haudited
    refine ⟨commands, hcommands, fun heq => ?_⟩
    exact devel_slots_not_whole .zypper (by simp) (by simp)
      ((executed_eq_baseline_iff hretained hinstalls hremovals).mp heq rfl)
  · have hretained := devel_retained .dnf (by decide)
    have haudited := devel_audited .dnf (by decide) ["1", "3"] (by decide) (by decide)
    obtain ⟨commands, hcommands, hinstalls, -, hnamed⟩ := derived_transaction_eq hretained haudited
    have hthird : packageStateIdentity (develPackage .dnf "3") ∉ (develSnapshot .dnf).states :=
      fun hheld => absurd (devel_baseline_iff.mp hheld) (by simp)
    refine ⟨commands, hcommands, ?_, ?_⟩
    · rw [hinstalls]
      exact ⟨packageStateIdentity (develPackage .dnf "2"), ⟨devel_baseline_iff.mpr (by simp),
        fun hshown => absurd (devel_audited_iff.mp hshown) (by simp)⟩, rfl⟩
    · rw [hnamed]
      refine ⟨packageStateIdentity (develPackage .dnf "3"),
        ⟨⟨devel_audited_iff.mpr (by simp), hthird⟩,
        .inr ⟨packageStateIdentity (develPackage .dnf "1"), ⟨devel_audited_iff.mpr (by simp),
          devel_baseline_iff.mpr (by simp)⟩, rfl⟩⟩, rfl⟩

end NvidiaConverge
