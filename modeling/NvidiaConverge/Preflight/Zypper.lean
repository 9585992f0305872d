import NvidiaConverge.Rollback.ExactDelta
import NvidiaConverge.Preflight.Dnf

/-!
# The Zypper rollback preflight

`_zypper_rollback_transaction_error` reads the summary of a dry run. The check admits the removal
of whatever is installed in a restored slot and never requires one, so an accepted summary
restores the baseline exactly when it leaves the baseline versions that are still installed
alone and takes the displaced versions away: `zypper_rollback_exact_iff`.
-/

namespace NvidiaConverge

open Posix (AbsolutePath)
open SlotDelta (missing added displaced)

/-! ## Summaries -/

/-- An element of a parsed document, without its text. -/
inductive XmlElement where
  | element (tag : String) (attributes : List (String × String)) (children : List XmlElement)

/-- The tag of an XML element. -/
def XmlElement.tag : XmlElement → String
  | .element tag _ _ => tag

/-- `element.attrib.get(key)`: the value of an attribute, if the element has it. -/
def XmlElement.attribute? : XmlElement → String → Option String
  | .element _ attributes _, key => attributes.lookup key

/-- The child elements of an XML element, in order. -/
def XmlElement.children : XmlElement → List XmlElement
  | .element _ _ children => children

/-- `_ZYPPER_CHANGE_ACTIONS` and `to-remove`: what a summary does with a package. -/
inductive ZypperAction where
  | changeArch
  | downgrade
  | downgradeChangeArch
  | install
  | reinstall
  | upgrade
  | upgradeChangeArch
  | remove
  deriving DecidableEq

/-- The tag of the group that lists an action's packages. -/
def ZypperAction.tag : ZypperAction → String
  | .changeArch => "to-change-arch"
  | .downgrade => "to-downgrade"
  | .downgradeChangeArch => "to-downgrade-change-arch"
  | .install => "to-install"
  | .reinstall => "to-reinstall"
  | .upgrade => "to-upgrade"
  | .upgradeChangeArch => "to-upgrade-change-arch"
  | .remove => "to-remove"

/-- The actions whose groups a summary may have. -/
def zypperActions : List ZypperAction :=
  [.changeArch, .downgrade, .downgradeChangeArch, .install, .reinstall, .upgrade,
    .upgradeChangeArch, .remove]

/-- The name, the edition and the architecture of a package in a summary. -/
abbrev ZypperIdentity := String × String × String

/-- The value of an attribute without blanks that is not empty. -/
def isSummaryValue (value : String) : Bool :=
  value ≠ "" && value = Text.strip value && !value.toList.any Text.isSpace

/-- One `solvable` of a group, which must be complete and not listed yet. -/
def readSolvable (action : ZypperAction) (actions : List (ZypperAction × ZypperIdentity))
    (solvable : XmlElement) : Option (List (ZypperAction × ZypperIdentity)) :=
  let name := (solvable.attribute? "name").getD ""
  let edition := (solvable.attribute? "edition").getD ""
  let architecture := (solvable.attribute? "arch").getD ""
  if solvable.tag ≠ "solvable" ∨ solvable.attribute? "kind" ≠ some "package" ∨
      (solvable.attribute? "status").all
        (["installed", "not-installed", "other-version"].contains ·) = false ∨
      solvable.attribute? "status" = none ∨
      [name, edition, architecture].all isSummaryValue = false ∨
      (action, name, edition, architecture) ∈ actions then none
  else some (actions ++ [(action, name, edition, architecture)])

/-- One group of a summary, which must be known and not empty. -/
def readGroup (actions : List (ZypperAction × ZypperIdentity)) (group : XmlElement) :
    Option (List (ZypperAction × ZypperIdentity)) := do
  let action ← zypperActions.find? (·.tag = group.tag)
  if group.children.isEmpty then none
  else group.children.foldlM (readSolvable action) actions

/-- The actions of the only summary of a document. -/
def readSummary (root : XmlElement) : Option (List (ZypperAction × ZypperIdentity)) :=
  if root.tag ≠ "stream" then none
  else
    match root.children.filter (·.tag = "install-summary") with
    | [summary] => do
        let packagesToChange ← (summary.attribute? "packages-to-change").bind Text.readInteger?
        let actions ← summary.children.foldlM readGroup []
        if packagesToChange = actions.length then some actions else none
    | _ => none

/-- `_parse_zypper_transaction`; `parseXml` is `parse_bounded_xml`. -/
def parseZypperTransaction (parseXml : String → Option XmlElement) (result : CommandResult) :
    Option (List (ZypperAction × ZypperIdentity)) :=
  if outputTruncated result then none
  else (parseXml result.stdout).bind readSummary

/-! ## The check -/

/-- The identity under which a summary lists a package. -/
def zypperIdentity (package : PackageInfo) : ZypperIdentity :=
  (package.name, rpmEdition package, formatOption package.architecture)

/-- The name and the architecture of an identity. -/
def zypperSlot (identity : ZypperIdentity) : String × String :=
  (identity.1, identity.2.2)

/-- `_format_zypper_identity`: the name, the architecture and the edition as one text. -/
def formatZypperIdentity (identity : ZypperIdentity) : String :=
  identity.1 ++ "." ++ identity.2.2 ++ "=" ++ identity.2.1

/-- The installed RPM packages whose identity is complete. -/
def completeRpms (packages : List PackageInfo) : List PackageInfo :=
  packages.filter fun package =>
    package.installed && package.manager == some "rpm" && truthy package.version &&
      truthy package.architecture

/-- `restore_targets`: the identities that the restore operands stand for. -/
def zypperRestoreTargets (snapshot : RollbackSnapshot) (restoreSpecs : List String) :
    List ZypperIdentity :=
  (restoreSpecs.filterMap (packageAt (snapshotPayloadOperand snapshot)
    (completeRpms snapshot.packages))).map zypperIdentity

/-- `removal_targets`: the identities that the removal operands stand for. -/
def zypperRemovalTargets (audit : HostAudit) (removeSpecs : List String) : List ZypperIdentity :=
  (removeSpecs.filterMap (packageAt zypperPackageSpec (completeRpms audit.packages))).map
    zypperIdentity

/-- `replacement_removals`: every audited package in a slot that is restored. -/
def zypperReplacementRemovals (audit : HostAudit) (restoreTargets : List ZypperIdentity) :
    List ZypperIdentity :=
  (audit.packages.filter fun package =>
    package.installed && truthy package.version && truthy package.architecture &&
      (restoreTargets.map zypperSlot).contains
        (package.name, formatOption package.architecture)).map zypperIdentity

/-- The first error that the check of a rollback finds in one action. -/
def zypperActionError (restoreTargets removalTargets replacementRemovals : List ZypperIdentity)
    (entry : ZypperAction × ZypperIdentity) : Option String :=
  let (action, identity) := entry
  if action = .remove then
    if identity ∈ removalTargets ∨ identity ∈ replacementRemovals then none
    else
      some ("solver would remove a package outside the exact rollback set: " ++
        formatZypperIdentity identity)
  else if identity ∈ restoreTargets then none
  else
    some ("solver would change a package outside the exact baseline set: " ++
      formatZypperIdentity identity)

/-- `", ".join(sorted(...))` of the identities of a list that are not in another. -/
def zypperDifference (left right : List ZypperIdentity) : List String :=
  sorted ((left.dedup.filter fun identity => !right.contains identity).map formatZypperIdentity)

/-- The targets that the actions of a summary omit, in words. -/
def zypperOmission (actions : List (ZypperAction × ZypperIdentity))
    (restoreTargets removalTargets : List ZypperIdentity) : Option String :=
  let observedRestores := (actions.filter (·.1 ≠ .remove)).map Prod.snd
  let observedRemovals := (actions.filter (·.1 = .remove)).map Prod.snd
  let missingRestores := zypperDifference restoreTargets observedRestores
  let missingRemovals := zypperDifference removalTargets observedRemovals
  if missingRestores ≠ [] then
    some ("solver omitted exact baseline restore: " ++ Text.join ", " missingRestores)
  else if missingRemovals ≠ [] then
    some ("solver omitted exact removal: " ++ Text.join ", " missingRemovals)
  else none

/-- The comparison of the summarised actions with the operands. -/
def zypperActionsError (actions : List (ZypperAction × ZypperIdentity))
    (snapshot : RollbackSnapshot) (audit : HostAudit) (restoreSpecs removeSpecs : List String) :
    Option String :=
  if ¬ ((∀ spec ∈ restoreSpecs, spec ∈
        (completeRpms snapshot.packages).map (snapshotPayloadOperand snapshot)) ∧
      ∀ spec ∈ removeSpecs, spec ∈ (completeRpms audit.packages).map zypperPackageSpec) then
    some "transaction operands are not bound to exact package inventory"
  else
    let restoreTargets := zypperRestoreTargets snapshot restoreSpecs
    let removalTargets := zypperRemovalTargets audit removeSpecs
    let replacementRemovals := zypperReplacementRemovals audit restoreTargets
    match actions.findSome?
        (zypperActionError restoreTargets removalTargets replacementRemovals) with
    | some error => some error
    | none => zypperOmission actions restoreTargets removalTargets

/-- `_zypper_rollback_transaction_error`. The tags of a parsed summary are all known, so its
branch for an unsupported action is never taken. -/
def zypperRollbackTransactionError (parseXml : String → Option XmlElement)
    (result : CommandResult) (snapshot : RollbackSnapshot) (audit : HostAudit)
    (restoreSpecs removeSpecs : List String) : Option String :=
  match parseZypperTransaction parseXml result with
  | none => some "machine-readable transaction summary is missing or malformed"
  | some actions => zypperActionsError actions snapshot audit restoreSpecs removeSpecs

/-! ## Execution -/

/-- Whether executing an action on an identity takes an installed one away: a removal deletes the
identity, an install adds one beside the others, an upgrade, a downgrade and a reinstallation
replace the version of the slot, and a change of the architecture replaces every architecture
of the name. -/
def ZypperAction.replaces (action : ZypperAction) (identity installed : ZypperIdentity) : Bool :=
  match action with
  | .remove => identity = installed
  | .install => false
  | .reinstall | .upgrade | .downgrade => zypperSlot identity = zypperSlot installed
  | .changeArch | .upgradeChangeArch | .downgradeChangeArch => identity.1 = installed.1

/-- The installed identities that the actions take away. -/
def zypperGone (actions : List (ZypperAction × ZypperIdentity)) : Set ZypperIdentity :=
  {installed | ∃ entry ∈ actions, entry.1.replaces entry.2 installed = true}

/-- The identities that the actions of a summary bring. -/
def zypperBrought (actions : List (ZypperAction × ZypperIdentity)) : Set ZypperIdentity :=
  {identity | ∃ entry ∈ actions, entry.1 ≠ .remove ∧ entry.2 = identity}

/-- The identity of a package state in a summary. -/
def zypperOf (state : PackageState) : ZypperIdentity :=
  zypperIdentity
    { name := state.1, architecture := state.2.1, epoch := state.2.2.1, version := state.2.2.2
      manager := none, installed := true }

/-- The installed identities of some packages. -/
def zypperStates (packages : List PackageInfo) : Set ZypperIdentity :=
  zypperOf '' installedStates packages

/-- The identities installed after the actions. -/
def zypperExecuted (current : Set ZypperIdentity)
    (actions : List (ZypperAction × ZypperIdentity)) : Set ZypperIdentity :=
  (current \ zypperGone actions) ∪ zypperBrought actions

variable {snapshot : RollbackSnapshot} {audit : HostAudit} {path : AbsolutePath}
  {bundle : PackagePayloadBundle} {package other : PackageInfo} {packages : List PackageInfo}
  {actions : List (ZypperAction × ZypperIdentity)} {identity : ZypperIdentity}

/-! ## Identities -/

@[simp] theorem zypper_of_state (package : PackageInfo) :
    zypperOf (packageStateIdentity package) = zypperIdentity package :=
  rfl

/-- A summary identifies rows as the inventory does. -/
theorem zypper_identity_injective (h : InventoryRow .zypper package)
    (h' : InventoryRow .zypper other) (heq : zypperIdentity package = zypperIdentity other) :
    packageStateIdentity package = packageStateIdentity other := by
  have hfields := h.rpm (by decide)
  have hfields' := h'.rpm (by decide)
  obtain ⟨architecture, harch, -⟩ := hfields.architecture
  obtain ⟨architecture', harch', -⟩ := hfields'.architecture
  simp only [zypperIdentity, harch, harch', formatOption, Prod.mk.injEq] at heq
  obtain ⟨hname, hedition, hsame⟩ := heq
  obtain ⟨hepoch, hversion⟩ := rpm_edition_injective hfields hfields' hedition
  rw [packageStateIdentity, packageStateIdentity, hname, hepoch, hversion, harch, harch', hsame]

/-- Slots of rows are slots of their identities. -/
theorem zypper_slot_eq_iff (h : InventoryRow .zypper package) (h' : InventoryRow .zypper other) :
    zypperSlot (zypperIdentity package) = zypperSlot (zypperIdentity other) ↔
      packageSlot package = packageSlot other := by
  obtain ⟨architecture, harch, -⟩ := h.architecture_known
  obtain ⟨architecture', harch', -⟩ := h'.architecture_known
  simp [zypperSlot, zypperIdentity, packageSlot, harch, harch', formatOption]

/-- Summaries rename the identities of two inventories. -/
theorem zypper_renames (h : Inventory .zypper snapshot.packages)
    (haudit : Inventory .zypper audit.packages) :
    SlotDelta.Renames zypperOf stateSlot zypperSlot (snapshot.states ∪ audit.states) := by
  have hrow : ∀ state ∈ snapshot.states ∪ audit.states,
      ∃ package, InventoryRow .zypper package ∧ packageStateIdentity package = state := by
    rintro _ (⟨package, hmem, -, rfl⟩ | ⟨package, hmem, -, rfl⟩)
    · exact ⟨package, h.rows package hmem, rfl⟩
    · exact ⟨package, haudit.rows package hmem, rfl⟩
  constructor
  · intro state hstate state' hstate' heq
    obtain ⟨package, hpackage, rfl⟩ := hrow state hstate
    obtain ⟨other, hother, rfl⟩ := hrow state' hstate'
    exact zypper_identity_injective hpackage hother heq
  · intro state hstate state' hstate'
    obtain ⟨package, hpackage, rfl⟩ := hrow state hstate
    obtain ⟨other, hother, rfl⟩ := hrow state' hstate'
    rw [zypper_of_state, zypper_of_state]
    exact zypper_slot_eq_iff hpackage hother

/-- Every row of a Zypper inventory is complete. -/
theorem complete_rpms_eq (h : Inventory .zypper packages) : completeRpms packages = packages := by
  refine List.filter_eq_self.mpr fun package hpackage => ?_
  have hrow := h.rows package hpackage
  have hrpm : package.manager = some "rpm" := hrow.backend
  have harchitecture : truthy package.architecture = true := by
    obtain ⟨architecture, harch, hne⟩ := hrow.architecture_known
    simp [harch, truthy, hne]
  simp [hrow.installed, hrpm, hrow.version_truthy, harchitecture]

/-- The operand that removes a row is its specification for Zypper. -/
theorem zypper_removal_spec (h : InventoryRow .zypper package) :
    removalSpec .zypper package = zypperPackageSpec package := by
  simp [removalSpec, h.version_truthy, zypperPackageSpec, rpmEdition, String.append_assoc]

/-! ## Targets -/

section Targets

variable (h : RetainedBaseline snapshot .zypper path bundle)
  (haudit : Inventory .zypper audit.packages)

include h haudit

/-- The restore targets are the missing identities. -/
theorem mem_zypper_restore_targets :
    identity ∈ zypperRestoreTargets snapshot (deltaPaths snapshot audit) ↔
      identity ∈ missing (zypperStates snapshot.packages) (zypperStates audit.packages) := by
  have hfound : (restorePackages snapshot audit).filterMap
      (packageAt (snapshotPayloadOperand snapshot) (completeRpms snapshot.packages) ∘
        snapshotPayloadOperand snapshot) = restorePackages snapshot audit := by
    conv_rhs => rw [← @List.filterMap_some _ (restorePackages snapshot audit)]
    refine List.filterMap_congr fun package hpackage => ?_
    rw [Function.comp_apply, complete_rpms_eq h.inventory]
    exact package_at_eq h.inventory.distinct
      (fun package hpackage other hother => h.operand_injective hpackage hother)
      (restore_packages_subset h.inventory package hpackage)
  rw [zypperRestoreTargets, deltaPaths, List.filterMap_map, hfound, zypperStates, zypperStates,
    (zypper_renames h.inventory haudit).missing_image
    Set.subset_union_left Set.subset_union_right, ← restore_states h.inventory, List.mem_map]
  constructor
  · rintro ⟨package, hpackage, rfl⟩
    exact ⟨packageStateIdentity package, ⟨package, hpackage, rfl⟩, rfl⟩
  · rintro ⟨_, ⟨package, hpackage, rfl⟩, rfl⟩
    exact ⟨package, hpackage, rfl⟩

/-- The removal targets are the added identities. -/
theorem mem_zypper_removal_targets :
    identity ∈ zypperRemovalTargets audit (deltaRemovals snapshot audit) ↔
      identity ∈ added zypperSlot (zypperStates snapshot.packages)
        (zypperStates audit.packages) := by
  have hspec : ∀ package ∈ audit.packages,
      removalSpec .zypper package = zypperPackageSpec package :=
    fun package hpackage => zypper_removal_spec (haudit.rows package hpackage)
  have hfound : ∀ package ∈ audit.packages,
      packageAt zypperPackageSpec (completeRpms audit.packages) (zypperPackageSpec package) =
        some package := by
    intro package hpackage
    rw [complete_rpms_eq haudit]
    exact package_at_eq haudit.distinct (fun package hpackage other hother =>
      zypper_package_spec_injective ((haudit.rows package hpackage).rpm (by decide))
        ((haudit.rows other hother).rpm (by decide))) hpackage
  rw [zypperStates, zypperStates, (zypper_renames h.inventory haudit).added_image
    Set.subset_union_left Set.subset_union_right, ← added_states, zypperRemovalTargets,
    List.mem_map]
  constructor
  · rintro ⟨package, hpackage, rfl⟩
    obtain ⟨spec, hspecs, hat⟩ := List.mem_filterMap.mp hpackage
    rw [deltaRemovals, h.backend, mem_package_removal_specs] at hspecs
    obtain ⟨other, hother, rfl⟩ := hspecs
    have hmem := (mem_added_packages.mp hother).1
    rw [hspec other hmem, hfound other hmem, Option.some.injEq] at hat
    exact ⟨packageStateIdentity package, ⟨package, hat ▸ hother, rfl⟩, rfl⟩
  · rintro ⟨_, ⟨package, hpackage, rfl⟩, rfl⟩
    have hmem := (mem_added_packages.mp hpackage).1
    refine ⟨package, List.mem_filterMap.mpr ⟨removalSpec .zypper package, ?_, ?_⟩, rfl⟩
    · rw [deltaRemovals, h.backend, mem_package_removal_specs]
      exact ⟨package, hpackage, rfl⟩
    · rw [hspec package hmem, hfound package hmem]

/-- The replacement removals are whatever is installed in the slots of the missing identities. -/
theorem mem_zypper_replacement_removals :
    identity ∈ zypperReplacementRemovals audit
        (zypperRestoreTargets snapshot (deltaPaths snapshot audit)) ↔
      identity ∈ zypperStates audit.packages ∧ zypperSlot identity ∈
        zypperSlot '' missing (zypperStates snapshot.packages) (zypperStates audit.packages) := by
  have hslot : ∀ slot, slot ∈ (zypperRestoreTargets snapshot (deltaPaths snapshot audit)).map
      zypperSlot ↔ slot ∈ zypperSlot ''
        missing (zypperStates snapshot.packages) (zypperStates audit.packages) := by
    intro slot
    rw [List.mem_map]
    exact exists_congr fun target => and_congr_left fun _ => mem_zypper_restore_targets h haudit
  rw [zypperReplacementRemovals, List.mem_map]
  constructor
  · rintro ⟨package, hpackage, rfl⟩
    obtain ⟨hmem, hkept⟩ := List.mem_filter.mp hpackage
    simp only [Bool.and_eq_true, List.contains_iff_mem] at hkept
    exact ⟨⟨_, identity_mem_installed_states hmem hkept.1.1.1, rfl⟩, (hslot _).mp hkept.2⟩
  · rintro ⟨⟨_, ⟨package, hmem, hinstalled, rfl⟩, rfl⟩, htaken⟩
    have hrow := haudit.rows package hmem
    have harchitecture : truthy package.architecture = true := by
      obtain ⟨architecture, harch, hne⟩ := hrow.architecture_known
      simp [harch, truthy, hne]
    refine ⟨package, List.mem_filter.mpr ⟨hmem, ?_⟩, rfl⟩
    simp only [Bool.and_eq_true, List.contains_iff_mem]
    exact ⟨⟨⟨hinstalled, hrow.version_truthy⟩, harchitecture⟩, (hslot _).mpr htaken⟩

end Targets

/-! ## What the check accepts -/

/-- Nothing is left of identities that another list holds. -/
theorem zypper_difference_eq_nil {left right : List ZypperIdentity} :
    zypperDifference left right = [] ↔ ∀ identity ∈ left, identity ∈ right := by
  rw [zypperDifference, sorted_eq_nil, List.map_eq_nil_iff, List.filter_eq_nil_iff]
  simp

/-- Nothing is omitted exactly when every target is observed. -/
theorem zypper_omission_eq_none {restoreTargets removalTargets : List ZypperIdentity} :
    zypperOmission actions restoreTargets removalTargets = none ↔
      (∀ target ∈ restoreTargets, ∃ action, action ≠ .remove ∧ (action, target) ∈ actions) ∧
        ∀ target ∈ removalTargets, (.remove, target) ∈ actions := by
  have hrestores : ∀ target, target ∈ (actions.filter (·.1 ≠ .remove)).map Prod.snd ↔
      ∃ action, action ≠ .remove ∧ (action, target) ∈ actions := by
    intro target
    simp [List.mem_map, List.mem_filter, and_comm]
  have hremovals : ∀ target, target ∈ (actions.filter (·.1 = .remove)).map Prod.snd ↔
      (.remove, target) ∈ actions := by
    intro target
    simp [List.mem_map, List.mem_filter]
  simp only [← hrestores, ← hremovals, ← zypper_difference_eq_nil]
  rw [zypperOmission]
  constructor
  · intro hnone
    split at hnone
    · cases hnone
    · next hmissing =>
        split at hnone
        · cases hnone
        · next hmissing' => exact ⟨not_not.mp hmissing, not_not.mp hmissing'⟩
  · rintro ⟨hmissing, hmissing'⟩
    simp only [hmissing, hmissing', ne_eq, not_true_eq_false, if_false]

/-- An action is accepted exactly when it removes or brings what the rollback may. -/
theorem zypper_action_error_eq_none {restoreTargets removalTargets replacementRemovals :
      List ZypperIdentity} {entry : ZypperAction × ZypperIdentity} :
    zypperActionError restoreTargets removalTargets replacementRemovals entry = none ↔
      if entry.1 = .remove then entry.2 ∈ removalTargets ∨ entry.2 ∈ replacementRemovals
      else entry.2 ∈ restoreTargets := by
  unfold zypperActionError
  by_cases hremove : entry.1 = .remove
  · by_cases hknown : entry.2 ∈ removalTargets ∨ entry.2 ∈ replacementRemovals <;>
      simp [hremove, hknown]
  · by_cases hknown : entry.2 ∈ restoreTargets <;> simp [hremove, hknown]

/-- An accepted summary: every action is on a target, only what is installed in a restored slot
may be removed besides, and every target is observed. -/
structure AcceptedSummary (base current : Set ZypperIdentity)
    (actions : List (ZypperAction × ZypperIdentity)) : Prop where
  removals : ∀ identity, (.remove, identity) ∈ actions →
    identity ∈ added zypperSlot base current ∨
      identity ∈ current ∧ zypperSlot identity ∈ zypperSlot '' missing base current
  changes : ∀ action identity, action ≠ .remove → (action, identity) ∈ actions →
    identity ∈ missing base current
  restored : ∀ identity ∈ missing base current,
    ∃ action, action ≠ .remove ∧ (action, identity) ∈ actions
  removed : ∀ identity ∈ added zypperSlot base current, (.remove, identity) ∈ actions

/-- The check of a rollback's summary accepts exactly what `AcceptedSummary` says. -/
theorem zypper_actions_error_eq_none_iff (h : RetainedBaseline snapshot .zypper path bundle)
    (haudit : Inventory .zypper audit.packages) :
    zypperActionsError actions snapshot audit (deltaPaths snapshot audit)
        (deltaRemovals snapshot audit) = none ↔
      AcceptedSummary (zypperStates snapshot.packages) (zypperStates audit.packages) actions := by
  have hknown : (∀ spec ∈ deltaPaths snapshot audit, spec ∈
        (completeRpms snapshot.packages).map (snapshotPayloadOperand snapshot)) ∧
      ∀ spec ∈ deltaRemovals snapshot audit,
        spec ∈ (completeRpms audit.packages).map zypperPackageSpec := by
    rw [complete_rpms_eq h.inventory, complete_rpms_eq haudit]
    constructor
    · intro spec hspec
      obtain ⟨package, hpackage, rfl⟩ := List.mem_map.mp hspec
      exact List.mem_map_of_mem (restore_packages_subset h.inventory package hpackage)
    · intro spec hspec
      rw [deltaRemovals, h.backend, mem_package_removal_specs] at hspec
      obtain ⟨package, hpackage, rfl⟩ := hspec
      have hmem := (mem_added_packages.mp hpackage).1
      rw [zypper_removal_spec (haudit.rows package hmem)]
      exact List.mem_map_of_mem hmem
  -- The loop over the actions, one entry at a time; what it lets pass is then checked for
  -- omissions.
  have hentry : ∀ entry : ZypperAction × ZypperIdentity,
      zypperActionError (zypperRestoreTargets snapshot (deltaPaths snapshot audit))
          (zypperRemovalTargets audit (deltaRemovals snapshot audit))
          (zypperReplacementRemovals audit
            (zypperRestoreTargets snapshot (deltaPaths snapshot audit))) entry = none ↔
        if entry.1 = .remove then
          entry.2 ∈ added zypperSlot (zypperStates snapshot.packages)
              (zypperStates audit.packages) ∨
            entry.2 ∈ zypperStates audit.packages ∧ zypperSlot entry.2 ∈
              zypperSlot '' missing (zypperStates snapshot.packages) (zypperStates audit.packages)
        else entry.2 ∈ missing (zypperStates snapshot.packages) (zypperStates audit.packages) := by
    intro entry
    rw [zypper_action_error_eq_none, mem_zypper_removal_targets h haudit,
      mem_zypper_replacement_removals h haudit, mem_zypper_restore_targets h haudit]
  unfold zypperActionsError
  rw [if_neg (not_not.mpr hknown)]
  show (match actions.findSome? _ with
    | some error => some error
    | none => zypperOmission actions _ _) = none ↔ _
  constructor
  · intro hnone
    split at hnone
    · cases hnone
    · next hfree =>
        have hall := fun entry hmem =>
          (hentry entry).mp (List.findSome?_eq_none_iff.mp hfree entry hmem)
        obtain ⟨hrestored, hremoved⟩ := zypper_omission_eq_none.mp hnone
        exact
          { removals := fun identity hmem => by simpa using hall _ hmem
            changes := fun action identity hne hmem => by simpa [hne] using hall _ hmem
            restored := fun identity hmem =>
              hrestored identity ((mem_zypper_restore_targets h haudit).mpr hmem)
            removed := fun identity hmem =>
              hremoved identity ((mem_zypper_removal_targets h haudit).mpr hmem) }
  · intro haccepted
    have hfree := List.findSome?_eq_none_iff.mpr fun entry hmem => (hentry entry).mpr (by
      split
      · next hremove => exact haccepted.removals entry.2 (hremove ▸ hmem)
      · next hne => exact haccepted.changes entry.1 entry.2 hne hmem)
    rw [hfree]
    exact zypper_omission_eq_none.mpr
      ⟨fun target hmem => haccepted.restored target ((mem_zypper_restore_targets h haudit).mp hmem),
        fun target hmem => haccepted.removed target ((mem_zypper_removal_targets h haudit).mp hmem)⟩

/-! ## Exactness -/

variable {base current : Set ZypperIdentity}

/-- An accepted summary brings the missing identities. -/
theorem AcceptedSummary.brought_eq (h : AcceptedSummary base current actions) :
    zypperBrought actions = missing base current := by
  ext identity
  constructor
  · rintro ⟨⟨action, identity⟩, hmem, hne, rfl⟩
    exact h.changes action identity hne hmem
  · intro hmissing
    obtain ⟨action, hne, hmem⟩ := h.restored identity hmissing
    exact ⟨_, hmem, hne, rfl⟩

/-- An accepted summary takes the added identities away. -/
theorem AcceptedSummary.added_subset (h : AcceptedSummary base current actions) :
    added zypperSlot base current ⊆ zypperGone actions :=
  fun identity hadded =>
    ⟨_, h.removed identity hadded, decide_eq_true rfl⟩

/-- An accepted summary is exact exactly when it keeps the installed baseline versions and takes
the displaced ones away. -/
theorem AcceptedSummary.exact_iff (h : AcceptedSummary base current actions) :
    zypperExecuted current actions = base ↔
      Disjoint (zypperGone actions) (current ∩ base) ∧
        displaced zypperSlot base current ⊆ zypperGone actions := by
  rw [zypperExecuted, h.brought_eq]
  exact SlotDelta.taken_exact_iff h.added_subset

/-- Whether an action leaves a package in its slot. -/
def ZypperAction.keepsArchitecture : ZypperAction → Bool
  | .install | .reinstall | .upgrade | .downgrade | .remove => true
  | .changeArch | .upgradeChangeArch | .downgradeChangeArch => false

/-- Where the restored slots are empty, an accepted summary is exact. -/
theorem AcceptedSummary.exact_of_empty_slots (h : AcceptedSummary base current actions)
    (hkeeps : ∀ entry ∈ actions, entry.1.keepsArchitecture = true)
    (hempty : Disjoint (zypperSlot '' missing base current) (zypperSlot '' current)) :
    zypperExecuted current actions = base := by
  have hfree : ∀ {installed}, installed ∈ current →
      zypperSlot installed ∉ zypperSlot '' missing base current :=
    fun hinstalled hslot => Set.disjoint_left.mp hempty hslot ⟨_, hinstalled, rfl⟩
  refine h.exact_iff.mpr ⟨?_, fun identity hdisplaced =>
    absurd hdisplaced.2 (hfree hdisplaced.1.1)⟩
  rw [Set.disjoint_left]
  rintro installed ⟨⟨action, identity⟩, hmem, hreplaces⟩ ⟨hcurrent, hbase⟩
  -- A change stays in the slot of a missing identity, where nothing is installed.
  have hchange : action ≠ .remove → zypperSlot identity = zypperSlot installed → False :=
    fun hne hslot => hfree hcurrent ⟨identity, h.changes action identity hne hmem, hslot⟩
  cases action with
  | remove =>
      have heq : identity = installed := by simpa [ZypperAction.replaces] using hreplaces
      rcases h.removals identity hmem with hadded | ⟨-, hslot⟩
      · exact hadded.1.2 (heq ▸ hbase)
      · exact hfree hcurrent (heq ▸ hslot)
  | install => cases hreplaces
  | reinstall | upgrade | downgrade =>
      exact hchange (by decide) (by simpa [ZypperAction.replaces] using hreplaces)
  | changeArch | upgradeChangeArch | downgradeChangeArch =>
      exact absurd (hkeeps _ hmem) (by simp [ZypperAction.keepsArchitecture])

/-- The summary that installs and removes the targets and removes something more. -/
def plainSummary (restoreTargets removalTargets more : List ZypperIdentity) :
    List (ZypperAction × ZypperIdentity) :=
  restoreTargets.dedup.map (ZypperAction.install, ·) ++
    (removalTargets ++ more).dedup.map (ZypperAction.remove, ·)

/-- An install in a plain summary is of a restore target. -/
theorem mem_plain_summary {restoreTargets removalTargets more : List ZypperIdentity}
    {action : ZypperAction} :
    (action, identity) ∈ plainSummary restoreTargets removalTargets more ↔
      action = .install ∧ identity ∈ restoreTargets ∨
        action = .remove ∧ (identity ∈ removalTargets ∨ identity ∈ more) := by
  rw [plainSummary, List.mem_append, List.mem_map, List.mem_map]
  simp only [List.mem_dedup, List.mem_append, Prod.mk.injEq]
  constructor
  · rintro (⟨target, htarget, rfl, rfl⟩ | ⟨target, htarget, rfl, rfl⟩)
    · exact .inl ⟨rfl, htarget⟩
    · exact .inr ⟨rfl, htarget⟩
  · rintro (⟨rfl, htarget⟩ | ⟨rfl, htarget⟩)
    · exact .inl ⟨identity, htarget, rfl, rfl⟩
    · exact .inr ⟨identity, htarget, rfl, rfl⟩

/-- A plain summary lists every action once. -/
theorem plain_summary_nodup {restoreTargets removalTargets more : List ZypperIdentity} :
    (plainSummary restoreTargets removalTargets more).Nodup := by
  have hpair : ∀ action : ZypperAction,
      Function.Injective (fun identity : ZypperIdentity => (action, identity)) :=
    fun action => Prod.mk_right_injective action
  refine List.nodup_append.mpr ⟨(List.nodup_dedup _).map (hpair _),
    (List.nodup_dedup _).map (hpair _), ?_⟩
  intro left hleft right hright heq
  obtain ⟨target, -, rfl⟩ := List.mem_map.mp hleft
  obtain ⟨target', -, rfl⟩ := List.mem_map.mp hright
  cases heq

/-- A plain summary takes away its removals and the packages that it says it replaces. -/
theorem mem_gone_plain_summary {restoreTargets removalTargets more : List ZypperIdentity} :
    identity ∈ zypperGone (plainSummary restoreTargets removalTargets more) ↔
      identity ∈ removalTargets ∨ identity ∈ more := by
  constructor
  · rintro ⟨⟨action, target⟩, hmem, hreplaces⟩
    rcases mem_plain_summary.mp hmem with ⟨rfl, -⟩ | ⟨rfl, htarget⟩
    · cases hreplaces
    · have heq : target = identity := by simpa [ZypperAction.replaces] using hreplaces
      exact heq ▸ htarget
  · intro htarget
    exact ⟨(.remove, identity), mem_plain_summary.mpr (.inr ⟨rfl, htarget⟩), decide_eq_true rfl⟩

/-- A plain summary is accepted when what it removes besides is installed in restored slots. -/
theorem plain_summary_accepted {restoreTargets removalTargets more : List ZypperIdentity}
    (hrestore : ∀ identity, identity ∈ restoreTargets ↔ identity ∈ missing base current)
    (hremoval : ∀ identity, identity ∈ removalTargets ↔
      identity ∈ added zypperSlot base current)
    (hmore : ∀ identity ∈ more, identity ∈ current ∧
      zypperSlot identity ∈ zypperSlot '' missing base current) :
    AcceptedSummary base current (plainSummary restoreTargets removalTargets more) where
  removals := by
    intro identity hmem
    rcases mem_plain_summary.mp hmem with ⟨hno, -⟩ | ⟨-, htarget | hmem⟩
    · cases hno
    · exact .inl ((hremoval identity).mp htarget)
    · exact .inr (hmore identity hmem)
  changes := by
    intro action identity hne hmem
    rcases mem_plain_summary.mp hmem with ⟨-, htarget⟩ | ⟨heq, -⟩
    · exact (hrestore identity).mp htarget
    · exact absurd heq hne
  restored := fun identity hmissing => ⟨.install, by decide,
    mem_plain_summary.mpr (.inl ⟨rfl, (hrestore identity).mpr hmissing⟩)⟩
  removed := fun identity hadded =>
    mem_plain_summary.mpr (.inr ⟨rfl, .inl ((hremoval identity).mpr hadded)⟩)

/-- Where a restored slot holds an installed version, some accepted summary is not exact. -/
theorem accepted_not_exact {restoreTargets removalTargets : List ZypperIdentity}
    (hrestore : ∀ identity, identity ∈ restoreTargets ↔ identity ∈ missing base current)
    (hremoval : ∀ identity, identity ∈ removalTargets ↔
      identity ∈ added zypperSlot base current)
    (hheld : ¬ Disjoint (zypperSlot '' missing base current) (zypperSlot '' current)) :
    ∃ more, AcceptedSummary base current (plainSummary restoreTargets removalTargets more) ∧
      zypperExecuted current (plainSummary restoreTargets removalTargets more) ≠ base := by
  rw [Set.not_disjoint_iff] at hheld
  obtain ⟨_, hslot, held, hcurrent, rfl⟩ := hheld
  by_cases hkept : zypperSlot held ∈ zypperSlot '' (current ∩ base)
  · -- The slot keeps a baseline version, whose removal is admitted.
    obtain ⟨kept, hboth, heq⟩ := hkept
    have haccepted : AcceptedSummary base current
        (plainSummary restoreTargets removalTargets [kept]) := by
      refine plain_summary_accepted hrestore hremoval fun identity hmem => ?_
      rw [List.mem_singleton.mp hmem, heq]
      exact ⟨hboth.1, hslot⟩
    refine ⟨[kept], haccepted, fun hexact => ?_⟩
    refine Set.disjoint_left.mp (haccepted.exact_iff.mp hexact).1 ?_ hboth
    exact mem_gone_plain_summary.mpr (.inr List.mem_cons_self)
  · -- The slot holds only other versions, whose removal is not required.
    have haccepted : AcceptedSummary base current
        (plainSummary restoreTargets removalTargets []) :=
      plain_summary_accepted hrestore hremoval (by simp)
    refine ⟨[], haccepted, fun hexact => ?_⟩
    have hextra : held ∉ base := fun hbase => hkept ⟨held, ⟨hcurrent, hbase⟩, rfl⟩
    have hgone := (haccepted.exact_iff.mp hexact).2 ⟨⟨hcurrent, hextra⟩, hslot⟩
    rcases mem_gone_plain_summary.mp hgone with htarget | hno
    · rcases ((hremoval held).mp htarget).2 with hfree | hkept'
      · obtain ⟨restored, hmissing, heq⟩ := hslot
        exact hfree ⟨restored, hmissing.1, heq⟩
      · exact hkept hkept'
    · cases hno

/-- No restored package shares its slot with an installed one. -/
def EmptyRestoredSlots (snapshot : RollbackSnapshot) (audit : HostAudit) : Prop :=
  ∀ restored ∈ restorePackages snapshot audit, ∀ installed ∈ audit.packages,
    packageSlot restored ≠ packageSlot installed

/-- Restored slots of packages are those of their identities. -/
theorem empty_restored_slots_iff (h : Inventory .zypper snapshot.packages)
    (haudit : Inventory .zypper audit.packages) :
    Disjoint (zypperSlot '' missing (zypperStates snapshot.packages)
        (zypperStates audit.packages)) (zypperSlot '' zypperStates audit.packages) ↔
      EmptyRestoredSlots snapshot audit := by
  have hrow : ∀ restored ∈ restorePackages snapshot audit, InventoryRow .zypper restored :=
    fun restored hrestored => h.rows restored (restore_packages_subset h restored hrestored)
  rw [zypperStates, zypperStates, (zypper_renames h haudit).missing_image
    Set.subset_union_left Set.subset_union_right, ← restore_states h, Set.disjoint_left]
  constructor
  · intro hdisjoint restored hrestored installed hinstalled hsame
    refine hdisjoint ⟨_, ⟨_, ⟨restored, hrestored, rfl⟩, rfl⟩, rfl⟩ ⟨_, ⟨_,
      identity_mem_installed_states hinstalled (haudit.rows installed hinstalled).installed,
        rfl⟩, ?_⟩
    exact ((zypper_slot_eq_iff (hrow restored hrestored)
      (haudit.rows installed hinstalled)).mpr hsame).symm
  · rintro hempty _ ⟨_, ⟨_, ⟨restored, hrestored, rfl⟩, rfl⟩, rfl⟩
      ⟨_, ⟨_, ⟨installed, hinstalled, -, rfl⟩, rfl⟩, hsame⟩
    exact hempty restored hrestored installed hinstalled ((zypper_slot_eq_iff
      (hrow restored hrestored) (haudit.rows installed hinstalled)).mp hsame.symm)

/-- An accepted summary leaves exactly the baseline when it keeps the baseline versions that are
still installed and takes the displaced versions away; every accepted summary does, exactly when
nothing is installed in the restored slots. -/
theorem zypper_rollback_exact_iff (h : RetainedBaseline snapshot .zypper path bundle)
    (haudit : Inventory .zypper audit.packages) :
    ∃ commands, rollbackPackageCommands snapshot (some audit) = .ok commands ∧
      let restoreSpecs := commands.flatMap rollbackRestoreSpecs
      let removeSpecs := commands.flatMap rollbackRemoveSpecs
      let base := zypperStates snapshot.packages
      let current := zypperStates audit.packages
      Set.InjOn zypperOf (snapshot.states ∪ audit.states) ∧
        (∀ parseXml result actions, parseZypperTransaction parseXml result = some actions →
          zypperRollbackTransactionError parseXml result snapshot audit restoreSpecs removeSpecs =
            none →
          (zypperExecuted current actions = base ↔
            Disjoint (zypperGone actions) (current ∩ base) ∧
              displaced zypperSlot base current ⊆ zypperGone actions)) ∧
        ((∀ actions : List (ZypperAction × ZypperIdentity), actions.Nodup →
          (∀ entry ∈ actions, entry.1.keepsArchitecture = true) →
          zypperActionsError actions snapshot audit restoreSpecs removeSpecs = none →
          zypperExecuted current actions = base) ↔ EmptyRestoredSlots snapshot audit) := by
  obtain ⟨commands, hcommands, hrestores, hremoves, -⟩ := derived_operands h haudit
  refine ⟨commands, hcommands, ?_⟩
  simp only [hrestores, hremoves, zypper_actions_error_eq_none_iff h haudit]
  refine ⟨(zypper_renames h.inventory haudit).injective, ?_, ?_⟩
  · intro parseXml result actions hparsed haccepted
    rw [zypperRollbackTransactionError, hparsed] at haccepted
    exact ((zypper_actions_error_eq_none_iff h haudit).mp haccepted).exact_iff
  · rw [← empty_restored_slots_iff h.inventory haudit]
    constructor
    · intro hall
      by_contra hheld
      obtain ⟨more, haccepted, hinexact⟩ := accepted_not_exact
        (fun identity => @mem_zypper_restore_targets _ _ _ _ identity h haudit)
        (fun identity => @mem_zypper_removal_targets _ _ _ _ identity h haudit) hheld
      refine hinexact (hall _ plain_summary_nodup ?_ haccepted)
      rintro ⟨action, identity⟩ hmem
      rcases mem_plain_summary.mp hmem with ⟨rfl, -⟩ | ⟨rfl, -⟩ <;> rfl
    · intro hempty actions _ hkeeps haccepted
      exact haccepted.exact_of_empty_slots hkeeps hempty

/-- A package that the baseline does not hold. -/
def toolkitPackage : PackageInfo where
  name := "nvidia-container-toolkit"
  version := some "1.17.8-1"
  manager := some "rpm"
  installed := true
  architecture := some "x86_64"

/-- A host that lost both versions of the kernel headers and gained another package. -/
def toolkitAudit : HostAudit :=
  { develAudit .zypper [] with packages := [toolkitPackage] }

/-- The audit of the toolkit's host is a complete inventory. -/
theorem toolkit_audited : Inventory .zypper toolkitAudit.packages where
  rows := by
    intro package hpackage
    obtain rfl := List.mem_singleton.mp hpackage
    exact
      { installed := rfl
        backend := rfl
        interesting := show interestingPackage "nvidia-container-toolkit" = true by decide
        fields :=
          { name := show '=' ∉ "nvidia-container-toolkit".toList by decide
            architecture := ⟨"x86_64", rfl, by decide, by decide, by decide, by decide⟩
            version := ⟨"1.17.8", "1", rfl, by decide, by decide, by decide⟩
            epoch := fun epoch hepoch => by cases hepoch } }
  distinct := by decide
  slots := fun hno => absurd hno (by decide)

/-- A host that lost both versions gets them back and loses the package that it gained. -/
theorem zypper_rollback_exact_iff_devel :
    ∃ commands, rollbackPackageCommands (develSnapshot .zypper) (some toolkitAudit) =
        .ok commands ∧
      ∀ actions : List (ZypperAction × ZypperIdentity), actions.Nodup →
        (∀ entry ∈ actions, entry.1.keepsArchitecture = true) →
        zypperActionsError actions (develSnapshot .zypper) toolkitAudit
            (commands.flatMap rollbackRestoreSpecs) (commands.flatMap rollbackRemoveSpecs) =
          none →
        zypperExecuted (zypperStates toolkitAudit.packages) actions =
          zypperStates (develSnapshot .zypper).packages := by
  obtain ⟨commands, hcommands, -, -, hall⟩ := zypper_rollback_exact_iff
    (devel_retained .zypper (by decide)) toolkit_audited
  refine ⟨commands, hcommands, hall.mpr ?_⟩
  have hrestored : restorePackages (develSnapshot .zypper) toolkitAudit =
      [develPackage .zypper "1", develPackage .zypper "2"] := by
    decide
  intro restored hmem installed hinstalled
  rw [hrestored] at hmem
  obtain rfl := List.mem_singleton.mp hinstalled
  revert restored
  decide

/-- One group of a summary, with one version of the kernel headers. -/
def develGroup (tag status build : String) : XmlElement :=
  .element tag []
    [.element "solvable"
      [("status", status), ("kind", "package"), ("name", "kernel-default-devel"),
        ("edition", "6.4.0-" ++ build), ("arch", "x86_64")] []]

/-- The XML document of a dry run with these groups. -/
def develDocument (groups : List XmlElement) : XmlElement :=
  .element "stream" []
    [.element "install-summary" [("packages-to-change", toString groups.length)] groups]

/-- A dry run whose output is parsed to a document. -/
def develDryRun (output : String) : CommandResult where
  command := ["zypper", "--xmlout"]
  returncode := some 0
  stdout := output

/-- The parts of the output of a dry run that installs the second version and removes the
first. -/
def keptVersionParts : List String :=
  ["<stream><install-summary packages-to-change='2'>",
    "<to-install><solvable status='not-installed' kind='package' ",
    "name='kernel-default-devel' edition='6.4.0-2' arch='x86_64'/></to-install>",
    "<to-remove><solvable status='installed' kind='package' ",
    "name='kernel-default-devel' edition='6.4.0-1' arch='x86_64'/></to-remove>",
    "</install-summary></stream>"]

/-- The output of that dry run, in which a build goes that the baseline keeps. -/
def keptVersionOutput : String :=
  String.ofList (keptVersionParts.flatMap String.toList)

/-- The document that the output of that dry run writes. -/
def keptVersionDocument : XmlElement :=
  develDocument [develGroup "to-install" "not-installed" "2",
    develGroup "to-remove" "installed" "1"]

/-- What `parse_bounded_xml` makes of that output; other outputs are not asked for. -/
def parseKeptVersion (text : String) : Option XmlElement :=
  if text = keptVersionOutput then some keptVersionDocument else none

/-- The actions that the document of that dry run lists. -/
def keptVersionActions : List (ZypperAction × ZypperIdentity) :=
  [(.install, zypperIdentity (develPackage .zypper "2")),
    (.remove, zypperIdentity (develPackage .zypper "1"))]

/-- An output without brackets was not cut off by the runner. -/
theorem output_complete {result : CommandResult} (hstdout : '[' ∉ result.stdout.toList)
    (hstderr : '[' ∉ result.stderr.toList) : outputTruncated result = false := by
  have hpattern : "[output truncated:".toList = '[' :: "output truncated:".toList := rfl
  rw [outputTruncated, Text.contains, Text.contains, hpattern,
    Text.infix_of_head_not_mem hstdout, Text.infix_of_head_not_mem hstderr, Bool.or_self]

/-- An output that was not cut off is parsed as its document is read. -/
theorem parse_zypper_transaction_eq {parseXml : String → Option XmlElement}
    {result : CommandResult} {root : XmlElement} (hcomplete : outputTruncated result = false)
    (hparsed : parseXml result.stdout = some root) :
    parseZypperTransaction parseXml result = readSummary root := by
  simp [parseZypperTransaction, hcomplete, hparsed]

/-- The output of that dry run is read as its actions. -/
theorem parse_kept_version :
    parseZypperTransaction parseKeptVersion (develDryRun keptVersionOutput) =
      some keptVersionActions := by
  have hplain : ∀ part ∈ keptVersionParts, '[' ∉ part.toList := by
    decide +kernel
  have hcomplete : outputTruncated (develDryRun keptVersionOutput) = false := by
    refine output_complete ?_ List.not_mem_nil
    show '[' ∉ keptVersionOutput.toList
    rw [keptVersionOutput, String.toList_ofList]
    intro hmem
    obtain ⟨part, hpart, hin⟩ := List.mem_flatMap.mp hmem
    exact hplain part hpart hin
  have hread : readSummary keptVersionDocument = some keptVersionActions := by
    decide +kernel
  exact (parse_zypper_transaction_eq hcomplete (if_pos rfl)).trans hread

/-- The removal of a baseline version that is still installed is accepted, and it is not brought
back. -/
theorem kept_version_removed :
    ∃ commands, rollbackPackageCommands (develSnapshot .zypper)
        (some (develAudit .zypper ["1"])) = .ok commands ∧
      zypperRollbackTransactionError parseKeptVersion (develDryRun keptVersionOutput)
          (develSnapshot .zypper) (develAudit .zypper ["1"])
          (commands.flatMap rollbackRestoreSpecs) (commands.flatMap rollbackRemoveSpecs) = none ∧
      zypperExecuted (zypperStates (develAudit .zypper ["1"]).packages) keptVersionActions ≠
        zypperStates (develSnapshot .zypper).packages := by
  obtain ⟨commands, hcommands, hrestores, hremoves, -⟩ := derived_operands
    (devel_retained .zypper (by decide))
    (devel_audited .zypper (by decide) ["1"] (by decide) (by decide))
  refine ⟨commands, hcommands, ?_, ?_⟩
  · rw [hrestores, hremoves, zypperRollbackTransactionError, parse_kept_version]
    decide +kernel
  · intro hexact
    have hkept : zypperIdentity (develPackage .zypper "1") ∈
        zypperStates (develSnapshot .zypper).packages :=
      ⟨_, devel_baseline_iff.mpr List.mem_cons_self, rfl⟩
    rw [← hexact] at hkept
    rcases hkept with ⟨-, hstays⟩ | ⟨entry, hentry, hne, heq⟩
    · exact hstays ⟨(.remove, zypperIdentity (develPackage .zypper "1")),
        by simp [keptVersionActions],
        by simp [ZypperAction.replaces]⟩
    · simp only [keptVersionActions, List.mem_cons, List.not_mem_nil, or_false] at hentry
      rcases hentry with rfl | rfl
      · exact absurd heq (by decide)
      · exact hne rfl

end NvidiaConverge
