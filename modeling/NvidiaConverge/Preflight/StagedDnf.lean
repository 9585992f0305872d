import NvidiaConverge.Preflight.StagedPlan

/-!
# The staged transaction under DNF

The removals that the binder and the local check expect are the other audited versions in the
slots that the retained packages fill. `dnf_local_iff` says which transactions the local check
accepts.
-/

namespace NvidiaConverge

open Posix (AbsolutePath)

variable {desired : DesiredState} {audit : HostAudit} {manager : PackageManager}
  {snapshot : RollbackSnapshot} {path : AbsolutePath} {bundle : PackagePayloadBundle}
  {access : PayloadAccess} {actions bound : List PlanAction} {command : List String}
  {package : PackageInfo}
  {parseXml : String → Option XmlElement} {run : List String → CommandResult}

/-- The current states in the slots of some others. -/
def otherVersions (installs current : Set PackageState) : Set PackageState :=
  {state ∈ current \ installs | stateSlot state ∈ stateSlot '' installs}

/-- The spelling that binds an RPM is the one by which it is restored. -/
theorem bound_rpm_spec_eq (package : PackageInfo) (h : truthy package.architecture = true) :
    boundRpmSpec package.name package.epoch package.version package.architecture =
      rpmPackageSpec package := by
  rw [boundRpmSpec, rpmPackageSpec, epochPrefix, architectureSuffix, if_pos h]
  simp only [String.append_assoc]

/-- The binder and the local check expect the same removals. -/
theorem bound_removals_eq {entries : List PackagePayload}
    (hcomplete : ∀ entry ∈ entries, entry.architecture ≠ "") :
    boundRemovals audit entries =
      localDnfRemovals audit (entries.map (forwardPackage manager)) := by
  have hslots : (entries.map (forwardPackage manager)).map packageSlot =
      entries.map fun entry => stateSlot (entryIdentity entry) := by
    rw [List.map_map]
    rfl
  have hidentities : (entries.map (forwardPackage manager)).map packageStateIdentity =
      entries.map entryIdentity := by
    rw [List.map_map]
    rfl
  have harchitecture : ∀ package : PackageInfo,
      (entries.map fun entry => stateSlot (entryIdentity entry)).contains (packageSlot package) =
        true → truthy package.architecture = true := by
    intro package hslot
    obtain ⟨entry, hentry, heq⟩ := List.mem_map.mp (List.contains_iff_mem.mp hslot)
    have hsome : some entry.architecture = package.architecture := (Prod.mk.inj heq).2
    simpa [← hsome, truthy] using hcomplete entry hentry
  rw [boundRemovals, localDnfRemovals, hslots, hidentities]
  have hfilter : (audit.packages.filter fun package =>
      package.installed && package.manager == some "rpm" && truthy package.version &&
        truthy package.architecture &&
        (entries.map fun entry => stateSlot (entryIdentity entry)).contains (packageSlot package) &&
        !(entries.map entryIdentity).contains (packageStateIdentity package)) =
      audit.packages.filter fun package =>
        package.installed && package.manager == some "rpm" && truthy package.version &&
          (entries.map fun entry => stateSlot (entryIdentity entry)).contains
            (packageSlot package) &&
          !(entries.map entryIdentity).contains (packageStateIdentity package) := by
    refine List.filter_congr fun package _ => ?_
    by_cases hslot : (entries.map fun entry => stateSlot (entryIdentity entry)).contains
        (packageSlot package) = true
    · rw [harchitecture package hslot, Bool.and_true]
    · simp only [Bool.not_eq_true] at hslot
      simp only [hslot, Bool.and_false, Bool.false_and]
  rw [hfilter]
  refine congrArg sorted (List.map_congr_left fun package hpackage => ?_)
  rw [List.mem_filter, Bool.and_eq_true, Bool.and_eq_true] at hpackage
  exact bound_rpm_spec_eq package (harchitecture package hpackage.2.1.2)

/-- An RPM row of an inventory passes the filters of the checks. -/
theorem inventory_rpm (h : InventoryRow .dnf package) :
    package.installed = true ∧ (package.manager == some "rpm") = true ∧
      truthy package.version = true := by
  refine ⟨h.installed, ?_, h.version_truthy⟩
  rw [h.backend]
  decide

/-- The removals that the local check expects are the displaced versions. -/
theorem mem_local_dnf_removals (haudit : Inventory .dnf audit.packages) {spec : String} :
    spec ∈ localDnfRemovals audit ((forwardEntries bundle).map (forwardPackage manager)) ↔
      ∃ package ∈ audit.packages, packageStateIdentity package ∈
        otherVersions (forwardStates bundle) audit.states ∧ rpmPackageSpec package = spec := by
  have hslots : ∀ slot : PackageSlot,
      slot ∈ ((forwardEntries bundle).map (forwardPackage manager)).map packageSlot ↔
        slot ∈ stateSlot '' forwardStates bundle := by
    intro slot
    simp only [List.mem_map, Set.mem_image, forwardStates, Set.mem_ofPred_eq]
    constructor
    · rintro ⟨_, ⟨entry, hentry, rfl⟩, rfl⟩
      exact ⟨_, ⟨entry, hentry, rfl⟩, rfl⟩
    · rintro ⟨_, ⟨entry, hentry, rfl⟩, rfl⟩
      exact ⟨_, ⟨entry, hentry, rfl⟩, rfl⟩
  have hstates : ∀ state : PackageState,
      state ∈ ((forwardEntries bundle).map (forwardPackage manager)).map packageStateIdentity ↔
        state ∈ forwardStates bundle := by
    intro state
    simp only [List.mem_map, forwardStates, Set.mem_ofPred_eq]
    constructor
    · rintro ⟨_, ⟨entry, hentry, rfl⟩, rfl⟩
      exact ⟨entry, hentry, rfl⟩
    · rintro ⟨entry, hentry, rfl⟩
      exact ⟨_, ⟨entry, hentry, rfl⟩, rfl⟩
  rw [localDnfRemovals, mem_sorted, List.mem_map]
  constructor
  · rintro ⟨package, hpackage, rfl⟩
    rw [List.mem_filter] at hpackage
    simp only [Bool.and_eq_true, List.contains_iff_mem, Bool.not_eq_true', hslots] at hpackage
    obtain ⟨hmem, ⟨-, hslot⟩, hstate⟩ := hpackage
    have hcurrent := identity_mem_installed_states hmem (haudit.rows package hmem).installed
    refine ⟨package, hmem, ⟨⟨hcurrent, fun hinstalled => ?_⟩, hslot⟩, rfl⟩
    rw [← hstates, ← List.contains_iff_mem, hstate] at hinstalled
    cases hinstalled
  · rintro ⟨package, hmem, ⟨⟨-, hstate⟩, hslot⟩, rfl⟩
    obtain ⟨hinstalled, hbackend, hversion⟩ := inventory_rpm (haudit.rows package hmem)
    refine ⟨package, List.mem_filter.mpr ⟨hmem, ?_⟩, rfl⟩
    simp only [hinstalled, hbackend, hversion, Bool.true_and, Bool.and_eq_true,
      List.contains_iff_mem, Bool.not_eq_true', hslots]
    refine ⟨hslot, Bool.eq_false_iff.mpr fun hcontains => hstate ?_⟩
    rw [← hstates, ← List.contains_iff_mem]
    exact hcontains

/-- Spellings of audited packages tell sets of their states apart. -/
theorem rpm_specs_eq_iff (haudit : Inventory .dnf audit.packages) {left right : Set PackageState}
    (hleft : left ⊆ audit.states) (hright : right ⊆ audit.states) :
    (∀ spec, (∃ package ∈ audit.packages, packageStateIdentity package ∈ left ∧
        rpmPackageSpec package = spec) ↔
      ∃ package ∈ audit.packages, packageStateIdentity package ∈ right ∧
        rpmPackageSpec package = spec) ↔ left = right := by
  have hsubset : ∀ {some other : Set PackageState}, some ⊆ audit.states →
      (∀ spec, (∃ package ∈ audit.packages, packageStateIdentity package ∈ some ∧
        rpmPackageSpec package = spec) → ∃ package ∈ audit.packages,
          packageStateIdentity package ∈ other ∧ rpmPackageSpec package = spec) →
      some ⊆ other := by
    intro some other hsome himp state hstate
    obtain ⟨package, hmem, -, rfl⟩ := hsome hstate
    obtain ⟨match', hmatch, hother, hspec⟩ := himp _ ⟨package, hmem, hstate, rfl⟩
    rwa [← rpm_package_spec_injective ((haudit.rows _ hmatch).rpm (by decide))
      ((haudit.rows _ hmem).rpm (by decide)) hspec]
  constructor
  · intro hiff
    exact Set.Subset.antisymm (hsubset hleft fun spec => (hiff spec).mp)
      (hsubset hright fun spec => (hiff spec).mpr)
  · rintro rfl spec
    exact Iff.rfl

/-- A solver that answers a transaction, in the spelling of the local check. -/
structure DnfAnswer (installs removals : List RpmIdentity) (result : CommandResult) : Prop where
  succeeded : result.returncode = some 0
  printed : ∃ observedInstalls observedRemovals,
    parseDnfTransaction result = some (observedInstalls, observedRemovals) ∧
      (∀ spec, spec ∈ observedInstalls ↔ spec ∈ installs.map formatRpmIdentity) ∧
      ∀ spec, spec ∈ observedRemovals ↔ spec ∈ removals.map formatRpmIdentity

section Dnf

variable {packages : List String} {installs removals : List RpmIdentity}

/-- The identity of an audited RPM is the state of its row. -/
theorem rpm_identity_eq_some {identity : RpmIdentity} (h : rpmIdentity package = some identity) :
    package.installed = true ∧ rpmState identity = packageStateIdentity package ∧
      formatRpmIdentity identity = rpmPackageSpec package := by
  rw [rpmIdentity] at h
  split at h
  · next hcomplete =>
      simp only [Bool.and_eq_true] at hcomplete
      obtain ⟨⟨⟨hinstalled, -⟩, hversion⟩, harchitecture⟩ := hcomplete
      obtain rfl := Option.some.inj h
      have hknown : ∀ field : Option String, truthy field = true →
          some (formatOption field) = field := by
        intro field hfield
        cases field with
        | none => cases hfield
        | some value => rfl
      refine ⟨hinstalled, ?_, ?_⟩
      · show (package.name, some (formatOption package.architecture), package.epoch,
          some (formatOption package.version)) = _
        rw [hknown _ harchitecture, hknown _ hversion]
        rfl
      · rw [formatRpmIdentity, rpmPackageSpec, epochPrefix, architectureSuffix,
          if_pos harchitecture]
        simp only [String.append_assoc]
  · cases h

/-- Packages of one state have one spelling. -/
theorem rpm_spec_of_state {package other : PackageInfo}
    (h : packageStateIdentity package = packageStateIdentity other) :
    rpmPackageSpec package = rpmPackageSpec other := by
  obtain ⟨hname, harchitecture, hepoch, hversion⟩ :
      package.name = other.name ∧ package.architecture = other.architecture ∧
        package.epoch = other.epoch ∧ package.version = other.version := by
    simpa [packageStateIdentity] using h
  rw [rpmPackageSpec, rpmPackageSpec, epochPrefix, epochPrefix, architectureSuffix,
    architectureSuffix, hname, harchitecture, hepoch, hversion]

/-- The accepted removals, as audited packages. -/
theorem AcceptedDnfForward.mem_removals
    (h : AcceptedDnfForward installs removals packages audit) {spec : String} :
    spec ∈ removals.map formatRpmIdentity ↔ ∃ package ∈ audit.packages,
      packageStateIdentity package ∈ (dnfOutcome installs removals).removals ∧
        rpmPackageSpec package = spec := by
  rw [List.mem_map]
  constructor
  · rintro ⟨identity, hremoved, rfl⟩
    obtain ⟨package, hmem, hidentity⟩ := List.mem_filterMap.mp (h.bound identity hremoved)
    obtain ⟨-, hstate, hspec⟩ := rpm_identity_eq_some hidentity
    exact ⟨package, hmem, ⟨identity, hremoved, hstate⟩, hspec.symm⟩
  · rintro ⟨package, -, ⟨identity, hremoved, hstate⟩, rfl⟩
    obtain ⟨source, -, hidentity⟩ := List.mem_filterMap.mp (h.bound identity hremoved)
    obtain ⟨-, hsource, hspec⟩ := rpm_identity_eq_some hidentity
    exact ⟨identity, hremoved, hspec.trans (rpm_spec_of_state (hsource.symm.trans hstate))⟩

/-- The removals that the check accepts are packages of the audit. -/
theorem AcceptedDnfForward.removals_subset
    (h : AcceptedDnfForward installs removals packages audit) :
    (dnfOutcome installs removals).removals ⊆ audit.states := by
  rintro _ ⟨identity, hremoved, rfl⟩
  obtain ⟨package, hmem, hidentity⟩ := List.mem_filterMap.mp (h.bound identity hremoved)
  obtain ⟨hinstalled, hstate, -⟩ := rpm_identity_eq_some hidentity
  exact ⟨package, hmem, hinstalled, hstate.symm⟩

/-- The retained installs, as the local check spells them. -/
theorem mem_expected_installs
    (h : StagedPlan snapshot .dnf path bundle audit access actions bound)
    (hretained : forwardStates bundle = (dnfOutcome installs removals).installs) {spec : String} :
    spec ∈ sorted (((forwardEntries bundle).map (forwardPackage .dnf)).map rpmPackageSpec) ↔
      spec ∈ installs.map formatRpmIdentity := by
  have hspell : ∀ {entry : PackagePayload} {identity : RpmIdentity},
      entry ∈ forwardEntries bundle → entryIdentity entry = rpmState identity →
        rpmPackageSpec (forwardPackage .dnf entry) = formatRpmIdentity identity := by
    intro entry identity hentry heq
    have hknown : truthy (some entry.architecture) = true := by
      simpa [truthy] using (h.entry_complete hentry).1
    obtain ⟨hname, harchitecture, hepoch, hversion⟩ :
        entry.name = identity.1 ∧ some entry.architecture = some identity.2.1 ∧
          entry.epoch = identity.2.2.1 ∧ some entry.version = some identity.2.2.2 := by
      simpa [entryIdentity, rpmState] using heq
    rw [← bound_rpm_spec_eq _ hknown, boundRpmSpec, formatRpmIdentity, forwardPackage]
    simp only [hname, harchitecture, hepoch, hversion]
    rfl
  rw [mem_sorted, List.map_map, List.mem_map, List.mem_map]
  constructor
  · rintro ⟨entry, hentry, rfl⟩
    have hstate : entryIdentity entry ∈ (dnfOutcome installs removals).installs :=
      hretained ▸ ⟨entry, hentry, rfl⟩
    obtain ⟨identity, hinstall, heq⟩ := hstate
    exact ⟨identity, hinstall, (hspell hentry heq.symm).symm⟩
  · rintro ⟨identity, hinstall, rfl⟩
    have hstate : rpmState identity ∈ forwardStates bundle :=
      hretained ▸ ⟨identity, hinstall, rfl⟩
    obtain ⟨entry, hentry, heq⟩ := hstate
    exact ⟨entry, hentry, hspell hentry heq⟩

/-- The local check compares the parsed transaction with what it expects. -/
theorem local_dnf_forward_ok {forwardPackages : List PackageInfo} {expectedPaths : List String}
    {observedInstalls observedRemovals : List String}
    (hcommand : command = dnfLocalTransactionCommand true expectedPaths []
      (sorted (forwardPackages.map rpmPackageSpec)) (localDnfRemovals audit forwardPackages))
    (hzero : (run (dnfLocalTransactionCommand false expectedPaths []
      (sorted (forwardPackages.map rpmPackageSpec))
      (localDnfRemovals audit forwardPackages))).returncode = some 0)
    (hparsed : parseDnfTransaction (run (dnfLocalTransactionCommand false expectedPaths []
      (sorted (forwardPackages.map rpmPackageSpec)) (localDnfRemovals audit forwardPackages))) =
        some (observedInstalls, observedRemovals)) (priorResults : List CommandResult) :
    (∃ results, preflightLocalDnfForward command forwardPackages expectedPaths audit run
        priorResults = .ok results) ↔
      sameMembers observedInstalls (sorted (forwardPackages.map rpmPackageSpec)) = true ∧
        sameMembers observedRemovals (localDnfRemovals audit forwardPackages) = true := by
  simp only [preflightLocalDnfForward, Result.check_bind_eq_ok, Result.refuse_eq_ok]
  simp only [hcommand, ne_eq, not_true_eq_false, not_false_eq_true, true_and, hzero, false_or,
    hparsed, Option.all_some, reduceCtorEq, or_false, Bool.not_eq_false, Bool.and_eq_true,
    Result.pure_eq_ok, exists_and_left, exists_eq', and_true]

/-- The local check of DNF accepts the transactions that leave no other version in a slot which
they fill. -/
theorem dnf_local_iff (h : StagedPlan snapshot .dnf path bundle audit access actions bound)
    (hcommand : stagedCommand path bundle .dnf audit actions = .ok command)
    (hretained : forwardStates bundle = (dnfOutcome installs removals).installs)
    (haudit : Inventory .dnf audit.packages)
    (haccepted : AcceptedDnfForward installs removals packages audit)
    (hanswer : ∀ command, DnfAnswer installs removals (run command)) :
    (∃ results, localForward .dnf command path bundle audit parseXml run = .ok results) ↔
      (dnfOutcome installs removals).removals =
        otherVersions (dnfOutcome installs removals).installs audit.states := by
  have hcomplete : ∀ entry ∈ forwardEntries bundle, entry.architecture ≠ "" :=
    fun entry hentry => (h.entry_complete hentry).1
  have hspecs : ((forwardEntries bundle).map fun entry =>
      boundRpmSpec entry.name entry.epoch (some entry.version) (some entry.architecture)) =
      ((forwardEntries bundle).map (forwardPackage .dnf)).map rpmPackageSpec := by
    rw [List.map_map]
    refine List.map_congr_left fun entry hentry => ?_
    exact bound_rpm_spec_eq (forwardPackage .dnf entry)
      (by simpa [truthy, forwardPackage] using hcomplete entry hentry)
  have hbound : command = dnfLocalTransactionCommand true (forwardPayloadPaths path bundle) []
      (sorted (((forwardEntries bundle).map (forwardPackage .dnf)).map rpmPackageSpec))
      (localDnfRemovals audit ((forwardEntries bundle).map (forwardPackage .dnf))) := by
    rw [stagedCommand, if_neg (by decide), boundRpmCommand, if_pos (by decide)] at hcommand
    rw [← Result.pure_eq_ok.mp hcommand, hspecs,
      @bound_removals_eq audit .dnf _ hcomplete]
  obtain ⟨hzero, observedInstalls, observedRemovals, hparsed, hinstalls, hremovals⟩ :=
    hanswer (dnfLocalTransactionCommand false (forwardPayloadPaths path bundle) []
      (sorted (((forwardEntries bundle).map (forwardPackage .dnf)).map rpmPackageSpec))
      (localDnfRemovals audit ((forwardEntries bundle).map (forwardPackage .dnf))))
  have hlocal := local_dnf_forward_ok hbound hzero hparsed [forwardValidation]
  rw [localForward, hlocal, same_members_iff, same_members_iff]
  have hsame : ∀ spec, spec ∈ observedInstalls ↔ spec ∈
      sorted (((forwardEntries bundle).map (forwardPackage .dnf)).map rpmPackageSpec) := by
    intro spec
    rw [hinstalls, mem_expected_installs h hretained]
  rw [← rpm_specs_eq_iff haudit haccepted.removals_subset (fun state hstate => hstate.1.1)]
  constructor
  · rintro ⟨-, hsame⟩ spec
    rw [← haccepted.mem_removals, ← hremovals, hsame, mem_local_dnf_removals haudit, hretained]
  · intro hspecs
    refine ⟨hsame, fun spec => ?_⟩
    rw [hremovals, haccepted.mem_removals, hspecs, mem_local_dnf_removals haudit, hretained]

end Dnf

end NvidiaConverge
