import NvidiaConverge.Library.SlotDelta
import NvidiaConverge.Rollback.Grammar
import NvidiaConverge.Rollback.Load

/-!
# Package inventories

What a complete inventory records of one package, and why its spellings tell packages apart:
`rpm_package_spec_injective`, `zypper_package_spec_injective` and `apt_remove_spec_injective`
read a spelling back from its last separators.
-/

namespace NvidiaConverge

/-- `_PackageStateIdentity`: name, architecture, epoch, version. -/
abbrev PackageState := String × Option String × Option String × Option String

/-- The name and the architecture of a package. -/
abbrev PackageSlot := String × Option String

/-- `(package.name, package.architecture)`: what one version of a package fills. -/
def packageSlot (package : PackageInfo) : PackageSlot :=
  (package.name, package.architecture)

/-- The slot of a package's identity. -/
def stateSlot (state : PackageState) : PackageSlot :=
  (state.1, state.2.1)

@[simp] theorem state_slot_identity (package : PackageInfo) :
    stateSlot (packageStateIdentity package) = packageSlot package :=
  rfl

/-- The identities that a package list shows as installed. -/
def installedStates (packages : List PackageInfo) : Set PackageState :=
  {state | ∃ package ∈ packages, package.installed = true ∧ packageStateIdentity package = state}

theorem mem_installed_states {packages : List PackageInfo} {state : PackageState} :
    state ∈ installedStates packages ↔
      state ∈ (packages.filter (·.installed)).map packageStateIdentity := by
  simp only [List.mem_map, List.mem_filter]
  constructor
  · rintro ⟨package, hmem, hinstalled, heq⟩
    exact ⟨package, ⟨hmem, hinstalled⟩, heq⟩
  · rintro ⟨package, ⟨hmem, hinstalled⟩, heq⟩
    exact ⟨package, hmem, hinstalled, heq⟩

theorem identity_mem_installed_states {packages : List PackageInfo} {package : PackageInfo}
    (hmem : package ∈ packages) (hinstalled : package.installed = true) :
    packageStateIdentity package ∈ installedStates packages :=
  ⟨package, hmem, hinstalled, rfl⟩

/-! ## Rows -/

/-- The fields of a header as RPM admits them: `-` separates version and release and occurs in
neither, `:` only follows an epoch, an architecture is a plain word, and a name has no `=`. -/
structure RpmFields (package : PackageInfo) : Prop where
  name : '=' ∉ package.name.toList
  architecture : ∃ architecture, package.architecture = some architecture ∧ architecture ≠ "" ∧
    '.' ∉ architecture.toList ∧ '-' ∉ architecture.toList ∧ '=' ∉ architecture.toList
  version : ∃ version release, package.version = some (version ++ "-" ++ release) ∧
    '-' ∉ version.toList ∧ ':' ∉ version.toList ∧ '-' ∉ release.toList
  epoch : ∀ epoch, package.epoch = some epoch →
    epoch ≠ "" ∧ '-' ∉ epoch.toList ∧ ':' ∉ epoch.toList

/-- The fields of a dpkg row: a name and an architecture have no `:`. -/
structure AptFields (package : PackageInfo) : Prop where
  name : ':' ∉ package.name.toList
  architecture : ∃ architecture, package.architecture = some architecture ∧ architecture ≠ "" ∧
    ':' ∉ architecture.toList
  version : truthy package.version = true
  epoch : package.epoch = none

/-- One row of a complete inventory, as `_parse_rpm_package_rows` or
`_parse_dpkg_package_rows` records it. -/
structure InventoryRow (manager : PackageManager) (package : PackageInfo) : Prop where
  installed : package.installed = true
  backend : package.manager = some (expectedManager manager)
  interesting : interestingPackage package.name = true
  fields : if manager = .aptGet then AptFields package else RpmFields package

/-- A complete inventory; the dpkg parser keeps one row for each slot. -/
structure Inventory (manager : PackageManager) (packages : List PackageInfo) : Prop where
  rows : ∀ package ∈ packages, InventoryRow manager package
  distinct : (packages.map packageStateIdentity).Nodup
  slots : manager = .aptGet → (packages.map packageSlot).Nodup

variable {manager : PackageManager} {package other : PackageInfo} {packages : List PackageInfo}

/-- A row that is not APT's has the fields of a package that RPM manages. -/
theorem InventoryRow.rpm (h : InventoryRow manager package) (hmanager : manager ≠ .aptGet) :
    RpmFields package := by
  have hfields := h.fields
  rwa [if_neg hmanager] at hfields

/-- A row of APT has the fields of a package that dpkg manages. -/
theorem InventoryRow.apt (h : InventoryRow .aptGet package) : AptFields package :=
  h.fields

/-- Every row records a version. -/
theorem InventoryRow.version_truthy (h : InventoryRow manager package) :
    truthy package.version = true := by
  by_cases hmanager : manager = .aptGet
  · subst hmanager
    exact h.apt.version
  · obtain ⟨version, release, heq, -⟩ := (h.rpm hmanager).version
    rw [heq]
    have hne : version ++ "-" ++ release ≠ "" := by
      intro hempty
      have hchars := congrArg String.toList hempty
      simp at hchars
    simp [truthy, hne]

/-- Every row records an architecture. -/
theorem InventoryRow.architecture_known (h : InventoryRow manager package) :
    ∃ architecture, package.architecture = some architecture ∧ architecture ≠ "" := by
  by_cases hmanager : manager = .aptGet
  · subst hmanager
    obtain ⟨architecture, heq, hne, -⟩ := h.apt.architecture
    exact ⟨architecture, heq, hne⟩
  · obtain ⟨architecture, heq, hne, -⟩ := (h.rpm hmanager).architecture
    exact ⟨architecture, heq, hne⟩

/-- Every row of an inventory is installed. -/
theorem Inventory.filter_installed (h : Inventory manager packages) :
    packages.filter (·.installed) = packages :=
  List.filter_eq_self.mpr fun package hpackage => (h.rows package hpackage).installed

/-- A slot of dpkg holds one package. -/
theorem Inventory.slot_injective (h : Inventory .aptGet packages) :
    Set.InjOn stateSlot (installedStates packages) := by
  rintro _ ⟨package, hpackage, -, rfl⟩ _ ⟨other, hother, -, rfl⟩ heq
  rw [List.inj_on_of_nodup_map (h.slots rfl) hpackage hother heq]

/-! ## Spellings -/

open Text (cut_left_injective cut_right_injective)

/-- The suffix of a known architecture is a dot and the architecture. -/
theorem architecture_suffix_some {architecture : String}
    (h : package.architecture = some architecture) (hne : architecture ≠ "") :
    architectureSuffix package = "." ++ architecture := by
  simp [architectureSuffix, h, truthy, hne, formatOption]

/-- The epoch and the version, as both RPM spellings write them. -/
def rpmEdition (package : PackageInfo) : String :=
  epochPrefix package ++ formatOption package.version

/-- The epoch's prefix is empty, or it ends in the only colon. -/
theorem RpmFields.epoch_prefix (h : RpmFields package) :
    (package.epoch = none ∧ (epochPrefix package).toList = []) ∨
      ∃ epoch, package.epoch = some epoch ∧ '-' ∉ epoch.toList ∧ ':' ∉ epoch.toList ∧
        (epochPrefix package).toList = epoch.toList ++ [':'] := by
  cases hepoch : package.epoch with
  | none => exact .inl ⟨rfl, by simp [epochPrefix, hepoch, truthy]⟩
  | some epoch =>
      obtain ⟨hne, hdash, hcolon⟩ := h.epoch epoch hepoch
      exact .inr ⟨epoch, rfl, hdash,
        hcolon, by simp [epochPrefix, hepoch, truthy, hne, formatOption]⟩

/-- An epoch's prefix and a text without a colon are told apart. -/
theorem epoch_prefix_injective (h : RpmFields package) (h' : RpmFields other)
    {version version' : List Char} (hversion : ':' ∉ version) (hversion' : ':' ∉ version')
    (heq : (epochPrefix package).toList ++ version = (epochPrefix other).toList ++ version') :
    package.epoch = other.epoch ∧ version = version' := by
  rcases h.epoch_prefix with ⟨hnone, hempty⟩ | ⟨epoch, hsome, -, hcolon, hchars⟩ <;>
    rcases h'.epoch_prefix with ⟨hnone', hempty'⟩ | ⟨epoch', hsome', -, hcolon', hchars'⟩
  · rw [hempty, hempty'] at heq
    exact ⟨hnone.trans hnone'.symm, heq⟩
  · rw [hempty, hchars'] at heq
    exact absurd (show ':' ∈ version by rw [← List.nil_append version, heq]; simp) hversion
  · rw [hchars, hempty'] at heq
    exact absurd (show ':' ∈ version' by rw [← List.nil_append version', ← heq]; simp) hversion'
  · rw [hchars, hchars', List.append_assoc, List.append_assoc] at heq
    obtain ⟨hepoch, hrest⟩ := cut_left_injective hcolon hcolon' heq
    exact ⟨by rw [hsome, hsome', String.toList_inj.mp hepoch], hrest⟩

/-- The parts of an edition: what stands before its only guaranteed dash, and the release. -/
structure EditionParts (package : PackageInfo) (version release : String) : Prop where
  recorded : package.version = some (version ++ "-" ++ release)
  noColon : ':' ∉ version.toList
  noDash : '-' ∉ (epochPrefix package).toList ++ version.toList
  noDashAfter : '-' ∉ release.toList
  chars : (rpmEdition package).toList =
    ((epochPrefix package).toList ++ version.toList) ++ '-' :: release.toList

/-- Every row of RPM has an edition with a version and a release. -/
theorem RpmFields.edition_parts (h : RpmFields package) :
    ∃ version release, EditionParts package version release := by
  obtain ⟨version, release, hversion, hdash, hcolon, hrelease⟩ := h.version
  refine ⟨version, release, hversion, hcolon, ?_, hrelease, ?_⟩
  · rcases h.epoch_prefix with ⟨-, hempty⟩ | ⟨epoch, -, hepoch, -, hchars⟩
    · simpa [hempty] using hdash
    · simp [hchars, hdash, hepoch]
  · simp [rpmEdition, hversion, formatOption]

/-- What stands before the last dash tells epochs and versions apart: only an epoch brings a
colon. -/
theorem EditionParts.injective (h : RpmFields package) (h' : RpmFields other)
    {version version' release release' : String} (hparts : EditionParts package version release)
    (hparts' : EditionParts other version' release') (hrelease : release.toList = release'.toList)
    (heq : (epochPrefix package).toList ++ version.toList =
      (epochPrefix other).toList ++ version'.toList) :
    package.epoch = other.epoch ∧ package.version = other.version := by
  obtain ⟨hepoch, hversion⟩ := epoch_prefix_injective h h' hparts.noColon hparts'.noColon heq
  refine ⟨hepoch, ?_⟩
  rw [hparts.recorded, hparts'.recorded, String.toList_inj.mp hversion,
    String.toList_inj.mp hrelease]

/-- The edition of a row tells its epoch and its version. -/
theorem rpm_edition_injective (h : RpmFields package) (h' : RpmFields other)
    (heq : rpmEdition package = rpmEdition other) :
    package.epoch = other.epoch ∧ package.version = other.version := by
  obtain ⟨version, release, hparts⟩ := h.edition_parts
  obtain ⟨version', release', hparts'⟩ := h'.edition_parts
  have hchars := congrArg String.toList heq
  rw [hparts.chars, hparts'.chars] at hchars
  obtain ⟨hbefore, hrelease⟩ := cut_right_injective hparts.noDashAfter hparts'.noDashAfter hchars
  exact hparts.injective h h' hparts' hrelease hbefore

/-- `_rpm_package_spec` tells the rows of an inventory apart. -/
theorem rpm_package_spec_injective (h : RpmFields package) (h' : RpmFields other)
    (heq : rpmPackageSpec package = rpmPackageSpec other) :
    packageStateIdentity package = packageStateIdentity other := by
  obtain ⟨architecture, harch, hne, hdot, -, -⟩ := h.architecture
  obtain ⟨architecture', harch', hne', hdot', -, -⟩ := h'.architecture
  obtain ⟨version, release, hparts⟩ := h.edition_parts
  obtain ⟨version', release', hparts'⟩ := h'.edition_parts
  have hchars : ∀ {p : PackageInfo} {v r a : String}, p.architecture = some a → a ≠ "" →
      EditionParts p v r → (rpmPackageSpec p).toList =
        ((p.name.toList ++ '-' :: ((epochPrefix p).toList ++ v.toList)) ++ '-' :: r.toList) ++
          '.' :: a.toList := by
    intro p v r a ha hnonempty hp
    simp [rpmPackageSpec, architecture_suffix_some ha hnonempty, hp.recorded, formatOption]
  have hlists := congrArg String.toList heq
  rw [hchars harch hne hparts, hchars harch' hne' hparts'] at hlists
  -- From the right: the architecture, the release, then the name and the rest of the edition.
  obtain ⟨hlists, hsame⟩ := cut_right_injective hdot hdot' hlists
  obtain ⟨hlists, hrelease⟩ := cut_right_injective hparts.noDashAfter hparts'.noDashAfter hlists
  obtain ⟨hname, hedition⟩ := cut_right_injective hparts.noDash hparts'.noDash hlists
  obtain ⟨hepoch, hversion⟩ := hparts.injective h h' hparts' hrelease hedition
  rw [packageStateIdentity, packageStateIdentity, String.toList_inj.mp hname, harch, harch',
    String.toList_inj.mp hsame, hepoch, hversion]

/-- `_zypper_package_spec` tells the rows of an inventory apart. -/
theorem zypper_package_spec_injective (h : RpmFields package) (h' : RpmFields other)
    (heq : zypperPackageSpec package = zypperPackageSpec other) :
    packageStateIdentity package = packageStateIdentity other := by
  obtain ⟨architecture, harch, hne, hdot, -, hequals⟩ := h.architecture
  obtain ⟨architecture', harch', hne', hdot', -, hequals'⟩ := h'.architecture
  have hchars : ∀ {p : PackageInfo} {a : String}, p.architecture = some a → a ≠ "" →
      (zypperPackageSpec p).toList =
        (p.name.toList ++ '.' :: a.toList) ++ '=' :: (rpmEdition p).toList := by
    intro p a ha hnonempty
    simp [zypperPackageSpec, architecture_suffix_some ha hnonempty, rpmEdition]
  have hlists := congrArg String.toList heq
  rw [hchars harch hne, hchars harch' hne'] at hlists
  have hfree : '=' ∉ package.name.toList ++ '.' :: architecture.toList := by
    simp [h.name, hequals]
  have hfree' : '=' ∉ other.name.toList ++ '.' :: architecture'.toList := by
    simp [h'.name, hequals']
  obtain ⟨hlists, hedition⟩ := cut_left_injective hfree hfree' hlists
  obtain ⟨hname, hsame⟩ := cut_right_injective hdot hdot' hlists
  obtain ⟨hepoch, hversion⟩ := rpm_edition_injective h h' (String.toList_inj.mp hedition)
  rw [packageStateIdentity, packageStateIdentity, String.toList_inj.mp hname, harch, harch',
    String.toList_inj.mp hsame, hepoch, hversion]

/-- The spelling of an APT package without its version. -/
def aptRemovalSpec (package : PackageInfo) : String :=
  package.name ++
    if truthy package.architecture then ":" ++ formatOption package.architecture else ""

/-- An APT removal names one slot. -/
theorem apt_removal_spec_injective (h : AptFields package) (h' : AptFields other)
    (heq : aptRemovalSpec package = aptRemovalSpec other) :
    packageSlot package = packageSlot other := by
  obtain ⟨architecture, harch, hne, -⟩ := h.architecture
  obtain ⟨architecture', harch', hne', -⟩ := h'.architecture
  have hchars : ∀ {p : PackageInfo} {a : String}, p.architecture = some a → a ≠ "" →
      (aptRemovalSpec p).toList = p.name.toList ++ ':' :: a.toList := by
    intro p a ha hnonempty
    simp [aptRemovalSpec, ha, truthy, hnonempty, formatOption]
  have hlists := congrArg String.toList heq
  rw [hchars harch hne, hchars harch' hne'] at hlists
  obtain ⟨hname, hsame⟩ := cut_left_injective h.name h'.name hlists
  rw [packageSlot, packageSlot, String.toList_inj.mp hname, harch, harch',
    String.toList_inj.mp hsame]

end NvidiaConverge
