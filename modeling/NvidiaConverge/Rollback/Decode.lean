import NvidiaConverge.Rollback.Fields

/-!
# Decoding a written snapshot

`decodeSnapshot` on the fields of a snapshot, group by group as the reader takes them.
`decode_snapshot_iff` collects what a snapshot must satisfy to be decoded to itself.
-/

namespace NvidiaConverge

open Json (Value)
open Posix (AbsolutePath)

/-- A written snapshot has exactly the required keys. -/
theorem check_field_names_json (s : RollbackSnapshot) : checkFieldNames s.jsonFields = .ok () :=
  rfl

/-- The conditions under which the header of a snapshot is read back. -/
structure LoadableHeader (s : RollbackSnapshot) : Prop where
  createdAt : s.createdAt ≠ "" ∧ IsoTime.accepts s.createdAt = true
  operationId : s.operationId ≠ "" ∧ isOperationId s.operationId = true
  hostId : s.hostId ≠ ""
  osId : s.osId ≠ some ""
  osVersion : s.osVersion ≠ some ""
  architecture : s.architecture ≠ ""
  kernel : s.kernel ≠ ""

/-- The header that the loader makes of a snapshot. -/
def RollbackSnapshot.header (s : RollbackSnapshot) (source : AbsolutePath)
    (manager : PackageManager) : SnapshotHeader where
  path := source.text
  createdAt := s.createdAt
  operationId := s.operationId
  hostId := s.hostId
  osId := s.osId
  osVersion := s.osVersion
  architecture := s.architecture
  packageManager := manager
  kernel := s.kernel

/-- The name of a package manager is not empty, and stands for it. -/
theorem package_manager_name (manager : PackageManager) :
    manager.name ≠ "" ∧ packageManager? manager.name = some manager := by
  cases manager <;> decide

/-- The text of an absolute path is not empty. -/
theorem path_text_ne_empty (source : AbsolutePath) : source.text ≠ "" := by
  intro h
  have hcomponents := source.path_components_text
  rw [h] at hcomponents
  cases hcomponents

variable {s : RollbackSnapshot} {source : AbsolutePath} {manager : PackageManager}

/-- The header is read back when each of its fields is. -/
theorem load_header_iff {header : SnapshotHeader} (hpath : s.path = some source.text)
    (hschema : s.schemaVersion = snapshotSchemaVersion)
    (hmanager : s.packageManager = some manager) :
    loadHeader s.jsonFields source = .ok header ↔
      LoadableHeader s ∧ s.header source manager = header := by
  obtain ⟨hname, hfind⟩ := package_manager_name manager
  have hne := path_text_ne_empty source
  have hversion : snapshotSchemaVersion ≠ "" := by decide
  simp [loadHeader, field, RollbackSnapshot.jsonFields, RollbackSnapshot.leadingFields,
    RollbackSnapshot.trailingFields, List.lookup, Result.bind_eq_ok, hpath, hschema, hmanager,
    hname, hfind, hne, hversion, source.path_components_text]
  constructor
  · rintro ⟨hcreated, hcreated', hoperation, hoperation', hhost, hos, hosVersion, harch, hkernel,
      rfl⟩
    exact ⟨⟨⟨hcreated, hcreated'⟩, ⟨hoperation, hoperation'⟩, hhost, hos, hosVersion, harch,
      hkernel⟩, rfl⟩
  · rintro ⟨⟨⟨hcreated, hcreated'⟩, ⟨hoperation, hoperation'⟩, hhost, hos, hosVersion, harch,
      hkernel⟩, rfl⟩
    exact ⟨hcreated, hcreated', hoperation, hoperation', hhost, hos, hosVersion, harch, hkernel,
      rfl⟩

/-- The conditions under which the module record of a snapshot is read back. -/
def LoadableModule (s : RollbackSnapshot) : Prop :=
  s.moduleNames.all (knownNvidiaModules.contains ·) = true ∧ s.moduleNames.Nodup ∧
    s.moduleLoaded = decide ("nvidia" ∈ s.moduleNames)

/-- The module record that the loader makes of a snapshot. -/
def RollbackSnapshot.moduleRecord (s : RollbackSnapshot) : ModuleRecord where
  version := s.moduleVersion
  loaded := s.moduleLoaded
  names := s.moduleNames
  openModule := s.moduleOpenModule
  signed := s.moduleSigned
  installedVersion := s.moduleInstalledVersion
  installedOpenModule := s.moduleInstalledOpenModule
  installedSigned := s.moduleInstalledSigned

/-- The module record is read back when its names fit. -/
theorem load_module_record_iff {record : ModuleRecord} :
    loadModuleRecord s.jsonFields = .ok record ↔ LoadableModule s ∧ s.moduleRecord = record := by
  simp [loadModuleRecord, field, RollbackSnapshot.jsonFields, RollbackSnapshot.leadingFields,
    RollbackSnapshot.trailingFields, List.lookup, Result.bind_eq_ok, load_module_names_iff]
  simp [LoadableModule, RollbackSnapshot.moduleRecord]

/-- A recorded mode is read back unless it is mixed. -/
theorem load_mig_mode_iff {mode read : Option MigMode} :
    loadMigMode (optionalValue (.string ·.value) mode) = .ok read ↔
      mode ≠ some .mixed ∧ mode = read := by
  match mode with
  | none => simp [loadMigMode, optionalValue, optionalString]
  | some .enabled =>
      have hread : loadMigMode (.string "enabled") = .ok (some .enabled) := rfl
      show loadMigMode (.string "enabled") = .ok read ↔ _
      simp [hread]
  | some .disabled =>
      have hread : loadMigMode (.string "disabled") = .ok (some .disabled) := rfl
      show loadMigMode (.string "disabled") = .ok read ↔ _
      simp [hread]
  | some .mixed =>
      show loadMigMode (.string "mixed") = .ok read ↔ _
      simp only [ne_eq, not_true_eq_false, false_and, iff_false]
      intro h
      cases h

/-- A unit whose three observations are known. -/
def UnitState.Known (state : UnitState) : Prop :=
  state.active ≠ none ∧ state.enabled ≠ none ∧ state.unitFileState ≠ none

/-- The state of a unit is read back exactly when all of it is known. -/
theorem load_unit_iff {fields : List (String × Value)} {unit : String} {state read : UnitState}
    (hactive : field fields (unit ++ "_active") = optionalValue .bool state.active)
    (henabled : field fields (unit ++ "_enabled") = optionalValue .bool state.enabled)
    (hfile : field fields (unit ++ "_unit_file_state") =
      optionalValue (.string ·.value) state.unitFileState) :
    loadUnit fields unit = .ok read ↔ state.Known ∧ state = read := by
  obtain ⟨active, enabled, unitFileState⟩ := state
  simp only [loadUnit, hactive, henabled, hfile, Result.bind_eq_ok,
    required_boolean_optional_iff, required_unit_file_state_iff, Result.pure_eq_ok,
    UnitState.Known]
  constructor
  · rintro ⟨_, rfl, _, rfl, _, rfl, rfl⟩
    exact ⟨⟨by simp, by simp, by simp⟩, rfl⟩
  · rintro ⟨⟨hknown, hknown', hknown''⟩, rfl⟩
    obtain ⟨value, rfl⟩ := Option.ne_none_iff_exists'.mp hknown
    obtain ⟨value', rfl⟩ := Option.ne_none_iff_exists'.mp hknown'
    obtain ⟨value'', rfl⟩ := Option.ne_none_iff_exists'.mp hknown''
    exact ⟨value, rfl, value', rfl, value'', rfl, rfl⟩

/-- The states of all four launchers are known. -/
def LauncherStates.Known (launchers : LauncherStates) : Prop :=
  launchers.dockerService.Known ∧ launchers.dockerSocket.Known ∧
    launchers.nvidiaPersistenced.Known ∧ launchers.fabricManager.Known

/-- The launchers are read back when all of them are known. -/
theorem load_launchers_iff {read : LauncherStates} :
    loadLaunchers s.jsonFields = .ok read ↔ s.launchers.Known ∧ s.launchers = read := by
  have hservice : ∀ {state}, loadUnit s.jsonFields "docker_service" = .ok state ↔
      s.launchers.dockerService.Known ∧ s.launchers.dockerService = state :=
    load_unit_iff rfl rfl rfl
  have hsocket : ∀ {state}, loadUnit s.jsonFields "docker_socket" = .ok state ↔
      s.launchers.dockerSocket.Known ∧ s.launchers.dockerSocket = state :=
    load_unit_iff rfl rfl rfl
  have hpersistenced : ∀ {state}, loadUnit s.jsonFields "nvidia_persistenced" = .ok state ↔
      s.launchers.nvidiaPersistenced.Known ∧ s.launchers.nvidiaPersistenced = state :=
    load_unit_iff rfl rfl rfl
  have hfabric : ∀ {state}, loadUnit s.jsonFields "fabric_manager" = .ok state ↔
      s.launchers.fabricManager.Known ∧ s.launchers.fabricManager = state :=
    load_unit_iff rfl rfl rfl
  simp only [loadLaunchers, Result.bind_eq_ok, hservice, hsocket, hpersistenced, hfabric,
    Result.pure_eq_ok, LauncherStates.Known]
  constructor
  · rintro ⟨_, ⟨h1, rfl⟩, _, ⟨h2, rfl⟩, _, ⟨h3, rfl⟩, _, ⟨h4, rfl⟩, rfl⟩
    exact ⟨⟨h1, h2, h3, h4⟩, rfl⟩
  · rintro ⟨⟨h1, h2, h3, h4⟩, rfl⟩
    exact ⟨_, ⟨h1, rfl⟩, _, ⟨h2, rfl⟩, _, ⟨h3, rfl⟩, _, ⟨h4, rfl⟩, rfl⟩

/-- The conditions under which the restorable state of a snapshot is read back. -/
structure LoadableRestore (s : RollbackSnapshot) (manager : PackageManager)
    (bundle : PackagePayloadBundle) (expectedDirectory : Except String String) : Prop where
  migMode : s.migMode ≠ some .mixed
  launchers : s.launchers.Known
  gpus : LoadableGpus s.gpuUuids
  geometry : LoadableGeometry s.gpuUuids s.migGeometry
  disabled : ¬ (s.migMode = some .disabled ∧ s.migGeometry ≠ [])
  packages : LoadablePackages s.packages
  managers : ∀ package ∈ s.packages, package.manager = some (expectedManager manager)
  introduced : s.introducedPackages.length ≤ maxSnapshotPackages ∧
    (∀ name ∈ s.introducedPackages, introducible name = true) ∧ s.introducedPackages.Nodup
  payloads : bundle.Loadable manager s.packages expectedDirectory
  files : ∀ file ∈ s.managedFiles, file.Loadable
  paths : CanonicalManagedPaths manager (s.managedFiles.map (·.path))
  commands : s.commands.length ≤ maxSnapshotCommands ∧
    ∀ command ∈ s.commands, LoadableCommand command

/-- The restore record that the loader makes of a snapshot. -/
def RollbackSnapshot.restoreRecord (s : RollbackSnapshot) (bundle : PackagePayloadBundle) :
    RestoreRecord where
  migMode := s.migMode
  launchers := s.launchers
  gpuUuids := s.gpuUuids
  migGeometry := s.migGeometry
  packages := s.packages
  introducedPackages := s.introducedPackages
  packagePayloads := bundle
  managedFiles := s.managedFiles
  commands := s.commands

/-- The fields of the restore record as the snapshot's object holds them, by key. -/
theorem restore_fields (s : RollbackSnapshot) :
    field s.jsonFields "mig_mode" = optionalValue (.string ·.value) s.migMode ∧
      field s.jsonFields "gpu_uuids" = stringArray s.gpuUuids ∧
      field s.jsonFields "mig_geometry" = .array (s.migGeometry.map MigGpuInstance.toJson) ∧
      field s.jsonFields "packages" = .array (s.packages.map PackageInfo.toJson) ∧
      field s.jsonFields "introduced_packages" = stringArray s.introducedPackages ∧
      field s.jsonFields "package_payloads" =
        optionalValue PackagePayloadBundle.toJson s.packagePayloads ∧
      field s.jsonFields "managed_files" = .array (s.managedFiles.map FileSnapshot.toJson) ∧
      field s.jsonFields "commands" = .array (s.commands.map stringArray) :=
  ⟨rfl, rfl, rfl, rfl, rfl, rfl, rfl, rfl⟩

/-- The restorable state is decoded to itself exactly when it is loadable. -/
theorem load_restore_record_iff (manager : PackageManager) {bundle : PackagePayloadBundle}
    (expectedDirectory : Except String String) (hbundle : s.packagePayloads = some bundle) :
    loadRestoreRecord s.jsonFields manager expectedDirectory = .ok (s.restoreRecord bundle) ↔
      LoadableRestore s manager bundle expectedDirectory := by
  obtain ⟨hmode, hgpus, hgeometry, hpackages, hintroduced, hpayloads, hfiles, hcommands⟩ :=
    restore_fields s
  rw [hbundle, optional_value_some] at hpayloads
  have hmismatch : ∀ packages : List PackageInfo,
      ¬ (packages.filter (fun package => package.manager ≠ some (expectedManager manager)) ≠ []) ↔
        ∀ package ∈ packages, package.manager = some (expectedManager manager) := by
    intro packages
    simp
  simp only [loadRestoreRecord, hmode, hgpus, hgeometry, hpackages, hintroduced, hpayloads,
    hfiles, hcommands, Result.bind_eq_ok, Result.refuse_eq_ok, exists_const, load_mig_mode_iff,
    load_launchers_iff, load_gpu_uuids_iff, Result.pure_eq_ok, RollbackSnapshot.restoreRecord,
    RestoreRecord.mk.injEq, hmismatch]
  constructor
  · rintro ⟨_, ⟨hmixed, rfl⟩, _, ⟨hknown, rfl⟩, _, ⟨hgpus, rfl⟩, _, hgeometry, hdisabled, _,
      hpackages, hmanagers, _, hintroduced, _, hpayloads, _, hfiles, _, hcommands, -, -, -, rfl,
      rfl, rfl, rfl, rfl, rfl⟩
    obtain ⟨hfiles, hpaths⟩ := load_managed_files_iff.mp hfiles
    exact
      { migMode := hmixed
        launchers := hknown
        gpus := hgpus
        geometry := (load_mig_geometry_iff hgpus.empty_not_mem).mp hgeometry
        disabled := hdisabled
        packages := load_packages_iff.mp hpackages
        managers := hmanagers
        introduced := load_introduced_packages_iff.mp hintroduced
        payloads := load_package_payloads_iff.mp hpayloads
        files := hfiles
        paths := hpaths
        commands := load_commands_iff.mp hcommands }
  · intro h
    exact ⟨_, ⟨h.migMode, rfl⟩, _, ⟨h.launchers, rfl⟩, _, ⟨h.gpus, rfl⟩, _,
      (load_mig_geometry_iff h.gpus.empty_not_mem).mpr h.geometry, h.disabled, _,
      load_packages_iff.mpr h.packages, h.managers, _,
      load_introduced_packages_iff.mpr h.introduced, _,
      load_package_payloads_iff.mpr h.payloads, _,
      load_managed_files_iff.mpr ⟨h.files, h.paths⟩, _, load_commands_iff.mpr h.commands,
      rfl, rfl, rfl, rfl, rfl, rfl, rfl, rfl, rfl⟩

/-- A snapshot is decoded to itself exactly when every group of its fields is loadable. -/
theorem decode_snapshot_iff {bundle : PackagePayloadBundle} {digest : String}
    (hpath : s.path = some source.text) (hschema : s.schemaVersion = snapshotSchemaVersion)
    (hmanager : s.packageManager = some manager) (hbundle : s.packagePayloads = some bundle)
    (hintegrity : s.integritySha256 = some digest) (hdigest : Sha256.isDigest digest = true) :
    decodeSnapshot s.jsonFields source = .ok s ↔
      LoadableHeader s ∧ LoadableModule s ∧
        LoadableRestore s manager bundle (payloadBundleDirectory source) := by
  have hread : loadIntegrity (field s.jsonFields "integrity_sha256") = .ok digest := by
    have hfield : field s.jsonFields "integrity_sha256" =
        optionalValue .string s.integritySha256 := rfl
    have hne : digest ≠ "" := by
      rintro rfl
      exact absurd hdigest (by decide)
    simp [loadIntegrity, hfield, hintegrity, Result.bind_eq_ok, hne, hdigest]
  have hrestore := load_restore_record_iff manager (payloadBundleDirectory source) hbundle
  simp only [decodeSnapshot, check_field_names_json, Result.ok_bind, Result.bind_eq_ok,
    load_header_iff hpath hschema hmanager, load_module_record_iff, hread, Result.pure_eq_ok]
  constructor
  · rintro ⟨_, ⟨hheader, rfl⟩, _, ⟨hmodule, rfl⟩, restore, hload, heq⟩
    -- The decoded record is the snapshot, so its restore part is the snapshot's.
    have hsame : restore = s.restoreRecord bundle := by
      obtain ⟨migMode, launchers, gpuUuids, migGeometry, packages, introduced, payloads, files,
        commands⟩ := restore
      have hpayloads : some payloads = some bundle :=
        (congrArg RollbackSnapshot.packagePayloads heq).trans hbundle
      rw [RollbackSnapshot.restoreRecord, RestoreRecord.mk.injEq]
      exact ⟨congrArg RollbackSnapshot.migMode heq, congrArg RollbackSnapshot.launchers heq,
        congrArg RollbackSnapshot.gpuUuids heq, congrArg RollbackSnapshot.migGeometry heq,
        congrArg RollbackSnapshot.packages heq,
        congrArg RollbackSnapshot.introducedPackages heq, Option.some.inj hpayloads,
        congrArg RollbackSnapshot.managedFiles heq, congrArg RollbackSnapshot.commands heq⟩
    exact ⟨hheader, hmodule, hrestore.mp (hsame ▸ hload)⟩
  · rintro ⟨hheader, hmodule, hload⟩
    refine ⟨_, ⟨hheader, rfl⟩, _, ⟨hmodule, rfl⟩, _, hrestore.mpr hload, ?_⟩
    obtain ⟨path, packages, kernel, moduleVersion, commands, schemaVersion⟩ := s
    simp only at hpath hschema hmanager hbundle hintegrity
    simp only [hpath, hschema, hmanager, hbundle, hintegrity, RollbackSnapshot.header,
      RollbackSnapshot.moduleRecord, RollbackSnapshot.restoreRecord]

end NvidiaConverge
