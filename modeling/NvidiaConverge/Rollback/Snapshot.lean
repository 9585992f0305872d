import NvidiaConverge.Library.IsoTime
import NvidiaConverge.Library.Json
import NvidiaConverge.Library.Posix
import NvidiaConverge.Library.Sha256
import NvidiaConverge.Planning.PackagePolicy

/-!
# The rollback snapshot

The records that `create_snapshot` fills and `load_snapshot` rebuilds, their JSON form, the
integrity digest over it, and the consistency of the recorded launcher states. Objects are
written with their keys in the order `sort_keys` prints them.
-/

namespace NvidiaConverge

open Json (Value)

/-- `FileSnapshot`: a managed file as it was, with its contents and its mode. -/
structure FileSnapshot where
  path : String
  existed : Bool
  contentBase64 : Option String
  mode : Option Nat
  deriving DecidableEq

/-- `PackagePayload`: one retained package file. -/
structure PackagePayload where
  name : String
  architecture : String
  epoch : Option String
  version : String
  format : String
  filename : String
  sha256 : String
  sizeBytes : Nat
  verification : String
  roles : List String := []
  signerIds : List String := []
  deriving DecidableEq

/-- `PackagePayloadBundle`: the retained payloads and where they are. -/
structure PackagePayloadBundle where
  directory : String
  packages : List PackagePayload
  totalSizeBytes : Nat
  deriving DecidableEq

/-- `RollbackSnapshot`: all that a rollback restores, with its identity and its digest. -/
structure RollbackSnapshot where
  path : Option String
  packages : List PackageInfo
  kernel : String
  moduleVersion : Option VersionText
  commands : List (List String)
  schemaVersion : String := "2.6"
  createdAt : String := ""
  operationId : String := ""
  hostId : String := ""
  osId : Option String := none
  osVersion : Option String := none
  architecture : String := ""
  packageManager : Option PackageManager := none
  introducedPackages : List String := []
  moduleLoaded : Bool := false
  moduleNames : List String := []
  moduleOpenModule : Option Bool := none
  moduleSigned : Option Bool := none
  moduleInstalledVersion : Option VersionText := none
  moduleInstalledOpenModule : Option Bool := none
  moduleInstalledSigned : Option Bool := none
  migMode : Option MigMode := none
  launchers : LauncherStates := {}
  managedFiles : List FileSnapshot := []
  packagePayloads : Option PackagePayloadBundle := none
  gpuUuids : List String := []
  migGeometry : List MigGpuInstance := []
  integritySha256 : Option String := none
  deriving DecidableEq

/-- `SNAPSHOT_SCHEMA_VERSION`: the one schema that is written and read. -/
def snapshotSchemaVersion : String := "2.6"

/-- `MAX_SNAPSHOT_BYTES`: the largest snapshot that is read. -/
def maxSnapshotBytes : Nat := 4 * 1024 * 1024

/-- `MAX_SNAPSHOT_PACKAGES`: the most packages that a snapshot records. -/
def maxSnapshotPackages : Nat := 4096

/-- `MAX_SNAPSHOT_COMMANDS`: the most commands that a snapshot records. -/
def maxSnapshotCommands : Nat := 256

/-- `MAX_COMMAND_PARTS`: the most arguments of a recorded command. -/
def maxCommandParts : Nat := 4096

/-- `MAX_MANAGED_FILE_BYTES`: the largest file that a snapshot captures. -/
def maxManagedFileBytes : Nat := 1024 * 1024

/-- `MAX_MIG_GPU_INSTANCES`: the most GPU instances that a snapshot records. -/
def maxMigGpuInstances : Nat := 64

/-- `MAX_MIG_COMPUTE_INSTANCES`: the most compute instances of one GPU instance. -/
def maxMigComputeInstances : Nat := 64

/-- `re.fullmatch(r"[a-f0-9]{32}", text)`: the spelling of an operation's identity. -/
def isOperationId (text : String) : Bool :=
  text.toList.length == 32 && text.toList.all Sha256.isHexDigit

/-! ## Managed files -/

/-- `_DOCKER_CONFIG_PATH`: the configuration of the Docker daemon. -/
def dockerConfigPath : String := "/etc/docker/daemon.json"

/-- `_DNF_MODULE_PATH`: the state of the driver's DNF module. -/
def dnfModulePath : String := "/etc/dnf/modules.d/nvidia-driver.module"

/-- `_DNF_MODULE_FAILSAFE_DIRECTORY`: where DNF keeps its fail-safe files. -/
def dnfModuleFailsafeDirectory : String := "/var/lib/dnf/modulefailsafe"

/-- `_ZYPPER_LOCK_PATH`: the locks of Zypper. -/
def zypperLockPath : String := "/etc/zypp/locks"

/-- `[A-Za-z0-9][A-Za-z0-9_.+@-]{0,127}\.yaml`. -/
def isFailsafeContext (text : List Char) : Bool :=
  ".yaml".toList.isSuffixOf text &&
    match text.take (text.length - 5) with
    | [] => false
    | first :: rest =>
        first.isAlphanum && rest.length ≤ 127 &&
          rest.all fun c => c.isAlphanum || ['_', '.', '+', '@', '-'].contains c

/-- `_DNF_MODULE_FAILSAFE_PATH_PATTERN.fullmatch(path)`. -/
def isFailsafePath (path : String) : Bool :=
  let directory := "/var/lib/dnf/modulefailsafe/nvidia-driver:"
  Text.startsWith path directory &&
    match Text.splitFirst ':' (path.toList.drop directory.length) with
    | (stream, some context) => isModuleStream (String.ofList stream) && isFailsafeContext context
    | (_, none) => false

/-- `_is_managed_path`: the path is one that a snapshot may capture. -/
def isManagedPath (path : String) : Bool :=
  [dockerConfigPath, dnfModulePath, zypperLockPath].contains path || isFailsafePath path

/-! ## Launcher states -/

/-- `_DOCKER_SOCKET_UNIT`: the socket that starts Docker. -/
def dockerSocketUnit : String := "docker.socket"

/-- `_DOCKER_SERVICE_UNIT`: the daemon of Docker. -/
def dockerServiceUnit : String := "docker.service"

/-- `_NVIDIA_PERSISTENCED_UNIT`: the persistence daemon. -/
def nvidiaPersistencedUnit : String := "nvidia-persistenced.service"

/-- `_FABRIC_MANAGER_UNIT`: the Fabric Manager. -/
def fabricManagerUnit : String := "nvidia-fabricmanager.service"

/-- `_unit_state_consistency_error`: why a recorded state of a unit cannot be restored, if it
cannot. -/
def unitStateConsistencyError (unit : String) (state : UnitState) : Option String :=
  match state.unitFileState with
  | none => some (unit ++ " has unsupported unit-file state None")
  | some file =>
      match state.active, state.enabled with
      | some active, some enabled =>
          if enabled ≠ decide (file = .enabled) then
            some (unit ++ " enabled state contradicts " ++ Text.repr file.value)
          else if (file = .masked ∨ file = .notFound) ∧ active = true then
            some (unit ++ " cannot be active while " ++ file.value)
          else none
      | _, _ => some (unit ++ " has unknown active or enabled state")

/-- `_service_state_consistency_error` and `_snapshot_service_state_consistency_error`: the
error of the first unit in this order that has one. -/
def serviceStateConsistencyError (launchers : LauncherStates) : Option String :=
  (unitStateConsistencyError dockerSocketUnit launchers.dockerSocket).or
    ((unitStateConsistencyError dockerServiceUnit launchers.dockerService).or
      ((unitStateConsistencyError nvidiaPersistencedUnit launchers.nvidiaPersistenced).or
        (unitStateConsistencyError fabricManagerUnit launchers.fabricManager)))

/-! ## JSON form -/

/-- The JSON value of an optional field, `null` where it is missing. -/
def optionalValue {α : Type} (write : α → Value) : Option α → Value
  | none => .null
  | some value => write value

@[simp] theorem optional_value_some {α : Type} {write : α → Value} {value : α} :
    optionalValue write (some value) = write value :=
  rfl

/-- The JSON array of some strings. -/
def stringArray (items : List String) : Value :=
  .array (items.map Value.string)

/-- `asdict` of a `PackageInfo`, its keys sorted. -/
def PackageInfo.toJson (package : PackageInfo) : Value :=
  .object
    [("architecture", optionalValue .string package.architecture),
     ("epoch", optionalValue .string package.epoch),
     ("installed", .bool package.installed),
     ("manager", optionalValue .string package.manager),
     ("name", .string package.name),
     ("version", optionalValue .string package.version)]

/-- `asdict` of a `FileSnapshot`, its keys sorted. -/
def FileSnapshot.toJson (file : FileSnapshot) : Value :=
  .object
    [("content_base64", optionalValue .string file.contentBase64),
     ("existed", .bool file.existed),
     ("mode", optionalValue (fun mode : Nat => .int mode) file.mode),
     ("path", .string file.path)]

/-- `asdict` of a `PackagePayload`, its keys sorted. -/
def PackagePayload.toJson (payload : PackagePayload) : Value :=
  .object
    [("architecture", .string payload.architecture),
     ("epoch", optionalValue .string payload.epoch),
     ("filename", .string payload.filename),
     ("format", .string payload.format),
     ("name", .string payload.name),
     ("roles", stringArray payload.roles),
     ("sha256", .string payload.sha256),
     ("signer_ids", stringArray payload.signerIds),
     ("size_bytes", .int payload.sizeBytes),
     ("verification", .string payload.verification),
     ("version", .string payload.version)]

/-- `asdict` of a `PackagePayloadBundle`, its keys sorted. -/
def PackagePayloadBundle.toJson (bundle : PackagePayloadBundle) : Value :=
  .object
    [("directory", .string bundle.directory),
     ("packages", .array (bundle.packages.map PackagePayload.toJson)),
     ("total_size_bytes", .int bundle.totalSizeBytes)]

/-- `asdict` of a `MigComputeInstance`, its keys sorted. -/
def MigComputeInstance.toJson (compute : MigComputeInstance) : Value :=
  .object [("profile", .string compute.profile), ("profile_id", .int compute.profileId)]

/-- `asdict` of a `MigGpuInstance`, its keys sorted. -/
def MigGpuInstance.toJson (gpuInstance : MigGpuInstance) : Value :=
  .object
    [("compute_instances", .array (gpuInstance.computeInstances.map MigComputeInstance.toJson)),
     ("gpu_uuid", .string gpuInstance.gpuUuid),
     ("placement_size", .int gpuInstance.placementSize),
     ("placement_start", .int gpuInstance.placementStart),
     ("profile", .string gpuInstance.profile),
     ("profile_id", .int gpuInstance.profileId)]

/-- The fields of `asdict` of a snapshot before its digest. -/
def RollbackSnapshot.leadingFields (s : RollbackSnapshot) : List (String × Value) :=
  [("architecture", .string s.architecture),
   ("commands", .array (s.commands.map stringArray)),
   ("created_at", .string s.createdAt),
   ("docker_service_active", optionalValue .bool s.launchers.dockerService.active),
   ("docker_service_enabled", optionalValue .bool s.launchers.dockerService.enabled),
   ("docker_service_unit_file_state",
     optionalValue (.string ·.value) s.launchers.dockerService.unitFileState),
   ("docker_socket_active", optionalValue .bool s.launchers.dockerSocket.active),
   ("docker_socket_enabled", optionalValue .bool s.launchers.dockerSocket.enabled),
   ("docker_socket_unit_file_state",
     optionalValue (.string ·.value) s.launchers.dockerSocket.unitFileState),
   ("fabric_manager_active", optionalValue .bool s.launchers.fabricManager.active),
   ("fabric_manager_enabled", optionalValue .bool s.launchers.fabricManager.enabled),
   ("fabric_manager_unit_file_state",
     optionalValue (.string ·.value) s.launchers.fabricManager.unitFileState),
   ("gpu_uuids", stringArray s.gpuUuids),
   ("host_id", .string s.hostId)]

/-- The fields of `asdict` of a snapshot after its digest. -/
def RollbackSnapshot.trailingFields (s : RollbackSnapshot) : List (String × Value) :=
  [("introduced_packages", stringArray s.introducedPackages),
   ("kernel", .string s.kernel),
   ("managed_files", .array (s.managedFiles.map FileSnapshot.toJson)),
   ("mig_geometry", .array (s.migGeometry.map MigGpuInstance.toJson)),
   ("mig_mode", optionalValue (.string ·.value) s.migMode),
   ("module_installed_open_module", optionalValue .bool s.moduleInstalledOpenModule),
   ("module_installed_signed", optionalValue .bool s.moduleInstalledSigned),
   ("module_installed_version", optionalValue (.string ·.val) s.moduleInstalledVersion),
   ("module_loaded", .bool s.moduleLoaded),
   ("module_names", stringArray s.moduleNames),
   ("module_open_module", optionalValue .bool s.moduleOpenModule),
   ("module_signed", optionalValue .bool s.moduleSigned),
   ("module_version", optionalValue (.string ·.val) s.moduleVersion),
   ("nvidia_persistenced_active",
     optionalValue .bool s.launchers.nvidiaPersistenced.active),
   ("nvidia_persistenced_enabled",
     optionalValue .bool s.launchers.nvidiaPersistenced.enabled),
   ("nvidia_persistenced_unit_file_state",
     optionalValue (.string ·.value) s.launchers.nvidiaPersistenced.unitFileState),
   ("operation_id", .string s.operationId),
   ("os_id", optionalValue .string s.osId),
   ("os_version", optionalValue .string s.osVersion),
   ("package_manager", optionalValue (.string ·.name) s.packageManager),
   ("package_payloads", optionalValue PackagePayloadBundle.toJson s.packagePayloads),
   ("packages", .array (s.packages.map PackageInfo.toJson)),
   ("path", optionalValue .string s.path),
   ("schema_version", .string s.schemaVersion)]

/-- The fields of `asdict` of a snapshot, with its digest among them. -/
def RollbackSnapshot.jsonFields (s : RollbackSnapshot) : List (String × Value) :=
  s.leadingFields ++ ("integrity_sha256", optionalValue .string s.integritySha256) ::
    s.trailingFields

/-- `_snapshot_integrity`: the digest of the compact form without the digest itself. -/
def snapshotIntegrity (s : RollbackSnapshot) : String :=
  Sha256.hexdigest (Text.utf8 (Json.dumps none (.object (s.leadingFields ++ s.trailingFields))))

/-- The text `create_snapshot` writes: the indented form and a final line break. -/
def snapshotText (s : RollbackSnapshot) : String :=
  Json.dumps (some 2) (.object s.jsonFields) ++ String.ofList [Char.ofNat 10]

/-- An optional value is plain when its value is. -/
theorem plain_optional {α : Type} {write : α → Value} (h : ∀ value, Json.Plain (write value))
    (value : Option α) : Json.Plain (optionalValue write value) := by
  cases value with
  | none => simp [optionalValue, Json.Plain]
  | some value => exact h value

/-- An array of strings is plain JSON. -/
theorem plain_string_array (items : List String) : Json.Plain (stringArray items) := by
  simp [stringArray, Json.Plain, Json.plain_items_iff]

/-- An array of written items is plain when each of them is. -/
theorem plain_array {α : Type} {write : α → Value} (h : ∀ item, Json.Plain (write item))
    (items : List α) : Json.Plain (.array (items.map write)) := by
  simp [Json.Plain, Json.plain_items_iff, h]

/-- A snapshot's JSON form has no duplicate key and no float. -/
theorem plain_json_fields (s : RollbackSnapshot) : Json.Plain (.object s.jsonFields) := by
  have hstring : ∀ text : String, Json.Plain (.string text) := by simp [Json.Plain]
  have hbool : ∀ value : Bool, Json.Plain (.bool value) := by simp [Json.Plain]
  have hint : ∀ value : Int, Json.Plain (.int value) := by simp [Json.Plain]
  have hpackage : ∀ package : PackageInfo, Json.Plain package.toJson := by
    intro package
    simp [PackageInfo.toJson, Json.Plain, Json.PlainFields, plain_optional hstring]
  have hfile : ∀ file : FileSnapshot, Json.Plain file.toJson := by
    intro file
    simp [FileSnapshot.toJson, Json.Plain, Json.PlainFields, plain_optional hstring,
      plain_optional fun mode : Nat => hint mode]
  have hpayload : ∀ payload : PackagePayload, Json.Plain payload.toJson := by
    intro payload
    simp [PackagePayload.toJson, Json.Plain, Json.PlainFields, plain_optional hstring,
      plain_string_array]
  have hbundle : ∀ bundle : PackagePayloadBundle, Json.Plain bundle.toJson := by
    intro bundle
    have hpackages := plain_array hpayload bundle.packages
    simp only [Json.Plain] at hpackages
    simp [PackagePayloadBundle.toJson, Json.Plain, Json.PlainFields, hpackages]
  have hcompute : ∀ compute : MigComputeInstance, Json.Plain compute.toJson := by
    intro compute
    simp [MigComputeInstance.toJson, Json.Plain, Json.PlainFields]
  have hinstance : ∀ gpuInstance : MigGpuInstance, Json.Plain gpuInstance.toJson := by
    intro gpuInstance
    have hcomputes := plain_array hcompute gpuInstance.computeInstances
    simp only [Json.Plain] at hcomputes
    simp [MigGpuInstance.toJson, Json.Plain, Json.PlainFields, hcomputes]
  have hkeys : (s.jsonFields.map Prod.fst).Nodup := by
    simp [RollbackSnapshot.jsonFields, RollbackSnapshot.leadingFields,
      RollbackSnapshot.trailingFields]
  refine ⟨hkeys, ?_⟩
  simp only [RollbackSnapshot.jsonFields, RollbackSnapshot.leadingFields,
    RollbackSnapshot.trailingFields, List.cons_append, List.nil_append, Json.PlainFields,
    hstring, hbool, plain_string_array, plain_array hpackage, plain_array hfile,
    plain_array hinstance, plain_array plain_string_array, plain_optional hstring,
    plain_optional hbool, plain_optional hbundle, plain_optional fun _ => hstring _, and_self]

end NvidiaConverge
