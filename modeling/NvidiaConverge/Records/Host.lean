import NvidiaConverge.Library.Text

/-!
# Observations of a host

The records of `models.py` that an audit fills. Closed sets of strings that the audit itself
produces (package managers, MIG modes, unit-file states) are enumerations with their Python
spelling; a version that was read is never the empty string, because the audit maps an empty
reading to `None`, and `VersionText` carries that fact.
-/

namespace NvidiaConverge

/-- A version the audit read: `value or None` never yields the empty string. -/
abbrev VersionText := { text : String // text ≠ "" }

/-- The driver version of the sample hosts is a version. -/
theorem driver_text_ne_empty : "580.95.05" ≠ "" := by
  decide

/-- The package managers `detect_package_manager` looks for. -/
inductive PackageManager where
  | aptGet | dnf | yum | zypper
  deriving DecidableEq

/-- The name of the executable, as commands and records spell it. -/
def PackageManager.name : PackageManager → String
  | .aptGet => "apt-get"
  | .dnf => "dnf"
  | .yum => "yum"
  | .zypper => "zypper"

/-- The MIG modes `_aggregate_mig_modes` and `_mig_mode` return. -/
inductive MigMode where
  | enabled | disabled | mixed
  deriving DecidableEq

/-- The spelling of the mode in observations and in the desired state. -/
def MigMode.value : MigMode → String
  | .enabled => "enabled"
  | .disabled => "disabled"
  | .mixed => "mixed"

/-- The unit-file states `_parse_service_state` returns. -/
inductive UnitFileState where
  | enabled | disabled | static | masked | notFound
  deriving DecidableEq

/-- The spelling of the state in what `systemctl` prints. -/
def UnitFileState.value : UnitFileState → String
  | .enabled => "enabled"
  | .disabled => "disabled"
  | .static => "static"
  | .masked => "masked"
  | .notFound => "not-found"

/-- `CommandResult`: one command with its exit code and captured output. -/
structure CommandResult where
  command : List String
  returncode : Option Int
  stdout : String := ""
  stderr : String := ""
  skipped : Bool := false
  reason : Option String := none
  deriving DecidableEq

/-- `PackageInfo`: one row of the package inventory. -/
structure PackageInfo where
  name : String
  version : Option String := none
  manager : Option String := none
  installed : Bool := false
  architecture : Option String := none
  epoch : Option String := none
  deriving DecidableEq

/-- `KernelInfo`: the running kernel, its headers, a compiler and Secure Boot. -/
structure KernelInfo where
  running : String
  headersInstalled : Bool
  compiler : Option String := none
  secureBootEnabled : Option Bool := none
  deriving DecidableEq

/-- `ModuleInfo`: the loaded NVIDIA module and the one `modinfo` selects on disk. -/
structure ModuleInfo where
  loaded : Bool
  version : Option VersionText := none
  openModule : Option Bool := none
  signed : Option Bool := none
  devices : List String := []
  installedVersion : Option VersionText := none
  installedOpenModule : Option Bool := none
  installedSigned : Option Bool := none
  deriving DecidableEq

/-- `RuntimeInfo`: Docker, the NVIDIA container runtime and the use of GPUs in containers. -/
structure RuntimeInfo where
  dockerInstalled : Bool
  nvidiaContainerRuntimeInstalled : Bool
  dockerGpusUsable : Option Bool := none
  deriving DecidableEq

/-- `MigComputeInstance`: one compute instance, by its profile. -/
structure MigComputeInstance where
  profile : String
  profileId : Nat
  deriving DecidableEq

/-- `MigGpuInstance`: one GPU instance with its placement and its compute instances. -/
structure MigGpuInstance where
  gpuUuid : String
  profile : String
  profileId : Nat
  placementStart : Nat
  placementSize : Nat
  computeInstances : List MigComputeInstance := []
  deriving DecidableEq

/-- `PackagePolicySelector`: one pin, module stream or lock of the package policy. -/
structure PackagePolicySelector where
  identifier : String
  name : String
  kind : String
  relation : Option String := none
  version : Option String := none
  repositories : List String := []
  deriving DecidableEq

/-- `PackagePolicyInfo`, without the raw observation. -/
structure PackagePolicyInfo where
  backend : Option PackageManager
  observable : Bool
  selectors : List PackagePolicySelector := []
  deriving DecidableEq

/-- One unit as `_parse_service_state` reads it: active, enabled, unit-file state. -/
structure UnitState where
  active : Option Bool := none
  enabled : Option Bool := none
  unitFileState : Option UnitFileState := none
  deriving DecidableEq

/-- What `systemctl show` reports for an inactive masked unit. -/
def UnitState.quarantined : UnitState where
  active := some false
  enabled := some false
  unitFileState := some .masked

/-- The four units that can start GPU work, each field three observations of `HostAudit`. -/
structure LauncherStates where
  dockerSocket : UnitState := {}
  dockerService : UnitState := {}
  nvidiaPersistenced : UnitState := {}
  fabricManager : UnitState := {}
  deriving DecidableEq

/-- `HostAudit`, without the observations that only the report prints. -/
structure HostAudit where
  osId : Option String
  osVersion : Option String
  packageManager : Option PackageManager
  kernel : KernelInfo
  module : ModuleInfo
  runtime : RuntimeInfo
  packages : List PackageInfo
  nvidiaSmi : CommandResult
  nvml : CommandResult
  migMode : Option MigMode
  packageInventoryComplete : Bool := true
  packageInventoryResult : Option CommandResult := none
  launchers : LauncherStates := {}
  fabricManagerVersion : Option VersionText := none
  packagePolicy : PackagePolicyInfo := { backend := none, observable := false }
  openKernelModuleSupported : Option Bool := none
  migCapable : Option Bool := none
  migModePending : Option MigMode := none
  fabricManagerApplicable : Option Bool := none
  fabricManagerHealthy : Option Bool := none
  gpuUuids : List String := []
  migGeometry : List MigGpuInstance := []
  migDeviceUuids : List String := []
  migGeometryComplete : Bool := false

end NvidiaConverge
