import NvidiaConverge.Planning.Findings
import NvidiaConverge.Planning.Mig

/-!
# Diagnosis

`diagnose` of `doctor.py`, one block of findings for each part of the host in the order of
the source. Read `healthy_iff` first: no error is reported exactly for the hosts that
`Healthy` describes field by field, with no reference to the findings.
-/

namespace NvidiaConverge

/-- `if condition: findings.append(finding)`: the finding is reported when the condition holds. -/
def findingIf (condition : Prop) [Decidable condition] (finding : Finding) : List Finding :=
  if condition then [finding] else []

/-- A conditional finding is absent exactly when its condition fails. -/
@[simp] theorem finding_if_eq_nil {condition : Prop} [Decidable condition]
    {finding : Finding} : findingIf condition finding = [] ↔ ¬ condition := by
  unfold findingIf
  split <;> simp_all

/-- Package manager, inventory, kernel headers and compiler. -/
def hostFindings (audit : HostAudit) : List Finding :=
  findingIf (audit.packageManager = none) .packageManagerMissing ++
  findingIf (audit.packageInventoryComplete = false) (.packageInventoryIncomplete audit) ++
  findingIf (audit.kernel.headersInstalled = false) (.kernelHeadersMissing audit.kernel) ++
  findingIf (audit.kernel.compiler = none) .compilerMissing

/-- The firmware state and the module signatures. -/
def secureBootFindings (desired : DesiredState) (audit : HostAudit) : List Finding :=
  findingIf (desired.secureBoot = "disabled" ∧ audit.kernel.secureBootEnabled = some true)
    .secureBootEnabled ++
  findingIf (desired.secureBoot = "signed" ∧ audit.module.signed ≠ some true)
    .secureBootUnsignedModule ++
  findingIf (desired.secureBoot = "signed" ∧ audit.module.installedSigned ≠ some true)
    .secureBootInstalledModuleUnsigned ++
  findingIf (audit.kernel.secureBootEnabled = none) .secureBootUnknown

/-- The findings on whether the GPUs support the open module, when it is desired. -/
def openSupportFindings (desired : DesiredState) (audit : HostAudit) : List Finding :=
  findingIf (desired.openKernelModule = true ∧ audit.openKernelModuleSupported = some false)
    .gpuOpenModuleUnsupported ++
  findingIf (desired.openKernelModule = true ∧ audit.openKernelModuleSupported = none)
    .gpuOpenModuleSupportUnknown

/-- The loaded module and its version against the one on disk. -/
def moduleVersionFindings (module : ModuleInfo) (audit : HostAudit) : List Finding :=
  if module.loaded = false then [.moduleNotLoaded audit]
  else
    findingIf (module.version = none) .driverLoadedVersionUnknown ++
    findingIf (module.installedVersion = none) .driverInstalledVersionUnknown ++
    match module.version, module.installedVersion with
    | some loaded, some installed =>
        findingIf (loaded ≠ installed) (.driverModuleVersionMismatch loaded installed)
    | _, _ => []

/-- The loaded version against the desired driver. -/
def driverVersionFindings (desired : DesiredState) (module : ModuleInfo) : List Finding :=
  match module.version with
  | some loaded =>
      findingIf (desired.matchesDriverVersion (some loaded.val) = false)
        (.driverVersionMismatch desired loaded)
  | none => []

/-- The flavors of the loaded module and of the one on disk. -/
def moduleFlavorFindings (desired : DesiredState) (module : ModuleInfo) : List Finding :=
  findingIf (desired.openKernelModule = true ∧ module.openModule = some false)
    .driverClosedModule ++
  findingIf (desired.openKernelModule = false ∧ module.openModule = some true)
    .driverOpenModule ++
  findingIf (desired.openKernelModule = true ∧ module.openModule = none)
    .driverModuleFlavorUnknown ++
  findingIf (desired.openKernelModule = false ∧ module.openModule = none)
    .driverModuleFlavorUnknown ++
  findingIf (desired.openKernelModule = true ∧ module.installedOpenModule = some false)
    .driverInstalledClosedModule ++
  findingIf (desired.openKernelModule = false ∧ module.installedOpenModule = some true)
    .driverInstalledOpenModule ++
  findingIf (desired.openKernelModule = true ∧ module.installedOpenModule = none)
    .driverInstalledModuleFlavorUnknown ++
  findingIf (desired.openKernelModule = false ∧ module.installedOpenModule = none)
    .driverInstalledModuleFlavorUnknown ++
  findingIf
    (module.loaded = true ∧ module.openModule ≠ none ∧ module.installedOpenModule ≠ none ∧
      module.openModule ≠ module.installedOpenModule)
    .driverModuleFlavorMismatch

/-- The userspace probes and the CUDA compatibility package. -/
def userspaceFindings (desired : DesiredState) (audit : HostAudit) : List Finding :=
  findingIf (audit.nvidiaSmi.returncode ≠ some 0) (.nvidiaSmiFailed audit) ++
  findingIf (audit.nvml.returncode ≠ some 0) (.nvmlFailed audit) ++
  findingIf (desired.cudaCompat ≠ "none") .cudaCompatDeploymentUnmodeled

/-- The findings on the Docker daemon and its NVIDIA runtime, when Docker is desired. -/
def dockerFindings (desired : DesiredState) (audit : HostAudit) : List Finding :=
  let service := audit.launchers.dockerService
  if desired.containerRuntime = "docker" then
    findingIf (audit.runtime.dockerInstalled = false) .dockerMissing ++
    findingIf (service.active = some false) .dockerServiceInactive ++
    findingIf (service.active = none) .dockerServiceStateUnknown ++
    findingIf (service.enabled = some false) .dockerServiceDisabled ++
    findingIf (service.enabled = none) .dockerServiceEnablementUnknown ++
    findingIf (audit.runtime.nvidiaContainerRuntimeInstalled = false)
      .containerToolkitMissing ++
    findingIf (audit.runtime.dockerGpusUsable = some false) .dockerNvidiaRuntimeMissing ++
    findingIf (audit.runtime.dockerInstalled = true ∧ audit.runtime.dockerGpusUsable = none)
      .dockerRuntimeUnknown
  else []

/-- `_fabric_manager_package_installed`: a Fabric Manager package of any branch is installed. -/
def fabricManagerPackageInstalled (packages : List PackageInfo) : Bool :=
  packages.any fun package =>
    package.installed &&
      (["nvidia-fabricmanager", "nvidia-fabric-manager"].contains package.name ||
        ["nvidia-fabricmanager-", "nvidia-fabric-manager-"].any (Text.startsWith package.name))

/-- The Fabric Manager service and the fabric's health. -/
def fabricManagerFindings (desired : DesiredState) (audit : HostAudit) : List Finding :=
  let service := audit.launchers.fabricManager
  if desired.fabricManager then
    findingIf (audit.fabricManagerApplicable = some false) .fabricManagerNotApplicable ++
    findingIf (audit.fabricManagerApplicable = none) .fabricManagerApplicabilityUnknown ++
    findingIf (fabricManagerPackageInstalled audit.packages = false) .fabricManagerMissing ++
    findingIf (service.active = some false) .fabricManagerInactive ++
    findingIf (service.active = none) .fabricManagerUnknown ++
    findingIf (service.enabled = some false) .fabricManagerDisabled ++
    findingIf (service.enabled = none) .fabricManagerEnablementUnknown ++
    findingIf (audit.fabricManagerHealthy = some false) .fabricManagerFabricUnhealthy ++
    findingIf (audit.fabricManagerHealthy = none) .fabricManagerFabricHealthUnknown
  else []

/-- The Fabric Manager version against the desired and the loaded driver. -/
def fabricManagerVersionFindings (desired : DesiredState) (audit : HostAudit) :
    List Finding :=
  if desired.fabricManager = true ∧ fabricManagerPackageInstalled audit.packages = true then
    match audit.fabricManagerVersion with
    | none => [.fabricManagerVersionUnknown]
    | some version =>
        if desired.matchesDriverVersion (some version.val) = false then
          [.fabricManagerVersionMismatch desired version]
        else
          match audit.module.version with
          | some loaded =>
              findingIf (version ≠ loaded) (.fabricManagerLoadedVersionMismatch loaded version)
          | none => []
  else []

/-- MIG capability and a pending mode transition. -/
def migTransitionFindings (desired : DesiredState) (audit : HostAudit) : List Finding :=
  findingIf (desired.mig = "enabled" ∧ audit.migCapable = some false) .migUnsupported ++
  findingIf (desired.mig = "enabled" ∧ audit.migCapable = none) .migCapabilityUnknown ++
  match audit.migModePending, audit.migMode with
  | none, _ => [.migPendingUnknown]
  | some pending, some mode => findingIf (pending ≠ mode) (.migPendingReboot mode pending)
  | some _, none => []

/-- The geometry under a settled mode that is the desired one. -/
def migGeometryFindings (desired : DesiredState) (audit : HostAudit) : List Finding :=
  if audit.migGeometryComplete = false then [.migGeometryUnobservable]
  else if desired.mig = "enabled" ∧
      fullMigGeometryMatches audit.migGeometry audit.gpuUuids = false then
    [.migGeometryWrong audit.migGeometry]
  else if desired.mig = "enabled" ∧ audit.migDeviceUuids.length ≠ 1 then
    [.migDeviceUnobservable]
  else
    findingIf
      (desired.mig = "disabled" ∧ (audit.migGeometry ≠ [] ∨ audit.migDeviceUuids ≠ []))
      .migDisabledWithInstances

/-- The MIG mode against the desired one, and then the geometry. -/
def migModeFindings (desired : DesiredState) (audit : HostAudit) : List Finding :=
  match audit.migMode with
  | none => [.migUnknown]
  | some mode =>
      if mode.value ≠ desired.mig then [.migMode desired mode]
      else if audit.migModePending = some mode then migGeometryFindings desired audit
      else []

/-- The findings of `diagnose` before the healthy one is added. -/
def issues (desired : DesiredState) (audit : HostAudit) : List Finding :=
  hostFindings audit ++ secureBootFindings desired audit ++
  openSupportFindings desired audit ++ moduleVersionFindings audit.module audit ++
  driverVersionFindings desired audit.module ++ moduleFlavorFindings desired audit.module ++
  userspaceFindings desired audit ++ dockerFindings desired audit ++
  fabricManagerFindings desired audit ++ fabricManagerVersionFindings desired audit ++
  migTransitionFindings desired audit ++ migModeFindings desired audit

/-- `diagnose`: the issues of the host, or the finding that it is healthy. -/
def diagnose (desired : DesiredState) (audit : HostAudit) : List Finding :=
  if issues desired audit = [] then [.stackHealthy] else issues desired audit

/-- None of the findings that were reported is an error. -/
def NoErrors (findings : List Finding) : Prop :=
  ∀ finding ∈ findings, finding.severity ≠ .error

end NvidiaConverge
