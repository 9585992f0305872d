import NvidiaConverge.Records.Desired
import NvidiaConverge.Records.Host

/-!
# The findings of `doctor.py`

Every finding `diagnose` can report, with its identifier, severity and texts as the source
has them. `Planning.Doctor` says when each one is reported.
-/

namespace NvidiaConverge

/-- `Severity`: how serious a finding is. -/
inductive Severity where
  | info | warning | error
  deriving DecidableEq

/-- The values that the evidence dictionary of a finding holds. -/
inductive EvidenceValue where
  | returncode (value : Option Int)
  | text (value : String)
  | texts (values : List String)
  deriving DecidableEq

/-- `Finding`: one diagnosis with its identifier, its texts and its evidence. -/
structure Finding where
  id : String
  severity : Severity
  summary : String
  detail : String
  evidence : List (String × EvidenceValue) := []
  remediation : Option String := none
  deriving DecidableEq

namespace Finding

/-- `package-manager.missing`: the audit found no supported package manager. -/
def packageManagerMissing : Finding where
  id := "package-manager.missing"
  severity := .error
  summary := "No supported package manager found"
  detail := "Expected apt, dnf, yum, or zypper to manage NVIDIA stack packages."

/-- `package-inventory.incomplete`: the audit could not read every installed package. -/
def packageInventoryIncomplete (audit : HostAudit) : Finding where
  id := "package-inventory.incomplete"
  severity := .error
  summary := "Installed package inventory is incomplete"
  detail :=
    "A complete package inventory is required before convergence so rollback state can " ++
    "be trusted."
  evidence :=
    match audit.packageInventoryResult with
    | none => []
    | some result =>
        [("returncode", .returncode result.returncode), ("stderr", .text result.stderr)]
  remediation := some
    "Repair the package database/query tooling and rerun doctor before applying changes."

/-- `kernel.headers.missing`: the running kernel has no usable header tree. -/
def kernelHeadersMissing (kernel : KernelInfo) : Finding where
  id := "kernel.headers.missing"
  severity := .error
  summary := "Running-kernel headers are not ready"
  detail :=
    "A trusted, package-owned, prepared header tree for running kernel " ++
    kernel.running ++
    " is required to compile or install the NVIDIA kernel module."
  remediation := some
    ("Install matching kernel headers, repair the running kernel's build link, or switch " ++
      "to a kernel with available headers.")

/-- `compiler.missing`: there is no C compiler for the module build. -/
def compilerMissing : Finding where
  id := "compiler.missing"
  severity := .error
  summary := "No C compiler found"
  detail := "The NVIDIA kernel module build needs gcc or cc."
  remediation := some "Install build-essential or gcc/make for this distribution."

/-- `secure-boot.enabled`: Secure Boot is on where it is desired off. -/
def secureBootEnabled : Finding where
  id := "secure-boot.enabled"
  severity := .error
  summary := "Secure Boot is enabled"
  detail := "Desired state requires Secure Boot disabled."
  remediation := some "Disable Secure Boot in firmware or change desired.secure_boot."

/-- `secure-boot.unsigned-module`: the loaded module was not proven signed. -/
def secureBootUnsignedModule : Finding where
  id := "secure-boot.unsigned-module"
  severity := .error
  summary := "Desired policy requires a verified loaded NVIDIA module"
  detail := "The loaded module's kernel taint state did not prove a verified signature."
  remediation := some
    ("Install signed packages, enroll a trusted key if needed, and reload the NVIDIA " ++
      "module.")

/-- `secure-boot.installed-module-unsigned`: the module on disk shows no signer. -/
def secureBootInstalledModuleUnsigned : Finding where
  id := "secure-boot.installed-module-unsigned"
  severity := .error
  summary := "Desired policy requires a signed on-disk NVIDIA module"
  detail := "modinfo did not show a signer for the NVIDIA module selected for the running kernel."
  remediation := some
    ("Install a signed NVIDIA module package or sign it with an enrolled key before " ++
      "reloading.")

/-- `secure-boot.unknown`: the firmware state was not observed. -/
def secureBootUnknown : Finding where
  id := "secure-boot.unknown"
  severity := .error
  summary := "Secure Boot state could not be determined"
  detail :=
    "The desired Secure Boot policy cannot be proven without an observable firmware " ++
    "state."
  remediation := some "Install mokutil and ensure the host exposes its UEFI Secure Boot state."

/-- `gpu.open-module-unsupported`: a GPU is older than the open module supports. -/
def gpuOpenModuleUnsupported : Finding where
  id := "gpu.open-module-unsupported"
  severity := .error
  summary := "GPU hardware does not support the open kernel module"
  detail := "At least one observed GPU has compute capability older than Turing (7.5)."
  remediation := some "Use a closed-module desired driver for Maxwell, Pascal, or Volta GPUs."

/-- `gpu.open-module-support-unknown`: not every GPU showed its compute capability. -/
def gpuOpenModuleSupportUnknown : Finding where
  id := "gpu.open-module-support-unknown"
  severity := .error
  summary := "Open kernel-module hardware support is unknown"
  detail :=
    "The compute capability of every GPU must be observed before selecting the open " ++
    "module flavor."
  remediation := some
    "Restore nvidia-smi GPU capability queries or select a closed-module desired driver."

/-- `module.not-loaded`: the kernel module is not loaded. -/
def moduleNotLoaded (audit : HostAudit) : Finding where
  id := "module.not-loaded"
  severity := .error
  summary := "NVIDIA kernel module is not loaded"
  detail :=
    "The host has no loaded nvidia kernel module, so GPUs will not be exposed to NVML or " ++
    "containers."
  evidence := [("devices", .texts audit.module.devices)]
  remediation := some
    "Install the desired driver, rebuild initramfs if needed, and load nvidia."

/-- `driver.loaded-version-unknown`: the loaded module showed no version. -/
def driverLoadedVersionUnknown : Finding where
  id := "driver.loaded-version-unknown"
  severity := .error
  summary := "Loaded NVIDIA module version is unknown"
  detail :=
    "The loaded module is present, but /sys/module/nvidia/version did not provide its " ++
    "version."
  remediation := some
    "Restore sysfs observability and verify the loaded NVIDIA module before convergence."

/-- `driver.installed-version-unknown`: the module on disk showed no version. -/
def driverInstalledVersionUnknown : Finding where
  id := "driver.installed-version-unknown"
  severity := .error
  summary := "On-disk NVIDIA module version is unknown"
  detail :=
    "modinfo did not provide the version of the NVIDIA module selected for the running " ++
    "kernel."
  remediation := some
    ("Install working kmod tooling and a complete NVIDIA kernel module package for the " ++
      "running kernel.")

/-- `driver.module-version-mismatch`: the loaded version is not the one on disk. -/
def driverModuleVersionMismatch (loaded installed : VersionText) : Finding where
  id := "driver.module-version-mismatch"
  severity := .error
  summary := "Loaded and on-disk NVIDIA modules differ"
  detail :=
    "Loaded module " ++ loaded.val ++
    " does not match modinfo-selected module " ++
    installed.val ++ "."
  remediation := some
    "Drain GPU users and reload the complete NVIDIA module stack, then rerun doctor."

/-- `driver.version-mismatch`: the loaded version is not the desired one. -/
def driverVersionMismatch (desired : DesiredState) (loaded : VersionText) : Finding where
  id := "driver.version-mismatch"
  severity := .error
  summary := "Loaded NVIDIA module does not match desired driver"
  detail :=
    "Loaded module version " ++ loaded.val ++
    " does not match desired " ++ desired.driverMatchLabel ++ "."
  remediation := some "Replace the installed driver with the desired version or branch."

/-- `driver.closed-module`: the closed module is loaded where the open one is desired. -/
def driverClosedModule : Finding where
  id := "driver.closed-module"
  severity := .error
  summary := "Closed NVIDIA module detected"
  detail := "Desired state requires the open kernel module variant."
  remediation := some "Install the open module package for the desired driver branch."

/-- `driver.open-module`: the open module is loaded where the closed one is desired. -/
def driverOpenModule : Finding where
  id := "driver.open-module"
  severity := .error
  summary := "Open NVIDIA module detected"
  detail := "Desired state requires the closed kernel module variant."
  remediation := some "Install the closed module package for the desired driver branch."

/-- `driver.module-flavor-unknown`: the loaded module showed no flavour. -/
def driverModuleFlavorUnknown : Finding where
  id := "driver.module-flavor-unknown"
  severity := .error
  summary := "Loaded NVIDIA module flavor could not be determined"
  detail :=
    "/proc/driver/nvidia/version did not prove whether the loaded module is the open or " ++
    "closed variant."
  remediation := some
    "Restore NVIDIA procfs observability and reload the desired module variant."

/-- `driver.installed-closed-module`: the closed module is on disk where the open one is desired. -/
def driverInstalledClosedModule : Finding where
  id := "driver.installed-closed-module"
  severity := .error
  summary := "Closed on-disk NVIDIA module detected"
  detail :=
    "modinfo shows that the running kernel would load the closed variant, while desired " ++
    "state requires the open variant."
  remediation := some "Install the open module package for the desired driver branch."

/-- `driver.installed-open-module`: the open module is on disk where the closed one is desired. -/
def driverInstalledOpenModule : Finding where
  id := "driver.installed-open-module"
  severity := .error
  summary := "Open on-disk NVIDIA module detected"
  detail :=
    "modinfo shows that the running kernel would load the open variant, while desired " ++
    "state requires the closed variant."
  remediation := some "Install the closed module package for the desired driver branch."

/-- `driver.installed-module-flavor-unknown`: the module on disk showed no flavour. -/
def driverInstalledModuleFlavorUnknown : Finding where
  id := "driver.installed-module-flavor-unknown"
  severity := .error
  summary := "On-disk NVIDIA module flavor could not be determined"
  detail :=
    "modinfo did not prove which NVIDIA module variant is selected for the running " ++
    "kernel."
  remediation := some
    "Install working kmod tooling and verify the NVIDIA module license metadata."

/-- `driver.module-flavor-mismatch`: the loaded module and the one on disk differ in flavour. -/
def driverModuleFlavorMismatch : Finding where
  id := "driver.module-flavor-mismatch"
  severity := .error
  summary := "Loaded and on-disk NVIDIA module flavors differ"
  detail :=
    "The loaded NVIDIA module variant differs from the module selected by modinfo for " ++
    "the running kernel."
  remediation := some "Drain GPU users and reload the complete NVIDIA module stack."

/-- `nvidia-smi.failed`: `nvidia-smi` did not exit with status 0. -/
def nvidiaSmiFailed (audit : HostAudit) : Finding where
  id := "nvidia-smi.failed"
  severity := .error
  summary := "nvidia-smi failed"
  detail := "Driver userspace cannot communicate with the NVIDIA stack."
  evidence := [("stdout", .text audit.nvidiaSmi.stdout), ("stderr", .text audit.nvidiaSmi.stderr)]
  remediation := some "Repair driver/module/userspace version alignment."

/-- `nvml.failed`: the NVML library could not be loaded. -/
def nvmlFailed (audit : HostAudit) : Finding where
  id := "nvml.failed"
  severity := .error
  summary := "NVML library load failed"
  detail := "libnvidia-ml.so.1 is unavailable or not loadable."
  evidence := [("stderr", .text audit.nvml.stderr)]
  remediation := some "Install the driver userspace libraries for the desired branch."

/-- `cuda-compat.deployment-unmodeled`: a CUDA compatibility package is desired. -/
def cudaCompatDeploymentUnmodeled : Finding where
  id := "cuda-compat.deployment-unmodeled"
  severity := .error
  summary := "CUDA forward-compatibility deployment is not modeled"
  detail :=
    "Installing a cuda-compat package alone does not configure the application loader " ++
    "path, and this release cannot deploy or roll back that path safely."
  remediation := some "Use cuda_compat: none in this release."

/-- `docker.missing`: Docker is desired and not installed. -/
def dockerMissing : Finding where
  id := "docker.missing"
  severity := .error
  summary := "Docker is not installed"
  detail := "Desired state requires Docker as the container runtime."
  remediation := some "Install Docker and configure the NVIDIA container toolkit."

/-- `docker.service-inactive`: Docker's service is not active. -/
def dockerServiceInactive : Finding where
  id := "docker.service-inactive"
  severity := .error
  summary := "Docker service is inactive"
  detail := "Desired state requires the Docker daemon to be active so GPU containers can run."
  remediation := some "Start the Docker service and rerun verification."

/-- `docker.service-state-unknown`: the activity of Docker's service was not observed. -/
def dockerServiceStateUnknown : Finding where
  id := "docker.service-state-unknown"
  severity := .error
  summary := "Docker service activity is unknown"
  detail :=
    "The Docker unit's active state could not be observed, so convergence cannot safely " ++
    "decide whether to start it."
  remediation := some "Restore systemd service-state observability and rerun doctor."

/-- `docker.service-disabled`: Docker's service does not start at boot. -/
def dockerServiceDisabled : Finding where
  id := "docker.service-disabled"
  severity := .error
  summary := "Docker service is not enabled at boot"
  detail := "A reboot could leave the otherwise healthy GPU container runtime unavailable."
  remediation := some "Enable the Docker service persistently and rerun verification."

/-- `docker.service-enablement-unknown`: its enablement was not observed. -/
def dockerServiceEnablementUnknown : Finding where
  id := "docker.service-enablement-unknown"
  severity := .error
  summary := "Docker boot enablement is unknown"
  detail := "The Docker unit's boot-persistent enablement could not be observed."
  remediation := some "Restore systemd enablement observability and rerun doctor."

/-- `container-toolkit.missing`: the NVIDIA container toolkit is not installed. -/
def containerToolkitMissing : Finding where
  id := "container-toolkit.missing"
  severity := .error
  summary := "NVIDIA container toolkit is missing"
  detail := "Docker cannot run GPU workloads without the NVIDIA container runtime/toolkit."
  remediation := some "Install nvidia-container-toolkit and run nvidia-ctk runtime configure."

/-- `docker.nvidia-runtime-missing`: Docker does not list the NVIDIA runtime. -/
def dockerNvidiaRuntimeMissing : Finding where
  id := "docker.nvidia-runtime-missing"
  severity := .error
  summary := "Docker is not configured with the NVIDIA runtime"
  detail := "docker info does not list an nvidia runtime."
  remediation := some "Run nvidia-ctk runtime configure --runtime=docker and restart Docker."

/-- `docker.runtime-unknown`: Docker did not say which runtimes it has. -/
def dockerRuntimeUnknown : Finding where
  id := "docker.runtime-unknown"
  severity := .error
  summary := "Docker runtime state could not be determined"
  detail := "docker info failed, so NVIDIA runtime configuration cannot be proven."
  remediation := some "Ensure the Docker daemon is running and accessible, then rerun doctor."

/-- `fabric-manager.not-applicable`: no GPU supports the handshake that is desired. -/
def fabricManagerNotApplicable : Finding where
  id := "fabric-manager.not-applicable"
  severity := .error
  summary := "Fabric Manager is not applicable to the observed topology"
  detail := "Every GPU reported that the Fabric Manager handshake is unsupported."
  remediation := some
    ("Use fabric_manager: false or deploy this profile only to a qualified NVSwitch " ++
      "system.")

/-- `fabric-manager.applicability-unknown`: the handshake states were not observed. -/
def fabricManagerApplicabilityUnknown : Finding where
  id := "fabric-manager.applicability-unknown"
  severity := .error
  summary := "Fabric Manager topology could not be qualified"
  detail := "The GPU Fabric handshake state was unavailable or malformed."
  remediation := some
    ("Restore `nvidia-smi -q -d FABRIC` observability before using the Fabric Manager " ++
      "profile.")

/-- `fabric-manager.missing`: Fabric Manager is desired and no package of it is installed. -/
def fabricManagerMissing : Finding where
  id := "fabric-manager.missing"
  severity := .error
  summary := "NVIDIA Fabric Manager package is missing"
  detail :=
    "This release verifies pre-provisioned Fabric Manager but does not install it " ++
    "automatically."
  remediation := some
    ("Provision the exact driver-matched Fabric Manager package using the platform vendor " ++
      "procedure, then rerun doctor.")

/-- `fabric-manager.inactive`: its service is not active. -/
def fabricManagerInactive : Finding where
  id := "fabric-manager.inactive"
  severity := .error
  summary := "NVIDIA Fabric Manager is inactive"
  detail := "Desired state requires the pre-provisioned Fabric Manager service to be active."
  remediation := some
    ("Validate the NVSwitch topology and start Fabric Manager using the platform vendor " ++
      "procedure.")

/-- `fabric-manager.unknown`: the activity of its service was not observed. -/
def fabricManagerUnknown : Finding where
  id := "fabric-manager.unknown"
  severity := .error
  summary := "Fabric Manager state could not be determined"
  detail :=
    "Desired state requires an active Fabric Manager service, but service state is " ++
    "unavailable."
  remediation := some "Run on a systemd host and verify the nvidia-fabricmanager unit."

/-- `fabric-manager.disabled`: its service does not start at boot. -/
def fabricManagerDisabled : Finding where
  id := "fabric-manager.disabled"
  severity := .error
  summary := "NVIDIA Fabric Manager is not enabled at boot"
  detail := "A reboot would leave the required Fabric Manager service inactive."
  remediation := some "Enable the qualified nvidia-fabricmanager service and rerun doctor."

/-- `fabric-manager.enablement-unknown`: the enablement of its service was not observed. -/
def fabricManagerEnablementUnknown : Finding where
  id := "fabric-manager.enablement-unknown"
  severity := .error
  summary := "Fabric Manager boot enablement is unknown"
  detail := "The required service's boot-persistent state could not be observed."
  remediation := some "Restore systemd enablement observability and rerun doctor."

/-- `fabric-manager.fabric-unhealthy`: a GPU did not complete the handshake. -/
def fabricManagerFabricUnhealthy : Finding where
  id := "fabric-manager.fabric-unhealthy"
  severity := .error
  summary := "GPU Fabric registration is unhealthy"
  detail := "At least one GPU did not complete a successful Fabric Manager handshake."
  remediation := some "Repair the NVSwitch/Fabric Manager topology before convergence."

/-- `fabric-manager.fabric-health-unknown`: not every GPU showed the handshake's result. -/
def fabricManagerFabricHealthUnknown : Finding where
  id := "fabric-manager.fabric-health-unknown"
  severity := .error
  summary := "GPU Fabric registration health is unknown"
  detail := "A successful Fabric Manager handshake could not be proven for every GPU."
  remediation := some "Restore GPU Fabric health observability and rerun doctor."

/-- `fabric-manager.version-unknown`: Fabric Manager showed no version. -/
def fabricManagerVersionUnknown : Finding where
  id := "fabric-manager.version-unknown"
  severity := .error
  summary := "Fabric Manager version could not be determined"
  detail := "Driver/Fabric Manager compatibility cannot be proven without a version."
  remediation := some
    ("Install a matching versioned Fabric Manager package and ensure nv-fabricmanager -v " ++
      "works.")

/-- `fabric-manager.version-mismatch`: its version does not match the desired driver. -/
def fabricManagerVersionMismatch (desired : DesiredState) (version : VersionText) : Finding where
  id := "fabric-manager.version-mismatch"
  severity := .error
  summary := "Fabric Manager does not match the desired driver"
  detail :=
    "Fabric Manager " ++ version.val ++
    " does not match desired " ++ desired.driverMatchLabel ++ "."
  remediation := some "Install the Fabric Manager build matching the NVIDIA driver."

/-- `fabric-manager.version-mismatch`, against the loaded module. -/
def fabricManagerLoadedVersionMismatch (loaded version : VersionText) : Finding where
  id := "fabric-manager.version-mismatch"
  severity := .error
  summary := "Fabric Manager does not exactly match the loaded driver"
  detail :=
    "Loaded NVIDIA module " ++ loaded.val ++
    " and Fabric Manager " ++ version.val ++
    " must use the same version."
  remediation := some
    "Install the Fabric Manager build that exactly matches the loaded NVIDIA driver."

/-- `mig.unsupported`: MIG is desired on a host with a GPU that has none. -/
def migUnsupported : Finding where
  id := "mig.unsupported"
  severity := .error
  summary := "At least one GPU does not support MIG"
  detail :=
    "MIG cannot be enabled host-wide because the GPU inventory includes a device " ++
    "reporting MIG N/A."
  remediation := some "Use desired MIG disabled or target only a homogeneous MIG-capable node."

/-- `mig.capability-unknown`: not every GPU showed whether it has MIG. -/
def migCapabilityUnknown : Finding where
  id := "mig.capability-unknown"
  severity := .error
  summary := "MIG capability could not be determined"
  detail := "Every GPU must report a current and pending MIG state before host-wide enablement."
  remediation := some "Restore nvidia-smi MIG capability queries before convergence."

/-- `mig.pending-unknown`: the pending MIG mode was not observed. -/
def migPendingUnknown : Finding where
  id := "mig.pending-unknown"
  severity := .error
  summary := "Pending MIG mode could not be determined"
  detail :=
    "A pending firmware/driver MIG transition could change state after reboot and must " ++
    "be observable."
  remediation := some "Use a driver that exposes current and pending MIG mode for every GPU."

/-- `mig.pending-reboot`: the pending MIG mode is not the current one. -/
def migPendingReboot (mode pending : MigMode) : Finding where
  id := "mig.pending-reboot"
  severity := .error
  summary := "A MIG mode transition is pending"
  detail :=
    "Current MIG mode is " ++ mode.value ++ ", while pending mode is " ++
    pending.value ++ "."
  remediation := some
    ("Reboot the node during the maintenance window, then rerun doctor and applied " ++
      "verification.")

/-- `mig.unknown`: the current MIG mode was not observed. -/
def migUnknown : Finding where
  id := "mig.unknown"
  severity := .error
  summary := "MIG mode could not be determined"
  detail := "Desired MIG state cannot be proven from nvidia-smi output."
  remediation := some "Ensure nvidia-smi can query every GPU's MIG mode."

/-- `mig.enabled`, `mig.disabled` or `mig.mixed`: the mode that was observed. -/
def migMode (desired : DesiredState) (mode : MigMode) : Finding where
  id := "mig." ++ mode.value
  severity := .error
  summary :=
    if mode = .mixed then "MIG mode is mixed across GPUs" else "MIG mode is " ++ mode.value
  detail := "Desired state requires MIG " ++ desired.mig ++ " on every GPU."
  remediation := some
    ("Set MIG " ++ desired.mig ++ " on every GPU during a maintenance window.")

/-- `mig.geometry-unobservable`: the instances were not completely observed. -/
def migGeometryUnobservable : Finding where
  id := "mig.geometry-unobservable"
  severity := .error
  summary := "MIG instance geometry could not be determined"
  detail := "Rollback and container binding require a complete GI/CI and MIG-device inventory."
  remediation := some
    ("Restore UUID-bound `nvidia-smi mig -lgi`, `-lci`, and `nvidia-smi -L` observations " ++
      "before convergence.")

/-- `mig.geometry-missing` or `mig.geometry-mismatch`. -/
def migGeometryWrong (geometry : List MigGpuInstance) : Finding where
  id := if geometry.isEmpty then "mig.geometry-missing" else "mig.geometry-mismatch"
  severity := .error
  summary := "MIG mode does not expose the desired usable instance"
  detail :=
    "Desired MIG state requires exactly one full-profile GPU instance containing one " ++
    "full-size compute instance."
  remediation := some
    ("Recreate the UUID-bound MIG geometry with GPU instance profile 0 at placement 0 and " ++
      "its default compute instance.")

/-- `mig.device-unobservable`: there is not exactly one MIG device to bind a container to. -/
def migDeviceUnobservable : Finding where
  id := "mig.device-unobservable"
  severity := .error
  summary := "The desired MIG compute device UUID is not unique"
  detail := "Container verification requires exactly one retained MIG device UUID."
  remediation := some "Repair MIG enumeration before running a workload."

/-- `mig.disabled-with-instances`: instances are visible though MIG is disabled. -/
def migDisabledWithInstances : Finding where
  id := "mig.disabled-with-instances"
  severity := .error
  summary := "MIG devices remain visible while MIG mode is disabled"
  detail := "The mode and instance observations are internally inconsistent."
  remediation := some "Reset the GPU and rerun audit before convergence."

/-- `stack.healthy`: the audit shows nothing that the desired state forbids. -/
def stackHealthy : Finding where
  id := "stack.healthy"
  severity := .info
  summary := "NVIDIA stack matches observed desired-state checks"
  detail := "No blocking audit issues were detected."

end Finding

end NvidiaConverge
