import NvidiaConverge.Planning.Doctor
import NvidiaConverge.Planning.PackagePolicy

/-!
# The plan

`build_plan` of `planner.py`. The guards that refuse to plan come first (`planBlocker`,
`moduleResetBlocker`), then the policy plan of `lock_actions`, then the actions in the order
they are executed. A `ValueError` that `lock_actions` raises is the error of the result.
-/

namespace NvidiaConverge

/-- `_PACKAGE_REMEDIABLE_FINDINGS`: the findings that a package transaction repairs. -/
def packageRemediableFindings : List String :=
  ["compiler.missing", "container-toolkit.missing", "cuda-compat.library-missing",
   "cuda-compat.library-unknown", "cuda-compat.library-unusable",
   "cuda-compat.package-missing", "docker.missing", "driver.closed-module",
   "driver.installed-version-unknown", "driver.installed-closed-module",
   "driver.installed-open-module", "driver.installed-module-flavor-unknown",
   "driver.loaded-version-unknown", "driver.module-flavor-unknown",
   "driver.module-flavor-mismatch", "driver.module-version-mismatch", "driver.open-module",
   "driver.version-mismatch", "kernel.headers.missing", "module.not-loaded",
   "nvidia-smi.failed", "nvml.failed", "secure-boot.unsigned-module",
   "secure-boot.installed-module-unsigned"]

/-- `_AUTOMATICALLY_REMEDIABLE_FINDINGS`: the findings that some planned action repairs. -/
def automaticallyRemediableFindings : List String :=
  packageRemediableFindings ++
  ["docker.nvidia-runtime-missing", "docker.service-disabled", "docker.service-inactive",
   "mig.disabled", "mig.enabled", "mig.geometry-mismatch", "mig.geometry-missing"]

/-- `_automatically_remediable`: the finding is listed, or it is Docker's unknown runtime while
Docker is stopped. -/
def automaticallyRemediable (finding : Finding) (audit : HostAudit) : Bool :=
  automaticallyRemediableFindings.contains finding.id ||
    (finding.id == "docker.runtime-unknown" &&
      audit.launchers.dockerService.active == some false)

/-- The errors of `build_plan` that no planned action repairs. -/
def unresolvedFindings (audit : HostAudit) (findings : List Finding) : List Finding :=
  findings.filter fun finding =>
    finding.severity = .error && !automaticallyRemediable finding audit

/-- A refusal to plan: an action without commands. -/
def refusal (id description reason : String) : PlanAction where
  id := id
  description := description
  commands := []
  reason := some reason

/-- `mig_mode_change_required`: the observed mode is not the desired one. -/
def migModeChangeRequired (desired : DesiredState) (audit : HostAudit) : Bool :=
  match audit.migMode with
  | some .enabled => desired.mig != "enabled"
  | some .disabled => desired.mig != "disabled"
  | some .mixed | none => false

/-- `mig_geometry_change_required`: MIG stays enabled and its geometry is not the desired one. -/
def migGeometryChangeRequired (desired : DesiredState) (audit : HostAudit) : Bool :=
  desired.mig == "enabled" && audit.migMode == some .enabled &&
    !fullMigGeometryMatches audit.migGeometry audit.gpuUuids

/-- The refusals of a plan that would change MIG. -/
def migChangeBlocker (audit : HostAudit) : Option PlanAction :=
  if audit.gpuUuids.length ≠ 1 then
    some (refusal "unsupported.mig-transaction-scope"
      "Cannot safely mutate MIG mode for this GPU topology."
      ("Applied MIG changes are qualified only for exactly one " ++
        "observed stable GPU UUID; multi-GPU updates can partially " ++
        "succeed and cannot yet be compensated transactionally."))
  else if audit.migGeometryComplete = false then
    some (refusal "unsupported.mig-geometry-unobservable"
      "Cannot safely mutate MIG without a complete GI/CI baseline."
      ("Applied MIG changes require complete UUID-bound GPU-instance, " ++
        "compute-instance, and MIG-device observations so rollback cannot " ++
        "silently lose a pre-existing partition."))
  else if restorableMigGeometry audit.migGeometry audit.gpuUuids = false then
    some (refusal "unsupported.mig-rollback-geometry"
      "Cannot safely restore the observed MIG geometry."
      ("Transactional MIG changes are qualified only from an empty " ++
        "baseline or one GPU instance containing one full-size compute " ++
        "instance. Complex GI/CI layouts must be managed with a dedicated " ++
        "partition manager."))
  else none

/-- The guards of `build_plan` up to the unresolved findings. -/
def planBlocker (desired : DesiredState) (audit : HostAudit) (findings : List Finding) :
    Option PlanAction :=
  if audit.packageManager = none then
    some (refusal "unsupported.package-manager"
      "Cannot converge without a supported package manager."
      "No apt/dnf/yum/zypper found")
  else
    match packageRecipeError desired audit with
    | some error => some (unsupportedPackageRecipe error)
    | none =>
        if audit.migMode = some .mixed then
          some (refusal "unsupported.mig-rollback-baseline"
            "Cannot safely converge a mixed per-GPU MIG baseline."
            ("Rollback schema v2.6 records exact UUID-bound MIG geometry, " ++
              "but mixed per-GPU transitions are not transactionally qualified. " ++
              "Normalize MIG mode manually before convergence."))
        else
          match
            if migModeChangeRequired desired audit || migGeometryChangeRequired desired audit
              then migChangeBlocker audit else none with
          | some blocker => some blocker
          | none =>
              match unresolvedFindings audit findings with
              | [] => none
              | unresolved =>
                  some (refusal "unsupported.precondition"
                    ("Cannot safely mutate the host while required preconditions are " ++
                      "unresolved.")
                    (Text.join "; "
                      (unresolved.map fun finding => finding.id ++ ": " ++ finding.summary)))

/-- `module_reset_required`: a loaded module whose package changes or which has to be reloaded. -/
def moduleResetRequired (desired : DesiredState) (audit : HostAudit) : Bool :=
  audit.module.loaded &&
    ((packageInstallTargets desired audit).contains (driverPackageName desired) ||
      moduleReloadRequired audit.module)

/-- The refusals of a module reset on a host with MIG enabled. -/
def moduleResetBlocker (desired : DesiredState) (audit : HostAudit) : Option PlanAction :=
  if moduleResetRequired desired audit = true ∧ audit.migMode = some .enabled then
    if audit.gpuUuids.length ≠ 1 then
      some (refusal "unsupported.module-reset-mig-transaction-scope"
        "Cannot safely reset the module under this MIG topology."
        ("A module reset destroys MIG geometry and is qualified " ++
          "only for exactly one stable GPU UUID."))
    else if audit.migGeometryComplete = false then
      some (refusal "unsupported.module-reset-mig-geometry-unobservable"
        "Cannot safely reset the module without exact MIG geometry."
        ("The current GI/CI baseline must be completely observable " ++
          "before a module reset can destroy and later reconcile it."))
    else if restorableMigGeometry audit.migGeometry audit.gpuUuids = false then
      some (refusal "unsupported.module-reset-mig-rollback-geometry"
        "Cannot safely restore MIG geometry after a module reset."
        ("Only empty geometry or one full-profile GI containing " ++
          "one full-size CI is transactionally qualified."))
    else none
  else none

/-- `Stage the desired package policy` before packages are resolved under another one. -/
def packagePolicyStaging : PlanAction :=
  refusal "unsupported.package-policy-staging"
    "Stage the desired package policy before resolving NVIDIA packages."
    ("The active package policy differs from desired state, so the " ++
      "planned NVIDIA transaction cannot yet be preflighted against " ++
      "the policy it will use. Run `nvidia-converge lock --apply` in " ++
      "the maintenance window, then re-audit and rerun install.")

/-- `snapshot.current-state`: the snapshot before packages change. -/
def snapshotCurrentState : PlanAction where
  id := "snapshot.current-state"
  description :=
    "Record installed NVIDIA packages and kernel/module state before changes."
  commands := [["nvidia-converge", "snapshot", "--apply"]]
  reason := some "Required for rollback."

/-- `install.packages`: the repository transaction for the drifted targets. -/
def installPackages (desired : DesiredState) (audit : HostAudit) : PlanAction where
  id := "install.packages"
  description :=
    "Install only package components that differ from observed desired state."
  commands := packageInstallCommands desired audit
  destructive := true
  reason := some
    ("Drifted targets: " ++ Text.join ", " (packageInstallTargets desired audit))

/-- The snapshot, the policy change and the package installation. -/
def packageActions (desired : DesiredState) (audit : HostAudit)
    (policyActions : List PlanAction) : List PlanAction :=
  if packageInstallTargets desired audit = [] then
    if desired.kernelPolicy = "pin-compatible" then policyActions else []
  else
    [snapshotCurrentState] ++
    (if desired.kernelPolicy = "pin-compatible" then policyActions else []) ++
    [installPackages desired audit]

/-- The single GPU that a MIG command addresses. -/
def migGpu (audit : HostAudit) : String :=
  audit.gpuUuids.headD ""

/-- The commands that remove observed instances. -/
def migTeardownCommands (audit : HostAudit) : List (List String) :=
  if audit.migGeometry = [] then [] else migGeometryDestroyCommands (migGpu audit)

/-- The MIG teardown and the module preparation. -/
def moduleActions (desired : DesiredState) (audit : HostAudit) : List PlanAction :=
  (if moduleResetRequired desired audit = true ∧ audit.migMode = some .enabled ∧
      audit.migGeometry ≠ [] then
    [{ id := "prepare.mig-geometry-teardown"
       description :=
         "Destroy the exact UUID-bound MIG geometry before resetting the module."
       commands := migGeometryDestroyCommands (migGpu audit)
       destructive := true
       reason := some
         ("A module reset destroys MIG devices; explicit teardown keeps " ++
           "the transition observable and compensatable.") }]
  else []) ++
  (if audit.module.loaded = false ∨ moduleResetRequired desired audit = true then
    [{ id := "prepare.module"
       description := "Load the selected on-disk NVIDIA module stack."
       commands := []
       destructive := true
       reason := some
         (if audit.module.loaded = false then "The NVIDIA module is not loaded."
          else
            "The driver package transaction or observed on-disk module " ++
            "requires an exact module-stack reset.") }]
  else [])

/-- `disable.mig`; the closing texts of its reason differ between two planners. -/
def disableMig (audit : HostAudit) (reason : String) : PlanAction where
  id := "disable.mig"
  description := "Destroy the UUID-bound GPU's MIG instances, then disable MIG mode."
  commands := migTeardownCommands audit ++ [["nvidia-smi", "-i", migGpu audit, "-mig", "0"]]
  destructive := true
  reason := some reason

/-- `enable.mig`: MIG is enabled and one full instance created. -/
def enableMig (audit : HostAudit) (reason : String) : PlanAction where
  id := "enable.mig"
  description := "Enable MIG and create one full-profile GI with its default full CI."
  commands :=
    [["nvidia-smi", "-i", migGpu audit, "-mig", "1"],
     desiredFullMigGeometryCommand (migGpu audit)]
  destructive := true
  reason := some reason

/-- `configure.mig-geometry`: the instances are replaced by one full instance. -/
def configureMigGeometry (audit : HostAudit) (reason : String) : PlanAction where
  id := "configure.mig-geometry"
  description := "Replace drifted MIG geometry with one full-profile GI and full CI."
  commands := migTeardownCommands audit ++ [desiredFullMigGeometryCommand (migGpu audit)]
  destructive := true
  reason := some reason

/-- The MIG mode and geometry changes, or their reconciliation after a module reset. -/
def migActions (desired : DesiredState) (audit : HostAudit) : List PlanAction :=
  let reset := moduleResetRequired desired audit
  (if reset = false ∧ desired.mig = "disabled" ∧ audit.migMode = some .enabled then
    [disableMig audit "Destroys the current GI/CI and may require a GPU reset."]
  else []) ++
  (if reset = false ∧ desired.mig = "enabled" ∧ audit.migMode = some .disabled then
    [enableMig audit "May require a GPU reset and creates a new MIG device UUID."]
  else []) ++
  (if desired.mig = "enabled" ∧ reset = false ∧ audit.migMode = some .enabled ∧
      migGeometryChangeRequired desired audit = true then
    [configureMigGeometry audit "Destroys and recreates the UUID-bound GPU's MIG instances."]
  else []) ++
  (if reset = true then
    [{ id := "reconcile.mig-after-module"
       description :=
         "Reobserve and reconcile MIG mode and UUID-bound geometry after module reset."
       commands := []
       destructive := true
       reason := some
         ("A module reset can destroy MIG devices, so applied execution " ++
           "derives the exact MIG command only from a fresh post-reset audit.") }]
  else [])

/-- `_docker_service_action`: Docker's service is enabled, and started unless that is deferred. -/
def dockerServiceAction (service : UnitState) (deferStart : Bool) : Option PlanAction :=
  if deferStart then
    if service.enabled = some false then
      some {
        id := "service.docker"
        description := "Enable Docker persistently without starting it yet."
        commands := [["systemctl", "enable", "docker.service"]]
        reason := some "Docker remains inactive until runtime configuration is complete." }
    else none
  else if service.active = some false ∧ service.enabled = some false then
    some {
      id := "service.docker"
      description := "Enable Docker persistently and start it for the current boot."
      commands := [["systemctl", "enable", "--now", "docker.service"]]
      destructive := true
      reason := some "Starting Docker can make queued containers runnable." }
  else if service.active = some false then
    some {
      id := "service.docker"
      description := "Start Docker for the current boot."
      commands := [["systemctl", "start", "docker.service"]]
      destructive := true
      reason := some "Starting Docker can make queued containers runnable." }
  else if service.enabled = some false then
    some {
      id := "service.docker"
      description := "Enable the active Docker service persistently at boot."
      commands := [["systemctl", "enable", "docker.service"]]
      reason := some "Changes Docker's boot-persistent unit state." }
  else none

/-- `configure.docker-runtime`: the NVIDIA runtime is configured while Docker is stopped. -/
def configureDockerRuntime (service : UnitState) : PlanAction where
  id := "configure.docker-runtime"
  description := "Configure Docker to use the NVIDIA container runtime."
  commands :=
    (if service.active = some true then [["systemctl", "stop", "docker.service"]] else []) ++
    [["nvidia-ctk", "runtime", "configure", "--runtime=docker"],
     ["systemctl", "start", "docker.service"]]
  destructive := true
  reason := some
    ("Configures Docker while stopped, then starts it exactly " ++
      "once before an immediate GPU-workload checkpoint.")

/-- The actions on Docker's service and its runtime, when Docker is desired. -/
def dockerActions (desired : DesiredState) (audit : HostAudit) : List PlanAction :=
  let service := audit.launchers.dockerService
  if desired.containerRuntime = "docker" then
    let runtimeConfigurationRequired : Bool := audit.runtime.dockerGpusUsable ≠ some true
    (dockerServiceAction service runtimeConfigurationRequired).toList ++
    (if runtimeConfigurationRequired then [configureDockerRuntime service] else [])
  else []

/-- `verify.stack`: the verification that ends every plan. -/
def verifyStackAction : PlanAction where
  id := "verify.stack"
  description := "Validate module, nvidia-smi, NVML, and container GPU access."
  commands := [["nvidia-converge", "verify"]]
  destructive := true
  reason := some
    ("Post-convergence validation launches a temporary GPU-bound " ++
      "Docker container and therefore requires the same maintenance " ++
      "window and active-workload gate as host convergence.")

/-- The policy actions of a plan, when the desired state pins the kernel's compatible packages. -/
def plannedPolicyActions (desired : DesiredState) (audit : HostAudit) :
    Except String (List PlanAction) :=
  if desired.kernelPolicy = "pin-compatible" then lockActions desired audit else pure []

/-- `needs_packages and policy_actions and _package_policy_staging_required(package_targets)`. -/
def policyStagingNeeded (desired : DesiredState) (audit : HostAudit)
    (policyActions : List PlanAction) : Bool :=
  !(packageInstallTargets desired audit).isEmpty && !policyActions.isEmpty &&
    packagePolicyStagingRequired (packageInstallTargets desired audit)

/-- The actions of `build_plan` that no launcher observation enters: everything up to the
Docker actions. -/
def hostActions (desired : DesiredState) (audit : HostAudit)
    (policyActions : List PlanAction) : List PlanAction :=
  packageActions desired audit policyActions ++ moduleActions desired audit ++
    migActions desired audit

/-- `build_plan`: a refusal, or the policy, package, module, MIG and Docker actions in order. -/
def buildPlan (desired : DesiredState) (audit : HostAudit) (findings : List Finding) :
    Except String (List PlanAction) :=
  match planBlocker desired audit findings with
  | some blocker => pure [blocker]
  | none =>
      match moduleResetBlocker desired audit with
      | some blocker => pure [blocker]
      | none => do
          let policyActions ← plannedPolicyActions desired audit
          if hasUnsupported policyActions then pure policyActions
          else if policyStagingNeeded desired audit policyActions then
            pure [packagePolicyStaging]
          else
            pure (hostActions desired audit policyActions ++ dockerActions desired audit ++
              [verifyStackAction])

end NvidiaConverge
