import NvidiaConverge.Records.Desired
import NvidiaConverge.Records.Host

/-!
# Package recipes and the package-policy plan

The part of `planner.py` that decides whether the distribution has a recipe
(`_package_recipe_error`), which packages drifted (`package_install_targets`) and what the
package-manager policy needs (`lock_actions`).
-/

namespace NvidiaConverge

/-- `PlanAction`: one planned action with its commands and its reason. -/
structure PlanAction where
  id : String
  description : String
  commands : List (List String)
  destructive : Bool := false
  reason : Option String := none
  deriving DecidableEq

/-- `action.id.startswith("unsupported.")`: the action refuses the plan. -/
def PlanAction.unsupported (action : PlanAction) : Bool :=
  Text.startsWith action.id "unsupported."

/-- Some action of the plan is unsupported, so that the plan refuses to go on. -/
def hasUnsupported (actions : List PlanAction) : Bool :=
  actions.any PlanAction.unsupported

/-! ## Recipes -/

/-- `_release_major`: the part of a release before its first point. -/
def releaseMajor : Option String → Option String
  | none => none
  | some version => if version = "" then none else some (Text.beforeFirst '.' version)

/-- `_APT_RELEASES.get(os_id)`: the supported major releases of an APT distribution. -/
def aptReleases (osId : String) : Option (List String) :=
  if osId = "debian" then some ["12", "13"]
  else if osId = "ubuntu" then some ["22", "24", "26"]
  else none

/-- `x or 'unknown'`: the text, or `unknown` where it is missing or empty. -/
def orUnknown : Option String → String
  | none => "unknown"
  | some text => if text = "" then "unknown" else text

/-- Whether an optional release is one of the listed ones. -/
def releaseIn (release : Option String) (releases : List String) : Bool :=
  release.any releases.contains

/-- `_suse_kernel_devel`: the headers package of a SUSE kernel of a supported variant. -/
def suseKernelDevel (kernel : String) : Option String :=
  match Text.rpartition? '-' kernel with
  | none => none
  | some (version, variant) =>
      if version = "" ∨ ¬ ["64k", "azure", "default"].contains variant then none
      else some ("kernel-" ++ variant ++ "-devel=" ++ version)

/-- The module on disk has the desired version, flavor and, if required, signature. -/
def onDiskReady (desired : DesiredState) (module : ModuleInfo) : Bool :=
  desired.matchesDriverVersion (module.installedVersion.map Subtype.val) &&
    module.installedOpenModule == some desired.openKernelModule &&
    (desired.secureBoot != "signed" || module.installedSigned == some true)

/-- `module_reload_required`: a loaded observation differs from a known on-disk one. -/
def moduleReloadRequired (module : ModuleInfo) : Bool :=
  module.loaded &&
    ((module.installedVersion.isSome && module.version != module.installedVersion) ||
      (module.installedOpenModule.isSome && module.openModule != module.installedOpenModule) ||
      (module.installedSigned.isSome && module.signed != module.installedSigned))

/-- The host's distribution, as the recipe messages name it. -/
def distributionLabel (audit : HostAudit) : String :=
  orUnknown audit.osId ++ " " ++ orUnknown audit.osVersion ++ "."

/-- The part of `_package_recipe_error` that depends on the installed driver. -/
def installedDriverError (desired : DesiredState) (audit : HostAudit) : Option String :=
  if onDiskReady desired audit.module = true ∧
      (audit.nvml.returncode ≠ some 0 ∨
        (audit.module.loaded = true ∧ audit.nvidiaSmi.returncode ≠ some 0 ∧
          moduleReloadRequired audit.module = false)) then
    some ("The installed driver matches desired metadata but its userspace " ++
      "integrity checks fail. Ordinary package installation may be a no-op; " ++
      "candidate-bound reinstall/repair is not qualified in this release.")
  else if audit.module.installedVersion.isSome = true ∧
      desired.matchesDriverVersion (audit.module.installedVersion.map Subtype.val) = false then
    some ("In-place NVIDIA driver branch or exact-version transitions are not " ++
      "qualified; use a pre-baked image or the vendor migration procedure.")
  else if audit.module.installedOpenModule.isSome = true ∧
      audit.module.installedOpenModule ≠ some desired.openKernelModule then
    some ("In-place NVIDIA open/closed kernel-module flavor transitions are not " ++
      "qualified; use a pre-baked image or the vendor migration procedure.")
  else none

/-- `(audit.os_id or "").lower()`: the distribution's identifier in lower case. -/
def loweredOsId (audit : HostAudit) : String :=
  Text.lower (audit.osId.getD "")

/-- `_release_major(audit.os_version)`: the major release of the host. -/
def hostRelease (audit : HostAudit) : Option String :=
  releaseMajor audit.osVersion

/-- The part of `_package_recipe_error` that depends on the distribution. -/
def distributionError (desired : DesiredState) (audit : HostAudit) : Option String :=
  match audit.packageManager with
  | some .aptGet =>
      if (aptReleases (loweredOsId audit)).any (releaseIn (hostRelease audit)) then none
      else some ("No NVIDIA APT recipe is defined for " ++ distributionLabel audit)
  | some .dnf =>
      if ¬ (["almalinux", "rhel", "rocky"].contains (loweredOsId audit) ∧
          releaseIn (hostRelease audit) ["8", "9"]) then
        some ("No NVIDIA DNF module-stream recipe is defined for " ++ distributionLabel audit)
      else if Text.endsWith audit.kernel.running ".x86_64" = false then
        some ("NVIDIA DNF convergence is qualified only for x86_64 kernels; " ++
          "aarch64 and 64K-kernel dependency recipes are not yet supported.")
      else if hostRelease audit = some "9" ∧ audit.kernel.headersInstalled = false then
        some ("RHEL 9 running-kernel development files must be installed before " ++
          "convergence; kernel-devel-matched can select a newer kernel, so " ++
          "this release refuses to create an implicit kernel transition.")
      else if desired.exactDriverVersion then
        some ("Exact NVIDIA driver versions require candidate-aware DNF version locking, " ++
          "which this planner cannot safely express.")
      else none
  | some .yum =>
      some ("Current RHEL 8/9 NVIDIA recipes require DNF module streams; yum-only hosts are " ++
        "not supported.")
  | some .zypper =>
      if ¬ (["opensuse-leap", "sles"].contains (loweredOsId audit) ∧
          releaseIn (hostRelease audit) ["15", "16"]) then
        some ("No NVIDIA Zypper recipe is defined for " ++ distributionLabel audit)
      else if desired.exactDriverVersion then
        some ("Exact NVIDIA driver versions require candidate-aware Zypper constraints, " ++
          "which this planner cannot safely express.")
      else if suseKernelDevel audit.kernel.running = none then
        some ("Cannot derive a supported SUSE kernel variant and version from " ++
          Text.repr audit.kernel.running ++ ".")
      else none
  | none => some "No NVIDIA package recipe is defined for package manager unknown."

/-- `_package_recipe_error`: why this release has no package recipe for the host, if it has none. -/
def packageRecipeError (desired : DesiredState) (audit : HostAudit) : Option String :=
  if desired.cudaCompat ≠ "none" then
    some ("CUDA forward-compatibility packages require an explicit loader " ++
      "deployment and workload contract that this release does not model; " ++
      "use cuda_compat: none.")
  else
    match installedDriverError desired audit with
    | some error => some error
    | none => distributionError desired audit

/-- `_unsupported_package_recipe`: the refusal of a host without a recipe. -/
def unsupportedPackageRecipe (reason : String) : PlanAction where
  id := "unsupported.package-recipe"
  description := "Cannot safely converge with the detected distribution/package recipe."
  commands := []
  reason := some reason

/-- `_unsupported_package_policy`: the refusal of a policy that was not understood. -/
def unsupportedPackagePolicy (reason : String) : PlanAction where
  id := "unsupported.package-policy"
  description :=
    "Cannot safely converge the package-policy selector from the observed baseline."
  commands := []
  reason := some reason

/-! ## Install targets -/

/-- `_driver_package_name`: the package that brings the driver of the desired flavour. -/
def driverPackageName (desired : DesiredState) : String :=
  if desired.openKernelModule then "nvidia-open" else "cuda-drivers"

/-- `_rhel_build_dependencies`: what a module build needs on a Red Hat host. -/
def rhelBuildDependencies (kernel : String) (osVersion : Option String) : List String :=
  if releaseMajor osVersion = some "9" then ["gcc", "make"]
  else ["kernel-devel-" ++ kernel, "kernel-headers", "gcc", "make"]

/-- `_kernel_build_targets`: the packages that the module build needs on this host. -/
def kernelBuildTargets (audit : HostAudit) : List String :=
  match audit.packageManager with
  | some .aptGet => ["linux-headers-" ++ audit.kernel.running]
  | some .dnf | some .yum =>
      (rhelBuildDependencies audit.kernel.running audit.osVersion).filter fun name =>
        !(["gcc", "make"].contains name)
  | some .zypper => (suseKernelDevel audit.kernel.running).toList
  | none => []

/-- `package_install_targets` before deduplication: one entry for each drifted component. -/
def driftedTargets (desired : DesiredState) (audit : HostAudit) : List String :=
  (if onDiskReady desired audit.module then [] else [driverPackageName desired]) ++
  (if audit.runtime.nvidiaContainerRuntimeInstalled then [] else ["nvidia-container-toolkit"]) ++
  (if audit.runtime.dockerInstalled then [] else ["docker-ce"]) ++
  (if audit.kernel.headersInstalled then [] else kernelBuildTargets audit) ++
  (if audit.kernel.compiler.isSome then []
   else if audit.packageManager = some .aptGet then ["build-essential"]
   else ["gcc", "make"])

/-- `package_install_targets`: the packages of the components that drift, each once. -/
def packageInstallTargets (desired : DesiredState) (audit : HostAudit) : List String :=
  Text.deduplicate (driftedTargets desired audit)

/-- `_next_driver_branch`: the first branch behind the decade of a branch. -/
def nextDriverBranch (driverMajor : String) : String :=
  toString ((Text.decimalValue driverMajor / 10 + 1) * 10)

/-- `package_install_operands`: Zypper bounds the driver packages to the desired branch. -/
def packageInstallOperands (desired : DesiredState) (audit : HostAudit) : List String :=
  let targets := packageInstallTargets desired audit
  if audit.packageManager ≠ some .zypper then targets
  else
    let lowerBound := desired.driverMajor
    let upperBound := nextDriverBranch lowerBound
    targets.flatMap fun target =>
      if ["cuda-drivers", "nvidia-fabricmanager", "nvidia-open"].contains target then
        [target ++ ">=" ++ lowerBound, target ++ "<" ++ upperBound]
      else [target]

/-- `package_install_commands`: the repository transaction that brings the targets. -/
def packageInstallCommands (desired : DesiredState) (audit : HostAudit) :
    List (List String) :=
  let operands := packageInstallOperands desired audit
  if operands = [] then []
  else
    match audit.packageManager with
    | some .aptGet =>
        [["apt-get", "install", "-y", "--allow-downgrades", "--no-install-recommends"] ++
          operands]
    | some .dnf =>
        [["dnf", "-C", "--setopt=install_weak_deps=False", "install", "-y"] ++ operands]
    | some .yum =>
        [["yum", "-C", "--setopt=install_weak_deps=False", "install", "-y"] ++ operands]
    | some .zypper =>
        [["zypper", "--non-interactive", "--no-refresh", "install", "--no-recommends"] ++
          operands]
    | none => []

/-- `_package_policy_staging_required`: a target whose version the package policy decides. -/
def packagePolicyStagingRequired (targets : List String) : Bool :=
  targets.any fun target =>
    ["cuda-drivers", "nvidia-fabricmanager", "nvidia-open"].contains target ||
      Text.startsWith target "cuda-compat-"

/-! ## Policy -/

/-- `_package_policy_error`: why the observed policy cannot be changed, if it cannot. -/
def packagePolicyError (audit : HostAudit) : Option String :=
  let label (manager : Option PackageManager) := Text.reprOption (manager.map (·.name))
  if audit.packagePolicy.backend ≠ audit.packageManager then
    some ("Observed package-policy backend does not match the detected package " ++
      "manager (" ++ label audit.packagePolicy.backend ++ " != " ++
      label audit.packageManager ++ ").")
  else if audit.packagePolicy.observable = false then
    some ("The " ++ ((audit.packageManager.map (·.name)).getD "None") ++
      " package-policy state could not be " ++
      "observed completely; refusing to mutate an unknown policy baseline.")
  else none

/-- The shape of a vendor pinning package seen as a selector. -/
def aptPinShape (selector : PackagePolicySelector) : Bool :=
  selector.identifier == selector.name && selector.kind == "package" &&
    selector.relation.isNone && selector.version.isNone && selector.repositories.isEmpty

/-- Whether a selector is one of the vendor's pinning packages. -/
def isDriverPin (selector : PackagePolicySelector) : Bool :=
  Text.startsWith selector.name "nvidia-driver-pinning-"

/-- `_apt_policy_selector_error`: why the APT pins are not understood, if they are not. -/
def aptPolicySelectorError (selectors : List PackagePolicySelector) : Option String :=
  if selectors.any fun selector => isDriverPin selector && !aptPinShape selector then
    some ("Observed an unsupported NVIDIA APT pin selector shape; refusing " ++
      "to infer package-policy intent.")
  else none

/-- `_dnf_policy_selector_error`: why the module stream is not understood, if it is not. -/
def dnfPolicySelectorError : List PackagePolicySelector → Option String
  | [] => none
  | [selector] =>
      if selector.identifier = "nvidia-driver" ∧ selector.name = "nvidia-driver" ∧
          selector.kind = "module" ∧ selector.relation = some "stream" ∧
          selector.version.isSome = true ∧ selector.repositories = [] then
        none
      else
        some ("Observed an unsupported NVIDIA DNF module selector shape; refusing " ++
          "to infer module-stream intent.")
  | _ => some "Observed multiple NVIDIA DNF module selectors."

/-- `_apt_pinning_package`: the package that pins the desired driver. -/
def aptPinningPackage (desired : DesiredState) : String :=
  "nvidia-driver-pinning-" ++
    (if desired.exactDriverVersion then desired.driver else desired.driverMajor)

/-- `_dnf_module_stream`: the module stream of the desired driver. -/
def dnfModuleStream (desired : DesiredState) : String :=
  desired.driverMajor ++ "-" ++ (if desired.openKernelModule then "open" else "dkms")

/-- `_MODULE_STREAM_PATTERN.fullmatch`: a branch of three or four digits, open or dkms. -/
def isModuleStream (stream : String) : Bool :=
  match Text.spanDigits stream.toList with
  | (first :: digits, rest) =>
      '1' ≤ first && first ≤ '9' && (digits.length == 2 || digits.length == 3) &&
        (rest == "-open".toList || rest == "-dkms".toList)
  | _ => false

/-- A stand-in for the text of `DNF_MODULE_ENABLE_SCRIPT`, which planning never inspects. -/
def dnfModuleEnableScript : String := "DNF_MODULE_ENABLE_SCRIPT"

/-- The binding `dnf_module_enable_command` writes when no preflight digest is known yet. -/
def dnfModuleUnboundPreflight : String := "unbound-preflight-proof"

/-- `dnf_module_enable_command(apply=True, stream=stream)`; a bad stream is the `ValueError`. -/
def dnfModuleEnableCommand (stream : String) : Except String (List String) :=
  if isModuleStream stream then
    pure ["python3", "-I", "-c", dnfModuleEnableScript, "--apply", "nvidia-driver", stream,
      dnfModuleUnboundPreflight]
  else throw "invalid exact NVIDIA DNF module stream"

/-- The APT branch of `lock_actions`: the pinning package, and those that it replaces. -/
def aptLockActions (desired : DesiredState) (selectors : List PackagePolicySelector) :
    List PlanAction :=
  match aptPolicySelectorError selectors with
  | some error => [unsupportedPackagePolicy error]
  | none =>
      let pinningPackage := aptPinningPackage desired
      let installed := (selectors.filter isDriverPin).map (·.name)
      let conflicting :=
        ((installed.filter (· ≠ pinningPackage)).dedup).insertionSort (· ≤ ·)
      if conflicting = [] ∧ installed.contains pinningPackage then []
      else
        [{ id := "lock.apt"
           description :=
             "Select the NVIDIA driver branch or exact version with the vendor APT pinning " ++
             "package."
           commands :=
             [["apt-get", "install", "-y", "--allow-downgrades", "--no-install-recommends",
               "--purge", pinningPackage] ++ conflicting.map (· ++ "-")]
           destructive := true
           reason := some
             ("Apply NVIDIA's package-wide pin before resolving the driver meta-package.") }]

/-- The DNF branch of `lock_actions`: the switch from one module stream to another. -/
def dnfLockActions (desired : DesiredState) (selectors : List PackagePolicySelector) :
    Except String (List PlanAction) :=
  match dnfPolicySelectorError selectors with
  | some error => pure [unsupportedPackagePolicy error]
  | none =>
      match selectors.head?.bind (·.version) with
      | some current =>
          if current = dnfModuleStream desired then pure []
          else
            pure [unsupportedPackagePolicy
              ("Changing an existing NVIDIA DNF module stream requires a " ++
                "vendor switch-to transaction with explicitly bounded removals; " ++
                "this release fails closed instead of resetting the live stream.")]
      | none => do
          let command ← dnfModuleEnableCommand (dnfModuleStream desired)
          pure
            [{ id := "lock.rpm"
               description :=
                 "Select the NVIDIA DNF module stream for the desired driver branch and " ++
                 "module flavor."
               commands := [command]
               destructive := true
               reason := some
                 ("RHEL 8/9 use module streams to keep the driver on the selected branch.") }]

/-- `_same_zypper_policy` against the managed exclusion of newer branches. -/
def sameZypperPolicy (selector : PackagePolicySelector) (upperBound : String) : Bool :=
  selector.name == "*nvidia*" && selector.kind == "package" &&
    selector.relation == some "ge" && selector.version == some upperBound &&
    selector.repositories.isEmpty

/-- The Zypper branch of `lock_actions`: the lock against the branches behind the desired one. -/
def zypperLockActions (desired : DesiredState) (selectors : List PackagePolicySelector) :
    List PlanAction :=
  let upperBound := nextDriverBranch desired.driverMajor
  match selectors.filter fun selector => Text.contains (Text.lower selector.name) "nvidia" with
  | [] =>
      [{ id := "lock.zypper"
         description :=
           "Exclude NVIDIA packages newer than the desired driver branch before installation."
         commands :=
           [["zypper", "--non-interactive", "addlock", "*nvidia* >= " ++ upperBound]]
         destructive := true
         reason := some
           ("Zypper locks are exclusion rules; this keeps resolution within the desired " ++
             "branch.") }]
  | relevant =>
      if relevant.length = 1 ∧ relevant.all (sameZypperPolicy · upperBound) then []
      else
        [unsupportedPackagePolicy
          ("Observed NVIDIA Zypper locks conflict with the managed branch " ++
            "constraint; refusing to remove or reinterpret administrator locks.")]

/-- `lock_actions`: the actions that bring the package policy to the desired state. -/
def lockActions (desired : DesiredState) (audit : HostAudit) :
    Except String (List PlanAction) :=
  match packageRecipeError desired audit with
  | some error => pure [unsupportedPackageRecipe error]
  | none =>
      match packagePolicyError audit with
      | some error => pure [unsupportedPackagePolicy error]
      | none =>
          let selectors := audit.packagePolicy.selectors
          match audit.packageManager with
          | some .aptGet => pure (aptLockActions desired selectors)
          | some .dnf => dnfLockActions desired selectors
          | some .zypper => pure (zypperLockActions desired selectors)
          | some .yum | none => pure []

end NvidiaConverge
