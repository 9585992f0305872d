import NvidiaConverge.Library.Base64
import NvidiaConverge.Planning.Mig
import NvidiaConverge.Rollback.ModuleGraph
import NvidiaConverge.Rollback.Payloads

/-!
# Creating a snapshot

`create_snapshot` with what it calls. `SnapshotHost` is the host as the function reads it;
`SnapshotRequest` holds its arguments. A persisted snapshot comes with the text that is
published under its path.
-/

namespace NvidiaConverge

open Result (refuse)
open Posix (AbsolutePath)

/-- A managed configuration file as the bounded trusted reader finds it. -/
inductive ManagedFile where
  | absent
  | unreadable (reason : String)
  | present (content : String) (stMode : Nat)

/-- The host as `create_snapshot` reads it, besides the audit. -/
structure SnapshotHost where
  /-- `platform.machine()`. -/
  machine : String
  /-- `/etc/machine-id`, when it can be read. -/
  machineId : Option String
  /-- `platform.node()`. -/
  node : String
  now : IsoTime.UtcTime
  /-- `uuid4().hex`. -/
  uuid : String
  modules : SysModules
  managedFile : String → ManagedFile
  /-- The names in the DNF module fail-safe directory. -/
  failsafeNames : Except String (List String)
  payloads : PayloadAccess
  /-- Why the snapshot cannot be published, if it cannot. -/
  storeError : Option String

/-- The arguments of `create_snapshot`; `path` is the answer of `new_snapshot_path`. -/
structure SnapshotRequest where
  path : AbsolutePath
  desired : Option DesiredState := none
  persist : Bool := true
  operationId : Option String := none
  packagePayloads : Option PackagePayloadBundle := none
  dnfModuleFailsafePath : Option String := none

/-- `S_IMODE`: the permission bits of a mode. -/
def permissionBits (stMode : Nat) : Nat :=
  stMode % 0o10000

/-- `_host_identity`: a digest of the machine's identity, or of its host name where there is
none. -/
def hostIdentity (host : SnapshotHost) : Except String String :=
  let machineId := Text.lower (Text.strip (host.machineId.getD ""))
  if isOperationId machineId then
    pure ("machine-id-sha256:" ++ Sha256.hexdigest (Text.utf8 machineId))
  else do
    let hostname := Text.strip host.node
    refuse (hostname = "") "cannot determine a stable host identity for rollback binding"
    pure ("hostname-sha256:" ++ Sha256.hexdigest (Text.utf8 hostname))

/-- The selector names one canonical driver stream. -/
def canonicalModuleSelector (selector : PackagePolicySelector) : Option String :=
  match selector.version with
  | none => none
  | some stream =>
      if selector.identifier = "nvidia-driver" ∧ selector.name = "nvidia-driver" ∧
          selector.kind = "module" ∧ selector.relation = some "stream" ∧
          selector.repositories = [] ∧ isModuleStream stream = true then some stream
      else none

/-- `_dnf_module_failsafe_path_from_audit`: the fail-safe file of the module that the audit found
enabled. -/
def dnfModuleFailsafePathFromAudit (host : SnapshotHost) (audit : HostAudit) :
    Except String (Option String) :=
  if audit.packageManager ≠ some .dnf ∨ audit.packagePolicy.observable = false ∨
      audit.packagePolicy.backend ≠ some .dnf then pure none
  else
    match audit.packagePolicy.selectors with
    | [] => pure none
    | [selector] =>
        match canonicalModuleSelector selector with
        | none =>
            throw "cannot derive DNF fail-safe target from a noncanonical module selector"
        | some stream => do
            let names ← host.failsafeNames
            let marker := "nvidia-driver:" ++ stream ++ ":"
            match (sorted names).filter fun name =>
                Text.startsWith name marker &&
                  isFailsafeContext (name.toList.drop marker.toList.length) with
            | [target] => do
                let path := dnfModuleFailsafeDirectory ++ "/" ++ target
                refuse (isManagedPath path = false)
                  "derived DNF module fail-safe target is unsafe"
                pure (some path)
            | _ => throw "cannot identify one stable DNF module fail-safe target"
    | _ => throw "cannot derive one DNF module fail-safe target from package policy"

/-- `package_policy_package_targets`: the pinning package of an APT host, where the lock has actions
and its policy does not name it yet. -/
def packagePolicyPackageTargets (desired : DesiredState) (audit : HostAudit) :
    Except String (List String) :=
  if audit.packageManager ≠ some .aptGet then pure []
  else do
    let actions ← lockActions desired audit
    if hasUnsupported actions then pure []
    else
      let pin := aptPinningPackage desired
      pure (if pin ∉ audit.packagePolicy.selectors.map (·.name) ∧ actions ≠ [] then [pin] else [])

/-- `_NVIDIA_CONTAINER_TOOLKIT_PACKAGE_CLOSURE`. -/
def nvidiaContainerToolkitPackageClosure : List String :=
  ["nvidia-container-toolkit", "nvidia-container-toolkit-base", "libnvidia-container-tools",
   "libnvidia-container1"]

/-- The names the transaction of a desired state can introduce. -/
def trackedNames (desired : DesiredState) (audit : HostAudit) (manager : PackageManager) :
    Except String (List String) := do
  let policyTargets ← packagePolicyPackageTargets desired audit
  let names := packageTrackingNames manager
    (packageInstallTargets desired audit ++ policyTargets) audit.kernel.running
  pure (if "nvidia-container-toolkit" ∈ names then
      Text.deduplicate (names ++ nvidiaContainerToolkitPackageClosure)
    else names)

/-- The packages of the inventory that are installed. -/
def installedPackages (audit : HostAudit) : List PackageInfo :=
  audit.packages.filter (·.installed)

/-- `remove_packages` of `create_snapshot`: tracked names that are not installed yet. -/
def introducedPackages (desired : Option DesiredState) (audit : HostAudit) :
    Except String (List String) :=
  match desired, audit.packageManager with
  | some desired, some manager => do
      let names ← trackedNames desired audit manager
      pure (names.filter fun name => name ∉ (installedPackages audit).map (·.name))
  | _, _ => pure []

/-- `_capture_managed_files`, for the file at one path. -/
def captureManagedFile (host : SnapshotHost) (path : String) : Except String FileSnapshot :=
  match host.managedFile path with
  | .absent => pure { path, existed := false, contentBase64 := none, mode := none }
  | .unreadable reason =>
      throw ("cannot capture managed state file " ++ Text.repr path ++ ": " ++ reason)
  | .present content stMode => do
      refuse (maxManagedFileBytes < (Text.utf8 content).length)
        ("cannot capture managed state file " ++ Text.repr path ++ ": input exceeds " ++
          toString maxManagedFileBytes ++ " bytes")
      pure
        { path
          existed := true
          contentBase64 := some (String.ofList (Base64.encode (Text.utf8 content)))
          mode := some (permissionBits stMode) }

/-- The managed paths of a package manager, in restore order. -/
def managedPaths (manager : Option PackageManager) (failsafePath : Option String) : List String :=
  match manager with
  | some .dnf => [dockerConfigPath, dnfModulePath] ++ failsafePath.toList
  | some .yum => [dockerConfigPath, dnfModulePath]
  | some .zypper => [dockerConfigPath, zypperLockPath]
  | some .aptGet | none => [dockerConfigPath]

/-- `_capture_managed_files`: every managed file of the package manager, with the fail-safe file. -/
def captureManagedFiles (host : SnapshotHost) (manager : Option PackageManager)
    (failsafePath : Option String) : Except String (List FileSnapshot) := do
  refuse (failsafePath.isSome = true ∧ manager = some .yum)
    "DNF module fail-safe rollback target is not managed"
  (managedPaths manager failsafePath).mapM (captureManagedFile host)

/-- The launcher observations that are `None`, by their label. -/
def unknownServiceStates (launchers : LauncherStates) : List String :=
  let labelled (unit : String) (state : UnitState) : List (String × Bool) :=
    [(unit ++ " active", state.active.isNone), (unit ++ " enabled", state.enabled.isNone),
     (unit ++ " unit-file", state.unitFileState.isNone)]
  sorted <|
    ((labelled dockerServiceUnit launchers.dockerService ++
      labelled dockerSocketUnit launchers.dockerSocket ++
      labelled nvidiaPersistencedUnit launchers.nvidiaPersistenced ++
      labelled fabricManagerUnit launchers.fabricManager).filter (·.2)).map (·.1)

/-- `mig_change_requested`: the desired state asks for another MIG mode or geometry. -/
def migChangeRequested (desired : Option DesiredState) (audit : HostAudit) : Bool :=
  match desired with
  | none => false
  | some desired =>
      audit.migMode.map (·.value) != some desired.mig ||
        (desired.mig == "enabled" && !fullMigGeometryMatches audit.migGeometry audit.gpuUuids)

/-- The fail-safe target that the snapshot of a DNF host records. -/
def failsafeTarget (host : SnapshotHost) (audit : HostAudit) (request : SnapshotRequest) :
    Except String (Option String) := do
  let path ←
    (if request.persist = true ∧ request.dnfModuleFailsafePath = none then
      dnfModuleFailsafePathFromAudit host audit
    else pure request.dnfModuleFailsafePath)
  refuse (request.persist = true ∧ audit.packageManager = some .dnf ∧ path = none)
    "schema-v2.6 DNF snapshot requires one exact module fail-safe target"
  match path with
  | none => pure none
  | some text => do
      refuse (audit.packageManager ≠ some .dnf ∨ isManagedPath text = false ∨
          Text.startsWith text (dnfModuleFailsafeDirectory ++ "/") = false)
        "DNF module fail-safe rollback target is not an exact managed path"
      pure (some text)

/-- The guards of `create_snapshot` on the audit, in their order. -/
def checkBaseline (audit : HostAudit) (request : SnapshotRequest) : Except String Unit := do
  refuse (audit.migMode = some .mixed)
    ("cannot snapshot a mixed per-GPU MIG baseline; normalize MIG mode before " ++
      "convergence")
  refuse (request.persist = true ∧ audit.migModePending = none)
    ("cannot persist an applicable rollback snapshot without an observable pending " ++
      "MIG mode")
  refuse (request.persist = true ∧ audit.migModePending ≠ audit.migMode)
    "cannot persist an applicable rollback snapshot while a MIG transition is pending"
  refuse (request.persist = true ∧ audit.migGeometryComplete = false)
    ("cannot persist an applicable rollback snapshot without a complete MIG GI/CI " ++
      "geometry observation")
  refuse (request.persist = true ∧ audit.migMode = some .disabled ∧
      (audit.migGeometry ≠ [] ∨ audit.migDeviceUuids ≠ []))
    "cannot snapshot MIG devices while current MIG mode is disabled"
  refuse (request.persist = true ∧ migChangeRequested request.desired audit = true ∧
      restorableMigGeometry audit.migGeometry audit.gpuUuids = false)
    ("cannot mutate MIG from a baseline whose exact GI/CI geometry is not safely " ++
      "restorable")
  refuse (request.persist = true ∧ audit.gpuUuids = [])
    ("cannot persist an applicable rollback snapshot without an observable GPU UUID " ++
      "inventory")
  refuse (request.persist = true ∧ audit.packageManager = none)
    ("cannot persist an applicable rollback snapshot without a supported package " ++
      "manager")
  refuse (request.persist = true ∧ truthy audit.osId = false)
    "cannot persist an applicable rollback snapshot without an observable OS identity"
  refuse (request.persist = true ∧ audit.packageInventoryComplete = false)
    ("cannot persist an applicable rollback snapshot from an incomplete package " ++
      "inventory")
  refuse (request.persist = true ∧ unknownServiceStates audit.launchers ≠ [])
    ("cannot persist an applicable rollback snapshot without exact " ++
      "transactional service state: " ++
      Text.join ", " (unknownServiceStates audit.launchers))
  refuse (request.persist = true ∧ (serviceStateConsistencyError audit.launchers).isSome = true)
    ("cannot persist an applicable rollback snapshot with inconsistent " ++
      "transactional service state: " ++
      (serviceStateConsistencyError audit.launchers).getD "")

/-- `operation_id or uuid4().hex`: the operation that the snapshot belongs to. -/
def snapshotOperationId (host : SnapshotHost) (request : SnapshotRequest) : String :=
  if truthy request.operationId then request.operationId.getD "" else host.uuid

/-- The guards on the operation and the package versions. -/
def checkOperation (host : SnapshotHost) (audit : HostAudit) (request : SnapshotRequest) :
    Except String Unit := do
  refuse (isOperationId (snapshotOperationId host request) = false)
    ("rollback snapshot operation_id must be a 32-character lowercase hex " ++
      "identifier")
  let incomplete := (installedPackages audit).filter fun package => truthy package.version = false
  refuse (request.persist = true ∧ incomplete ≠ [])
    ("cannot persist an applicable rollback snapshot with unknown package versions: " ++
      Text.join ", " (sorted (incomplete.map (·.name))))

/-- The loaded modules in unload order; a dry run tolerates an unsafe graph. -/
def snapshotModules (host : SnapshotHost) (audit : HostAudit) (request : SnapshotRequest) :
    Except String (List String) := do
  let names ←
    (match nvidiaModuleUnloadOrder host.modules with
    | .ok names => pure names
    | .error reason => do
        refuse (request.persist = true)
          ("cannot capture a restorable NVIDIA module graph: " ++ reason)
        pure [])
  refuse (request.persist = true ∧ audit.module.loaded ≠ decide ("nvidia" ∈ names))
    "loaded NVIDIA module audit does not match the observable sysfs module graph"
  pure names

/-- The payload bundle a persisted snapshot must have. -/
def checkPayloads (host : SnapshotHost) (audit : HostAudit) (request : SnapshotRequest) :
    Except String Unit :=
  if request.persist then
    match request.packagePayloads, audit.packageManager with
    | some bundle, some manager =>
        match validatePackagePayloads request.path bundle (installedPackages audit) manager none
            { host.payloads with inspect := none } with
        | .ok _ => pure ()
        | .error reason => throw ("cannot bind rollback package payloads: " ++ reason)
    | _, _ =>
        throw ("cannot persist an applicable rollback snapshot without a complete package " ++
          "payload bundle")
  else pure ()

/-- The fields of the snapshot, before its digest is attached. -/
def snapshotRecord (host : SnapshotHost) (audit : HostAudit) (request : SnapshotRequest)
    (failsafePath : Option String) (moduleNames : List String) :
    Except String RollbackSnapshot := do
  let removePackages ← introducedPackages request.desired audit
  let path := if request.persist then some request.path.text else none
  let commands ← rollbackCommands audit.packages audit.packageManager removePackages path
    request.packagePayloads
  let hostId ← hostIdentity host
  let managedFiles ←
    (if request.persist then captureManagedFiles host audit.packageManager failsafePath
    else pure [])
  pure
    { path
      packages := installedPackages audit
      kernel := audit.kernel.running
      moduleVersion := audit.module.version
      commands
      schemaVersion := snapshotSchemaVersion
      createdAt := host.now.isoformat
      operationId := snapshotOperationId host request
      hostId
      osId := audit.osId
      osVersion := audit.osVersion
      architecture := host.machine
      packageManager := audit.packageManager
      introducedPackages := removePackages
      moduleLoaded := audit.module.loaded
      moduleNames
      moduleOpenModule := audit.module.openModule
      moduleSigned := audit.module.signed
      moduleInstalledVersion := audit.module.installedVersion
      moduleInstalledOpenModule := audit.module.installedOpenModule
      moduleInstalledSigned := audit.module.installedSigned
      migMode := audit.migMode
      launchers := audit.launchers
      managedFiles
      packagePayloads := request.packagePayloads
      gpuUuids := audit.gpuUuids
      migGeometry := audit.migGeometry }

/-- The snapshot with the digest of its fields attached. -/
def RollbackSnapshot.sealed (s : RollbackSnapshot) : RollbackSnapshot :=
  { s with integritySha256 := some (snapshotIntegrity s) }

/-- Publish the snapshot's text under its path. -/
def storeSnapshot (host : SnapshotHost) (request : SnapshotRequest) (s : RollbackSnapshot) :
    Except String String := do
  refuse (maxSnapshotBytes < (Text.utf8 (snapshotText s)).length)
    "rollback snapshot exceeds the supported serialized size"
  match host.storeError with
  | some reason =>
      throw ("cannot persist rollback snapshot " ++ Text.repr request.path.text ++ ": " ++ reason)
  | none => pure (snapshotText s)

/-- `create_snapshot`: the snapshot and, when it is persisted, the published text. -/
def createSnapshot (host : SnapshotHost) (audit : HostAudit) (request : SnapshotRequest) :
    Except String (RollbackSnapshot × Option String) := do
  let failsafePath ← failsafeTarget host audit request
  checkBaseline audit request
  checkOperation host audit request
  let moduleNames ← snapshotModules host audit request
  checkPayloads host audit request
  let record ← snapshotRecord host audit request failsafePath moduleNames
  if request.persist then do
    let text ← storeSnapshot host request record.sealed
    pure (record.sealed, some text)
  else pure (record.sealed, none)

end NvidiaConverge
