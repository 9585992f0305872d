import NvidiaConverge.Release.SnapshotExport
import NvidiaConverge.Rollback.Delta

/-!
# The release gate on snapshots

How `check_release_evidence.py` recomputes a package rollback. It first rebuilds the authority
over the retained files by recognising their paths inside the recorded commands, and then derives
the transaction from the sanitised records alone.
-/

namespace NvidiaConverge

open Posix (PurePath)

/-! ## The package authority -/

/-- `_SnapshotPackageAuthority`: what a snapshot entitles the gate to expect of packages. -/
structure SnapshotPackageAuthority where
  snapshotPath : PurePath
  packages : List PackageInfo
  bundle : PackagePayloadBundle

/-- The record of a package is complete for its package manager. -/
def attestedPackage (manager : PackageManager) (package : PackageInfo) : Bool :=
  package.name != "" && truthy package.version && truthy package.architecture &&
    package.manager == some (expectedManager manager) && package.installed

/-- A list is sorted and has no duplicates: `values == sorted(set(values))`. -/
def canonicalList (values : List String) : Bool :=
  values == sorted values.dedup

/-- The entry of a manifest is complete for its package manager. -/
def attestedPayload (manager : PackageManager) (payload : PackagePayload) : Bool :=
  payload.name != "" && payload.architecture != "" && payload.version != "" &&
    payload.format == expectedFormat manager &&
    payload.verification == expectedVerification manager &&
    Sha256.isDigest payload.sha256 &&
    payload.filename == payload.sha256 ++ "." ++ expectedFormat manager &&
    decide (0 < payload.sizeBytes) &&
    !payload.roles.isEmpty && canonicalList payload.roles &&
    payload.roles.all (fun role => ["baseline", "forward"].contains role) &&
    canonicalList payload.signerIds && payload.signerIds.all isSignerId &&
    !(expectedFormat manager == "rpm" && payload.signerIds.isEmpty) &&
    !(expectedFormat manager == "deb" && !payload.signerIds.isEmpty)

/-- `10 <= len(directory) <= 255` and `[^/\x00]+\.payloads`. -/
def attestedDirectory (directory : String) : Bool :=
  decide (10 ≤ directory.toList.length) && decide (directory.toList.length ≤ 255) &&
    Text.endsWith directory ".payloads" && !directory.toList.contains '/' &&
    !directory.toList.contains (Char.ofNat 0)

/-- The manifest is complete and belongs to the packages. -/
def attestedBundle (manager : PackageManager) (packages : List PackageInfo)
    (bundle : PackagePayloadBundle) : Bool :=
  attestedDirectory bundle.directory && bundle.packages.all (attestedPayload manager) &&
    (bundle.packages.map PackagePayload.identity).Nodup &&
    (bundle.packages.map (·.filename)).Nodup &&
    bundle.totalSizeBytes == (bundle.packages.map (·.sizeBytes)).sum &&
    sameMembers (identitiesWithRole "baseline" bundle) (packages.map PackageInfo.identity)

/-- A command part is recognised as a retained file. -/
def isPayloadPath (bundle : PackagePayloadBundle) (part : String) : Bool :=
  let path := PurePath.parse part
  path.isAbsolute && path.text == part && path.parent.name == bundle.directory &&
    (bundle.packages.map (·.filename)).contains path.name

/-- `observed_payload_paths`: the parts of a command that are paths of retained files. -/
def observedPayloadPaths (bundle : PackagePayloadBundle) (parts : List String) : List PurePath :=
  (parts.filter (isPayloadPath bundle)).map PurePath.parse

/-- `expected_baseline_paths`: the paths of the baseline's files under a root. -/
def expectedBaselinePaths (bundle : PackagePayloadBundle) (root : PurePath) : List PurePath :=
  ((bundle.packages.filter fun payload => payload.roles.contains "baseline").map fun payload =>
    root.join payload.filename).dedup

/-- `payload_root`: the one directory that the recognised paths lie in, when they are exactly the
baseline files. -/
def payloadRoot (bundle : PackagePayloadBundle) (parts : List String) : Option PurePath :=
  let observed := observedPayloadPaths bundle parts
  match (observed.map PurePath.parent).dedup with
  | [root] =>
      let expected := expectedBaselinePaths bundle root
      if sameMembers observed expected = true ∧ observed.length = expected.length then some root
      else none
  | _ => none

/-- `directory.removesuffix(".payloads")`: the name of the snapshot whose payloads a directory
holds. -/
def snapshotName (directory : String) : String :=
  if Text.endsWith directory ".payloads" then
    String.ofList (directory.toList.take (directory.toList.length - 9))
  else directory

/-- The declared path is the attested one of this root, or the snapshot's own. -/
def declaresRoot (declared : String) (root snapshotPath : PurePath) : Bool :=
  if Text.startsWith declared "attested:" ∧
      Sha256.isDigest (Text.removePrefix declared "attested:") then
    root.parent == (PurePath.parse "/attested").join (Text.removePrefix declared "attested:")
  else
    (PurePath.parse declared).isAbsolute && (PurePath.parse declared).text == declared &&
      PurePath.parse declared == snapshotPath

/-- The snapshot's records before its commands are read. -/
def attestedRecords (snapshot : RollbackSnapshot) (manager : PackageManager)
    (bundle : PackagePayloadBundle) : Prop :=
  snapshot.schemaVersion = "2.6" ∧ snapshot.packageManager = some manager ∧
    snapshot.packages.all (attestedPackage manager) = true ∧
    (snapshot.packages.map PackageInfo.identity).Nodup ∧
    attestedBundle manager snapshot.packages bundle = true ∧
    snapshot.commands ≠ [] ∧ [] ∉ snapshot.commands

instance (snapshot : RollbackSnapshot) (manager : PackageManager)
    (bundle : PackagePayloadBundle) : Decidable (attestedRecords snapshot manager bundle) := by
  unfold attestedRecords
  infer_instance

/-- `_snapshot_package_authority`: the authority of a snapshot whose records agree, if they do. -/
def snapshotPackageAuthority (snapshot : RollbackSnapshot) (manager : PackageManager) :
    Option SnapshotPackageAuthority :=
  match snapshot.packagePayloads, snapshot.path with
  | some bundle, some declared =>
      if attestedRecords snapshot manager bundle then
        match payloadRoot bundle snapshot.commands.flatten with
        | none => none
        | some root =>
            let snapshotPath := root.parent.join (snapshotName bundle.directory)
            if snapshotPath.isAbsolute = true ∧
                (snapshotPath.parent.join bundle.directory).text = root.text ∧
                declaresRoot declared root snapshotPath = true then
              some { snapshotPath, packages := snapshot.packages, bundle }
            else none
      else none
  | _, _ => none

/-! ## The recomputed transaction -/

/-- `_verify_snapshot_command_contract`: the errors in the commands that a snapshot records. -/
def verifySnapshotCommandContract (runLabel : String) (manager : PackageManager)
    (snapshot : RollbackSnapshot) (baselineName : String) : List String :=
  let introduced := sorted (snapshot.introducedPackages.filter (· ≠ "")).dedup
  let expected : Option (List (List String)) :=
    match snapshotPackageAuthority snapshot manager with
    | none => none
    | some authority =>
        match rollbackCommands authority.packages (some manager) introduced
            (some authority.snapshotPath.text) (some authority.bundle) with
        | .ok commands => some commands
        | .error _ => none
  if expected = none ∨ some snapshot.commands ≠ expected then
    ["apply run " ++ Text.repr runLabel ++ " " ++ baselineName ++
      " snapshot does not use the exact safe rollback transaction contract"]
  else []

/-- `_rpm_snapshot_package_spec`: the spelling of an exact package for DNF and YUM. -/
def rpmSnapshotPackageSpec (package : PackageInfo) : String :=
  package.name ++ "-" ++ epochPrefix package ++ formatOption package.version ++
    architectureSuffix package

/-- `_zypper_snapshot_package_spec`: the spelling of an exact package for Zypper. -/
def zypperSnapshotPackageSpec (package : PackageInfo) : String :=
  package.name ++ architectureSuffix package ++ "=" ++ epochPrefix package ++
    formatOption package.version

/-- `_exact_removal_spec`: the spelling that removes an exact package. -/
def exactRemovalSpec (manager : PackageManager) (package : PackageInfo) : String :=
  match manager with
  | .aptGet =>
      package.name ++
        (if truthy package.architecture then ":" ++ formatOption package.architecture else "")
  | .dnf | .yum => rpmSnapshotPackageSpec package
  | .zypper => zypperSnapshotPackageSpec package

/-- The `PackageInfo` that the gate builds from a recorded package: `str` of every field. -/
def restoreInfo (package : PackageInfo) : PackageInfo where
  name := package.name
  version := some (formatOption package.version)
  manager := some (formatOption package.manager)
  installed := true
  architecture := some (formatOption package.architecture)
  epoch := package.epoch

/-- `restore_packages` of `_expected_applied_package_commands`. -/
def gateRestorePackages (baseline current : List PackageInfo) : List PackageInfo :=
  let currentStates := current.map packageStateIdentity
  baseline.filter fun package => !currentStates.contains (packageStateIdentity package)

/-- `added_packages` of `_expected_applied_package_commands`. -/
def gateAddedPackages (baseline current : List PackageInfo) : List PackageInfo :=
  let baselineStates := baseline.map packageStateIdentity
  let baselineSlots := baseline.map packageSlot
  let currentBaselineSlots :=
    (current.filter fun package => baselineStates.contains (packageStateIdentity package)).map
      packageSlot
  current.filter fun package =>
    !baselineStates.contains (packageStateIdentity package) &&
      (!baselineSlots.contains (packageSlot package) ||
        currentBaselineSlots.contains (packageSlot package))

/-- The current packages that the restored RPM packages displace. -/
def gateDisplacedPackages (baseline current : List PackageInfo) : List PackageInfo :=
  let baselineStates := baseline.map packageStateIdentity
  let restoreSlots :=
    ((gateRestorePackages baseline current).filter fun package =>
      package.manager == some "rpm").map packageSlot
  current.filter fun package =>
    package.manager == some "rpm" && restoreSlots.contains (packageSlot package) &&
      !baselineStates.contains (packageStateIdentity package)

/-- The options of the recomputed transaction. -/
def gateOptions (manager : PackageManager) (baseline current : List PackageInfo)
    (removalSpecs : List String) : RollbackCommandOptions :=
  if manager = .dnf ∨ manager = .yum then
    { exactRemovals := true
      expectedRpmInstalls := some (sorted
        (((gateRestorePackages baseline current).filter fun package =>
          package.manager == some "rpm").map rpmSnapshotPackageSpec))
      expectedRpmRemovals := some (sorted
        (removalSpecs ++
          (gateDisplacedPackages baseline current).map rpmSnapshotPackageSpec).dedup) }
  else { exactRemovals := true }

/-- The transaction from the baseline to the current packages, over the retained files. -/
def recomputedCommands (manager : PackageManager) (baseline current : List PackageInfo)
    (snapshotPath : String) (bundle : PackagePayloadBundle) :
    Except String (List (List String)) :=
  let removalSpecs :=
    sorted ((gateAddedPackages baseline current).map (exactRemovalSpec manager)).dedup
  rollbackCommands ((gateRestorePackages baseline current).map restoreInfo) (some manager)
    removalSpecs (some snapshotPath) (some bundle)
    (gateOptions manager baseline current removalSpecs)

/-- `_expected_applied_package_commands`: the commands that an applied rollback must have run. -/
def expectedAppliedPackageCommands (snapshot : RollbackSnapshot) (audit : AttestedAudit)
    (manager : PackageManager) : List (List String) :=
  match snapshotPackageAuthority snapshot manager with
  | none => []
  | some authority =>
      match recomputedCommands manager (snapshot.packages.filter (·.installed))
          (audit.packages.filter (·.installed)) authority.snapshotPath.text authority.bundle with
      | .ok commands => commands
      | .error _ => []

end NvidiaConverge
