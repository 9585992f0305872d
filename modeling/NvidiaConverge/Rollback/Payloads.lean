import NvidiaConverge.Library.Result
import NvidiaConverge.Rollback.Commands

/-!
# Retained package payloads

`validate_package_payloads` of `package_payloads.py`. The bundle directory is given as its
descriptor shows it: the regular private files with their digests and sizes. The header
inspection of a payload is an argument, because it runs package-manager commands.
-/

namespace NvidiaConverge

open Result (refuse)
open Posix (AbsolutePath)

/-- `MAX_PACKAGE_PAYLOAD_BYTES`: the most that one payload may hold. -/
def maxPackagePayloadBytes : Nat := 8 * 1024 * 1024 * 1024

/-- `MAX_PACKAGE_PAYLOAD_TOTAL_BYTES`: the most that all payloads may hold. -/
def maxPackagePayloadTotalBytes : Nat := 64 * 1024 * 1024 * 1024

/-- `MAX_BASELINE_PACKAGE_PAYLOADS`: the most payloads of a baseline. -/
def maxBaselinePackagePayloads : Nat := 4096

/-- `MAX_PACKAGE_PAYLOAD_ENTRIES`: the most entries of a payload directory. -/
def maxPackagePayloadEntries : Nat := 8192

/-- A file of the bundle directory: its name, its digest and its size. -/
structure PayloadFile where
  name : String
  sha256 : String
  sizeBytes : Nat

/-- What `_inspect_payload` reads from a package file: its identity and its signers. -/
abbrev PayloadInspection := String → Except String (PackageIdentity × List String)

/-- `_safe_component`: the name is one safe component of a path. -/
def safeComponent (name : String) : Bool :=
  name ≠ "" && name ≠ "." && name ≠ ".." && !name.toList.contains '/' &&
    !name.toList.contains (Char.ofNat 0) && (Text.utf8 name).length ≤ 255

/-- `payload_bundle_directory`: the name of the directory beside a snapshot that holds its
payloads. -/
def payloadBundleDirectory (snapshotPath : AbsolutePath) : Except String String := do
  let name := snapshotPath.name ++ ".payloads"
  refuse (safeComponent name = false) "rollback snapshot name cannot bind a payload bundle"
  pure name

/-- The manager of a package that the package manager installs. -/
def expectedManager (packageManager : PackageManager) : String :=
  if packageManager = .aptGet then "apt" else "rpm"

/-- The format of the package files of a package manager. -/
def expectedFormat (packageManager : PackageManager) : String :=
  if packageManager = .aptGet then "deb" else "rpm"

/-- The provenance of the package files of a package manager. -/
def expectedVerification (packageManager : PackageManager) : String :=
  if packageManager = .aptGet then "apt-repository" else "rpm-signature"

/-- The package is installed and completely identified. -/
def completeIdentity (packageManager : PackageManager) (package : PackageInfo) : Bool :=
  package.installed && package.manager == some (expectedManager packageManager) &&
    package.identity.name != "" && package.identity.architecture != "" &&
    package.identity.version != ""

/-- `_validate_requested_packages`: the first offending package decides the error. -/
def validateRequestedPackages (packageManager : PackageManager) :
    List PackageIdentity → List PackageInfo → Except String Unit
  | _, [] => pure ()
  | seen, package :: packages => do
      refuse (completeIdentity packageManager package = false)
        "rollback package payload staging requires complete installed package identities"
      refuse (package.identity ∈ seen) "rollback baseline package identities are not unique"
      validateRequestedPackages packageManager (package.identity :: seen) packages

/-- The entry's fields are those of a verified package file. -/
def validPayloadEntry (packageManager : PackageManager) (entry : PackagePayload) : Bool :=
  entry.format == expectedFormat packageManager &&
    entry.verification == expectedVerification packageManager &&
    Sha256.isDigest entry.sha256 &&
    entry.filename == entry.sha256 ++ (if entry.format = "deb" then ".deb" else ".rpm") &&
    decide (0 < entry.sizeBytes) && decide (entry.sizeBytes ≤ maxPackagePayloadBytes) &&
    !entry.roles.isEmpty && entry.roles.Nodup &&
    entry.roles.all (fun role => ["baseline", "forward"].contains role) &&
    !(entry.format == "deb" && !entry.signerIds.isEmpty) &&
    !(entry.format == "rpm" && entry.signerIds.isEmpty) &&
    entry.signerIds.all fun signer =>
      decide (8 ≤ signer.toList.length) && decide (signer.toList.length ≤ 40) &&
        signer.toList.all Sha256.isHexDigit

/-- The header and the signers of one payload, when they are inspected. -/
def inspectPayloadFile (inspect : Option PayloadInspection) (path : String)
    (entry : PackagePayload) : Except String Unit :=
  match inspect with
  | none => pure ()
  | some inspect => do
      let (observed, signers) ← inspect path
      refuse (observed ≠ entry.identity ∨ signers ≠ entry.signerIds)
        ("rollback package payload header or signature changed for " ++
          formatPackageIdentity entry.identity)

/-- One entry against its file; the new running total. -/
def validatePayloadFile (packageManager : PackageManager) (bundlePath : List String)
    (files : List PayloadFile) (inspect : Option PayloadInspection) (total : Nat)
    (entry : PackagePayload) : Except String Nat := do
  let label := formatPackageIdentity entry.identity
  refuse (validPayloadEntry packageManager entry = false)
    ("rollback package payload manifest is invalid for " ++ label)
  match files.find? fun file => file.name = entry.filename with
  | none => throw ("cannot validate rollback package payload bundle: " ++ entry.filename)
  | some file =>
      refuse (file.sha256 ≠ entry.sha256 ∨ file.sizeBytes ≠ entry.sizeBytes)
        ("rollback package payload bytes changed for " ++ label)
      inspectPayloadFile inspect (Posix.pathText (bundlePath ++ [entry.filename])) entry
      refuse (maxPackagePayloadTotalBytes < total + file.sizeBytes)
        "rollback package payload bundle exceeds the total size limit"
      pure (total + file.sizeBytes)

/-- The identities of the entries with a role. -/
def identitiesWithRole (role : String) (bundle : PackagePayloadBundle) : List PackageIdentity :=
  (bundle.packages.filter fun entry => entry.roles.contains role).map PackagePayload.identity

/-- Two lists have the same members, in whatever order. -/
def sameMembers {α : Type} [DecidableEq α] (xs ys : List α) : Bool :=
  xs.all (ys.contains ·) && ys.all (xs.contains ·)

/-- The test for the same members decides that every element of one list is one of the other. -/
theorem same_members_iff {α : Type} [DecidableEq α] {xs ys : List α} :
    sameMembers xs ys = true ↔ ∀ x, x ∈ xs ↔ x ∈ ys := by
  simp only [sameMembers, Bool.and_eq_true, List.all_eq_true, List.contains_iff_mem]
  exact ⟨fun h x => ⟨h.1 x, h.2 x⟩, fun h => ⟨fun x => (h x).mp, fun x => (h x).mpr⟩⟩

/-- The files to validate: how `open_private_directory` answers for the bundle. -/
structure PayloadAccess where
  directory : Except String (List PayloadFile)
  inspect : Option PayloadInspection := none

/-- The forward packages, when they are given, are completely identified. -/
def validateForwardPackages (packageManager : PackageManager) :
    Option (List PackageInfo) → Except String Unit
  | none => pure ()
  | some forward => validateRequestedPackages packageManager [] forward

/-- The manifest retains exactly the forward packages, when they are given. -/
def validateForwardManifest (bundle : PackagePayloadBundle) :
    Option (List PackageInfo) → Except String Unit
  | none => pure ()
  | some forward =>
      refuse (sameMembers (identitiesWithRole "forward" bundle)
          (forward.map PackageInfo.identity) = false)
        ("rollback package payload manifest does not match the resolved forward " ++
          "transaction")

/-- `validate_package_payloads`, with the local path of every identity. -/
def validatePackagePayloads (snapshotPath : AbsolutePath) (bundle : PackagePayloadBundle)
    (packages : List PackageInfo) (packageManager : PackageManager)
    (forwardPackages : Option (List PackageInfo)) (access : PayloadAccess) :
    Except String (List (PackageIdentity × String)) := do
  validateRequestedPackages packageManager [] packages
  refuse (maxBaselinePackagePayloads < packages.length)
    "rollback baseline package count exceeds the limit"
  refuse (maxPackagePayloadEntries < bundle.packages.length)
    "package payload bundle entry count exceeds the limit"
  validateForwardPackages packageManager forwardPackages
  let expectedDirectory ← payloadBundleDirectory snapshotPath
  refuse (bundle.directory ≠ expectedDirectory)
    "rollback package payload directory is not bound to the snapshot path"
  refuse (¬ (packages.map PackageInfo.identity).Nodup)
    "rollback baseline package identities are not unique"
  refuse (¬ (bundle.packages.map PackagePayload.identity).Nodup ∨
      sameMembers (identitiesWithRole "baseline" bundle)
        (packages.map PackageInfo.identity) = false)
    "rollback package payload manifest is not one-to-one with baseline packages"
  validateForwardManifest bundle forwardPackages
  refuse (¬ (bundle.packages.map (·.filename)).Nodup)
    "rollback package payload filenames are not unique"
  let files ← access.directory
  refuse (sameMembers (files.map (·.name)) (bundle.packages.map (·.filename)) = false)
    "rollback package payload bundle contains missing or unmanifested files"
  let bundlePath := snapshotPath.parent ++ [bundle.directory]
  let total ← bundle.packages.foldlM
    (validatePayloadFile packageManager bundlePath files access.inspect) 0
  refuse (total ≠ bundle.totalSizeBytes)
    "rollback package payload bundle total size is inconsistent"
  pure (bundle.packages.map fun entry =>
    (entry.identity, Posix.pathText (bundlePath ++ [entry.filename])))

end NvidiaConverge
