import NvidiaConverge.Library.Hmac
import NvidiaConverge.Library.PurePath
import NvidiaConverge.Rollback.Created

/-!
# The exported snapshot

How `export_integration_attestation.py` sanitises a rollback snapshot: identities become keyed
pseudonyms, and the retained package files keep their names under a pseudonymous root. The two
dictionaries of path bindings are shared by every record of one export.
-/

namespace NvidiaConverge

open Result (refuse)
open Posix (PurePath)

/-! ## Pseudonyms -/

/-- `_keyed_attestation`: the keyed digest of a purpose and some parts, each with its length. -/
def keyedAttestation (key : List UInt8) (purpose : String) (parts : List String) : String :=
  "attested:" ++ Sha256.hmac key ((purpose :: parts).flatMap fun part =>
    Sha256.bigEndian [56, 48, 40, 32, 24, 16, 8, 0] (Text.utf8 part).length ++ Text.utf8 part)

/-- `_pseudonym`: the attestation of a value that is not empty. -/
def pseudonym (key : List UInt8) (purpose value : String) : Except String String := do
  refuse (value = "") "source evidence has no host identity"
  pure (keyedAttestation key purpose [value])

/-- `_pseudonymize_gpu_uuids` and `_pseudonymize_optional_gpu_uuids`; they differ in their error. -/
def pseudonymizeGpuUuids (key : List UInt8) (error : String) (uuids : List String) :
    Except String (List String) := do
  refuse ("" ∈ uuids) error
  uuids.mapM (pseudonym key "gpu-identity")

/-- `_pseudonymize_mig_geometry`: the geometry with the identities of its GPUs attested. -/
def pseudonymizeMigGeometry (key : List UInt8) (geometry : List MigGpuInstance) :
    Except String (List MigGpuInstance) :=
  geometry.mapM fun gpuInstance => do
    let uuid ← pseudonym key "gpu-identity" gpuInstance.gpuUuid
    pure { gpuInstance with gpuUuid := uuid }

/-- `_managed_file_content_attestation`: the attestation of a file that existed. -/
def managedFileContentAttestation (key : List UInt8) (file : FileSnapshot) :
    Except String (Option String) := do
  refuse (file.path = "") "source rollback snapshot has an invalid managed-file path"
  match file.existed, file.contentBase64, file.mode with
  | false, none, none => pure none
  | true, some content, some _ =>
      pure (some (keyedAttestation key "managed-file-content" [file.path, content]))
  | _, _, _ => throw "source rollback snapshot has inconsistent managed-file state"

/-! ## Path bindings -/

/-- `payload_path_bindings` and `payload_root_bindings`: every bound path is absolute. -/
structure PathBindings where
  paths : List (String × String) := []
  roots : List (String × String) := []
  rooted : ∀ binding ∈ paths, binding.1.toList.head? = some '/' := by simp

/-- `payload_root_bindings.setdefault(source, attested)`, with its check. -/
def PathBindings.bindRoot (bindings : PathBindings) (source attested : PurePath) :
    Except String PathBindings :=
  match bindings.roots.lookup source.text with
  | none => pure { bindings with roots := bindings.roots ++ [(source.text, attested.text)] }
  | some previous =>
      if previous = attested.text then pure bindings
      else throw "source evidence has conflicting package payload roots"

/-- `payload_path_bindings.setdefault(source, attested)`, with its check. -/
def PathBindings.bindPath (bindings : PathBindings) (source attested : PurePath)
    (habsolute : source.isAbsolute = true) : Except String PathBindings :=
  match bindings.paths.lookup source.text with
  | none =>
      pure
        { bindings with
          paths := bindings.paths ++ [(source.text, attested.text)]
          rooted := by
            intro binding hbinding
            rcases List.mem_append.mp hbinding with hbefore | hnew
            · exact bindings.rooted binding hbefore
            · rw [List.mem_singleton.mp hnew]
              exact Posix.absolute_text_head habsolute }
  | some previous =>
      if previous = attested.text then pure bindings
      else throw "source evidence has conflicting package payload paths"

/-- The manifest entry cannot be bound behind these file names. -/
def invalidManifestEntry (filenames : List String) (payload : PackagePayload) : Prop :=
  Sha256.isDigest payload.sha256 = false ∨ payload.format ∉ ["deb", "rpm"] ∨
    payload.filename ≠ payload.sha256 ++ "." ++ payload.format ∨ payload.filename ∈ filenames

instance (filenames : List String) (payload : PackagePayload) :
    Decidable (invalidManifestEntry filenames payload) := by
  unfold invalidManifestEntry
  infer_instance

/-- The loop of `_register_payload_path_bindings` over the manifest. -/
def registerPayloads (sourceRoot attestedRoot : PurePath)
    (habsolute : sourceRoot.isAbsolute = true) :
    List String → List PackagePayload → PathBindings → Except String PathBindings
  | _, [], bindings => pure bindings
  | filenames, payload :: payloads, bindings => do
      refuse (invalidManifestEntry filenames payload)
        "source rollback snapshot has an invalid package payload manifest"
      let bindings ← bindings.bindPath (sourceRoot.join payload.filename)
        (attestedRoot.join payload.filename) (Posix.join_is_absolute habsolute payload.filename)
      registerPayloads sourceRoot attestedRoot habsolute (payload.filename :: filenames) payloads
        bindings

/-- `attested_root`: where the export shows the retained files of a snapshot. -/
def attestedRoot (attestedSnapshotPath directory : String) : PurePath :=
  ((PurePath.parse "/attested").join
    (Text.removePrefix attestedSnapshotPath "attested:")).join directory

/-- `_register_payload_path_bindings`: every retained file is bound to its attested path. -/
def registerPayloadPathBindings (key : List UInt8) (snapshot : RollbackSnapshot)
    (bindings : PathBindings) : Except String PathBindings :=
  match snapshot.path, snapshot.packagePayloads with
  | none, none => pure bindings
  | some snapshotPath, some bundle =>
      let source := PurePath.parse snapshotPath
      if habsolute : source.isAbsolute = true ∧ source.text = snapshotPath then do
        refuse (bundle.directory ≠ source.name ++ ".payloads")
          "source rollback snapshot has an invalid package payload binding"
        let attestedSnapshotPath ← pseudonym key "snapshot-path" snapshotPath
        let sourceRoot := source.parent.join bundle.directory
        let root := attestedRoot attestedSnapshotPath bundle.directory
        let bindings ← bindings.bindRoot sourceRoot root
        registerPayloads sourceRoot root
          (Posix.join_is_absolute (show source.parent.isAbsolute = true from habsolute.1)
            bundle.directory) []
          bundle.packages bindings
      else throw "source rollback snapshot has a noncanonical package payload path"
  | _, _ => throw "source rollback snapshot has inconsistent package payload authority"

/-! ## Commands -/

/-- `(?:GPU|MIG)-[A-Za-z0-9][A-Za-z0-9/.-]*`: the identity of a GPU or a MIG device. -/
def isGpuIdentity (text : String) : Bool :=
  (Text.startsWith text "GPU-" || Text.startsWith text "MIG-") &&
    startsAlphanumeric ['/', '.', '-'] (text.toList.drop 4)

/-- One argument of `_pseudonymize_command`: a bound path, an identity, or itself. -/
def pseudonymizeArgument (key : List UInt8) (bindings : PathBindings) (argument : String) :
    Except String String :=
  match bindings.paths.lookup argument with
  | some attested => pure attested
  | none => do
      let path := PurePath.parse argument
      refuse (path.isAbsolute = true ∧
          ∃ root ∈ bindings.roots, path.isRelativeTo (PurePath.parse root.1) = true)
        "source command references an unbound package payload path"
      refuse (path.isAbsolute = true ∧ ∃ name ∈ path.names, Text.endsWith name ".payloads" = true)
        "source command leaks an unretained private package payload path"
      if isGpuIdentity argument then pseudonym key "gpu-identity" argument
      else if Text.startsWith argument "device=" ∧
          isGpuIdentity (Text.removePrefix argument "device=") then do
        let device ← pseudonym key "gpu-identity" (Text.removePrefix argument "device=")
        pure ("device=" ++ device)
      else pure argument

/-- `_pseudonymize_command`: a command with its paths and identities attested. -/
def pseudonymizeCommand (key : List UInt8) (bindings : PathBindings) (command : List String) :
    Except String (List String) :=
  command.mapM (pseudonymizeArgument key bindings)

/-! ## Snapshots and audits -/

/-- `_validate_snapshot_integrity`: the digest of a snapshot is that of its fields. -/
def validateSnapshotIntegrity (snapshot : RollbackSnapshot) : Except String Unit := do
  refuse (Sha256.isDigest (snapshot.integritySha256.getD "") = false)
    "source rollback snapshot has no valid integrity digest"
  refuse (snapshot.integritySha256 ≠ some (snapshotIntegrity snapshot))
    "source rollback snapshot failed its integrity check"

/-- The pseudonym of the path that a snapshot records, if it records one. -/
def attestSnapshotPath (key : List UInt8) : Option String → Except String (Option String)
  | none => pure none
  | some path => some <$> pseudonym key "snapshot-path" path

/-- A managed file with its contents replaced by their attestation. -/
def attestManagedFile (key : List UInt8) (file : FileSnapshot) : Except String FileSnapshot := do
  let content ← managedFileContentAttestation key file
  pure { file with contentBase64 := content }

/-- `_sanitize_snapshot`, with the dictionaries it leaves. -/
def sanitizeSnapshot (key : List UInt8) (bindings : PathBindings) (snapshot : RollbackSnapshot) :
    Except String (RollbackSnapshot × PathBindings) := do
  validateSnapshotIntegrity snapshot
  let bindings ← registerPayloadPathBindings key snapshot bindings
  let path ← attestSnapshotPath key snapshot.path
  let hostId ← pseudonym key "host-id" snapshot.hostId
  let gpuUuids ← pseudonymizeGpuUuids key "source evidence has invalid GPU UUID binding"
    snapshot.gpuUuids
  let commands ← snapshot.commands.mapM (pseudonymizeCommand key bindings)
  let migGeometry ← pseudonymizeMigGeometry key snapshot.migGeometry
  let managedFiles ← snapshot.managedFiles.mapM (attestManagedFile key)
  let sanitized : RollbackSnapshot :=
    { snapshot with path, hostId, gpuUuids, commands, migGeometry, managedFiles }
  pure (sanitized.sealed, bindings)

/-- The sanitised audit, without the recorded command results. -/
structure AttestedAudit where
  packages : List PackageInfo
  gpuUuids : List String
  migDeviceUuids : List String
  migGeometry : List MigGpuInstance
  devices : List String

/-- The audit of `_sanitize_report`, with the identities of its devices attested. -/
def sanitizeAudit (key : List UInt8) (audit : HostAudit) : Except String AttestedAudit := do
  let gpuUuids ← pseudonymizeGpuUuids key "source evidence has invalid GPU UUID binding"
    audit.gpuUuids
  let migDeviceUuids ← pseudonymizeGpuUuids key "source evidence has invalid MIG UUID binding"
    audit.migDeviceUuids
  let migGeometry ← pseudonymizeMigGeometry key audit.migGeometry
  pure { packages := audit.packages, gpuUuids, migDeviceUuids, migGeometry, devices := [] }

end NvidiaConverge
