import NvidiaConverge.Rollback.Create

/-!
# Loading a snapshot

`load_snapshot` and its field readers, each with its error text. The reader of the file is a
`SnapshotStore`: what a descriptor opened without following links shows. A loaded snapshot
comes with the `_SnapshotSourceBinding` that only loading produces.
-/

namespace NvidiaConverge

open Result (refuse traverse)
open Json (Value)
open Posix (AbsolutePath)

/-! ## Values -/

/-- `rollback snapshot {name} {problem}`: the error about a field, which names it. -/
def fieldError {α : Type} (name problem : String) : Except String α :=
  throw ("rollback snapshot " ++ name ++ " " ++ problem)

/-- `name[index]`: the path of an entry in a list, as errors print it. -/
def indexed (name : String) (index : Nat) : String :=
  name ++ "[" ++ toString index ++ "]"

/-- `_required_string`: the value must be a string that is not empty. -/
def requiredString (value : Value) (name : String) : Except String String :=
  match value with
  | .string text => if text = "" then fieldError name "must be a non-empty string" else pure text
  | _ => fieldError name "must be a non-empty string"

/-- `_optional_string`: the value may be null, and is otherwise a string that is not empty. -/
def optionalString (value : Value) (name : String) : Except String (Option String) :=
  match value with
  | .null => pure none
  | .string text =>
      if text = "" then fieldError name "must be null or a non-empty string" else pure (some text)
  | _ => fieldError name "must be null or a non-empty string"

/-- `_optional_string` of a version, with the proof that the text is not empty. -/
def optionalVersion (value : Value) (name : String) : Except String (Option VersionText) :=
  match value with
  | .null => pure none
  | .string text =>
      if h : text = "" then fieldError name "must be null or a non-empty string"
      else pure (some ⟨text, h⟩)
  | _ => fieldError name "must be null or a non-empty string"

/-- `_optional_package_string`: the empty string stands for `null`. -/
def optionalPackageString (value : Value) (name : String) : Except String (Option String) :=
  match value with
  | .string text => pure (if text = "" then none else some text)
  | _ => optionalString value name

/-- `_required_boolean`: the value must be a boolean. -/
def requiredBoolean (value : Value) (name : String) : Except String Bool :=
  match value with
  | .bool value => pure value
  | _ => fieldError name "must be a boolean"

/-- `_optional_boolean`: the value may be null, and is otherwise a boolean. -/
def optionalBoolean (value : Value) (name : String) : Except String (Option Bool) :=
  match value with
  | .null => pure none
  | _ => do
      let value ← requiredBoolean value name
      pure (some value)

/-- `_load_nonnegative_integer`: the value must be an integer of at least the minimum. -/
def loadNonnegativeInteger (value : Value) (name : String) (minimum : Nat := 0) :
    Except String Nat :=
  match value with
  | .int n =>
      if (minimum : Int) ≤ n then pure n.toNat
      else fieldError name ("must be an integer >= " ++ toString minimum)
  | _ => fieldError name ("must be an integer >= " ++ toString minimum)

/-- The unit-file state with a given spelling, if there is one. -/
def unitFileState? (text : String) : Option UnitFileState :=
  [UnitFileState.enabled, .disabled, .static, .masked, .notFound].find? fun state =>
    state.value = text

/-- `_required_unit_file_state`: the value must spell a supported unit-file state. -/
def requiredUnitFileState (value : Value) (name : String) : Except String UnitFileState := do
  let text ← requiredString value name
  match unitFileState? text with
  | some state => pure state
  | none => fieldError name "is not a supported exact systemd state"

/-- The field of an object under a name, `null` where it is missing. -/
def field (fields : List (String × Value)) (name : String) : Value :=
  (fields.lookup name).getD .null

/-- `set(entry) == expected`: the object has these fields and no others. -/
def hasExactly (expected : List String) (fields : List (String × Value)) : Bool :=
  sameMembers (fields.map Prod.fst) expected

/-! ## MIG geometry -/

/-- `re.fullmatch(r"[A-Za-z0-9][A-Za-z0-9.+_-]{0,63}", profile)`. -/
def isMigProfile (profile : String) : Bool :=
  startsAlphanumeric ['.', '+', '_', '-'] profile.toList && profile.toList.length ≤ 64

/-- `_load_mig_profile`: the value must spell a MIG profile. -/
def loadMigProfile (value : Value) (name : String) : Except String String := do
  let profile ← requiredString value name
  refuse (isMigProfile profile = false) ("rollback snapshot " ++ name ++ " is invalid")
  pure profile

/-- One compute instance of a GPU instance, with its exact fields. -/
def loadComputeInstance (instanceName : String) (index : Nat) (value : Value) :
    Except String MigComputeInstance :=
  let name := indexed (instanceName ++ ".compute_instances") index
  match value with
  | .object fields => do
      refuse (hasExactly ["profile", "profile_id"] fields = false)
        ("rollback snapshot " ++ name ++ " has invalid fields")
      let profile ← loadMigProfile (field fields "profile") (name ++ ".profile")
      let profileId ← loadNonnegativeInteger (field fields "profile_id") (name ++ ".profile_id")
      pure { profile, profileId }
  | _ => fieldError name "has invalid fields"

/-- One GPU instance, given the placements of the earlier ones. -/
def loadGpuInstance (gpuUuids : List String) (placements : List (String × Nat)) (index : Nat)
    (value : Value) : Except String MigGpuInstance :=
  let name := indexed "mig_geometry" index
  match value with
  | .object fields => do
      refuse (hasExactly ["compute_instances", "gpu_uuid", "placement_size", "placement_start",
          "profile", "profile_id"] fields = false)
        ("rollback snapshot " ++ name ++ " has invalid fields")
      let gpuUuid ← requiredString (field fields "gpu_uuid") (name ++ ".gpu_uuid")
      refuse (gpuUuid ∉ gpuUuids)
        ("rollback snapshot " ++ name ++ " references an unknown GPU UUID")
      let profile ← loadMigProfile (field fields "profile") (name ++ ".profile")
      let profileId ← loadNonnegativeInteger (field fields "profile_id") (name ++ ".profile_id")
      let placementStart ←
        loadNonnegativeInteger (field fields "placement_start") (name ++ ".placement_start")
      let placementSize ←
        loadNonnegativeInteger (field fields "placement_size") (name ++ ".placement_size") 1
      refuse ((gpuUuid, placementStart) ∈ placements)
        "rollback snapshot mig_geometry contains duplicate GPU placements"
      match field fields "compute_instances" with
      | .array computes => do
          refuse (maxMigComputeInstances < computes.length)
            ("rollback snapshot MIG compute instance count exceeds the supported " ++
              "maximum")
          let computeInstances ← traverse (loadComputeInstance name) 0 computes
          pure { gpuUuid, profile, profileId, placementStart, placementSize, computeInstances }
      | _ => fieldError (name ++ ".compute_instances") "must be an array"
  | _ => fieldError name "must be an object"

/-- The placement of a GPU instance: its GPU and where it starts on it. -/
def MigGpuInstance.placement (gpuInstance : MigGpuInstance) : String × Nat :=
  (gpuInstance.gpuUuid, gpuInstance.placementStart)

/-- The loop of `_load_mig_geometry`, which refuses a placement that is taken. -/
def loadGpuInstances (gpuUuids : List String) :
    List (String × Nat) → Nat → List Value → Except String (List MigGpuInstance)
  | _, _, [] => pure []
  | placements, index, value :: values => do
      let gpuInstance ← loadGpuInstance gpuUuids placements index value
      let rest ← loadGpuInstances gpuUuids (gpuInstance.placement :: placements) (index + 1) values
      pure (gpuInstance :: rest)

/-- `_load_mig_geometry`: a bounded list of GPU instances on the recorded GPUs. -/
def loadMigGeometry (gpuUuids : List String) (value : Value) :
    Except String (List MigGpuInstance) :=
  match value with
  | .array entries => do
      refuse (maxMigGpuInstances < entries.length)
        ("rollback snapshot mig_geometry exceeds " ++ toString maxMigGpuInstances ++
          " entries")
      loadGpuInstances gpuUuids [] 0 entries
  | _ => fieldError "mig_geometry" "must be an array"

/-! ## Packages -/

/-- One recorded package, with its exact fields. -/
def loadPackage (index : Nat) (value : Value) : Except String PackageInfo :=
  let prefixName := indexed "packages" index
  match value with
  | .object fields => do
      refuse (hasExactly ["architecture", "epoch", "installed", "manager", "name", "version"]
          fields = false)
        ("rollback snapshot " ++ prefixName ++ " must contain exactly: architecture, " ++
          "epoch, installed, manager, name, version")
      let name ← requiredString (field fields "name") (prefixName ++ ".name")
      refuse (interestingPackage name = false)
        ("rollback snapshot " ++ prefixName ++ ".name is outside the NVIDIA stack scope")
      let version ← optionalPackageString (field fields "version") (prefixName ++ ".version")
      let manager ← optionalPackageString (field fields "manager") (prefixName ++ ".manager")
      let architecture ←
        optionalPackageString (field fields "architecture") (prefixName ++ ".architecture")
      let epoch ← optionalPackageString (field fields "epoch") (prefixName ++ ".epoch")
      match field fields "installed" with
      | .bool true => do
          refuse (version = none)
            ("rollback snapshot " ++ prefixName ++ ".version must be known")
          refuse (architecture = none)
            ("rollback snapshot " ++ prefixName ++ ".architecture must be known")
          pure { name, version, manager, installed := true, architecture, epoch }
      | _ => fieldError (prefixName ++ ".installed") "must be true"
  | _ => fieldError prefixName "must be an object"

/-- `_package_state_identity`: what makes two recorded packages the same state. -/
def packageStateIdentity (package : PackageInfo) :
    String × Option String × Option String × Option String :=
  (package.name, package.architecture, package.epoch, package.version)

/-- `_load_packages`: a bounded list of packages whose states differ. -/
def loadPackages (value : Value) : Except String (List PackageInfo) :=
  match value with
  | .array entries => do
      refuse (maxSnapshotPackages < entries.length)
        ("rollback snapshot packages exceeds " ++ toString maxSnapshotPackages ++
          " entries")
      let packages ← traverse loadPackage 0 entries
      refuse (¬ (packages.map packageStateIdentity).Nodup)
        "rollback snapshot packages contains duplicates"
      pure packages
  | _ => fieldError "packages" "must be an array"

/-- One name of `_load_introduced_packages`, which must be interesting and a valid specification. -/
def loadIntroducedPackage (index : Nat) (value : Value) : Except String String := do
  let label := indexed "introduced_packages" index
  let name ← requiredString value label
  refuse (interestingPackage name = false ∨ validPackageSpec name = false)
    ("rollback snapshot " ++ label ++ " is outside the NVIDIA stack scope")
  pure name

/-- `_load_introduced_packages`: a bounded list of such names. -/
def loadIntroducedPackages (value : Value) : Except String (List String) :=
  match value with
  | .array entries => do
      refuse (maxSnapshotPackages < entries.length)
        ("rollback snapshot introduced_packages exceeds " ++ toString maxSnapshotPackages ++
          " entries")
      let packages ← traverse loadIntroducedPackage 0 entries
      refuse (¬ packages.Nodup) "rollback snapshot introduced_packages contains duplicates"
      pure packages
  | _ => fieldError "introduced_packages" "must be an array"

/-! ## Payloads -/

/-- The strings of an array, or nothing where an entry is no string. -/
def strings? : List Value → Option (List String)
  | [] => some []
  | .string text :: rest => (strings? rest).map (text :: ·)
  | _ :: _ => none

/-- `_load_payload_string_set`, with the test of a single value. -/
def loadPayloadStringSet (value : Value) (name : String) (accepts : String → Bool)
    (problem : String) (requireNonempty : Bool) : Except String (List String) :=
  match value with
  | .array entries =>
      match strings? entries with
      | none => fieldError name "must be a string array"
      | some items => do
          refuse ((requireNonempty = true ∧ items = []) ∨ ¬ items.Nodup)
            ("rollback snapshot " ++ name ++ " must contain unique values")
          refuse (items.all accepts = false) ("rollback snapshot " ++ name ++ " " ++ problem)
          pure items
  | _ => fieldError name "must be a string array"

/-- `re.fullmatch(r"[0-9a-f]{8,40}", signer)`. -/
def isSignerId (signer : String) : Bool :=
  decide (8 ≤ signer.toList.length) && decide (signer.toList.length ≤ 40) &&
    signer.toList.all Sha256.isHexDigit

/-- One retained payload, with its exact fields and its digest. -/
def loadPayload (manager : PackageManager) (index : Nat) (value : Value) :
    Except String PackagePayload :=
  let prefixName := indexed "package_payloads.packages" index
  match value with
  | .object fields => do
      refuse (hasExactly ["architecture", "epoch", "filename", "format", "name", "roles",
          "sha256", "signer_ids", "size_bytes", "verification", "version"] fields = false)
        ("rollback snapshot " ++ prefixName ++ " has invalid fields")
      let name ← requiredString (field fields "name") (prefixName ++ ".name")
      refuse (interestingPackage name = false)
        ("rollback snapshot " ++ prefixName ++ ".name is outside the package scope")
      let architecture ←
        requiredString (field fields "architecture") (prefixName ++ ".architecture")
      let version ← requiredString (field fields "version") (prefixName ++ ".version")
      let epoch ← optionalPackageString (field fields "epoch") (prefixName ++ ".epoch")
      let format ← requiredString (field fields "format") (prefixName ++ ".format")
      let verification ←
        requiredString (field fields "verification") (prefixName ++ ".verification")
      let filename ← requiredString (field fields "filename") (prefixName ++ ".filename")
      let sha256 ← requiredString (field fields "sha256") (prefixName ++ ".sha256")
      refuse (format ≠ expectedFormat manager ∨ verification ≠ expectedVerification manager ∨
          Sha256.isDigest sha256 = false ∨ filename ≠ sha256 ++ "." ++ format)
        ("rollback snapshot " ++ prefixName ++ " has invalid payload provenance")
      let sizeBytes ←
        loadNonnegativeInteger (field fields "size_bytes") (prefixName ++ ".size_bytes") 1
      let roles ← loadPayloadStringSet (field fields "roles") (prefixName ++ ".roles")
        (["baseline", "forward"].contains ·) "contains unsupported values" true
      let signerIds ← loadPayloadStringSet (field fields "signer_ids")
        (prefixName ++ ".signer_ids") isSignerId "contains invalid values" (format == "rpm")
      refuse (format = "deb" ∧ signerIds ≠ [])
        ("rollback snapshot " ++ prefixName ++ ".signer_ids must be empty for DEB " ++
          "payloads")
      pure
        { name, architecture, epoch, version, format, filename, sha256, sizeBytes, verification,
          roles, signerIds }
  | _ => fieldError prefixName "has invalid fields"

/-- `_load_package_payloads`; `directory` is the answer of `payload_bundle_directory`. -/
def loadPackagePayloads (value : Value) (manager : PackageManager) (baseline : List PackageInfo)
    (expectedDirectory : Except String String) : Except String PackagePayloadBundle :=
  let shape := "rollback snapshot package_payloads must contain exactly: directory, " ++
    "packages, total_size_bytes"
  match value with
  | .object fields => do
      refuse (hasExactly ["directory", "packages", "total_size_bytes"] fields = false) shape
      let directory ← requiredString (field fields "directory") "package_payloads.directory"
      match expectedDirectory with
      | .error reason =>
          throw ("rollback snapshot package payload path is invalid: " ++ reason)
      | .ok expected =>
          refuse (directory ≠ expected)
            "rollback snapshot package payload directory is not bound to its path"
      match field fields "packages" with
      | .array entries => do
          refuse (maxSnapshotPackages * 2 < entries.length)
            ("rollback snapshot package payload manifest exceeds the supported entry " ++
              "count")
          let payloads ← traverse (loadPayload manager) 0 entries
          refuse (¬ (payloads.map PackagePayload.identity).Nodup)
            ("rollback snapshot package payload manifest contains duplicate " ++
              "identities")
          refuse (¬ (payloads.map (·.filename)).Nodup)
            "rollback snapshot package payload manifest contains duplicate files"
          refuse (sameMembers
              ((payloads.filter fun payload => payload.roles.contains "baseline").map
                PackagePayload.identity)
              (baseline.map PackageInfo.identity) = false)
            ("rollback snapshot package payload manifest is not one-to-one with " ++
              "baseline packages")
          let totalSizeBytes ← loadNonnegativeInteger (field fields "total_size_bytes")
            "package_payloads.total_size_bytes"
          refuse (totalSizeBytes ≠ (payloads.map (·.sizeBytes)).sum)
            "rollback snapshot package payload total size is inconsistent"
          pure { directory, packages := payloads, totalSizeBytes }
      | _ => fieldError "package_payloads.packages" "must be an array"
  | _ => throw shape

/-! ## Names, files and commands -/

/-- `_load_module_names`: known modules without repetition that fit the loaded state. -/
def loadModuleNames (value : Value) (moduleLoaded : Bool) : Except String (List String) :=
  let problem := "must contain only supported NVIDIA modules"
  match value with
  | .array entries =>
      match strings? entries with
      | none => fieldError "module_names" problem
      | some names => do
          refuse (names.all (knownNvidiaModules.contains ·) = false)
            ("rollback snapshot module_names " ++ problem)
          refuse (¬ names.Nodup) "rollback snapshot module_names contains duplicates"
          refuse (moduleLoaded ≠ decide ("nvidia" ∈ names))
            "rollback snapshot module_names is inconsistent with module_loaded"
          pure names
  | _ => fieldError "module_names" problem

/-- `re.fullmatch(r"GPU-[A-Fa-f0-9-]{16,}", uuid)`. -/
def isGpuUuid (uuid : String) : Bool :=
  Text.startsWith uuid "GPU-" && decide (20 ≤ uuid.toList.length) &&
    (uuid.toList.drop 4).all fun c =>
      Sha256.isHexDigit c || ('A' ≤ c && c ≤ 'F') || c == '-'

/-- `_load_gpu_uuids`: between one and 64 identifiers of GPUs. -/
def loadGpuUuids (value : Value) : Except String (List String) :=
  match value with
  | .array entries => do
      refuse (entries = []) "rollback snapshot gpu_uuids must be a non-empty array"
      refuse (64 < entries.length) "rollback snapshot gpu_uuids exceeds 64 entries"
      match strings? entries with
      | none => fieldError "gpu_uuids" "contains an invalid GPU UUID"
      | some uuids => do
          refuse (uuids.all isGpuUuid = false)
            "rollback snapshot gpu_uuids contains an invalid GPU UUID"
          refuse (¬ uuids.Nodup) "rollback snapshot gpu_uuids contains duplicates"
          pure uuids
  | _ => fieldError "gpu_uuids" "must be a non-empty array"

/-- The recorded mode of a managed file: `type(mode) is int`. -/
def managedMode? : Value → Option Int
  | .int mode => some mode
  | _ => none

/-- One managed file, with its exact fields and its contents. -/
def loadManagedFile (index : Nat) (value : Value) : Except String FileSnapshot :=
  let prefixName := indexed "managed_files" index
  match value with
  | .object fields => do
      refuse (hasExactly ["content_base64", "existed", "mode", "path"] fields = false)
        ("rollback snapshot " ++ prefixName ++ " has invalid fields")
      let path ← requiredString (field fields "path") (prefixName ++ ".path")
      refuse (isManagedPath path = false)
        ("rollback snapshot " ++ prefixName ++ ".path is not managed")
      let existed ← requiredBoolean (field fields "existed") (prefixName ++ ".existed")
      let content ←
        optionalString (field fields "content_base64") (prefixName ++ ".content_base64")
      if existed then
        -- An empty text was refused above, so that an empty file is never read back.
        match content, managedMode? (field fields "mode") with
        | some text, some mode => do
            refuse (¬ (0 ≤ mode ∧ mode ≤ 0o777))
              ("rollback snapshot " ++ prefixName ++ " lacks restorable content/mode")
            match Base64.decode text.toList with
            | none => fieldError (prefixName ++ ".content_base64") "is invalid"
            | some decoded => do
                refuse (Text.isUtf8 decoded = false)
                  ("rollback snapshot " ++ prefixName ++ ".content_base64 is invalid")
                refuse (maxManagedFileBytes < decoded.length)
                  ("rollback snapshot " ++ prefixName ++ " content is too large")
                pure { path, existed, contentBase64 := some text, mode := some mode.toNat }
        | _, _ => fieldError prefixName "lacks restorable content/mode"
      else
        match content, field fields "mode" with
        | none, .null => pure { path, existed, contentBase64 := none, mode := none }
        | _, _ => fieldError prefixName "records content for an absent file"
  | _ => fieldError prefixName "has invalid fields"

/-- The paths that must be recorded, in restore order, given the recorded fail-safe paths. -/
def canonicalManagedPaths (manager : PackageManager) (failsafePaths : List String) :
    List String :=
  match manager with
  | .dnf => [dockerConfigPath, dnfModulePath] ++ failsafePaths
  | .yum => [dockerConfigPath, dnfModulePath]
  | .zypper => [dockerConfigPath, zypperLockPath]
  | .aptGet => [dockerConfigPath]

/-- `_load_managed_files`: exactly the files that the package manager has. -/
def loadManagedFiles (value : Value) (manager : PackageManager) :
    Except String (List FileSnapshot) :=
  match value with
  | .array entries => do
      let files ← traverse loadManagedFile 0 entries
      let paths := files.map (·.path)
      let failsafePaths := (paths.filter isFailsafePath).dedup
      refuse (manager = .dnf ∧ failsafePaths.length ≠ 1)
        "rollback snapshot must have one DNF module fail-safe target"
      let canonical := canonicalManagedPaths manager failsafePaths
      refuse (sameMembers paths canonical = false ∨ ¬ paths.Nodup)
        "rollback snapshot managed_files does not match its package manager"
      refuse (paths ≠ canonical)
        "rollback snapshot managed_files is not in canonical restore order"
      pure files
  | _ => fieldError "managed_files" "must be an array"

/-- One recorded command, which must be one that a rollback may run. -/
def loadCommand (index : Nat) (value : Value) : Except String (List String) :=
  let label := indexed "commands" index
  match value with
  | .array entries => do
      refuse (entries = []) ("rollback snapshot " ++ label ++ " must be a non-empty array")
      refuse (maxCommandParts < entries.length)
        ("rollback snapshot " ++ label ++ " is too long")
      match strings? entries with
      | none => fieldError label "entries must be non-empty strings"
      | some command => do
          refuse ("" ∈ command)
            ("rollback snapshot " ++ label ++ " entries must be non-empty strings")
          refuse (allowedRollbackCommand command = false)
            ("rollback snapshot " ++ label ++ " is not a supported rollback command")
          pure command
  | _ => fieldError label "must be a non-empty array"

/-- `_load_commands`: a bounded list of recorded commands. -/
def loadCommands (value : Value) : Except String (List (List String)) :=
  match value with
  | .array entries => do
      refuse (maxSnapshotCommands < entries.length)
        ("rollback snapshot commands exceeds " ++ toString maxSnapshotCommands ++
          " entries")
      traverse loadCommand 0 entries
  | _ => fieldError "commands" "must be an array"

/-! ## The snapshot -/

/-- The package manager with a given name, if there is one. -/
def packageManager? (name : String) : Option PackageManager :=
  [PackageManager.aptGet, .dnf, .yum, .zypper].find? fun manager => manager.name = name

/-- `required`: the fields of a snapshot, in the order of `sorted`. -/
def snapshotFieldNames : List String :=
  ["architecture", "commands", "created_at", "docker_service_active", "docker_service_enabled",
   "docker_service_unit_file_state", "docker_socket_active", "docker_socket_enabled",
   "docker_socket_unit_file_state", "fabric_manager_active", "fabric_manager_enabled",
   "fabric_manager_unit_file_state", "gpu_uuids", "host_id", "integrity_sha256",
   "introduced_packages", "kernel", "managed_files", "mig_geometry", "mig_mode",
   "module_installed_open_module", "module_installed_signed", "module_installed_version",
   "module_loaded", "module_names", "module_open_module", "module_signed", "module_version",
   "nvidia_persistenced_active", "nvidia_persistenced_enabled",
   "nvidia_persistenced_unit_file_state", "operation_id", "os_id", "os_version",
   "package_manager", "package_payloads", "packages", "path", "schema_version"]

/-- The two checks of the snapshot's keys, for missing fields and for unknown ones. -/
def checkFieldNames (fields : List (String × Value)) : Except String Unit := do
  let names := fields.map Prod.fst
  let missing := snapshotFieldNames.filter fun name => name ∉ names
  refuse (missing ≠ [])
    ("rollback snapshot missing required field(s): " ++ Text.join ", " missing)
  let unknown := sorted (names.filter fun name => name ∉ snapshotFieldNames)
  refuse (unknown ≠ [])
    ("rollback snapshot contains unknown field(s): " ++ Text.join ", " unknown)

/-- The fields that bind a snapshot to a file, an operation and a host. -/
structure SnapshotHeader where
  path : String
  createdAt : String
  operationId : String
  hostId : String
  osId : Option String
  osVersion : Option String
  architecture : String
  packageManager : PackageManager
  kernel : String

/-- The fields of a snapshot up to `kernel`, with the schema checked first. -/
def loadHeader (fields : List (String × Value)) (source : AbsolutePath) :
    Except String SnapshotHeader := do
  let schemaVersion ← requiredString (field fields "schema_version") "schema_version"
  refuse (schemaVersion ≠ snapshotSchemaVersion)
    ("unsupported rollback snapshot schema_version " ++ Text.repr schemaVersion ++
      "; expected " ++ snapshotSchemaVersion)
  let path ← requiredString (field fields "path") "path"
  refuse (Posix.pathComponents path ≠ some source.components)
    "rollback snapshot path binding does not match the loaded file"
  let createdAt ← requiredString (field fields "created_at") "created_at"
  refuse (IsoTime.accepts createdAt = false)
    "rollback snapshot created_at must be an ISO-8601 timestamp"
  let operationId ← requiredString (field fields "operation_id") "operation_id"
  refuse (isOperationId operationId = false)
    ("rollback snapshot operation_id must be a 32-character lowercase hex " ++
      "identifier")
  let hostId ← requiredString (field fields "host_id") "host_id"
  let osId ← optionalString (field fields "os_id") "os_id"
  let osVersion ← optionalString (field fields "os_version") "os_version"
  let architecture ← requiredString (field fields "architecture") "architecture"
  let managerName ← requiredString (field fields "package_manager") "package_manager"
  match packageManager? managerName with
  | none => throw "rollback snapshot package_manager is not supported"
  | some packageManager => do
      let kernel ← requiredString (field fields "kernel") "kernel"
      pure
        { path, createdAt, operationId, hostId, osId, osVersion, architecture, packageManager,
          kernel }

/-- The fields of a snapshot about the kernel modules. -/
structure ModuleRecord where
  version : Option VersionText
  loaded : Bool
  names : List String
  openModule : Option Bool
  signed : Option Bool
  installedVersion : Option VersionText
  installedOpenModule : Option Bool
  installedSigned : Option Bool

/-- The fields from `module_version` to `module_installed_signed`. -/
def loadModuleRecord (fields : List (String × Value)) : Except String ModuleRecord := do
  let version ← optionalVersion (field fields "module_version") "module_version"
  let loaded ← requiredBoolean (field fields "module_loaded") "module_loaded"
  let names ← loadModuleNames (field fields "module_names") loaded
  let openModule ← optionalBoolean (field fields "module_open_module") "module_open_module"
  let signed ← optionalBoolean (field fields "module_signed") "module_signed"
  let installedVersion ←
    optionalVersion (field fields "module_installed_version") "module_installed_version"
  let installedOpenModule ←
    optionalBoolean (field fields "module_installed_open_module") "module_installed_open_module"
  let installedSigned ←
    optionalBoolean (field fields "module_installed_signed") "module_installed_signed"
  pure
    { version, loaded, names, openModule, signed, installedVersion, installedOpenModule,
      installedSigned }

/-- `mig_mode`: null, or one of the two modes that a rollback can restore. -/
def loadMigMode (value : Value) : Except String (Option MigMode) := do
  let mode ← optionalString value "mig_mode"
  match mode with
  | none => pure none
  | some text =>
      match [MigMode.enabled, .disabled].find? fun mode => mode.value = text with
      | some mode => pure (some mode)
      | none => throw "rollback snapshot mig_mode is invalid"

/-- The three fields of one unit, which must be consistent. -/
def loadUnit (fields : List (String × Value)) (unit : String) : Except String UnitState := do
  let active ← requiredBoolean (field fields (unit ++ "_active")) (unit ++ "_active")
  let enabled ← requiredBoolean (field fields (unit ++ "_enabled")) (unit ++ "_enabled")
  let unitFileState ←
    requiredUnitFileState (field fields (unit ++ "_unit_file_state")) (unit ++ "_unit_file_state")
  pure { active := some active, enabled := some enabled, unitFileState := some unitFileState }

/-- The fields of the four units. -/
def loadLaunchers (fields : List (String × Value)) : Except String LauncherStates := do
  let dockerService ← loadUnit fields "docker_service"
  let dockerSocket ← loadUnit fields "docker_socket"
  let nvidiaPersistenced ← loadUnit fields "nvidia_persistenced"
  let fabricManager ← loadUnit fields "fabric_manager"
  pure { dockerSocket, dockerService, nvidiaPersistenced, fabricManager }

/-- The restorable state: everything but header, module and launchers. -/
structure RestoreRecord where
  migMode : Option MigMode
  launchers : LauncherStates
  gpuUuids : List String
  migGeometry : List MigGpuInstance
  packages : List PackageInfo
  introducedPackages : List String
  packagePayloads : PackagePayloadBundle
  managedFiles : List FileSnapshot
  commands : List (List String)

/-- The fields of a snapshot from `mig_mode` on. -/
def loadRestoreRecord (fields : List (String × Value)) (manager : PackageManager)
    (expectedDirectory : Except String String) : Except String RestoreRecord := do
  let migMode ← loadMigMode (field fields "mig_mode")
  let launchers ← loadLaunchers fields
  let gpuUuids ← loadGpuUuids (field fields "gpu_uuids")
  let migGeometry ← loadMigGeometry gpuUuids (field fields "mig_geometry")
  refuse (migMode = some .disabled ∧ migGeometry ≠ [])
    "rollback snapshot cannot contain MIG geometry while mig_mode is disabled"
  let packages ← loadPackages (field fields "packages")
  let mismatched := packages.filter fun package =>
    package.manager ≠ some (expectedManager manager)
  refuse (mismatched ≠ [])
    ("rollback snapshot packages do not match package_manager: " ++
      Text.join ", " (sorted (mismatched.map (·.name))))
  let introducedPackages ← loadIntroducedPackages (field fields "introduced_packages")
  let packagePayloads ←
    loadPackagePayloads (field fields "package_payloads") manager packages expectedDirectory
  let managedFiles ← loadManagedFiles (field fields "managed_files") manager
  let commands ← loadCommands (field fields "commands")
  pure
    { migMode, launchers, gpuUuids, migGeometry, packages, introducedPackages, packagePayloads,
      managedFiles, commands }

/-- The digest of a snapshot, which must be spelled as one. -/
def loadIntegrity (value : Value) : Except String String := do
  let integrity ← requiredString value "integrity_sha256"
  refuse (Sha256.isDigest integrity = false)
    "rollback snapshot integrity_sha256 must be a lowercase SHA-256 digest"
  pure integrity

/-- The snapshot that the fields of a file describe, with every field checked. -/
def decodeSnapshot (fields : List (String × Value)) (source : AbsolutePath) :
    Except String RollbackSnapshot := do
  checkFieldNames fields
  let header ← loadHeader fields source
  let module ← loadModuleRecord fields
  let restore ←
    loadRestoreRecord fields header.packageManager (payloadBundleDirectory source)
  let integrity ← loadIntegrity (field fields "integrity_sha256")
  pure
    { path := some header.path
      packages := restore.packages
      kernel := header.kernel
      moduleVersion := module.version
      commands := restore.commands
      schemaVersion := snapshotSchemaVersion
      createdAt := header.createdAt
      operationId := header.operationId
      hostId := header.hostId
      osId := header.osId
      osVersion := header.osVersion
      architecture := header.architecture
      packageManager := some header.packageManager
      introducedPackages := restore.introducedPackages
      moduleLoaded := module.loaded
      moduleNames := module.names
      moduleOpenModule := module.openModule
      moduleSigned := module.signed
      moduleInstalledVersion := module.installedVersion
      moduleInstalledOpenModule := module.installedOpenModule
      moduleInstalledSigned := module.installedSigned
      migMode := restore.migMode
      launchers := restore.launchers
      managedFiles := restore.managedFiles
      packagePayloads := some restore.packagePayloads
      gpuUuids := restore.gpuUuids
      migGeometry := restore.migGeometry
      integritySha256 := some integrity }

/-- The checks of a decoded snapshot against itself. -/
def checkSnapshot (s : RollbackSnapshot) : Except String Unit := do
  match serviceStateConsistencyError s.launchers with
  | some error =>
      throw ("rollback snapshot has inconsistent transactional service state: " ++ error)
  | none => pure ()
  let expected ← rollbackCommands s.packages s.packageManager s.introducedPackages s.path
    s.packagePayloads
  refuse (s.commands ≠ expected)
    ("rollback snapshot commands are inconsistent with its declarative package " ++
      "state")
  refuse (s.integritySha256 ≠ some (snapshotIntegrity s))
    "rollback snapshot integrity check failed"

/-! ## The file -/

/-- The fields of `_metadata_fingerprint`: what two looks at one file must agree on. -/
structure FileMetadata where
  dev : Nat
  ino : Nat
  mode : Nat
  nlink : Nat
  uid : Nat
  gid : Nat
  size : Nat
  mtimeNs : Nat
  ctimeNs : Nat
  deriving DecidableEq

/-- A text file as its descriptor and its parent's show it. -/
structure StoredFile where
  text : String
  metadata : FileMetadata
  parentMetadata : FileMetadata

/-- The file system as `load_snapshot` reads it. -/
structure SnapshotStore where
  euid : Nat
  /-- The file behind trusted ancestors, or the error text. -/
  file : AbsolutePath → Except String StoredFile
  payloads : PayloadAccess

/-- `S_ISREG`: the mode is that of a regular file. -/
def FileMetadata.isRegular (metadata : FileMetadata) : Bool :=
  metadata.mode / 0o10000 == 8

/-- `S_ISDIR`: the mode is that of a directory. -/
def FileMetadata.isDirectory (metadata : FileMetadata) : Bool :=
  metadata.mode / 0o10000 == 4

/-- `S_IMODE(st_mode)`: the permission bits of the file. -/
def FileMetadata.permissions (metadata : FileMetadata) : Nat :=
  permissionBits metadata.mode

/-- `_validate_private_directory`: the directory is the owner's own and closed to all others. -/
def privateDirectory (metadata : FileMetadata) (owner : Nat) : Bool :=
  metadata.isDirectory && metadata.uid == owner && metadata.permissions &&& 0o077 == 0 &&
    metadata.permissions &&& 0o700 == 0o700

/-- `read_trusted_utf8_with_metadata`, with `require_private` of `load_snapshot`. -/
def readTrusted (store : SnapshotStore) (source : AbsolutePath) (maxBytes : Nat)
    (requirePrivate : Bool) : Except String StoredFile := do
  let file ← store.file source
  refuse (requirePrivate = true ∧ privateDirectory file.parentMetadata store.euid = false)
    "trusted directory must be private, owner-accessible"
  refuse (file.metadata.isRegular = false) "input must be a regular file"
  refuse (requirePrivate = true ∧ file.metadata.uid ≠ store.euid)
    "input must be owned by the effective uid"
  refuse (requirePrivate = true ∧ file.metadata.permissions &&& 0o022 ≠ 0)
    "input must not be group/world-writable"
  refuse (file.metadata.nlink ≠ 1) "input must be singly linked"
  refuse (maxBytes < file.metadata.size) ("input exceeds " ++ toString maxBytes ++ " bytes")
  refuse (maxBytes < (Text.utf8 file.text).length)
    ("input exceeds " ++ toString maxBytes ++ " bytes")
  pure file

/-- `_SnapshotSourceBinding`: the file that a snapshot was loaded from, and its contents. -/
structure SourceBinding where
  path : AbsolutePath
  contentSha256 : String
  fileMetadata : FileMetadata
  parentMetadata : FileMetadata
  deriving DecidableEq

/-- The binding of an object to the file it was read from. -/
def StoredFile.binding (file : StoredFile) (source : AbsolutePath) : SourceBinding where
  path := source
  contentSha256 := Sha256.hexdigest (Text.utf8 file.text)
  fileMetadata := file.metadata
  parentMetadata := file.parentMetadata

/-- A snapshot object; `_source_binding` is an attribute that only `load_snapshot` sets. -/
structure SnapshotObject where
  snapshot : RollbackSnapshot
  sourceBinding : Option SourceBinding
  deriving DecidableEq

/-- `load_snapshot`; `source` is `os.path.abspath` of the argument. -/
def loadSnapshot (store : SnapshotStore) (source : AbsolutePath) (requirePrivate : Bool) :
    Except String SnapshotObject := do
  let file ← readTrusted store source maxSnapshotBytes requirePrivate
  refuse (requirePrivate = true ∧ file.metadata.permissions &&& 0o077 ≠ 0)
    "rollback snapshot file must be private to the effective uid"
  match Json.loads file.text with
  | some (.object fields) => do
      let s ← decodeSnapshot fields source
      checkSnapshot s
      match s.packagePayloads, s.packageManager with
      | some bundle, some manager => do
          let _ ← validatePackagePayloads source bundle s.packages manager none
            { store.payloads with inspect := none }
          pure { snapshot := s, sourceBinding := some (file.binding source) }
      | _, _ => throw "rollback snapshot package payloads are unusable"
  | some _ => throw "rollback snapshot must be a JSON object"
  | none => throw "invalid rollback snapshot JSON"

end NvidiaConverge
