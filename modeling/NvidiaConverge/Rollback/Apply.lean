import NvidiaConverge.Launchers.Quarantine
import NvidiaConverge.Library.Base64
import NvidiaConverge.Library.Embed
import NvidiaConverge.Rollback.Authority
import NvidiaConverge.Rollback.Delta
import NvidiaConverge.Rollback.MigRestore

/-!
# Applying a rollback

`apply_rollback` with a runner that applies: the preconditions, the quarantine of the launchers,
the package commands, the managed files, a second quarantine, the kernel modules and the MIG phase.
Every exit before the MIG phase carries a failed result (`RollbackExit`).
-/

namespace NvidiaConverge

/-! ## Operations -/

/-- A `PackagePreflightError`: the results so far and the text of the error. -/
structure SolverRefusal where
  results : List CommandResult
  text : String

/-- What `trusted_path_metadata` says of a file. -/
structure TargetMetadata where
  regular : Bool
  links : Nat

/-- An operation of an applied rollback on the host: a check, an observation or a change. -/
inductive RollbackOp where
  /-- `validate_snapshot_for_apply`. -/
  | validateSnapshot
  /-- `preflight_package_rollback`. -/
  | preflight
  /-- `_managed_file_matches`. -/
  | fileMatches (file : FileSnapshot)
  /-- `trusted_path_metadata`. -/
  | targetMetadata (path : String)
  /-- `nvidia_module_unload_order`. -/
  | moduleOrder
  /-- An operation of a quarantine. -/
  | launcher (op : HostOp)
  /-- `validate_package_payloads`. -/
  | validatePayloads
  /-- `runner.run(command, mutate=True, allow_fail=True)` of a package command. -/
  | package (command : List String)
  /-- `atomic_write_text_trusted` of a managed file. -/
  | writeFile (file : FileSnapshot) (content : List UInt8)
  /-- `unlink_trusted_path` of a managed file. -/
  | unlinkFile (file : FileSnapshot)
  /-- `runner.run(["modprobe", ...], mutate=True, allow_fail=True)`. -/
  | modprobe (arguments : List String)
  /-- An operation of the MIG phase. -/
  | mig (op : MigRestoreOp)

/-- What an operation answers; an error is the text of an exception that is caught. -/
@[reducible] def RollbackOp.Reply : RollbackOp → Type
  | .validateSnapshot => Except String Unit
  | .preflight => Except SolverRefusal (List CommandResult)
  | .fileMatches _ => Bool
  | .targetMetadata _ => Except String (Option TargetMetadata)
  | .moduleOrder => Except String (List String)
  | .launcher op => op.Reply
  | .validatePayloads => Except String Unit
  | .package _ => CommandResult
  | .writeFile _ _ => Except String Unit
  | .unlinkFile _ => Except String Unit
  | .modprobe _ => CommandResult
  | .mig op => op.Reply

/-- An early end: a `return` of results among which one failed, or an exception. -/
inductive RollbackExit where
  | refused (results : List CommandResult) (failed : commandsSucceeded results = false)
  | raised (text : String)

/-- A part of an applied rollback, which returns, refuses with results or raises. -/
abbrev RollbackProgram := Program RollbackOp RollbackOp.Reply RollbackExit

/-- `return [*results, failure]`: the rollback ends with a failed result behind those it has. -/
def refuseRollback {α : Type} (results : List CommandResult) (command : List String)
    (reason : String) : RollbackProgram α :=
  .raise (.refused (results ++ [failedResult command reason]) (by simp))

/-- The rollback ends with a failed result where the condition holds, and else goes on. -/
def refuseRollbackIf (condition : Prop) [Decidable condition] (results : List CommandResult)
    (command : List String) (reason : String) : RollbackProgram Unit :=
  if condition then refuseRollback results command reason else pure ()

/-- Go on behind more results, unless one of them failed. -/
def keepResults (results more : List CommandResult) : RollbackProgram (List CommandResult) :=
  if h : commandsSucceeded more = true then pure (results ++ more)
  else .raise (.refused (results ++ more) (by simp [h]))

/-- A successful result that the rollback records itself. -/
def successResult (command : List String) : CommandResult where
  command := command
  returncode := some 0

/-! ## Preconditions -/

/-- The arguments of `apply_rollback`, besides the host. -/
structure RollbackRequest where
  snapshot : RollbackSnapshot
  currentAudit : Option HostAudit
  restoreServiceEnablement : Bool := false
  restoreServiceActivity : Bool := false

/-- The authority of the snapshot and the package solver: the audit, and the results so far. -/
def authorizeApply (request : RollbackRequest) :
    RollbackProgram (HostAudit × List CommandResult) :=
  match request.currentAudit with
  | none =>
      refuseRollback [] ["rollback-precondition", "current-audit"]
        "an applied rollback requires a current host audit"
  | some audit =>
      if request.snapshot.path = none then
        refuseRollback [] ["rollback-precondition", "snapshot-authority"]
          ("an applied rollback requires a trusted snapshot loaded " ++
            "from its exact private source path")
      else do
        match ← Program.perform RollbackOp.validateSnapshot with
        | .error reason =>
            refuseRollback [] ["rollback-precondition", "snapshot-authority"] reason
        | .ok _ =>
            match ← Program.perform RollbackOp.preflight with
            | .error refusal =>
                refuseRollback refusal.results ["rollback-precondition", "package-solver"]
                  refusal.text
            | .ok solver =>
                pure (audit, solver ++ [successResult ["rollback-precondition", "package-solver"]])

/-- `any(not _managed_file_matches(file) for file in files)`. -/
def filesChanged : List FileSnapshot → RollbackProgram Bool
  | [] => pure false
  | file :: files => do
      if ← Program.perform (RollbackOp.fileMatches file) then filesChanged files else pure true

/-- `base64.b64decode(..., validate=True)` of UTF-8 text. -/
def baselineContent (text : String) : Except String (List UInt8) :=
  match Base64.decode text.toList with
  | none => .error "content is not valid Base64"
  | some content => if Text.isUtf8 content then .ok content else .error "content is not valid UTF-8"

/-- `["rollback-precondition", "managed-files"]`. -/
def managedFilesCommand : List String := ["rollback-precondition", "managed-files"]

/-- The recorded content and mode of one file, before anything is looked at. -/
def checkRecordedFile (file : FileSnapshot) : Except String Unit :=
  if isManagedPath file.path = false then
    .error ("rollback file target is outside the managed path set: " ++ file.path)
  else if file.existed then
    match file.contentBase64, file.mode with
    | some text, some mode =>
        match baselineContent text with
        | .error reason =>
            .error ("rollback file baseline is invalid for " ++ file.path ++ ": " ++ reason)
        | .ok content =>
            if maxManagedFileBytes < content.length ∨ 0o777 < mode then
              .error ("rollback file baseline exceeds safety bounds: " ++ file.path)
            else .ok ()
    | _, _ => .error ("rollback file baseline is incomplete: " ++ file.path)
  else if file.contentBase64.isSome || file.mode.isSome then
    .error ("absent rollback file baseline carries content or mode: " ++ file.path)
  else .ok ()

/-- `_managed_file_restore_precondition`: every recorded file must be one that can be restored. -/
def checkManagedFiles : List FileSnapshot → RollbackProgram Unit
  | [] => pure ()
  | file :: files =>
      match checkRecordedFile file with
      | .error reason => refuseRollback [] managedFilesCommand reason
      | .ok _ => do
          if ← Program.perform (RollbackOp.fileMatches file) then checkManagedFiles files
          else
            match ← Program.perform (RollbackOp.targetMetadata file.path) with
            | .error reason =>
                refuseRollback [] managedFilesCommand
                  ("cannot inspect " ++ file.path ++ ": " ++ reason)
            | .ok none => checkManagedFiles files
            | .ok (some metadata) =>
                if metadata.regular = false ∨ metadata.links ≠ 1 then
                  refuseRollback [] managedFilesCommand
                    ("rollback file target is not a singly linked regular file: " ++ file.path)
                else checkManagedFiles files

/-! ## What is to be done -/

/-- What the rollback works from, once the modules were inspected for the first time. -/
structure RollbackPlan where
  snapshot : RollbackSnapshot
  audit : HostAudit
  /-- `rollback_package_commands`. -/
  commands : List (List String)
  filesChanged : Bool
  /-- `current_module_names` of the first inspection. -/
  moduleNames : List String

/-- `snapshot_module_names`: the modules that the rollback loads again. -/
def RollbackSnapshot.restoredModules (snapshot : RollbackSnapshot) : List String :=
  if snapshot.moduleLoaded = true ∧ snapshot.moduleNames = [] then ["nvidia"]
  else snapshot.moduleNames

/-- `module_matches`: the audit shows the modules that the snapshot recorded. -/
def modulesMatch (snapshot : RollbackSnapshot) (audit : HostAudit) (moduleNames : List String) :
    Bool :=
  audit.module.loaded = snapshot.moduleLoaded ∧ audit.module.version = snapshot.moduleVersion ∧
    audit.module.openModule = snapshot.moduleOpenModule ∧
    audit.module.signed = snapshot.moduleSigned ∧
    audit.module.installedVersion = snapshot.moduleInstalledVersion ∧
    audit.module.installedOpenModule = snapshot.moduleInstalledOpenModule ∧
    audit.module.installedSigned = snapshot.moduleInstalledSigned ∧
    moduleNames = snapshot.restoredModules

/-- The states of a unit that are known, all three. -/
def UnitState.known (state : UnitState) : Bool :=
  state.active.isSome && state.enabled.isSome && state.unitFileState.isSome

namespace RollbackPlan

variable (plan : RollbackPlan)

/-- `module_matches` of the plan: the modules need no replacement. -/
def matching : Bool :=
  modulesMatch plan.snapshot plan.audit plan.moduleNames

/-- The MIG phase behind an inspection that found these modules. -/
def migPhase (names : List String) : MigPhase where
  snapshot := plan.snapshot
  currentAudit := plan.audit
  commands := plan.commands
  moduleMatches := plan.matching
  moduleUnloadNeeded := !names.isEmpty && !plan.matching

/-- `service_state_changed`: a launcher whose state is known differs from the snapshot. -/
def serviceStateChanged : Bool :=
  serviceStopOrder.any fun unit =>
    (plan.audit.launchers.of unit).known && (plan.snapshot.launchers.of unit).known &&
      decide (plan.audit.launchers.of unit ≠ plan.snapshot.launchers.of unit)

/-- `transaction_mutates_host`: the rollback changes packages, modules, MIG, a file or a
launcher. -/
def mutatesHost : Bool :=
  !plan.commands.isEmpty || !plan.matching || (plan.migPhase plan.moduleNames).migRestoreRequired ||
    plan.filesChanged || plan.serviceStateChanged

/-- `unknown_states`: which states of a launcher are unknown, in words. -/
def unknownStates (unit : Launcher) : List String :=
  let current := plan.audit.launchers.of unit
  let target := plan.snapshot.launchers.of unit
  (if current.active = none then ["current active"] else []) ++
    (if current.enabled = none then ["current enabled"] else []) ++
    (if current.unitFileState = none then ["current unit-file"] else []) ++
    (if target.active = none then ["snapshot active"] else []) ++
    (if target.enabled = none then ["snapshot enabled"] else []) ++
    (if target.unitFileState = none then ["snapshot unit-file"] else [])

/-- The refusal of a launcher whose state is not known. -/
def refuseUnknown (results : List CommandResult) : List Launcher → RollbackProgram Unit
  | [] => pure ()
  | unit :: units => do
      refuseRollbackIf (plan.mutatesHost = true ∧ plan.unknownStates unit ≠ []) results
        ["rollback-precondition", "service-state", unit.unit]
        ("cannot safely quiesce " ++ unit.unit ++ ": " ++
          Text.join ", " (plan.unknownStates unit) ++
          " state is unknown")
      refuseUnknown results units

/-- The refusal of inconsistent launcher states. -/
def refuseInconsistent (results : List CommandResult) (command : List String) (text : String) :
    Option String → RollbackProgram Unit
  | none => pure ()
  | some reason => refuseRollbackIf (plan.mutatesHost = true) results command (text ++ reason)

/-- The launcher states that are needed before anything is changed. -/
def checkServices (results : List CommandResult) : RollbackProgram Unit := do
  plan.refuseInconsistent results ["rollback-precondition", "current-service-state"]
    "current transactional service state is inconsistent: "
    (serviceStateConsistencyError plan.audit.launchers)
  plan.refuseInconsistent results ["rollback-precondition", "snapshot-service-state"]
    "snapshot transactional service state is inconsistent: "
    (serviceStateConsistencyError plan.snapshot.launchers)
  plan.refuseUnknown results serviceStopOrder

end RollbackPlan

/-- The inspection of the loaded modules, as the results name it. -/
def inspectCommand : List String := ["inspect-module-dependencies"]

/-- The first inspection, which has to agree with the audit. -/
def inspectModules (audit : HostAudit) : RollbackProgram (List String) := do
  match ← Program.perform RollbackOp.moduleOrder with
  | .error reason => refuseRollback [] inspectCommand reason
  | .ok names => do
      refuseRollbackIf (audit.module.loaded ≠ names.contains "nvidia") [] inspectCommand
        "loaded NVIDIA module audit does not match the current sysfs graph"
      pure names

/-- Everything between the authority and the first change. -/
def planRollback (request : RollbackRequest)
    (audit : HostAudit) : RollbackProgram RollbackPlan := do
  let snapshot := request.snapshot
  refuseRollbackIf (request.restoreServiceEnablement = true ∨ request.restoreServiceActivity = true)
    [] ["rollback-precondition", "staged-service-restore"]
    ("applied rollback service state must be restored with the " ++
      "single-unit prepare, activity, and final enablement APIs " ++
      "so every stage can be re-audited")
  refuseRollbackIf (audit.gpuUuids ≠ snapshot.gpuUuids) []
    ["rollback-precondition", "gpu-inventory"]
    "current GPU UUID inventory does not exactly match the rollback snapshot"
  let commands ← (Program.ofExcept (rollbackPackageCommands snapshot (some audit))).handle
    fun text => .raise (.raised text)
  let changed ← filesChanged snapshot.managedFiles
  refuseRollbackIf (audit.migGeometryComplete = false) [] ["rollback-precondition", "mig-geometry"]
    "an applied rollback requires a complete current MIG GI/CI geometry observation"
  refuseRollbackIf (audit.migMode = some .disabled ∧
      (audit.migGeometry ≠ [] ∨ audit.migDeviceUuids ≠ [])) []
    ["rollback-precondition", "mig-state-consistency"]
    "current MIG mode is disabled but MIG instances remain visible"
  let moduleNames ← inspectModules audit
  checkManagedFiles snapshot.managedFiles
  let plan : RollbackPlan := { snapshot, audit, commands, filesChanged := changed, moduleNames }
  let migRestoreRequired := (plan.migPhase moduleNames).migRestoreRequired
  refuseRollbackIf (migRestoreRequired = true ∧ snapshot.gpuUuids.length ≠ 1) []
    ["rollback-precondition", "mig-transaction-scope"]
    ("MIG rollback is qualified only for one UUID-bound GPU; " ++
      "refusing a potentially partial multi-GPU transition")
  refuseRollbackIf (migRestoreRequired = true ∧
      restorableMigGeometry snapshot.migGeometry snapshot.gpuUuids = false) []
    ["rollback-precondition", "mig-rollback-geometry"]
    ("the snapshot MIG layout cannot be recreated exactly; only " ++
      "empty geometry or one GI containing one full CI is qualified")
  pure plan

/-! ## The changes -/

/-- The quarantine of one launcher after another. -/
def quarantineServices : List Launcher → List CommandResult →
    RollbackProgram (List CommandResult)
  | [], results => pure results
  | unit :: units, results => do
      let more ← (quarantineServiceForRollback unit).embed RollbackOp.launcher fun _ reply => reply
      let results ← keepResults results more
      quarantineServices units results

/-- Run the package commands in order, up to the first that fails. -/
def runPackageCommands : List (List String) → List CommandResult →
    RollbackProgram (List CommandResult)
  | [], results => pure results
  | command :: commands, results => do
      let result ← Program.perform (RollbackOp.package command)
      let results ← keepResults results [result]
      runPackageCommands commands results

/-- The place of a file in the order of restoration. -/
def restoreRank (file : FileSnapshot) : Nat :=
  if file.path = dockerConfigPath then 0
  else if file.path = dnfModulePath ∨ file.path = zypperLockPath then 1
  else if isFailsafePath file.path = true then 2
  else 3

/-- `sorted(files, key=...)`: the order in which the managed files are restored. -/
def restoreOrder (files : List FileSnapshot) : List FileSnapshot :=
  files.insertionSort fun file other => restoreRank file ≤ restoreRank other

/-- `["restore-file", path]`: how the results name the restoration of a file. -/
def restoreCommand (file : FileSnapshot) : List String := ["restore-file", file.path]

/-- The result that is recorded for the change of a file. -/
def restoreResult (file : FileSnapshot) : Except String Unit → CommandResult
  | .ok _ => successResult (restoreCommand file)
  | .error reason => failedResult (restoreCommand file) reason

/-- The restoration of one managed file: skipped where it matches, else written or unlinked. -/
def restoreManagedFile (file : FileSnapshot) : RollbackProgram CommandResult := do
  if ← Program.perform (RollbackOp.fileMatches file) then
    pure { command := restoreCommand file, returncode := some 0, skipped := true,
           reason := some "already-restored" }
  else if file.existed then
    match file.contentBase64, file.mode with
    | some text, some _ =>
        match baselineContent text with
        | .error reason => pure (failedResult (restoreCommand file) reason)
        | .ok content => do
            let written ← Program.perform (RollbackOp.writeFile file content)
            pure (restoreResult file written)
    | _, _ =>
        pure (failedResult (restoreCommand file)
          ("rollback file baseline is incomplete: " ++ file.path))
  else do
    let unlinked ← Program.perform (RollbackOp.unlinkFile file)
    pure (restoreResult file unlinked)

/-- The loop of `_restore_managed_files`, which goes on behind a file that failed. -/
def restoreFiles : List FileSnapshot → RollbackProgram (List CommandResult)
  | [] => pure []
  | file :: files => do
      let result ← restoreManagedFile file
      let rest ← restoreFiles files
      pure (result :: rest)

/-- `_restore_managed_files`: every managed file, in order and past failures. -/
def restoreManagedFiles (files : List FileSnapshot) : RollbackProgram (List CommandResult) :=
  restoreFiles (restoreOrder files)

/-- Run `modprobe` with each of these arguments, up to the first failure. -/
def loadModules : List String → List CommandResult → RollbackProgram (List CommandResult)
  | [], results => pure results
  | module :: modules, results => do
      let result ← Program.perform (RollbackOp.modprobe [module])
      let results ← keepResults results [result]
      loadModules modules results

/-- The second inspection of the modules, right before they are unloaded. -/
def inspectAgain (results : List CommandResult) :
    RollbackProgram (List String × List CommandResult) := do
  match ← Program.perform RollbackOp.moduleOrder with
  | .error reason => refuseRollback results inspectCommand reason
  | .ok names => pure (names, results ++ [successResult inspectCommand])

namespace RollbackPlan

variable (plan : RollbackPlan)

/-- The quarantine of every launcher, where the rollback changes anything. -/
def quarantine (results : List CommandResult) : RollbackProgram (List CommandResult) :=
  if plan.mutatesHost then quarantineServices serviceStopOrder results else pure results

/-- The retained payloads, where there are package commands. -/
def checkPayloads (results : List CommandResult) : RollbackProgram (List CommandResult) :=
  let command := ["rollback-precondition", "package-payloads"]
  let failure (reason : String) :=
    failedResult command ("retained rollback package payload validation failed: " ++ reason)
  if plan.commands = [] then pure results
  else if plan.snapshot.path = none ∨ plan.snapshot.packagePayloads = none then
    keepResults results
      [failure "applicable rollback snapshot has no retained package payloads"]
  else do
    match ← Program.perform RollbackOp.validatePayloads with
    | .ok _ => keepResults results [successResult command]
    | .error reason => keepResults results [failure reason]

/-- The modules that are loaded again: `snapshot.module_loaded and not module_matches`. -/
def loads : Bool :=
  plan.snapshot.moduleLoaded && !plan.matching

/-- The removal of the modules that an inspection found. -/
def unloadModules (names : List String) (results : List CommandResult) :
    RollbackProgram (List CommandResult) :=
  if (plan.migPhase names).moduleUnloadNeeded then do
    let result ← Program.perform (RollbackOp.modprobe ("-r" :: names))
    keepResults results [result]
  else pure results

/-- The change of the kernel modules: the old ones are unloaded and the recorded ones loaded. -/
def replaceModules (names : List String) (results : List CommandResult) :
    RollbackProgram (List CommandResult) := do
  let results ← plan.unloadModules names results
  if plan.loads then loadModules plan.snapshot.restoredModules.reverse results else pure results

/-- What the function knows of a unit behind the quarantine. -/
def currentState (unit : Launcher) : UnitState :=
  if plan.mutatesHost then .quarantined else plan.audit.launchers.of unit

/-- The restoration of the services is left to later stages. -/
def servicesDeferred : Bool :=
  serviceStopOrder.any fun unit =>
    decide ((plan.snapshot.launchers.of unit).active ≠ (plan.currentState unit).active ∨
      (plan.snapshot.launchers.of unit).unitFileState ≠ (plan.currentState unit).unitFileState)

/-- The results behind the MIG phase, with the note about services that are left to the caller. -/
def conclude (results : List CommandResult) : List CommandResult :=
  let results := results ++
    if plan.servicesDeferred then
      [{ successResult ["rollback", "service-state"] with
          skipped := true, reason := some "deferred" }]
    else []
  if results = [] then
    [{ successResult ["rollback"] with skipped := true, reason := some "already-restored" }]
  else results

/-- The MIG phase and what follows it, inside the applied rollback. -/
def restoreMig (names : List String) (results : List CommandResult) :
    RollbackProgram (List CommandResult) := do
  let restored ← ((plan.migPhase names).program.embed RollbackOp.mig fun _ reply => reply).handle
    fun text => .raise (.raised text)
  if restored.goesOn then pure (plan.conclude (results ++ restored.results))
  else pure (results ++ restored.results)

/-- The changes of the applied rollback, in their order. -/
def apply (results : List CommandResult) : RollbackProgram (List CommandResult) := do
  plan.checkServices results
  let results ← plan.quarantine results
  let results ← plan.checkPayloads results
  let results ← runPackageCommands plan.commands results
  let files ← restoreManagedFiles plan.snapshot.managedFiles
  let results ← keepResults results files
  let results ← plan.quarantine results
  let (names, results) ← inspectAgain results
  let results ← plan.replaceModules names results
  plan.restoreMig names results

end RollbackPlan

/-- `apply_rollback` with `runner.apply`; an exception that is not caught is an error. -/
def applyRollback (request : RollbackRequest) :
    Program RollbackOp RollbackOp.Reply String (List CommandResult) :=
  Program.handle
    (do
      let (audit, results) ← authorizeApply request
      let plan ← planRollback request audit
      plan.apply results)
    fun
      | .refused results _ => pure results
      | .raised text => .raise text

end NvidiaConverge
