import NvidiaConverge.Install.Report
import NvidiaConverge.Planning.MigReconciliation

/-!
# What a reboot may complete

The predicates of `cli.py` that tell a target, or a baseline, that only waits for a reboot from one
that failed: `_preparation_failure_can_complete_after_reboot`,
`_target_verification_can_complete_after_reboot` and `_rollback_state_can_complete_after_reboot`.
-/

namespace NvidiaConverge

/-! ## Busy modules -/

/-- A character of `[A-Za-z0-9_]`, as the name of a module may have. -/
def isModuleChar (c : Char) : Bool :=
  c.isAlphanum || c == '_'

/-- The text behind a prefix, if the text begins with it. -/
def behind? (start : String) (cs : List Char) : Option (List Char) :=
  if start.toList.isPrefixOf cs then some (cs.drop start.toList.length) else none

/-- `(?P<module>[A-Za-z0-9_]+)` and what follows it. -/
def moduleName? (cs : List Char) : Option (String × List Char) :=
  match cs.span isModuleChar with
  | ([], _) => none
  | (name, rest) => some (String.ofList name, rest)

/-- `is in use\.?(?: by: [A-Za-z0-9_, -]+)?`, behind the name. -/
def endsInUse (cs : List Char) : Bool :=
  match behind? " is in use" cs with
  | none => false
  | some rest =>
      let rest := if rest.head? = some '.' then rest.tail else rest
      match behind? " by: " rest with
      | none => rest.isEmpty
      | some users =>
          !users.isEmpty && users.all fun c => isModuleChar c || c == ',' || c == ' ' || c == '-'

/-- `['\"]?`: the text behind a quotation mark, or all of it. -/
def behindQuote (cs : List Char) : List Char :=
  if cs.head? = some Text.singleQuote ∨ cs.head? = some Text.doubleQuote then cs.tail else cs

/-- The module that one of `busy_patterns` names. -/
def busyModule? (stderr : String) : Option String :=
  match behind? "modprobe: FATAL: Module " stderr.toList with
  | some rest =>
      (moduleName? rest).bind fun (name, rest) => if endsInUse rest then some name else none
  | none =>
      (behind? "modprobe: ERROR: could not remove " stderr.toList).bind fun rest =>
        (moduleName? (behindQuote rest)).bind fun (name, rest) =>
          if behindQuote rest = ": Device or resource busy".toList then some name else none

/-- The modules whose replacement a reboot may complete. -/
def resettableModules : List String :=
  ["nvidia", "nvidia_drm", "nvidia_fs", "nvidia_modeset", "nvidia_peermem", "nvidia_uvm"]

/-- `_reboot_resolvable_module_command_failure`. -/
def rebootResolvableModuleCommandFailure (result : CommandResult) : Bool :=
  if result.succeeded ∨ result.skipped = true ∨ result.reason.isSome ∨ result.stdout ≠ "" then false
  else
    match result.command with
    | "modprobe" :: "-r" :: modules =>
        !modules.isEmpty && modules.all resettableModules.contains &&
          (busyModule? (Text.strip result.stderr)).any modules.contains
    | _ => false

/-! ## The target -/

/-- `desired.mig != "enabled" or audit.mig_capable is True`. -/
def migPossible (desired : DesiredState) (audit : HostAudit) : Bool :=
  desired.mig != "enabled" || audit.migCapable == some true

/-- `_preparation_failure_can_complete_after_reboot`. -/
def preparationFailureCanCompleteAfterReboot (desired : DesiredState) (audit : HostAudit)
    (preparation : ReportedCheck) : Bool :=
  match preparation.command with
  | none => false
  | some command =>
      let migModeReady := !modeUnknown audit.migMode && modeIs desired audit.migModePending &&
        migPossible desired audit
      let migGeometryReady :=
        if desired.mig = "enabled" ∧ audit.migMode = some .enabled then
          audit.migGeometryComplete && fullMigGeometryMatches audit.migGeometry audit.gpuUuids &&
            audit.migDeviceUuids.length == 1
        else true
      !preparation.ok && audit.packageInventoryComplete && onDiskReady desired audit.module &&
        migModeReady && migGeometryReady && rebootResolvableModuleCommandFailure command

/-- `mig_pending`: the desired mode is pending and becomes current with a reboot. -/
def migPending (desired : DesiredState) (audit : HostAudit) : Bool :=
  !modeUnknown audit.migMode && modeIs desired audit.migModePending &&
    audit.migModePending != audit.migMode && migPossible desired audit

/-- `loaded_ready`: the loaded module is the desired one. -/
def loadedReady (desired : DesiredState) (audit : HostAudit) : Bool :=
  audit.module.loaded && desired.matchesDriverVersion (audit.module.version.map (·.val)) &&
    audit.module.openModule == some desired.openKernelModule &&
    (desired.secureBoot != "signed" || audit.module.signed == some true)

/-- `module_pending`: the desired module is installed, and replaces the loaded one with a reboot. -/
def modulePending (desired : DesiredState) (audit : HostAudit) (checks : List ReportedCheck) :
    Bool :=
  checks.any (fun check => check.name == "module.reload" && !check.ok) && audit.module.loaded &&
    !loadedReady desired audit &&
    (migPending desired audit ||
      (modeIs desired audit.migMode && audit.migModePending == audit.migMode &&
        migPossible desired audit))

/-- The checks that a pending MIG mode may fail. -/
def migPendingChecks : List String :=
  ["mig.mode", "mig.no-pending-transition", "mig.geometry", "mig.device-uuid",
    "container.device-binding"]

/-- The checks that a pending module may fail. -/
def modulePendingChecks : List String :=
  ["module.reload", "module.loaded-version", "module.provenance", "module.open-variant",
    "module.closed-variant", "module.flavor-provenance", "secure-boot.module-signed", "nvidia-smi",
    "container.cuda-driver-compatibility"]

/-- The errors that a pending module may leave. -/
def modulePendingFindings : List String :=
  ["driver.loaded-version-unknown", "driver.module-version-mismatch", "driver.version-mismatch",
    "driver.closed-module", "driver.open-module", "driver.module-flavor-unknown",
    "driver.module-flavor-mismatch", "secure-boot.unsigned-module"]

/-- `f"mig.{audit.mig_mode}"`: the finding about the current mode. -/
def migModeFinding : Option MigMode → String
  | some mode => "mig." ++ mode.value
  | none => "mig.None"

/-- `_target_verification_can_complete_after_reboot`, with the audit of the report. -/
def targetVerificationCanCompleteAfterReboot (desired : DesiredState) (report : InstallReport)
    (audit : HostAudit) : Bool :=
  let migWaits := migPending desired audit
  let moduleWaits := modulePending desired audit report.verification
  let allowedChecks := (if migWaits then migPendingChecks else []) ++
    if moduleWaits then modulePendingChecks else []
  let allowedFindings :=
    (if migWaits then ["mig.pending-reboot", migModeFinding audit.migMode] else []) ++
      if moduleWaits then modulePendingFindings else []
  let results := report.commandResults ++ report.verification.filterMap (·.command)
  audit.packageInventoryComplete && onDiskReady desired audit.module && (migWaits || moduleWaits) &&
    report.verification.all (fun check => check.ok || allowedChecks.contains check.name ||
      (check.name == "container.gpu" && check.command.isNone)) &&
    report.findings.all (fun finding => !finding.isError || allowedFindings.contains finding.id) &&
    results.all fun result => result.returncode == some 0 ||
      (moduleWaits && rebootResolvableModuleCommandFailure result)

/-! ## The baseline -/

/-- `_rollback_state_can_complete_after_reboot`. -/
def rollbackStateCanCompleteAfterReboot (snapshot : RollbackSnapshot) (audit : HostAudit)
    (checks : List ReportedCheck) : Bool :=
  let failed := checks.filter fun check => !check.ok
  audit.packageInventoryComplete && snapshot.migMode.isSome && audit.migMode != snapshot.migMode &&
    audit.migModePending == snapshot.migMode && !failed.isEmpty &&
    failed.all (·.name == "rollback.mig-mode") &&
    checks.all fun check => check.command.all fun result => result.returncode == some 0

end NvidiaConverge
