import NvidiaConverge.Install.Transaction

/-!
# The release and the compensation of an install

What the `install` branch does behind its changes: it verifies the core of the target and releases
the launchers behind a durable authorization, or restores the snapshot and releases them as they
were. `install` is the whole branch.
-/

namespace NvidiaConverge

/-! ## The release -/

/-- `_verification_phase_checks`: the checks whose names begin with one of the prefixes. -/
def phaseChecks (prefixes : List String) (checks : List ReportedCheck) : List ReportedCheck :=
  checks.filter fun check => prefixes.any (Text.startsWith check.name ·)

/-- `bool(checks) and all(check.ok for check in checks)`. -/
def checksPass (checks : List ReportedCheck) : Bool :=
  !checks.isEmpty && checks.all (·.ok)

namespace InstallState

/-- The commit of the launchers behind its authorization. -/
def commitLaunchers (state : InstallState) (target : RollbackSnapshot) (audit : HostAudit) :
    InstallProgram (InstallState × Bool) := do
  let commit ← attempt (.commitLaunchers target audit state.guard)
  pure
    ({ state.add commit.entries with phaseAudit := commit.audit, guard := commit.guard },
      commit.released)

end InstallState

namespace InstallRequest

variable (request : InstallRequest)

/-- The checks of Fabric Manager, where it is desired. -/
def verifyFabricManager (state : InstallState) : InstallProgram (InstallState × Bool) :=
  if request.desired.fabricManager then do
    let checks ← attempt (.verifyStack state.phaseAudit false true)
    let checks := phaseChecks ["fabric-manager"] checks
    pure (state.add { checks }, checksPass checks)
  else pure (state, true)

/-- The verification behind the release: the state, and whether it was reached. -/
def verifyReleased (state : InstallState) : InstallProgram (InstallState × Bool) := do
  let verified ← request.verifyFabricManager state
  if verified.2 then do
    let checks ← attempt (.verifyStack verified.1.phaseAudit true false)
    pure (verified.1.add { checks := phaseChecks ["docker.", "container."] checks }, true)
  else pure (verified.1, false)

/-- The release of the target: the state, and whether it reached verification. -/
def releaseTarget (state : InstallState) (core : HostAudit) :
    InstallProgram (InstallState × Bool) := do
  attempt (.authorizeRelease .installTarget)
  let committed ← state.commitLaunchers
    (installLauncherTargetSnapshot state.snapshot request.desired) core
  if committed.2 then request.verifyReleased committed.1 else pure (committed.1, false)

/-- The boundary of a target that waits for a reboot. -/
def holdForReboot (state : InstallState) : InstallProgram (InstallState × Bool) := do
  let held ← request.checkpoint state
  pure
    (if state.succeeded = true ∧ held.succeeded = true then
      held.add Finding.rebootPendingCompensation.entries else held, false)

/-- The checks of the core stack on this audit, behind its boundary. -/
def coreChecks (state : InstallState) (core : HostAudit) : InstallProgram (List ReportedCheck) :=
  if state.succeeded then attempt (.verifyStack core false false) else pure []

/-- The verification of the core and the release: the state, and
`transition_reached_verification`. -/
def verifyCore (state : InstallState) (rebootPending : Bool) :
    InstallProgram (InstallState × Bool) :=
  if state.succeeded then do
    let core ← auditHost
    let (safe, entries) ← freshGpuBoundaryIsSafe state.snapshot core .preServiceCommit
    let state := { state.add entries with succeeded := safe }
    let checks ← coreChecks state core
    let state := state.add { checks }
    if rebootPending then request.holdForReboot state
    else if state.succeeded = true ∧ checksPass checks = true then request.releaseTarget state core
    else pure (state, false)
  else pure (state, false)

end InstallRequest

/-! ## The compensation -/

/-- `_record_intentionally_quiesced_services`. -/
def recordIntentionallyQuiescedServices (state : InstallState) : InstallProgram InstallState :=
  match state.guard with
  | none => pure state
  | some guard =>
      if guard.pendingRestore = [] then pure state
      else do
        let (guard, quiesced) ← guarded guard.requiesce
        let finding := if quiesced then
            Finding.intentionallyQuiesced (sorted (guard.pendingRestore.map Launcher.unit))
          else Finding.keptQuiescedFailed guard.requiesceErrors
        pure { state.add finding.entries with guard := some guard }

/-- The name that follows `--name` in a command, if there is one. -/
def containerName? : List String → Option String
  | [] => none
  | argument :: arguments =>
      if argument = "--name" then arguments.head? else containerName? arguments

/-- The probe container that `_retry_failed_probe_container_cleanup` removes. -/
def lingeringProbe? (checks : List ReportedCheck) : Option String :=
  (checks.findSome? fun check =>
    if check.name = "container.gpu" then
      check.command.bind fun result =>
        if result.command.take 2 = ["docker", "run"] then some result.command else none
    else none).bind containerName?

/-- `_retry_failed_probe_container_cleanup`: whether no probe container is left. -/
def retryFailedProbeContainerCleanup (checks : List ReportedCheck) (dockerActive : Option Bool) :
    InstallProgram (Bool × ReportEntries) :=
  if checks.any (fun check => check.name == "container.probe-absent" && !check.ok) = false then
    pure (true, {})
  else if dockerActive ≠ some true then pure (false, {})
  else
    match lingeringProbe? checks with
    | none => pure (false, {})
    | some name => do
        let cleanup ← attempt (.removeProbe name)
        let absence ← attempt (.probeAbsence name)
        let absent := absence.returncode == some 0 && Text.strip absence.stdout == ""
        pure (absent,
          { checks :=
              [{ name := "install.compensation.container-cleanup-command"
                 ok := cleanup.returncode == some 0, command := some cleanup
                 detail := some "Retry forced removal of the failed verification container." },
               { name := "install.compensation.container-probe-absent", ok := absent
                 command := some absence
                 detail := some
                   "The failed verification container must be absent before rollback." }] })

namespace InstallRequest

variable (request : InstallRequest)

/-- The verdict of the boundary before a compensation: what still blocks it. -/
def compensationBlocker (clean : Bool) (workloads : Option (List String)) : Option Finding :=
  if clean = false then some .probeContainerLingering
  else
    match workloads with
    | none => some .compensationWorkloadsUnknown
    | some workloads =>
        if request.blockedBy workloads then some (.compensationWorkloadsActive workloads) else none

/-- The boundary before a compensation, behind services that are quiesced again. -/
def drainForCompensation (state : InstallState) :
    InstallProgram (InstallState × Option HostAudit) := do
  let audit ← orEmergency auditHost
  let (clean, cleanup) ← retryFailedProbeContainerCleanup state.report.verification
    (audit.launchers.of .dockerService).active
  let (probe, _) ← probeWorkloads audit
  let boundary ← orEmergency (launchers (deferLauncherEnablement audit))
  let state := state.add (cleanup ++ { results := [probe] } ++ boundary.entries)
  if boundary.ok then do
    let (reprobe, workloads) ← probeWorkloads boundary.audit
    let state := state.add { results := [reprobe] }
    match request.compensationBlocker clean workloads with
    | some finding => pure (state.add finding.entries, none)
    | none => pure (state, some boundary.audit)
  else pure (state, none)

/-- `_prepare_install_compensation`: stop and quarantine everything before the rollback. -/
def prepareInstallCompensation (state : InstallState) :
    InstallProgram (InstallState × Option HostAudit) := do
  let (quiesced, entries, guard) ← requiesceServices state.report.findings state.guard
  let state := { state.add entries with guard := guard }
  if quiesced then request.drainForCompensation state
  else do
    let boundary ← orEmergency (launchers quarantineFailedMaintenanceGate)
    pure (state.add boundary.entries, none)

end InstallRequest

/-- The detail of a compensation whose rollback failed. -/
def rollbackFailureDetail (results : List CommandResult) : String :=
  match results.find? fun result => !result.succeeded with
  | none => "The compensating rollback command did not complete safely."
  | some failed =>
      "Rollback command exited " ++ toString (failed.returncode.getD 0) ++ ": " ++
        Text.join " " failed.command

/-- `_attempt_install_compensation`: the state, and whether the snapshot was applied. -/
def attemptCompensation (state : InstallState) (audit : HostAudit) :
    InstallProgram (InstallState × Bool) :=
  if audit.packageInventoryComplete = false then
    pure (state.add Finding.compensationInventoryIncomplete.entries, false)
  else do
    match ← attempt (.preflightRollback audit) with
    | .error refusal =>
        pure (state.add (preflightChecks "install.compensation.packages-preflight"
          "The exact compensating package transaction did not resolve safely." false
          refusal.results ++ (Finding.compensationPreflightFailed refusal.text).entries), false)
    | .ok preflight => do
        let state := state.add (preflightChecks "install.compensation.packages-preflight"
          ("The exact compensating package transaction resolves solely from the " ++
            "snapshot-bound retained local payloads.") true preflight)
        let results ← attempts InstallOp.rollback (fun _ answer => answer)
          (applyRollback { snapshot := state.snapshot, currentAudit := some audit })
        let state := state.add { results }
        if commandsSucceeded results then pure (state, true)
        else
          pure (state.add
            (Finding.compensationRollbackFailed (rollbackFailureDetail results)).entries, false)

/-- `_attempt_install_compensation`, where a boundary was prepared. -/
def attemptPrepared (prepared : InstallState × Option HostAudit) :
    InstallProgram (InstallState × Bool) :=
  match prepared.2 with
  | none => pure (prepared.1, false)
  | some audit => attemptCompensation prepared.1 audit

/-- The services stay quiesced behind a compensation that was not applied. -/
def keepQuiesced (attempted : InstallState × Bool) : InstallProgram (InstallState × Bool) :=
  if attempted.2 then pure attempted
  else do
    let state ← recordIntentionallyQuiescedServices attempted.1
    pure (state, false)

/-- A fresh audit, and the report that goes on from it. -/
def rediagnosed (desired : DesiredState) (state : InstallState) : InstallProgram InstallState := do
  let state ← state.audited
  pure { state with report := state.report.rediagnose desired state.phaseAudit }

/-- `verify_rollback` without the services, as checks of the compensation. -/
def compensationChecks (checks : List ReportedCheck) : ReportEntries where
  checks := checks.map fun check => { check with name := "install.compensation." ++ check.name }

namespace InstallRequest

variable (request : InstallRequest)

/-- The compensation of an install with this finding: whether the snapshot was applied. -/
def compensate (state : InstallState) (finding : Finding) :
    InstallProgram (InstallState × Bool) := do
  let prepared ← request.prepareInstallCompensation (state.add finding.entries)
  let attempted ← attemptPrepared prepared
  keepQuiesced attempted

/-- The end of a compensation whose core is as the snapshot: whether it is verified. -/
def releaseBaseline (state : InstallState) (core : List ReportedCheck) :
    InstallProgram (InstallState × Bool) := do
  attempt (.authorizeRelease .rollbackBaseline)
  let committed ← state.commitLaunchers state.snapshot state.phaseAudit
  if committed.2 then do
    let checks ← attempt (.verifyRollback committed.1.phaseAudit true)
    pure (committed.1.add (compensationChecks (checks.drop core.length)), checks.all (·.ok))
  else pure (committed.1, false)

/-- The launchers behind a compensation whose core is not as the snapshot. -/
def holdCompensation (state : InstallState) (rebootPending : Bool) :
    InstallProgram InstallState := do
  let held ← request.checkpoint state
  if rebootPending then
    pure (if held.succeeded then
      held.add (Finding.compensationRebootRequired (state.snapshot.path.getD "")).entries else held)
  else
    match held.guard with
    | none => pure { held with phaseAudit := state.phaseAudit }
    | some _ => do
        let state ← recordIntentionallyQuiescedServices held
        state.audited

/-- The verdict over a compensation, with the checks of its core that failed. -/
def concludeCompensation (state : InstallState) (failed : List String)
    (verified rebootPending : Bool) : InstallState :=
  if verified then state.add Finding.compensationSucceeded.entries
  else if rebootPending then state
  else state.add (Finding.compensationVerificationFailed failed).entries

/-- The verification of a compensation that was applied. -/
def verifyCompensation (state : InstallState) : InstallProgram InstallState := do
  let checks ← attempt (.verifyRollback state.phaseAudit false)
  let core := compensationChecks checks
  let failed := (core.checks.filter fun check => !check.ok).map (·.name)
  let rebootPending :=
    rollbackStateCanCompleteAfterReboot state.snapshot state.phaseAudit checks
  if checks.all (·.ok) then do
    let released ← releaseBaseline (state.add core) checks
    pure (concludeCompensation released.1 failed released.2 rebootPending)
  else do
    let held ← request.holdCompensation (state.add core) rebootPending
    pure (concludeCompensation held failed false rebootPending)

/-! ## The whole branch -/

/-- The part of the install up to its first change of the target. -/
def begin : InstallProgram InstallState := do
  let (audit, report, maintenance) ← request.authorizeInstall
  let (forward, report) ← preflightPackages audit report maintenance
  let (snapshot, persisted) ← persistSnapshot audit report maintenance forward
  let report ← preflightRetained audit snapshot { report with rollback := some snapshot }
    (maintenance ++ [persisted])
  request.quarantine audit snapshot report maintenance persisted

/-- The compensation of an install that did not reach its verification. -/
def compensateMutation (reached : InstallState × Bool) : InstallProgram (InstallState × Bool) :=
  if reached.2 then pure (reached.1, false)
  else request.compensate reached.1 (.mutationFailed reached.1.report.commandResults)

/-- The compensation of an install whose verification failed. -/
def compensateVerification (reached : Bool) (attempted : InstallState × Bool) :
    InstallProgram (InstallState × Bool) :=
  let state := attempted.1
  if reached = true ∧ state.report.installTargetVerified = false ∧
      targetVerificationCanCompleteAfterReboot request.desired state.report state.phaseAudit = false
  then do
    let compensated ← request.compensate state (.verificationFailed state.report)
    let state ← compensated.1.audited
    pure (state, compensated.2)
  else pure attempted

/-- The report of the install with what the guard did, and its status. -/
def conclude (state : InstallState) : InstallReport × Nat :=
  let results := (state.guard.map fun guard => guard.results.drop state.offset).getD []
  let report := (state.report.add { results }).rediagnose request.desired state.phaseAudit
  (report, report.installStatus)

/-- Everything behind the changes: the verification, the compensation and the conclusion. -/
def finish (changed : InstallState × Bool) : InstallProgram (InstallReport × Nat) := do
  let reached ← request.verifyCore changed.1 changed.2
  let attempted ← request.compensateMutation reached
  let state ← rediagnosed request.desired attempted.1
  let compensated ← request.compensateVerification reached.2 (state, attempted.2)
  if compensated.2 then do
    let state ← request.verifyCompensation compensated.1
    pure (request.conclude state)
  else pure (request.conclude compensated.1)

/-- The `install` branch of `_execute_command` with `--apply`: its report and its status; an
exception leaves no report. -/
def install : Program InstallOp InstallOp.Reply Unit (InstallReport × Nat) :=
  Program.handle
    (do
      let state ← request.begin
      let changed ← request.change state
      request.finish changed)
    fun
      | .refused report => pure (report, 2)
      | .raised => .raise ()

end InstallRequest

end NvidiaConverge
