import NvidiaConverge.Launchers.Quarantine

/-!
# The quarantine of all launchers

`_defer_launcher_enablement` validates every launcher and then masks one after the other, up to
the first failure. Its callers are the failed launcher commit and the failed maintenance gate.
-/

namespace NvidiaConverge

open Program (Issues)

/-! ## The program -/

/-- What a boundary step returns, with what it adds to the report. -/
structure Boundary where
  ok : Bool
  audit : HostAudit
  results : List CommandResult := []
  findings : List Finding := []

namespace Finding

/-- `install.launcher-enablement-unknown`: the finding that names the units of unknown state. -/
def launcherEnablementUnknown (units : List Launcher) : Finding where
  id := "install.launcher-enablement-unknown"
  severity := .error
  summary := "Launcher unit-file state is unknown at a transaction boundary"
  detail := "Unknown units: " ++ Text.join ", " (units.map Launcher.unit)

/-- `install.launcher-quarantine-service-untrusted`. -/
def launcherServiceUntrusted (unit : Launcher) (error : String) : Finding where
  id := "install.launcher-quarantine-service-untrusted"
  severity := .error
  summary := "Active launcher cannot be safely stopped"
  detail := error
  evidence := [("unit", .text unit.unit)]

/-- `install.launcher-quarantine-socket-untrusted`. -/
def launcherSocketUntrusted (error : String) : Finding where
  id := "install.launcher-quarantine-socket-untrusted"
  severity := .error
  summary := "Docker socket cannot be safely quarantined"
  detail := error
  evidence := [("unit", .text dockerSocketUnit)]

/-- `install.launcher-quarantine-unverified`, without its evidence. -/
def launcherQuarantineUnverified : Finding where
  id := "install.launcher-quarantine-unverified"
  severity := .error
  summary := "Launchers are not persistently quarantined"
  detail :=
    "Every launcher must be observably inactive and masked " ++
    "before the transaction can continue."

/-- `launcher-commit.quarantine-unverified`, without its evidence. -/
def launcherCommitUnverified (idle : Bool) : Finding where
  id := "launcher-commit.quarantine-unverified"
  severity := .error
  summary := "Failed launcher commit is not fully quarantined"
  detail :=
    if idle then "One or more launchers could not be re-masked."
    else
      "All four launchers were re-masked, but the fresh service/" ++
      "workload proof did not establish a completely idle boundary."
  remediation := some
    ("Keep the node drained and rerun the exact private snapshot " ++
      "rollback before releasing any launcher.")

/-- `gpu-services.requiesce-failed`: the finding with the errors of the guard. -/
def requiesceFailed (errors : List String) : Finding where
  id := "gpu-services.requiesce-failed"
  severity := .error
  summary := "Trusted NVIDIA services could not be safely re-quiesced"
  detail := Text.join "; " errors
  remediation := some
    ("Isolate the node and inspect only the originally-active " ++
      "trusted services before applying the private rollback snapshot.")

end Finding

variable {ε : Type}

/-- The finding of a validation that refuses, and none of one that accepts. -/
def refusalFinding {α : Type} (verdict : Except String α)
    (finding : String → Finding) : Option Finding :=
  match verdict with
  | .ok _ => none
  | .error error => some (finding error)

theorem refusal_finding_eq_none {α : Type} {verdict : Except String α}
    {finding : String → Finding} :
    refusalFinding verdict finding = none ↔ accepts verdict = true := by
  cases verdict <;> simp [refusalFinding, accepts]

/-- The trust validation of one launcher; an inert unit passes. -/
def validateLauncher (unit : Launcher) : HostProgram ε (List CommandResult × Option Finding) :=
  if unit = .dockerSocket then do
    let reply : TrustReply (Option TrustedDockerSocketIdentity) ← ask (.validateSocket true)
    pure (reply.results, refusalFinding reply.verdict .launcherSocketUntrusted)
  else do
    let reply : TrustReply Unit ← ask (.validateService unit true)
    pure (reply.results, refusalFinding reply.verdict (.launcherServiceUntrusted unit))

/-- The joint validations, up to the first refusal. -/
def validateLaunchers : List Launcher → HostProgram ε (List CommandResult × Option Finding)
  | [] => pure ([], none)
  | unit :: units => do
      let (results, refused) ← validateLauncher unit
      match refused with
      | some finding => pure (results, some finding)
      | none => do
          let (more, refused) ← validateLaunchers units
          pure (results ++ more, refused)

/-- The quarantines, up to the first with a failed result. -/
def quarantineLaunchers : List Launcher → HostProgram ε (List CommandResult)
  | [] => pure []
  | unit :: units => do
      let results ← quarantineServiceForRollback unit
      if commandsSucceeded results then do
        let more ← quarantineLaunchers units
        pure (results ++ more)
      else pure results

/-- The order in which the joint validations ask about the launchers. -/
def validationOrder : List Launcher :=
  [.dockerService, .nvidiaPersistenced, .fabricManager, .dockerSocket]

/-- The audit shows the unit inactive and masked. -/
def UnitState.isQuarantined (state : UnitState) : Bool :=
  state.active == some false && state.unitFileState == some .masked

/-- The verdict of the fresh audit over all launchers. -/
def deferredBoundary (fresh : HostAudit) (validation quarantine : List CommandResult) : Boundary :=
  let safe := serviceStopOrder.all fun unit => (fresh.launchers.of unit).isQuarantined
  if commandsSucceeded quarantine = false ∨ safe = false then
    { ok := false, audit := fresh, results := validation ++ quarantine
      findings := [.launcherQuarantineUnverified] }
  else { ok := true, audit := fresh, results := validation ++ quarantine }

/-- `_defer_launcher_enablement`: mask and stop all four launchers, unless one is unknown or
refused. -/
def deferLauncherEnablement (audit : HostAudit) : HostProgram ε Boundary := do
  let unknown := serviceStopOrder.filter fun unit => (audit.launchers.of unit).unitFileState = none
  if unknown ≠ [] then
    pure { ok := false, audit, findings := [.launcherEnablementUnknown unknown] }
  else do
    let (validation, refused) ← validateLaunchers validationOrder
    match refused with
    | some finding => pure { ok := false, audit, results := validation, findings := [finding] }
    | none => do
        let quarantine ← quarantineLaunchers serviceStopOrder
        let fresh : HostAudit ← ask .audit
        pure (deferredBoundary fresh validation quarantine)

/-- `_quarantine_failed_maintenance_gate`: audit the host again and defer the launchers as found. -/
def quarantineFailedMaintenanceGate : HostProgram ε Boundary := do
  let audit : HostAudit ← ask .audit
  deferLauncherEnablement audit

/-- One unit of `requiesce`: its results and its error. -/
def requiesceUnit (unit : Launcher) : HostProgram ε (List CommandResult × Option String) := do
  let (results, observed) ← ask (.observeTrusted unit)
  match observed with
  | .error error => pure (results, some error)
  | .ok false => pure (results, none)
  | .ok true => do
      let stopped : CommandResult ← ask (.systemctl .stop unit)
      if stopped.succeeded then do
        let (more, observed) ← ask (.observeTrusted unit)
        pure (results ++ [stopped] ++ more,
          match observed with
          | .error error => some error
          | .ok false => none
          | .ok true => some (unit.unit ++ " remained active after re-quiesce"))
      else pure (results ++ [stopped], some ("could not re-quiesce " ++ unit.unit ++ ": " ++
        commandError "systemctl stop failed" stopped))

/-- `TrustedGpuServiceGuard.requiesce`, over the units of the guard. -/
def requiesceUnits : List Launcher → HostProgram ε (List CommandResult × List String)
  | [] => pure ([], [])
  | unit :: units => do
      let (results, error) ← requiesceUnit unit
      let (more, errors) ← requiesceUnits units
      pure (results ++ more, error.toList ++ errors)

/-- One unit of `quiesce_trusted_gpu_services`: its results and its error. -/
def quiesceUnit (unit : Launcher) : HostProgram ε (List CommandResult × Option String) := do
  let (results, observed) ← ask (.observeTrusted unit)
  match observed with
  | .error error => pure (results, some error)
  | .ok false => pure (results, none)
  | .ok true => do
      let stopped : CommandResult ← ask (.systemctl .stop unit)
      if stopped.succeeded then do
        let (again, observed) ← ask (.observeTrusted unit)
        pure (results ++ [stopped] ++ again,
          match observed with
          | .error error => some error
          | .ok false => none
          | .ok true => some (unit.unit ++ " remained active after systemctl stop"))
      else pure (results ++ [stopped], some ("could not quiesce " ++ unit.unit ++ ": " ++
        commandError "systemctl stop failed" stopped))

theorem issues_quiesce_unit (unit : Launcher) :
    Issues (HostOp.concerns unit) (quiesceUnit unit : HostProgram ε _) := by
  refine issues_ask rfl fun ⟨results, observed⟩ => ?_
  rcases observed with error | (_ | _)
  · exact Program.issues_pure _
  · exact Program.issues_pure _
  · refine issues_ask rfl fun stopped => ?_
    show Issues _ (if stopped.succeeded = true then _ else _)
    split
    · exact issues_ask rfl fun _ => Program.issues_pure _
    · exact Program.issues_pure _

/-- `quiesce_trusted_gpu_services` with `restore_on_failure=False`, up to the first error. -/
def quiesceTrustedGpuServices : List Launcher → HostProgram ε (List CommandResult × Option String)
  | [] => pure ([], none)
  | unit :: units => do
      let (results, error) ← quiesceUnit unit
      match error with
      | some error => pure (results, some error)
      | none => do
          let (more, error) ← quiesceTrustedGpuServices units
          pure (results ++ more, error)

/-- `TRUSTED_GPU_SERVICES`: the units that a guard may stop and start. -/
def trustedGpuServices : List Launcher :=
  [.fabricManager, .nvidiaPersistenced]

/-- `_quarantine_failed_launcher_commit`; `guard` has the units of the guard's specs. -/
def quarantineFailedLauncherCommit (guard : Option (List Launcher)) : HostProgram ε Boundary := do
  let (_, errors) ← requiesceUnits (guard.getD [])
  let audit : HostAudit ← ask .audit
  let boundary ← deferLauncherEnablement audit
  let (probe, workloads) ← ask (.probe boundary.audit)
  let idle := workloads == some []
  let requiesced := if errors = [] then [] else [Finding.requiesceFailed errors]
  let unverified := if boundary.ok && idle then [] else [Finding.launcherCommitUnverified idle]
  pure
    { ok := false, audit := boundary.audit, results := boundary.results ++ [probe]
      findings := requiesced ++ boundary.findings ++ unverified }

end NvidiaConverge
