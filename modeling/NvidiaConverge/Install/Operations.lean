import NvidiaConverge.Install.Reboot
import NvidiaConverge.Launchers.Guard
import NvidiaConverge.Library.Embed
import NvidiaConverge.Planning.MigExecution

/-!
# The operations of an install

What an applied install asks of its host, and the phases that it goes through more than once: the
maintenance gate, the checkpoint before a GPU mutation, and the check of a fresh boundary. Every
operation may raise; its answer is then missing.
-/

namespace NvidiaConverge

/-! ## Operations -/

/-- The phases whose commands come from plan actions. -/
inductive ActionPhase where
  /-- The packages and whatever else precedes the module. -/
  | packages
  /-- The removal of MIG instances before a module reset. -/
  | teardown
  /-- The configuration of Docker. -/
  | docker
  deriving DecidableEq

/-- `release_target` of an install: which state the launchers are released to. -/
inductive ReleaseTarget where
  | installTarget | rollbackBaseline
  deriving DecidableEq

/-- What `_commit_rollback_service_activity` returns, adds to the report, and makes of the guard. -/
structure LauncherCommit where
  released : Bool
  audit : HostAudit
  entries : ReportEntries
  guard : Option Guard

/-- An operation of an applied install on the host: a check, an observation or a change. -/
inductive InstallOp where
  /-- An operation of the launcher code, of the guard, or `audit_host`. -/
  | launcher (op : HostOp)
  /-- `preflight_package_install`. -/
  | preflightInstall (audit : HostAudit)
  /-- `resolved_forward_payload_packages`. -/
  | forwardPackages (manager : PackageManager) (results : List CommandResult)
  /-- `_create_snapshot_with_evidence`, up to the durable binding. -/
  | createSnapshot (audit : HostAudit) (forward : List PackageInfo)
  /-- `preflight_staged_forward_transaction`. -/
  | preflightStaged (audit : HostAudit) (plan : List PlanAction)
  /-- `preflight_snapshot_restore_availability`. -/
  | preflightRestore
  /-- `preflight_package_rollback`. -/
  | preflightRollback (audit : HostAudit)
  /-- `verify_rollback`. -/
  | verifyRollback (audit : HostAudit) (services : Bool)
  /-- `runner.run(command, mutate=True, allow_fail=True)` of a plan action. -/
  | action (phase : ActionPhase) (command : List String)
  /-- `nvidia_module_unload_order`. -/
  | moduleOrder
  /-- `runner.exists`. -/
  | available (executable : String)
  /-- `runner.run(["modprobe", ...], mutate=True, allow_fail=True)`. -/
  | modprobe (arguments : List String)
  /-- An operation of the MIG reconciliation. -/
  | mig (op : MigOp)
  /-- `verify_stack`. -/
  | verifyStack (audit : HostAudit) (docker fabricManager : Bool)
  /-- `_append_launcher_release_authorization`. -/
  | authorizeRelease (target : ReleaseTarget)
  /-- `_commit_rollback_service_activity`. -/
  | commitLaunchers (target : RollbackSnapshot) (audit : HostAudit) (guard : Option Guard)
  /-- `docker rm --force` of a probe container. -/
  | removeProbe (name : String)
  /-- `_probe_named_container_absence`. -/
  | probeAbsence (name : String)
  /-- An operation of `apply_rollback`. -/
  | rollback (op : RollbackOp)
  /-- `_emergency_quarantine_launchers`. -/
  | emergencyQuarantine

/-- The type of what each operation answers where it does not raise. -/
@[reducible] def InstallOp.Answer : InstallOp → Type
  | .launcher op => op.Reply
  | .preflightInstall _ => Except SolverRefusal (List CommandResult)
  | .forwardPackages _ _ => Except SolverRefusal (List PackageInfo)
  | .createSnapshot _ _ => Except String (RollbackSnapshot × CommandResult)
  | .preflightStaged _ _ => Except SolverRefusal (List CommandResult)
  | .preflightRestore => Except SolverRefusal (List CommandResult)
  | .preflightRollback _ => Except SolverRefusal (List CommandResult)
  | .verifyRollback _ _ => List ReportedCheck
  | .action _ _ => CommandResult
  | .moduleOrder => Except String (List String)
  | .available _ => Bool
  | .modprobe _ => CommandResult
  | .mig op => op.Reply
  | .verifyStack _ _ _ => List ReportedCheck
  | .authorizeRelease _ => Unit
  | .commitLaunchers _ _ _ => LauncherCommit
  | .removeProbe _ => CommandResult
  | .probeAbsence _ => CommandResult
  | .rollback op => op.Reply
  | .emergencyQuarantine => Unit

/-- The answer; there is none when the operation raises. -/
@[reducible] def InstallOp.Reply (op : InstallOp) : Type :=
  Option op.Answer

/-- An early end: a `return 2` behind the report, or an exception. -/
inductive InstallExit where
  | refused (report : InstallReport)
  | raised

/-- A part of an applied install, which returns, ends early or raises. -/
abbrev InstallProgram := Program InstallOp InstallOp.Reply InstallExit

/-- Issue one operation. Where it raises, so does the program. -/
def attempt (op : InstallOp) : InstallProgram op.Answer :=
  .issue op fun
    | some answer => .done answer
    | none => .raise .raised

/-- A program of a part, whose operations may raise. -/
def attempts {ω : Type} {ρ : ω → Type} {ε α : Type} (whole : ω → InstallOp)
    (read : (op : ω) → (whole op).Answer → ρ op) : Program ω ρ ε α → InstallProgram α
  | .done value => .done value
  | .raise _ => .raise .raised
  | .issue op next => .issue (whole op) fun
      | some answer => attempts whole read (next (read op answer))
      | none => .raise .raised

/-- A program of the launcher code, inside the install. -/
def launchers {α : Type} : HostProgram Empty α → InstallProgram α :=
  attempts InstallOp.launcher fun _ answer => answer

/-- A method of the guard; an exception leaves it. -/
def guarded {α : Type} (program : GuardProgram α) : InstallProgram α :=
  (program.embed (fun operation : GuardOp => InstallOp.launcher operation.op)
    fun _ reply => reply).handle fun _ => .raise .raised

/-- `audit_host`: a fresh audit of the host. -/
def auditHost : InstallProgram HostAudit :=
  attempt (.launcher .audit)

/-- `probe_active_gpu_workloads`: the probe for work that runs on a GPU. -/
def probeWorkloads (audit : HostAudit) : InstallProgram (CommandResult × Option (List String)) :=
  attempt (.launcher (.probe audit))

/-- The emergency quarantine behind an exception, which goes on. -/
def orEmergency {α : Type} (program : InstallProgram α) : InstallProgram α :=
  program.handle fun
    | .refused report => .raise (.refused report)
    | .raised => do
        attempt .emergencyQuarantine
        .raise .raised

/-! ## The maintenance gate -/

/-- The arguments of an applied install, besides the host. -/
structure InstallRequest where
  desired : DesiredState
  allowDisruption : Bool
  allowActiveWorkloads : Bool

/-- `_MaintenanceGateOutcome`: the guard of the gate, its results and its findings. -/
structure GateOutcome where
  guard : Option Guard := none
  results : List CommandResult
  findings : List Finding

/-- `_requiesce_services_for_compensation`: stop the guard's services again, and report where that
fails. -/
def requiesceServices (findings : List Finding) :
    Option Guard → InstallProgram (Bool × ReportEntries × Option Guard)
  | none => pure (true, {}, none)
  | some guard => do
      let (guard, quiesced) ← guarded guard.requiesce
      let reported := findings.any (·.id == "gpu-services.requiesce-failed")
      let entries : ReportEntries :=
        if quiesced || reported then {} else (Finding.requiesceFailed guard.requiesceErrors).entries
      pure (quiesced, entries, some guard)

/-- What `_pre_gpu_mutation_checkpoint` returns, adds to the report, and makes of the guard. -/
structure Checkpoint where
  ok : Bool
  audit : HostAudit
  entries : ReportEntries
  guard : Option Guard

/-- The entries of a finding where a condition holds, and none otherwise. -/
def entriesIf (condition : Bool) (finding : Finding) : ReportEntries :=
  if condition then finding.entries else {}

namespace InstallRequest

variable (request : InstallRequest)

/-- `workloads and not args.allow_active_workloads`. -/
def blockedBy (workloads : List String) : Bool :=
  !workloads.isEmpty && !request.allowActiveWorkloads

/-- The finding of a workload probe at a gate. -/
def workloadFinding : Option (List String) → List Finding
  | none => [.workloadsUnknown]
  | some workloads => if request.blockedBy workloads then [.workloadsActive workloads] else []

/-- `_maintenance_gate` with `quiesce_services=False`. -/
def authorizationGate (audit : HostAudit) (disruptive : List PlanAction) :
    InstallProgram GateOutcome := do
  let (probe, workloads) ← probeWorkloads audit
  if request.allowDisruption then
    pure { results := [probe], findings := request.workloadFinding workloads }
  else pure { results := [probe], findings := [.maintenanceWindowRequired disruptive] }

/-- The gate behind the quiescing of the trusted services. -/
def quiescedGate (audit : HostAudit) (guard : Guard) : InstallProgram GateOutcome :=
  if guard.error = none ∧ guard.restoreErrors = [] ∧ guard.requiesceErrors = [] then do
    let (probe, workloads) ← orEmergency (probeWorkloads audit)
    pure
      { guard := some guard, results := guard.results ++ [probe]
        findings := request.workloadFinding workloads }
  else
    pure
      { guard := some guard, results := guard.results, findings := [.quiesceFailed guard.error] }

/-- `quiesce_trusted_gpu_services`: stop the trusted services under a new guard. -/
def quiesceServices : InstallProgram Guard := do
  let systemctl ← attempt (.available "systemctl")
  guarded (Guard.quiesce systemctl trustedGpuServices false)

/-- `_maintenance_gate`: stop the trusted services where disruption is allowed, and only report what
runs where it is not. -/
def maintenanceGate (audit : HostAudit) (disruptive : List PlanAction) :
    InstallProgram GateOutcome :=
  if request.allowDisruption then do
    let guard ← orEmergency quiesceServices
    request.quiescedGate audit guard
  else do
    let (probe, _) ← probeWorkloads audit
    pure { results := [probe], findings := [.maintenanceWindowRequired disruptive] }

/-! ## The checkpoint before a GPU mutation -/

/-- The verdict of the checkpoint, by its two probes and its boundary. -/
def concludeCheckpoint (quiesced : Bool) (requiesced : ReportEntries) (audit : HostAudit)
    (probe : CommandResult × Option (List String)) (boundary : Boundary)
    (reprobe : CommandResult × Option (List String)) (guard : Option Guard) : Checkpoint :=
  let unknown := (audit.launchers.of .dockerSocket).active == none ||
    (audit.launchers.of .dockerService).active == none
  let unobserved := probe.2 == none || reprobe.2 == none
  let blocked := probe.2.any request.blockedBy || reprobe.2.any request.blockedBy
  { ok := quiesced && !unknown && boundary.ok && !unobserved && !blocked
    audit := boundary.audit
    entries := requiesced ++ entriesIf unknown .dockerStateUnknown ++
      { results := [probe.1] } ++ boundary.entries ++ { results := [reprobe.1] } ++
      entriesIf unobserved .preGpuWorkloadsUnknown ++ entriesIf blocked .preGpuWorkloadsActive
    guard := guard }

/-- `_pre_gpu_mutation_checkpoint`: stop and quarantine every launcher, with a probe before and
behind. -/
def preGpuMutationCheckpoint (findings : List Finding) (guard : Option Guard) :
    InstallProgram Checkpoint := do
  let (quiesced, requiesced, guard) ← requiesceServices findings guard
  let audit ← auditHost
  let probe ← probeWorkloads audit
  let boundary ← launchers (deferLauncherEnablement audit)
  let reprobe ← probeWorkloads boundary.audit
  pure (request.concludeCheckpoint quiesced requiesced audit probe boundary reprobe guard)

end InstallRequest

/-! ## The check of a fresh boundary -/

/-- The boundaries of an install, at which the GPUs and the launchers are checked. -/
inductive BoundaryName where
  | prePackage | postPackage | preMutation | postModule | preServiceCommit
  deriving DecidableEq

/-- The spelling of a boundary in messages. -/
def BoundaryName.text : BoundaryName → String
  | .prePackage => "pre-package"
  | .postPackage => "post-package"
  | .preMutation => "pre-mutation"
  | .postModule => "post-module"
  | .preServiceCommit => "pre-service-commit"

namespace Finding

/-- `install.<boundary>.package-inventory-incomplete`. -/
def boundaryInventoryIncomplete (boundary : BoundaryName) : Finding :=
  failure ("install." ++ boundary.text ++ ".package-inventory-incomplete")
    "Fresh package inventory is incomplete"
    ("The " ++ boundary.text ++ " audit cannot prove the exact installed " ++
      "package state, so the transaction cannot continue.")

/-- `install.pre-package.snapshot-baseline-changed`. -/
def snapshotBaselineChanged (failed : List String) : Finding :=
  failure "install.pre-package.snapshot-baseline-changed"
    "The rollback baseline changed before host mutation"
    ("The fresh post-quarantine audit no longer matches the " ++
      "private snapshot: " ++ Text.join ", " failed)
    (some ("Keep the node drained, investigate the concurrent state " ++
      "change, and restart convergence from a fresh snapshot."))

/-- `install.<boundary>.gpu-inventory-changed`. -/
def gpuInventoryChanged (boundary : BoundaryName) (snapshot observed : List String) : Finding :=
  { failure ("install." ++ boundary.text ++ ".gpu-inventory-changed")
      "GPU identity changed during convergence"
      ("The " ++ boundary.text ++ " GPU UUID inventory differs from the " ++
        "private rollback snapshot.") with
    evidence := [("snapshot", .texts snapshot), ("observed", .texts observed)] }

/-- `install.pre-service-commit.docker-not-quiesced`. -/
def launchersNotQuarantined : Finding :=
  failure "install.pre-service-commit.docker-not-quiesced"
    "Launchers are not quarantined before core verification"
    ("Every launcher must be observably inactive and masked " ++
      "before launcher commit begins.")

end Finding

/-- The audit shows every launcher inactive and masked. -/
def HostAudit.launchersQuarantined (audit : HostAudit) : Bool :=
  serviceStopOrder.all fun unit => (audit.launchers.of unit).isQuarantined

/-- The verdict on the GPUs and the launchers at a boundary. -/
def boundaryVerdict (snapshot : RollbackSnapshot) (audit : HostAudit) (boundary : BoundaryName) :
    Bool × ReportEntries :=
  if snapshot.gpuUuids = [] ∨ audit.gpuUuids ≠ snapshot.gpuUuids then
    (false, (Finding.gpuInventoryChanged boundary snapshot.gpuUuids audit.gpuUuids).entries)
  else if audit.launchersQuarantined then (true, {})
  else (false, Finding.launchersNotQuarantined.entries)

/-- The check before the packages, which compares the host with the snapshot. -/
def baselineVerdict (snapshot : RollbackSnapshot) (audit : HostAudit)
    (checks : List ReportedCheck) :
    Bool × ReportEntries :=
  let entries : ReportEntries :=
    { checks := checks.map fun check =>
      { check with name := "install.pre-package." ++ check.name } }
  let failed := (checks.filter fun check => !check.ok).map (·.name)
  if failed = [] then
    let verdict := boundaryVerdict snapshot audit .prePackage
    (verdict.1, entries ++ verdict.2)
  else (false, entries ++ (Finding.snapshotBaselineChanged failed).entries)

/-- `_fresh_gpu_boundary_is_safe`: the audit is complete and shows the same GPUs and no launcher. -/
def freshGpuBoundaryIsSafe (snapshot : RollbackSnapshot) (audit : HostAudit)
    (boundary : BoundaryName) : InstallProgram (Bool × ReportEntries) :=
  if audit.packageInventoryComplete = false then
    pure (false, (Finding.boundaryInventoryIncomplete boundary).entries)
  else if boundary = .prePackage then do
    let checks ← attempt (.verifyRollback audit false)
    pure (baselineVerdict snapshot audit checks)
  else pure (boundaryVerdict snapshot audit boundary)

end NvidiaConverge
