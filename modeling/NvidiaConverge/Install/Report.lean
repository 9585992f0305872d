import NvidiaConverge.Launchers.Defer
import NvidiaConverge.Planning.Doctor
import NvidiaConverge.Rollback.Apply

/-!
# The report of an install

The fields of `Report` that an applied install reads, what its phases add to them, and the status
that `_install_status` derives. A phase only adds (`ReportEntries`); the one place that takes
findings away keeps those of the operation (`InstallReport.rediagnose`).
-/

namespace NvidiaConverge

/-! ## Entries -/

/-- `Verification`, with the command that it ran. -/
structure ReportedCheck extends Verification where
  command : Option CommandResult := none

/-- What a phase adds to a report: results, checks and findings. -/
structure ReportEntries where
  results : List CommandResult := []
  checks : List ReportedCheck := []
  findings : List Finding := []

namespace ReportEntries

/-- The entries of one phase and then those of another. -/
def append (entries more : ReportEntries) : ReportEntries where
  results := entries.results ++ more.results
  checks := entries.checks ++ more.checks
  findings := entries.findings ++ more.findings

instance : Append ReportEntries := ⟨append⟩

@[simp] theorem append_results (entries more : ReportEntries) :
    (entries ++ more).results = entries.results ++ more.results :=
  rfl

@[simp] theorem append_checks (entries more : ReportEntries) :
    (entries ++ more).checks = entries.checks ++ more.checks :=
  rfl

@[simp] theorem append_findings (entries more : ReportEntries) :
    (entries ++ more).findings = entries.findings ++ more.findings :=
  rfl

end ReportEntries

/-- A finding alone, as entries of a report. -/
abbrev Finding.entries (finding : Finding) : ReportEntries where
  findings := [finding]

/-- What `_defer_launcher_enablement` adds to a report. -/
abbrev Boundary.entries (boundary : Boundary) : ReportEntries where
  results := boundary.results
  findings := boundary.findings

/-- `_append_preflight_verification`: the check of a preflight, one for each of its results. -/
def preflightChecks (name detail : String) (ok : Bool) (results : List CommandResult) :
    ReportEntries where
  checks :=
    if results = [] then [{ name, ok, detail := some detail }]
    else results.map fun result => { name, ok, detail := some detail, command := some result }

/-! ## The report -/

/-- `Report`, as far as an applied install reads it. -/
structure InstallReport where
  plan : List PlanAction := []
  findings : List Finding := []
  verification : List ReportedCheck := []
  commandResults : List CommandResult := []
  rollback : Option RollbackSnapshot := none

/-- `finding.severity.value == "error"`: the finding is an error. -/
def Finding.isError (finding : Finding) : Bool :=
  finding.severity == .error

namespace InstallReport

variable (report : InstallReport)

/-- The report with what a phase adds behind its entries. -/
def add (entries : ReportEntries) : InstallReport where
  plan := report.plan
  findings := report.findings ++ entries.findings
  verification := report.verification ++ entries.checks
  commandResults := report.commandResults ++ entries.results
  rollback := report.rollback

@[simp] theorem add_findings (entries : ReportEntries) :
    (report.add entries).findings = report.findings ++ entries.findings :=
  rfl

@[simp] theorem add_results (entries : ReportEntries) :
    (report.add entries).commandResults = report.commandResults ++ entries.results :=
  rfl

@[simp] theorem add_rollback (entries : ReportEntries) :
    (report.add entries).rollback = report.rollback :=
  rfl

/-- The prefixes of the findings that a new diagnosis keeps. -/
def operationPrefixes : List String :=
  ["gpu-services.", "gpu-workloads.", "install.", "launcher-commit."]

/-- `operation_findings`: the findings about the operation itself, which a new diagnosis keeps. -/
def operationFindings : List Finding :=
  report.findings.filter fun finding =>
    operationPrefixes.any (Text.startsWith finding.id ·)

/-- `[*diagnose(desired, audit), *operation_findings]`. -/
def rediagnose (desired : DesiredState) (audit : HostAudit) : InstallReport :=
  { report with findings := diagnose desired audit ++ report.operationFindings }

@[simp] theorem rediagnose_results (desired : DesiredState) (audit : HostAudit) :
    (report.rediagnose desired audit).commandResults = report.commandResults :=
  rfl

@[simp] theorem rediagnose_rollback (desired : DesiredState) (audit : HostAudit) :
    (report.rediagnose desired audit).rollback = report.rollback :=
  rfl

/-- `_install_status`: 0 where every result and check succeeded and no finding is an error. -/
def installStatus : Nat :=
  if commandsSucceeded report.commandResults = true ∧
      report.verification.all (·.ok) = true ∧ report.findings.any Finding.isError = false then 0
  else 2

/-- `_install_target_verified`: the same, with at least one check. -/
def installTargetVerified : Bool :=
  !report.verification.isEmpty && commandsSucceeded report.commandResults &&
    report.verification.all (·.ok) && !report.findings.any Finding.isError

/-- An error of the install itself, which every later diagnosis keeps. -/
def Condemned : Prop :=
  ∃ finding ∈ report.findings, finding.isError = true ∧ Text.startsWith finding.id "install." = true

variable {report}

theorem Condemned.add (h : report.Condemned) (entries : ReportEntries) :
    (report.add entries).Condemned := by
  obtain ⟨finding, hmem, herror, hid⟩ := h
  exact ⟨finding, List.mem_append_left _ hmem, herror, hid⟩

theorem condemned_of_entries {entries : ReportEntries}
    (h : ∃ finding ∈ entries.findings, finding.isError = true ∧
      Text.startsWith finding.id "install." = true) : (report.add entries).Condemned := by
  obtain ⟨finding, hmem, herror, hid⟩ := h
  exact ⟨finding, List.mem_append_right _ hmem, herror, hid⟩

theorem Condemned.rediagnose (h : report.Condemned) (desired : DesiredState) (audit : HostAudit) :
    (report.rediagnose desired audit).Condemned := by
  obtain ⟨finding, hmem, herror, hid⟩ := h
  refine ⟨finding, List.mem_append_right _ (List.mem_filter.mpr ⟨hmem, ?_⟩), herror, hid⟩
  exact List.any_eq_true.mpr ⟨"install.", by simp [operationPrefixes], hid⟩

/-- A report that is condemned has no successful status. -/
theorem Condemned.status (h : report.Condemned) : report.installStatus ≠ 0 := by
  obtain ⟨finding, hmem, herror, -⟩ := h
  have hany : report.findings.any Finding.isError = true :=
    List.any_eq_true.mpr ⟨finding, hmem, herror⟩
  rw [installStatus, if_neg fun hall => by rw [hany] at hall; exact Bool.noConfusion hall.2.2]
  omega

end InstallReport

/-! ## Findings -/

namespace Finding

/-- A finding that is an error and stops the operation. -/
def failure (id summary detail : String) (remediation : Option String := none) : Finding where
  id := id
  severity := .error
  summary := summary
  detail := detail
  remediation := remediation

/-- `"; ".join(action.reason or action.description for action in actions)`. -/
def reasons (actions : List PlanAction) : String :=
  Text.join "; " (actions.map fun action =>
    match action.reason with
    | some reason => if reason = "" then action.description else reason
    | none => action.description)

/-- `plan.unsupported`: no recipe for this host is safe. -/
def planUnsupported (actions : List PlanAction) : Finding :=
  failure "plan.unsupported" "No safe package recipe is available for this host" (reasons actions)

/-- `maintenance-window.required`: the plan is disruptive, and no disruption is allowed. -/
def maintenanceWindowRequired (disruptive : List PlanAction) : Finding :=
  failure "maintenance-window.required"
    "Disruptive convergence requires an explicit maintenance window"
    ("The applied plan contains: " ++ Text.join ", " (disruptive.map (·.id)))
    (some "Drain the node, then rerun with --allow-disruption.")

/-- `gpu-workloads.unknown`: the probe could not observe everything. -/
def workloadsUnknown : Finding :=
  failure "gpu-workloads.unknown" "Active GPU workloads could not be determined"
    ("The compute-process, GPU-device-user, or Docker GPU-allocation " ++
      "inventory was not fully observable.")
    (some "Repair nvidia-smi workload observability before disruptive convergence.")

/-- `gpu-workloads.active`: work runs on a GPU that was not acknowledged. -/
def workloadsActive (workloads : List String) : Finding :=
  failure "gpu-workloads.active" "Active GPU workloads block disruptive convergence"
    ("Observed GPU workloads: " ++ Text.join ", " workloads)
    (some "Drain the GPU workloads or explicitly use --allow-active-workloads.")

/-- `gpu-services.quiesce-failed`: the trusted services could not be stopped. -/
def quiesceFailed (error : Option String) : Finding :=
  failure "gpu-services.quiesce-failed" "Trusted NVIDIA services could not be safely quiesced"
    (match error with
      | some text => if text = "" then "Trusted NVIDIA service state was not observable." else text
      | none => "Trusted NVIDIA service state was not observable.")
    (some ("Repair the exact systemd unit, executable, and cgroup binding " ++
      "for Fabric Manager or NVIDIA Persistence Daemon before retrying."))

/-- `packages.preflight.failed`, without its evidence. -/
def packagesPreflightFailed (text : String) : Finding :=
  failure "packages.preflight.failed" "Package repository preflight failed" text
    (some ("Refresh package metadata and ensure every planned NVIDIA, " ++
      "Docker, and operating-system package is available from a " ++
      "configured repository before retrying."))

/-- `snapshot.failed`: the snapshot could not be persisted. -/
def snapshotFailed (text : String) : Finding :=
  failure "snapshot.failed" "Pre-install rollback snapshot failed" text

/-- `packages.payload-binding-failed`: the plan could not be bound to its payloads. -/
def payloadBindingFailed (text : String) : Finding :=
  failure "packages.payload-binding-failed" "Forward package payload binding failed" text

/-- `packages.staged-local-preflight-failed`, without its evidence. -/
def stagedPreflightFailed (text : String) : Finding :=
  failure "packages.staged-local-preflight-failed" "Staged local package transaction failed" text

/-- `rollback.baseline-preflight.failed`, without its evidence. -/
def baselinePreflightFailed (text : String) : Finding :=
  failure "rollback.baseline-preflight.failed" "Exact rollback baseline is unavailable" text
    (some ("Repair or restore the original private snapshot and its paired " ++
      "retained payload bundle, or restart with a fresh snapshot before " ++
      "any mutation."))

/-- `install.pre-gpu-docker-state-unknown`: Docker could not be observed. -/
def dockerStateUnknown : Finding :=
  failure "install.pre-gpu-docker-state-unknown" "Docker state is unknown before GPU mutation"
    ("Package maintainer scripts may have changed Docker, but the " ++
      "socket/service active states could not both be observed.")
    (some "Keep the node drained and restore systemd observability before retrying.")

/-- `install.pre-gpu-workloads-unknown`: the second probe could not observe everything. -/
def preGpuWorkloadsUnknown : Finding :=
  failure "install.pre-gpu-workloads-unknown"
    "GPU workloads are not fully observable before mutation"
    ("The package/module boundary could not prove an idle GPU, so " ++
      "MIG and module preparation are refused.")

/-- `install.pre-gpu-workloads-active`: work has appeared on a GPU. -/
def preGpuWorkloadsActive : Finding :=
  failure "install.pre-gpu-workloads-active" "GPU workloads appeared before module/MIG mutation"
    "Observed GPU workloads were not explicitly acknowledged."
    (some ("Drain queued containers/processes or rerun with " ++
      "--allow-active-workloads after assessing disruption."))

/-- `install.post-quarantine-plan-unsupported`. -/
def freshPlanUnsupported (actions : List PlanAction) : Finding :=
  failure "install.post-quarantine-plan-unsupported" "Fresh transaction plan is unsupported"
    (reasons actions)

/-- `install.post-quarantine-payload-binding-failed`. -/
def freshBindingFailed (text : String) : Finding :=
  failure "install.post-quarantine-payload-binding-failed" "Fresh package payload binding failed"
    text

/-- `install.post-quarantine-preflight-failed`, without its evidence. -/
def freshPreflightFailed (text : String) : Finding :=
  failure "install.post-quarantine-preflight-failed" "Fresh target package preflight failed" text

/-- `install.post-quarantine-rollback-preflight-failed`, without its evidence. -/
def freshRollbackPreflightFailed (text : String) : Finding :=
  failure "install.post-quarantine-rollback-preflight-failed"
    "Fresh rollback package preflight failed" text

/-- `install.immediate-local-preflight-failed`, without its evidence. -/
def immediatePreflightFailed (text : String) : Finding :=
  failure "install.immediate-local-preflight-failed" "Immediate local package validation failed"
    text

/-- `install.post-package-mig-unsupported`: the module cannot be replaced under this MIG state. -/
def teardownUnsupported (actions : List PlanAction) : Finding :=
  failure "install.post-package-mig-unsupported"
    "Fresh MIG state cannot survive an exact module reset" (reasons actions)

/-- `install.post-module-mig-unsupported`: MIG cannot be brought to the desired state. -/
def reconciliationUnsupported (actions : List PlanAction) : Finding :=
  failure "install.post-module-mig-unsupported"
    "MIG cannot be reconciled after module preparation" (reasons actions)

/-- `install.target-reboot-pending-compensation-required`. -/
def rebootPendingCompensation : Finding :=
  failure "install.target-reboot-pending-compensation-required"
    "Unverified reboot-pending target will be compensated"
    ("The target stack cannot be verified in the current " ++
      "boot. The original private snapshot will be restored " ++
      "instead of carrying target drift across reboot.")

/-- `install.compensation.probe-container-lingering`. -/
def probeContainerLingering : Finding :=
  failure "install.compensation.probe-container-lingering"
    "The verification container could not be proven absent"
    ("Automatic rollback is refused because a uniquely named GPU " ++
      "probe container remained after a forced-removal retry.")
    (some ("Keep Docker and the node drained, remove the named probe " ++
      "container, then apply the original private snapshot."))

/-- `install.compensation.workloads-unknown`: the probe before the rollback could not observe
everything. -/
def compensationWorkloadsUnknown : Finding :=
  failure "install.compensation.workloads-unknown"
    "GPU workloads are not observable before automatic rollback"
    "The post-quiescence GPU workload inventory remained incomplete."
    (some ("Keep the node drained and restore workload observability " ++
      "before applying the private rollback snapshot."))

/-- `install.compensation.workloads-active`: work on a GPU blocks the rollback. -/
def compensationWorkloadsActive (workloads : List String) : Finding :=
  failure "install.compensation.workloads-active" "GPU workloads still block automatic rollback"
    ("Observed GPU workloads: " ++ Text.join ", " workloads)
    (some ("Keep the node drained, stop the named workloads, and apply " ++
      "the original private snapshot."))

/-- `install.compensation.inventory-incomplete`. -/
def compensationInventoryIncomplete : Finding :=
  failure "install.compensation.inventory-incomplete"
    "Automatic rollback requires a complete package inventory"
    ("The post-failure package inventory is incomplete, so an " ++
      "exact rollback delta cannot be derived safely.")
    (some ("Repair the package database while the node remains drained, " ++
      "then apply the original private rollback snapshot."))

/-- `install.compensation.preflight-failed`, without its evidence. -/
def compensationPreflightFailed (text : String) : Finding :=
  failure "install.compensation.preflight-failed" "Automatic rollback package preflight failed" text
    (some ("Restore the original private snapshot and its paired retained " ++
      "payload bundle while the node remains drained, then retry rollback."))

/-- `install.compensation.rollback-failed`, without its evidence. -/
def compensationRollbackFailed (detail : String) : Finding :=
  failure "install.compensation.rollback-failed" "Automatic rollback failed" detail
    (some ("Keep the node drained and complete rollback from the original " ++
      "private snapshot before restarting GPU services."))

/-- `install.compensation.succeeded`: the rollback restored the baseline. -/
def compensationSucceeded : Finding where
  id := "install.compensation.succeeded"
  severity := .warning
  summary := "Automatic rollback restored the pre-install baseline"
  detail :=
    "Convergence failed, but the exact private snapshot " ++
    "was reapplied and every modeled rollback invariant passed."

/-- `install.compensation.verification-failed`. -/
def compensationVerificationFailed (failed : List String) : Finding :=
  failure "install.compensation.verification-failed" "Automatic rollback could not be verified"
    (if failed = [] then "Trusted service state was not safely restored."
      else "Failed rollback checks: " ++ Text.join ", " failed)
    (some ("Keep the node drained and use the original private " ++
      "snapshot to complete and verify rollback."))

/-- `_rollback_reboot_recovery_finding` of a compensation, without its evidence. -/
def compensationRebootRequired (snapshotPath : String) : Finding where
  id := "install.compensation.reboot-required"
  severity := .warning
  summary := "Rollback is staged and requires a reboot"
  detail :=
    "All GPU launchers remain persistently masked. Reboot, then rerun " ++
    "the exact rollback command with the same private snapshot before " ++
    "re-enabling workloads."
  remediation := some
    ("nvidia-converge rollback --apply --allow-disruption --snapshot " ++ snapshotPath)

/-- `gpu-services.requiesce-failed`, where the services are kept quiesced. -/
def keptQuiescedFailed (errors : List String) : Finding :=
  failure "gpu-services.requiesce-failed"
    "Trusted NVIDIA services could not be proven quiesced" (Text.join "; " errors)
    (some ("Isolate the node and inspect only the named trusted systemd " ++
      "services before attempting any restart."))

/-- `gpu-services.intentionally-quiesced`: services that stay stopped behind a failure. -/
def intentionallyQuiesced (names : List String) : Finding :=
  failure "gpu-services.intentionally-quiesced"
    "Trusted NVIDIA services were not restarted after mutation failure"
    ("The stack may be inconsistent, so nvidia-converge intentionally " ++
      "did not restart: " ++ Text.join ", " names)
    (some ("Inspect and repair the failed package/module transaction before " ++
      "securely validating and restarting the named services."))

/-- `_install_mutation_failure_finding`, without its evidence. -/
def mutationFailed (results : List CommandResult) : Finding :=
  failure "install.mutation-failed" "Applied convergence failed"
    (if commandsSucceeded results then
      "Applied convergence could not prepare a healthy kernel-module " ++
        "stack; automatic rollback will use the pre-install snapshot."
    else
      "Applied convergence stopped after a mutating command failed; " ++
        "automatic rollback will use the pre-install snapshot.")

/-- `_install_verification_failure_finding`: the checks that the applied host did not pass. -/
def verificationFailed (report : InstallReport) : Finding where
  id := "install.verification-failed"
  severity := .error
  summary := "Post-convergence verification failed"
  detail :=
    "The applied host did not pass every non-deferrable convergence " ++
    "invariant; automatic rollback will use the pre-install snapshot."
  evidence :=
    [("failed_verifications",
        .texts ((report.verification.filter fun check => !check.ok).map (·.name))),
      ("error_findings", .texts ((report.findings.filter isError).map (·.id)))]
  remediation := some
    ("Keep the node drained until the compensating rollback is fully " ++
      "verified or the original private snapshot is applied manually.")

end Finding

end NvidiaConverge
