import NvidiaConverge.Install.Operations
import NvidiaConverge.Preflight.Staged

/-!
# The install transaction

The `install` branch of `_execute_command` with `--apply`: the plan and its authorization, the
snapshot and the package preflights, the quarantine, the phases that change the host, the release of
the launchers, and the compensation of an install that did not reach its target. A phase takes an
`InstallState` to the next one; `whileSucceeding` is `if phase_succeeded`.
-/

namespace NvidiaConverge

/-! ## Plans -/

/-- `[action for action in plan if action.id.startswith("unsupported.")]`. -/
def unsupportedActions (plan : List PlanAction) : List PlanAction :=
  plan.filter PlanAction.unsupported

/-- `[action for action in plan if action.destructive]`. -/
def disruptiveActions (plan : List PlanAction) : List PlanAction :=
  plan.filter (·.destructive)

/-- `teardown_action_id`: the action that tears MIG down. -/
def teardownActionId : String :=
  "prepare.mig-geometry-teardown"

/-- `mig_action_ids`: the actions that bring MIG to the desired state. -/
def migActionIds : List String :=
  ["disable.mig", "enable.mig", "configure.mig-geometry", "reconcile.mig-after-module"]

/-- `docker_action_ids`: the actions that configure Docker. -/
def dockerActionIds : List String :=
  ["service.docker", "configure.docker-runtime"]

/-- `deferred_action_ids`: the actions that have a phase of their own. -/
def deferredActionIds : List String :=
  ["snapshot.current-state", "prepare.module", "verify.stack", teardownActionId] ++ migActionIds ++
    dockerActionIds

/-- `pre_module_actions`: the actions that run before the module is touched. -/
def preModuleActions (plan : List PlanAction) : List PlanAction :=
  plan.filter fun action => !deferredActionIds.contains action.id

/-- The commands of these actions, in their order. -/
def preModuleCommands (plan : List PlanAction) : List (List String) :=
  (preModuleActions plan).flatMap (·.commands)

/-- `package_transaction_planned`: the plan runs commands for packages or locks. -/
def packageTransactionPlanned (plan : List PlanAction) : Bool :=
  (preModuleActions plan).any fun action =>
    ["install.packages", "lock.apt", "lock.rpm", "lock.zypper"].contains action.id &&
      action.commands.any (!·.isEmpty)

/-- `pre_gpu_mutation_planned`: the plan changes the module or MIG. -/
def preGpuMutationPlanned (plan : List PlanAction) : Bool :=
  plan.any fun action => ("prepare.module" :: teardownActionId :: migActionIds).contains action.id

/-- `_docker_configuration_actions`: the Docker actions without their `systemctl` commands. -/
def dockerConfigurationActions (plan : List PlanAction) : List PlanAction :=
  (plan.filter fun action => dockerActionIds.contains action.id).filterMap fun action =>
    let commands := action.commands.filter fun command => command.head? != some "systemctl"
    if commands = [] then none else some { action with commands }

/-- `_replace_applied_mig_plan` and `_replace_applied_teardown_plan`: the actions with these
identifiers give way to the replacements, at the place of the first of them, or else before the
first action with one of the other identifiers. -/
def replacePlanned (ids before : List String) (plan replacements : List PlanAction) :
    List PlanAction :=
  let index := match plan.findIdx? (fun action => ids.contains action.id) with
    | some index => index
    | none => (plan.findIdx? fun action => before.contains action.id).getD plan.length
  let rest := plan.filter fun action => !ids.contains action.id
  rest.take index ++ replacements ++ rest.drop index

/-- `_replace_applied_mig_plan`: the plan with the MIG actions of a fresh one. -/
def replaceAppliedMigPlan : List PlanAction → List PlanAction → List PlanAction :=
  replacePlanned migActionIds dockerActionIds

/-- `_replace_applied_teardown_plan`: the plan with the teardown of a fresh one. -/
def replaceAppliedTeardownPlan : List PlanAction → List PlanAction → List PlanAction :=
  replacePlanned [teardownActionId] ["prepare.module"]

/-- `_install_launcher_target_snapshot`: the launcher states that an install releases to. -/
def installLauncherTargetSnapshot (snapshot : RollbackSnapshot) (desired : DesiredState) :
    RollbackSnapshot :=
  let fabric := snapshot.launchers.fabricManager.unitFileState
  let fabricState :=
    if desired.fabricManager then some .enabled
    else if fabric = some .enabled then some .disabled
    else fabric
  { snapshot with
    launchers :=
      { snapshot.launchers with
        fabricManager :=
          { active := some desired.fabricManager, enabled := some (fabricState == some .enabled)
            unitFileState := fabricState }
        dockerService :=
          { active := some true, enabled := some true, unitFileState := some .enabled } } }

/-! ## Before the snapshot -/

/-- `return 2` with the report as it stands. -/
def refuseInstall {α : Type} (report : InstallReport) : InstallProgram α :=
  .raise (.refused report)

/-- The report of a refusal before the quarantine. -/
def InstallReport.refusal (report : InstallReport) (results : List CommandResult)
    (entries : ReportEntries) : InstallReport :=
  { report.add entries with commandResults := results }

namespace InstallRequest

variable (request : InstallRequest)

/-- A fresh audit with its findings and its plan. -/
def planFresh : InstallProgram (HostAudit × InstallReport) := do
  let audit ← auditHost
  let findings := diagnose request.desired audit
  match buildPlan request.desired audit findings with
  | .error _ => .raise .raised
  | .ok plan => pure (audit, { plan, findings })

/-- The refusal of a plan that is not supported. -/
def refuseUnsupported (report : InstallReport) (results : List CommandResult) :
    InstallProgram Unit :=
  if hasUnsupported report.plan then
    refuseInstall
      (report.refusal results (Finding.planUnsupported (unsupportedActions report.plan)).entries)
  else pure ()

/-- The plan of an install that is authorized, with the results of the gate. -/
def authorizeInstall : InstallProgram (HostAudit × InstallReport × List CommandResult) := do
  -- Every command starts with an audit, which an applied install takes again.
  let _ ← auditHost
  let (audit, report) ← request.planFresh
  refuseUnsupported report []
  if disruptiveActions report.plan = [] then pure (audit, report, [])
  else do
    let gate ← request.authorizationGate audit (disruptiveActions report.plan)
    if gate.findings ≠ [] then
      refuseInstall (report.refusal gate.results { findings := gate.findings })
    else do
      let (audit, report) ← request.planFresh
      refuseUnsupported report gate.results
      pure (audit, report, gate.results)

/-- The report of a refused package preflight. -/
def packagesRefused (report : InstallReport) (maintenance : List CommandResult)
    (refusal : SolverRefusal) : InstallReport :=
  report.refusal maintenance
    { checks := refusal.results.map fun result =>
        { name := "packages.preflight", ok := false, command := some result
          detail := some
            "A planned package target did not resolve from current repository metadata." }
      findings := [.packagesPreflightFailed refusal.text] }

/-- `preflight_package_install`, and the packages that the snapshot retains for it. -/
def preflightPackages (audit : HostAudit) (report : InstallReport)
    (maintenance : List CommandResult) : InstallProgram (List PackageInfo × InstallReport) :=
  if hasAction "install.packages" report.plan then do
    match ← attempt (.preflightInstall audit) with
    | .error refusal => refuseInstall (packagesRefused report maintenance refusal)
    | .ok results =>
        match audit.packageManager with
        | none =>
            refuseInstall (packagesRefused report maintenance
              { results, text := "package manager disappeared after planning" })
        | some manager => do
            match ← attempt (.forwardPackages manager results) with
            | .error refusal => refuseInstall (packagesRefused report maintenance refusal)
            | .ok forward =>
                pure (forward, report.add
                  { checks := results.map fun result =>
                      { name := "packages.preflight", ok := true, command := some result
                        detail := some ("Planned package targets resolve from current " ++
                          "trusted repository metadata.") } })
  else pure ([], report)

/-- `_create_snapshot_with_evidence`: the snapshot is persisted, or the install is refused. -/
def persistSnapshot (audit : HostAudit) (report : InstallReport)
    (maintenance : List CommandResult) (forward : List PackageInfo) :
    InstallProgram (RollbackSnapshot × CommandResult) := do
  match ← attempt (.createSnapshot audit forward) with
  | .error text => refuseInstall (report.refusal maintenance (Finding.snapshotFailed text).entries)
  | .ok persisted => pure persisted

/-- The preflights from the retained payloads, which have to carry the plan and the baseline. -/
def preflightRetained (audit : HostAudit) (snapshot : RollbackSnapshot) (report : InstallReport)
    (results : List CommandResult) : InstallProgram InstallReport := do
  match bindForwardPackagePayloads report.plan snapshot audit with
  | .error text =>
      refuseInstall (report.refusal results (Finding.payloadBindingFailed text).entries)
  | .ok plan => do
      let report := { report with plan := plan }
      match ← attempt (.preflightStaged audit plan) with
      | .error refusal =>
          refuseInstall (report.refusal results
            (preflightChecks "packages.staged-local-preflight"
              "The retained forward transaction does not resolve exactly offline." false
              refusal.results ++ (Finding.stagedPreflightFailed refusal.text).entries))
      | .ok staged => do
          let report := report.add (preflightChecks "packages.staged-local-preflight"
            "The exact retained forward transaction resolves without repositories." true staged)
          match ← attempt .preflightRestore with
          | .error refusal =>
              refuseInstall (report.refusal results
                (preflightChecks "rollback.baseline-packages-available"
                  "At least one exact baseline NVIDIA-stack package is unavailable." false
                  refusal.results ++ (Finding.baselinePreflightFailed refusal.text).entries))
          | .ok restored =>
              pure (report.add (preflightChecks "rollback.baseline-packages-available"
                "Every exact baseline NVIDIA-stack package is reinstallable before mutation." true
                restored))

end InstallRequest

/-! ## Behind the snapshot -/

/-- The variables of the install that its later phases read. -/
structure InstallState where
  snapshot : RollbackSnapshot
  /-- The audit that the snapshot was taken from. -/
  audit : HostAudit
  report : InstallReport
  phaseAudit : HostAudit
  guard : Option Guard
  /-- `service_result_offset`. -/
  offset : Nat
  /-- `phase_succeeded`. -/
  succeeded : Bool

namespace InstallState

variable (state : InstallState)

/-- The state with what a phase adds to its report. -/
def add (entries : ReportEntries) : InstallState :=
  { state with report := state.report.add entries }

/-- The state behind a phase that failed, with its entries in the report. -/
def fail (entries : ReportEntries) : InstallState :=
  { state.add entries with succeeded := false }

/-- The state behind a preflight, by its verdict. -/
def preflighted (name accepted refused : String) (finding : String → Finding) :
    Except SolverRefusal (List CommandResult) → InstallState
  | .ok results => state.add (preflightChecks name accepted true results)
  | .error refusal =>
      state.fail (preflightChecks name refused false refusal.results ++
        (finding refusal.text).entries)

/-- A phase that runs only where those before it succeeded. -/
def whileSucceeding (phase : InstallState → InstallProgram InstallState) :
    InstallProgram InstallState :=
  if state.succeeded then phase state else pure state

/-- `module_reset_planned`: a module is loaded that the plan replaces. -/
def moduleResetPlanned : Bool :=
  state.audit.module.loaded && hasAction "prepare.module" state.report.plan

/-- The state behind a fresh boundary, which fails where the boundary does. -/
def boundary (name : BoundaryName) : InstallProgram InstallState := do
  let (safe, entries) ← freshGpuBoundaryIsSafe state.snapshot state.phaseAudit name
  pure { state.add entries with succeeded := safe }

/-- The state with a fresh audit as the audit of its phase. -/
def audited : InstallProgram InstallState := do
  let audit ← auditHost
  pure { state with phaseAudit := audit }

/-- The commands of a phase, up to the first that fails. -/
def runCommands (phase : ActionPhase) : List (List String) → InstallProgram (List CommandResult)
  | [] => pure []
  | command :: commands => do
      let result ← attempt (.action phase command)
      if result.succeeded then do
        let results ← runCommands phase commands
        pure (result :: results)
      else pure [result]

/-- `_run_plan_actions`: the commands of some actions, up to the first that fails. -/
def runPlanActions (phase : ActionPhase) (actions : List PlanAction) :
    InstallProgram InstallState := do
  let results ← runCommands phase (actions.flatMap (·.commands))
  pure { state.add { results } with succeeded := commandsSucceeded results }

end InstallState

namespace InstallRequest

variable (request : InstallRequest)

/-! ## The quarantine -/

/-- `_pre_gpu_mutation_checkpoint`, with what it adds to the state. -/
def checkpoint (state : InstallState) : InstallProgram InstallState := do
  let checkpoint ← request.preGpuMutationCheckpoint state.report.findings state.guard
  pure
    { state.add checkpoint.entries with
      phaseAudit := checkpoint.audit, guard := checkpoint.guard, succeeded := checkpoint.ok }

/-- The plan of the quarantined host, bound to the retained payloads. -/
def freshPlan (state : InstallState) : InstallProgram InstallState :=
  match buildPlan request.desired state.phaseAudit
      (diagnose request.desired state.phaseAudit) with
  | .error _ => .raise .raised
  | .ok plan =>
      if hasUnsupported plan then
        pure (state.fail (Finding.freshPlanUnsupported (unsupportedActions plan)).entries)
      else
        match bindForwardPackagePayloads plan state.snapshot state.phaseAudit with
        | .error text => pure (state.fail (Finding.freshBindingFailed text).entries)
        | .ok bound => pure { state with report := { state.report with plan := bound } }

/-- The retained payloads behind the quarantine. -/
def freshPreflight (state : InstallState) : InstallProgram InstallState :=
  if hasAction "install.packages" state.report.plan then do
    let verdict ← attempt (.preflightStaged state.phaseAudit state.report.plan)
    pure (state.preflighted "packages.post-quarantine-preflight"
      "Fresh snapshot-bound local payloads resolve exactly after launcher quarantine."
      "Fresh snapshot-bound local payloads no longer resolve exactly after launcher quarantine."
      .freshPreflightFailed verdict)
  else pure state

/-- The preflight of the rollback from the quarantined host. -/
def freshRollbackPreflight (state : InstallState) : InstallProgram InstallState := do
  let verdict ← attempt (.preflightRollback state.phaseAudit)
  pure (state.preflighted "rollback.post-quarantine-preflight"
    "The exact rollback delta remains resolvable from the fresh quarantined baseline."
    "The exact rollback delta is no longer safely resolvable."
    .freshRollbackPreflightFailed verdict)

/-- The gate, and the quarantine of every launcher. -/
def enterQuarantine (audit : HostAudit) (snapshot : RollbackSnapshot) (report : InstallReport)
    (maintenance : List CommandResult) (persisted : CommandResult) :
    InstallProgram InstallState := do
  let gate ← request.maintenanceGate audit (disruptiveActions report.plan)
  let state : InstallState :=
    { snapshot, audit, phaseAudit := audit, guard := gate.guard, succeeded := true
      offset := (gate.guard.map fun guard => guard.results.length).getD 0
      report :=
        { report.add { findings := gate.findings } with
          commandResults := maintenance ++ gate.results ++ [persisted] } }
  if gate.guard = none then pure { state with succeeded := false }
  else if gate.findings ≠ [] then do
    let boundary ← orEmergency (launchers quarantineFailedMaintenanceGate)
    pure { state.fail boundary.entries with phaseAudit := boundary.audit }
  else request.checkpoint state

/-- The quarantine, with everything that has to hold of the host behind it. -/
def quarantine (audit : HostAudit) (snapshot : RollbackSnapshot) (report : InstallReport)
    (maintenance : List CommandResult) (persisted : CommandResult) :
    InstallProgram InstallState := do
  let state ← request.enterQuarantine audit snapshot report maintenance persisted
  let state ← state.whileSucceeding fun state => state.boundary .prePackage
  let state ← state.whileSucceeding request.freshPlan
  let state ← state.whileSucceeding freshPreflight
  let state ← state.whileSucceeding freshRollbackPreflight
  pure { state with succeeded := state.succeeded && commandsSucceeded state.report.commandResults }

/-! ## The changes -/

/-- The last preflight before the package commands. -/
def immediatePreflight (state : InstallState) : InstallProgram InstallState :=
  if packageTransactionPlanned state.report.plan = true ∧
      (state.snapshot.packagePayloads.any fun bundle => !(forwardEntries bundle).isEmpty) =
        true then do
    let verdict ← attempt (.preflightStaged state.phaseAudit state.report.plan)
    pure (state.preflighted "packages.immediate-local-preflight"
      ("Retained package bytes and the offline solver transaction were revalidated " ++
        "immediately before mutation.")
      "Retained package bytes or the offline solver transaction changed before mutation."
      .immediatePreflightFailed verdict)
  else pure state

/-- The package commands of the plan, if it has any. -/
def runPackages (state : InstallState) : InstallProgram InstallState :=
  if preModuleActions state.report.plan = [] then pure state
  else state.runPlanActions .packages (preModuleActions state.report.plan)

/-- The second checkpoint, behind the packages. -/
def closePackages (state : InstallState) : InstallProgram InstallState :=
  let plan := state.report.plan
  if packageTransactionPlanned plan = true ∨ preGpuMutationPlanned plan = true ∨
      request.desired.containerRuntime = "docker" then do
    let state ← request.checkpoint state
    state.whileSucceeding fun state =>
      state.boundary (if packageTransactionPlanned plan then .postPackage else .preMutation)
  else pure state

/-- The teardown of MIG that a module reset needs. -/
def teardownMig (state : InstallState) : InstallProgram InstallState :=
  let actions := freshModuleResetMigTeardown state.phaseAudit state.moduleResetPlanned
  if hasUnsupported actions then
    pure (state.fail (Finding.teardownUnsupported (unsupportedActions actions)).entries)
  else
    let state := { state with
      report := { state.report with plan := replaceAppliedTeardownPlan state.report.plan actions } }
    if actions = [] then pure state
    else
      state.whileSucceeding fun state => do
        let state ← state.runPlanActions .teardown actions
        state.whileSucceeding InstallState.audited

end InstallRequest

/-! ## The module -/

/-- `modprobe`, with the results that the runner keeps of it. -/
def runModprobe (arguments : List String) :
    InstallProgram (CommandResult × List CommandResult) := do
  if ← attempt (.available "modprobe") then do
    let result ← attempt (.modprobe arguments)
    pure (result, [result])
  else
    pure
      ({ command := "modprobe" :: arguments, returncode := some 127
         stderr := "trusted modprobe executable not found" }, [])

/-- The modules of `prepare_stack`, up to the first that cannot be loaded: its last result. -/
def loadStack : List String → InstallProgram (Option CommandResult × List CommandResult)
  | [] => pure (none, [])
  | module :: modules => do
      let (result, results) ← runModprobe [module]
      if modules ≠ [] ∧ result.succeeded = true then do
        let (last, more) ← loadStack modules
        pure (last, results ++ more)
      else pure (some result, results)

/-- The check that a report gets about the load of a module. -/
def loadedCheck (name detail : String) (last : Option CommandResult) : ReportedCheck where
  name := name
  ok := last.any fun result => result.returncode == some 0
  detail := some detail
  command := last

/-- The check of a reload that does not get to the load. -/
def unloadRefused (detail : String) (result : CommandResult) : ReportedCheck where
  name := "module.reload"
  ok := false
  detail := some detail
  command := some result

/-- The modules behind the removal of `order`. -/
def reloadStack (order : List String) (results : List CommandResult) :
    InstallProgram (ReportedCheck × List CommandResult) := do
  let (last, more) ← loadStack (if order = [] then ["nvidia"] else order.reverse)
  pure (loadedCheck "module.reload"
    ("Unloads recognized NVIDIA dependents, then restores every previously loaded module " ++
      "in dependency order when --apply is used.") last, results ++ more)

/-- `prepare_stack`: its check, and the results that the runner keeps. -/
def prepareStack (audit : HostAudit) (forceReload : Bool) :
    InstallProgram (ReportedCheck × List CommandResult) := do
  if forceReload then do
    match ← attempt .moduleOrder with
    | .error reason =>
        pure (unloadRefused
          "Refuses to unload the NVIDIA stack unless every loaded module holder is recognized."
          (failedResult ["modprobe", "-r", "nvidia-stack"] reason), [])
    | .ok [] => reloadStack [] []
    | .ok order => do
        let (unload, results) ← runModprobe ("-r" :: order)
        if unload.succeeded then reloadStack order results
        else
          pure (unloadRefused
            ("Unload every recognized NVIDIA dependent before loading the selected " ++
              "on-disk module.") unload, results)
  else if audit.module.loaded then
    pure
      ({ name := "module.load", ok := true, detail := some "NVIDIA module is already loaded." }, [])
  else do
    let (last, results) ← loadStack ["nvidia"]
    pure (loadedCheck "module.load"
      ("Loads nvidia module when --apply is used; dry-run records the command without " ++
        "marking it verified.") last, results)

/-- What the preparation of the module came to. -/
structure Preparation where
  state : InstallState
  check : Option ReportedCheck := none
  /-- `preparation_reboot_pending`. -/
  rebootPending : Bool := false

/-- `preparation_ready`: the preparation made no check that failed. -/
def Preparation.ready (preparation : Preparation) : Bool :=
  preparation.check.all (·.ok)

namespace InstallRequest

variable (request : InstallRequest)

/-- The preparation of the module, where the plan has one and no phase has failed. -/
def prepareModule (state : InstallState) : InstallProgram Preparation :=
  if state.succeeded = true ∧ hasAction "prepare.module" state.report.plan = true then do
    let (check, results) ← prepareStack state.phaseAudit state.moduleResetPlanned
    let state := state.add { results }
    if check.ok then pure { state, check := some check }
    else do
      let audit ← auditHost
      let pending := preparationFailureCanCompleteAfterReboot request.desired audit check
      pure
        { state := { state with succeeded := pending }, check := some check,
          rebootPending := pending }
  else pure { state }

/-! ## MIG and Docker -/

/-- What the reconciliation of MIG is to do, and the state that it begins in. -/
structure PlannedMig where
  state : InstallState
  actions : List PlanAction := []
  /-- `mig_reboot_pending`. -/
  rebootPending : Bool

/-- The MIG actions of the host behind the module. -/
def planMig (state : InstallState) : PlannedMig :=
  let actions := migReconciliationActions request.desired state.phaseAudit
  let rebootPending := state.phaseAudit.migMode != state.phaseAudit.migModePending &&
    modeIs request.desired state.phaseAudit.migModePending
  let replaced := { state with
    report := { state.report with plan := replaceAppliedMigPlan state.report.plan actions } }
  if hasUnsupported actions then
    { state := replaced.fail
        (Finding.reconciliationUnsupported (unsupportedActions actions)).entries
      rebootPending }
  else { state := replaced, actions, rebootPending }

/-- `_execute_mig_reconciliation` of the planned actions, where no phase has failed. -/
def executeMig (planned : PlannedMig) : InstallProgram (InstallState × Bool) :=
  if planned.state.succeeded = true ∧ planned.actions ≠ [] then do
    let outcome ← attempts InstallOp.mig (fun _ answer => answer)
      (executeMigReconciliation request.desired planned.state.phaseAudit planned.actions)
    pure
      ({ planned.state.add { results := outcome.results } with
          phaseAudit := outcome.audit, succeeded := outcome.success }, outcome.rebootPending)
  else pure (planned.state, planned.rebootPending)

/-- The reconciliation of MIG behind a module that is ready: the state, and whether a mode waits
for a reboot. -/
def reconcileMig (preparation : Preparation) : InstallProgram (InstallState × Bool) :=
  if preparation.state.succeeded = true ∧ preparation.ready = true then do
    let state ← preparation.state.audited
    let state ← state.boundary .postModule
    if state.succeeded = true ∧
        state.report.plan.any (fun action => migActionIds.contains action.id) = true then
      request.executeMig (request.planMig state)
    else pure (state, false)
  else pure (preparation.state, false)

/-- The configuration of Docker, where the plan has one. -/
def configureDocker (state : InstallState) : InstallProgram InstallState :=
  let actions := dockerConfigurationActions state.report.plan
  if actions = [] then pure state
  else do
    let state ← state.runPlanActions .docker actions
    let state ← state.whileSucceeding InstallState.audited
    state.whileSucceeding fun state => state.boundary .preServiceCommit

/-- The configuration of Docker behind a module and a MIG mode that are ready. -/
def configureReady (preparation : Preparation) (state : InstallState) (migPending : Bool) :
    InstallProgram InstallState :=
  if preparation.ready = true ∧ preparation.rebootPending = false ∧ migPending = false then
    state.whileSucceeding configureDocker
  else pure state

/-- The changes of an install, in their order: the state, and whether the target waits for a
reboot. -/
def change (state : InstallState) : InstallProgram (InstallState × Bool) := do
  let state ← state.whileSucceeding immediatePreflight
  let state ← state.whileSucceeding runPackages
  let state ← state.whileSucceeding request.closePackages
  let state ← teardownMig state
  let preparation ← request.prepareModule state
  let reconciled ← request.reconcileMig preparation
  let state ← configureReady preparation reconciled.1 reconciled.2
  pure
    (state.add { checks := preparation.check.toList }, preparation.rebootPending || reconciled.2)

end InstallRequest

end NvidiaConverge
