import NvidiaConverge.Library.Result
import NvidiaConverge.Planning.Convergence

/-!
# Planning MIG twice

`mig_reconciliation_actions` of `planner.py` plans MIG from a fresh observation behind a module
reset, and `_fresh_module_reset_mig_teardown` of `cli.py` plans the teardown before one.
`MigCommandsSafe` says what the MIG commands of any plan are: they address the one observed GPU,
whose geometry rollback can recreate, and destroy before they change or create.
`reconciliation_agrees` compares the two planners on a host without a module reset.
-/

namespace NvidiaConverge

/-- Whether the spelling of an observed mode is the desired one. -/
def modeIs (desired : DesiredState) (mode : Option MigMode) : Bool :=
  mode.map MigMode.value == some desired.mig

/-- `mode not in {"enabled", "disabled"}`: the mode is mixed or was not observed. -/
def modeUnknown : Option MigMode → Bool
  | some .enabled | some .disabled => false
  | some .mixed | none => true

/-- The refusals of a reconciliation that would change MIG. -/
def reconciliationBlocker (audit : HostAudit) : Option PlanAction :=
  if audit.gpuUuids.length ≠ 1 then
    some (refusal "unsupported.mig-transaction-scope"
      "Cannot safely mutate MIG mode for this GPU topology."
      "MIG reconciliation is qualified for exactly one stable GPU UUID.")
  else if audit.migGeometryComplete = false then
    some (refusal "unsupported.mig-geometry-unobservable"
      "Cannot safely reconcile MIG without complete GI/CI state."
      "Post-module-reset MIG geometry is incomplete.")
  else if restorableMigGeometry audit.migGeometry audit.gpuUuids = false then
    some (refusal "unsupported.mig-rollback-geometry"
      "Cannot safely reconcile the observed MIG geometry."
      "Observed MIG geometry is outside the exact rollback model.")
  else none

/-- The MIG action of a reconciliation that nothing blocks. -/
def reconciliationAction (desired : DesiredState) (audit : HostAudit) : PlanAction :=
  if desired.mig = "disabled" then
    disableMig audit "Destroys current GI/CI state and may require a GPU reset."
  else if audit.migMode = some .disabled then
    enableMig audit "Enables MIG and creates the exact supported geometry."
  else
    configureMigGeometry audit
      "Reconciles exact UUID-bound MIG geometry after module preparation."

/-- `mig_reconciliation_actions`: what brings MIG to the desired state behind a module reset. -/
def migReconciliationActions (desired : DesiredState) (audit : HostAudit) : List PlanAction :=
  if modeUnknown audit.migMode then
    [refusal "unsupported.mig-state-unobservable"
      "Cannot reconcile MIG from an unknown current mode."
      "Post-module-reset MIG mode was not exactly observable."]
  else if modeUnknown audit.migModePending then
    [refusal "unsupported.mig-pending-unobservable"
      "Cannot reconcile MIG with an unknown pending mode."
      "Post-module-reset pending MIG mode was not observable."]
  else if audit.migMode ≠ audit.migModePending then
    -- The desired mode is staged already.
    if modeIs desired audit.migModePending then []
    else
      [refusal "unsupported.mig-pending-conflict"
        "Cannot reconcile MIG across a conflicting pending transition."
        ("Pending MIG mode differs from both current and desired state; " ++
          "reboot or normalize it before another mutation.")]
  else if migModeChangeRequired desired audit || migGeometryChangeRequired desired audit then
    match reconciliationBlocker audit with
    | some blocker => [blocker]
    | none => [reconciliationAction desired audit]
  else []

/-- `_fresh_module_reset_mig_teardown`: the instances that a planned reset has to destroy first. -/
def freshModuleResetMigTeardown (audit : HostAudit) (moduleResetPlanned : Bool) :
    List PlanAction :=
  if moduleResetPlanned = false ∨ audit.migMode ≠ some .enabled then []
  else if audit.gpuUuids.length ≠ 1 then
    [refusal "unsupported.module-reset-mig-transaction-scope"
      "Cannot reset the module under the fresh MIG topology."
      "Expected exactly one unchanged GPU UUID after packages."]
  else if audit.migGeometryComplete = false then
    [refusal "unsupported.module-reset-mig-geometry-unobservable"
      "Cannot reset the module without fresh exact MIG geometry."
      "Post-package GI/CI observation is incomplete."]
  else if restorableMigGeometry audit.migGeometry audit.gpuUuids = false then
    [refusal "unsupported.module-reset-mig-rollback-geometry"
      "Cannot restore the fresh MIG geometry after module reset."
      "Post-package MIG geometry is outside the exact rollback model."]
  else if audit.migGeometry = [] then []
  else
    [{ id := "prepare.mig-geometry-teardown"
       description := "Destroy fresh UUID-bound MIG geometry before module reset."
       commands := migGeometryDestroyCommands (migGpu audit)
       destructive := true
       reason := some "Derived only from the post-package audit used for mutation." }]

/-! ## The MIG commands of a plan -/

/-- The MIG commands of a plan, in order: nothing else calls `nvidia-smi`. -/
def migMutations (actions : List PlanAction) : List (List String) :=
  (actions.flatMap (·.commands)).filter fun command => command.head? == some "nvidia-smi"

/-- What a MIG command does: it destroys instances, sets the mode or creates an instance. -/
inductive MigStep where
  | destroyCompute | destroyGpu | mode (value : String) | create (placement : String)
  deriving DecidableEq

/-- The GPU that a MIG command addresses, and what it does there. -/
def migStep? : List String → Option (String × MigStep)
  | ["nvidia-smi", "mig", "-i", gpu, "-dci"] => some (gpu, .destroyCompute)
  | ["nvidia-smi", "mig", "-i", gpu, "-dgi"] => some (gpu, .destroyGpu)
  | ["nvidia-smi", "-i", gpu, "-mig", value] => some (gpu, .mode value)
  | ["nvidia-smi", "mig", "-i", gpu, "-cgi", placement, "-C"] => some (gpu, .create placement)
  | _ => none

/-- The order in which one plan may take the steps. -/
def MigStep.rank : MigStep → Nat
  | .destroyCompute => 0
  | .destroyGpu => 1
  | .mode _ => 2
  | .create _ => 3

/-- An audit of one GPU whose complete geometry rollback can recreate. -/
def MigQualified (audit : HostAudit) : Prop :=
  audit.gpuUuids.length = 1 ∧ audit.migGeometryComplete = true ∧
    restorableMigGeometry audit.migGeometry audit.gpuUuids = true

/-- The MIG commands are steps on the one observed GPU of a qualified audit; compute instances go
before GPU instances, and both before a mode change or a creation. -/
def MigCommandsSafe (audit : HostAudit) (commands : List (List String)) : Prop :=
  ∃ gpu steps, commands.map migStep? = steps.map (fun step => some (gpu, step)) ∧
    (steps ≠ [] → audit.gpuUuids = [gpu] ∧ MigQualified audit) ∧
    (steps.map MigStep.rank).Pairwise (· < ·) ∧
    (.destroyGpu ∈ steps → .destroyCompute ∈ steps)

variable {desired : DesiredState} {audit : HostAudit}

theorem mig_mutations_append (actions more : List PlanAction) :
    migMutations (actions ++ more) = migMutations actions ++ migMutations more := by
  rw [migMutations, List.flatMap_append, List.filter_append]
  rfl

/-- An action all of whose commands call `nvidia-smi`. -/
theorem mig_mutations_of_smi {action : PlanAction}
    (h : ∀ command ∈ action.commands, command.head? = some "nvidia-smi") :
    migMutations [action] = action.commands := by
  rw [migMutations, List.flatMap_singleton]
  exact List.filter_eq_self.mpr fun command hcommand => beq_iff_eq.mpr (h command hcommand)

/-- Actions none of whose commands calls `nvidia-smi`. -/
theorem mig_mutations_eq_nil {actions : List PlanAction}
    (h : ∀ action ∈ actions, ∀ command ∈ action.commands, command.head? ≠ some "nvidia-smi") :
    migMutations actions = [] := by
  rw [migMutations, List.filter_eq_nil_iff]
  intro command hcommand
  obtain ⟨action, haction, hmem⟩ := List.mem_flatMap.mp hcommand
  simpa using h action haction command hmem

/-- An action without commands has no MIG commands. -/
theorem mig_mutations_of_no_commands {action : PlanAction} (h : action.commands = []) :
    migMutations [action] = [] :=
  mig_mutations_eq_nil fun other hother command hcommand => by
    rw [List.mem_singleton.mp hother, h] at hcommand
    cases hcommand

@[simp] theorem mig_mutations_nil : migMutations [] = [] :=
  rfl

@[simp] theorem mig_mutations_refusal (id description reason : String) :
    migMutations [refusal id description reason] = [] :=
  rfl

theorem safe_nil : MigCommandsSafe audit [] :=
  ⟨"", [], rfl, fun h => absurd rfl h, List.Pairwise.nil, fun h => absurd h (by simp)⟩

/-- The only GPU of a qualified audit is the one that its commands name. -/
theorem MigQualified.gpu (h : MigQualified audit) : audit.gpuUuids = [migGpu audit] := by
  obtain ⟨gpu, hgpu⟩ := List.length_eq_one_iff.mp h.1
  rw [migGpu, hgpu]
  rfl

/-- Nothing blocks the reconciliation exactly when the audit is qualified. -/
theorem reconciliation_blocker_eq_none :
    reconciliationBlocker audit = none ↔ MigQualified audit := by
  unfold reconciliationBlocker MigQualified
  split_ifs <;> simp_all

/-- Nothing blocks a planned MIG change exactly when the audit is qualified. -/
theorem mig_change_blocker_eq_none : migChangeBlocker audit = none ↔ MigQualified audit := by
  unfold migChangeBlocker MigQualified
  split_ifs <;> simp_all

theorem reconciliation_blocker_commands {blocker : PlanAction}
    (h : reconciliationBlocker audit = some blocker) : blocker.commands = [] := by
  unfold reconciliationBlocker at h
  split_ifs at h <;> exact Option.some.inj h ▸ rfl

theorem reconciliation_blocker_unsupported {blocker : PlanAction}
    (h : reconciliationBlocker audit = some blocker) : blocker.unsupported = true := by
  unfold reconciliationBlocker at h
  split_ifs at h <;> exact Option.some.inj h ▸ refusal_unsupported (by decide)

/-- The teardown of a qualified audit is safe with one later step behind it. -/
theorem safe_teardown (h : MigQualified audit) (step : MigStep) {command : List String}
    (hcommand : migStep? command = some (migGpu audit, step)) (hrank : 2 ≤ step.rank) :
    MigCommandsSafe audit (migTeardownCommands audit ++ [command]) := by
  have hne : step ≠ .destroyGpu := by
    rintro rfl
    exact absurd hrank (by decide)
  unfold migTeardownCommands
  split
  · refine ⟨migGpu audit, [step], by simp [hcommand], fun _ => ⟨h.gpu, h⟩, by simp, ?_⟩
    exact fun hmem => absurd (List.mem_singleton.mp hmem).symm hne
  · refine ⟨migGpu audit, [.destroyCompute, .destroyGpu, step], ?_, fun _ => ⟨h.gpu, h⟩, ?_, ?_⟩
    · rw [List.map_append, List.map_singleton, hcommand]
      rfl
    · show List.Pairwise (· < ·) [0, 1, step.rank]
      have hpositive : 0 < step.rank := by omega
      have hsecond : 1 < step.rank := by omega
      simp [hpositive, hsecond]
    · exact fun _ => List.mem_cons_self

/-- The commands of a reconciliation are safe on a qualified audit. -/
theorem reconciliation_action_safe (h : MigQualified audit) :
    MigCommandsSafe audit (reconciliationAction desired audit).commands := by
  unfold reconciliationAction
  split
  · exact safe_teardown h (.mode "0") rfl (by decide)
  · split
    · exact ⟨migGpu audit, [.mode "1", .create "0:0"], rfl,
        fun _ => ⟨h.gpu, h⟩, by simp [MigStep.rank],
        by simp⟩
    · exact safe_teardown h (.create "0:0") rfl (by decide)

/-- A teardown and one command behind it all call `nvidia-smi`. -/
theorem teardown_smi {command : List String} (h : command.head? = some "nvidia-smi") :
    ∀ other ∈ migTeardownCommands audit ++ [command], other.head? = some "nvidia-smi" := by
  intro other hother
  rcases List.mem_append.mp hother with hother | hother
  · unfold migTeardownCommands migGeometryDestroyCommands at hother
    split at hother
    · cases hother
    · simp only [List.mem_cons, List.not_mem_nil, or_false] at hother
      rcases hother with rfl | rfl <;> rfl
  · rw [List.mem_singleton.mp hother]
    exact h

theorem disable_mig_mutations (reason : String) :
    migMutations [disableMig audit reason] = (disableMig audit reason).commands :=
  mig_mutations_of_smi (teardown_smi rfl)

theorem enable_mig_mutations (reason : String) :
    migMutations [enableMig audit reason] = (enableMig audit reason).commands :=
  rfl

theorem configure_mig_mutations (reason : String) :
    migMutations [configureMigGeometry audit reason] =
      (configureMigGeometry audit reason).commands :=
  mig_mutations_of_smi (teardown_smi rfl)

/-- The commands of a reconciliation are MIG commands. -/
theorem reconciliation_action_mutations :
    migMutations [reconciliationAction desired audit] =
      (reconciliationAction desired audit).commands := by
  unfold reconciliationAction
  split
  · exact disable_mig_mutations _
  · split
    · exact enable_mig_mutations _
    · exact configure_mig_mutations _

/-- Whether a settled MIG state differs from the desired one. -/
def migChangeRequired (desired : DesiredState) (audit : HostAudit) : Bool :=
  migModeChangeRequired desired audit || migGeometryChangeRequired desired audit

/-- The MIG commands of a reconciliation: those of its change, when the mode is settled and nothing
blocks it. -/
theorem reconciliation_commands :
    migMutations (migReconciliationActions desired audit) =
      if modeUnknown audit.migMode = false ∧ audit.migMode = audit.migModePending ∧
          migChangeRequired desired audit = true ∧ reconciliationBlocker audit = none then
        (reconciliationAction desired audit).commands
      else [] := by
  unfold migReconciliationActions migChangeRequired
  by_cases hmode : modeUnknown audit.migMode = true
  · simp [hmode]
  · rw [Bool.not_eq_true] at hmode
    by_cases hpending : audit.migMode = audit.migModePending
    · rw [← hpending, hmode]
      cases hchange : migModeChangeRequired desired audit ||
          migGeometryChangeRequired desired audit with
      | false => simp
      | true =>
          cases hblocker : reconciliationBlocker audit with
          | none => simpa using reconciliation_action_mutations
          | some blocker =>
              simpa using mig_mutations_of_no_commands (reconciliation_blocker_commands hblocker)
    · have hunsettled : ¬ (modeUnknown audit.migMode = false ∧
          audit.migMode = audit.migModePending ∧
          (migModeChangeRequired desired audit || migGeometryChangeRequired desired audit) = true ∧
          reconciliationBlocker audit = none) := fun h => hpending h.2.1
      rw [if_neg hunsettled, hmode, if_neg Bool.false_ne_true, if_pos hpending]
      split
      · rfl
      · split <;> rfl

/-- A reconciliation refuses, has nothing to do, or takes its one action on a qualified audit. -/
theorem reconciliation_cases (desired : DesiredState) (audit : HostAudit) :
    (hasUnsupported (migReconciliationActions desired audit) = true ∧
      (migReconciliationActions desired audit).flatMap (·.commands) = []) ∨
    (migReconciliationActions desired audit = [] ∧
      ((audit.migMode ≠ audit.migModePending ∧ modeIs desired audit.migModePending = true) ∨
        (audit.migMode = audit.migModePending ∧ modeUnknown audit.migMode = false ∧
          migChangeRequired desired audit = false))) ∨
    (migReconciliationActions desired audit = [reconciliationAction desired audit] ∧
      audit.migMode = audit.migModePending ∧ migChangeRequired desired audit = true ∧
      MigQualified audit) := by
  have hrefused : ∀ {blocker : PlanAction}, blocker.unsupported = true →
      hasUnsupported [blocker] = true := fun hblocker => by simp [hasUnsupported, hblocker]
  unfold migReconciliationActions migChangeRequired
  split
  · exact .inl ⟨hrefused (refusal_unsupported (by decide)), rfl⟩
  · next hknown =>
    split
    · exact .inl ⟨hrefused (refusal_unsupported (by decide)), rfl⟩
    · split
      · next hpending =>
          split
          · next hstaged => exact .inr (.inl ⟨rfl, .inl ⟨hpending, hstaged⟩⟩)
          · exact .inl ⟨hrefused (refusal_unsupported (by decide)), rfl⟩
      · next hpending =>
          rw [not_not] at hpending
          split
          · next hchange =>
              cases hblocker : reconciliationBlocker audit with
              | none =>
                  exact .inr (.inr ⟨rfl, hpending, hchange,
                    reconciliation_blocker_eq_none.mp hblocker⟩)
              | some blocker =>
                  refine .inl ⟨hrefused (reconciliation_blocker_unsupported hblocker), ?_⟩
                  rw [List.flatMap_singleton]
                  exact reconciliation_blocker_commands hblocker
          · next hchange =>
              exact .inr (.inl ⟨rfl,
                .inr ⟨hpending, by simpa using hknown, by simpa using hchange⟩⟩)

/-- The commands of every reconciliation are safe for MIG. -/
theorem reconciliation_safe :
    MigCommandsSafe audit (migMutations (migReconciliationActions desired audit)) := by
  rw [reconciliation_commands]
  split
  · next h => exact reconciliation_action_safe (reconciliation_blocker_eq_none.mp h.2.2.2)
  · exact safe_nil

/-! ## The plan -/

/-- Actions that leave MIG alone: none of their commands calls `nvidia-smi`. -/
def LeavesMig (actions : List PlanAction) : Prop :=
  ∀ action ∈ actions, ∀ command ∈ action.commands, command.head? ≠ some "nvidia-smi"

theorem LeavesMig.append {actions more : List PlanAction} (h : LeavesMig actions)
    (hmore : LeavesMig more) : LeavesMig (actions ++ more) :=
  fun action haction => (List.mem_append.mp haction).elim (h action) (hmore action)

theorem leaves_mig_nil : LeavesMig [] :=
  fun _ h => absurd h List.not_mem_nil

/-- One action, with the programs that its commands call. -/
theorem leaves_mig_singleton (programs : List String) {action : PlanAction}
    (h : action.commands.map List.head? = programs.map some) (hsmi : "nvidia-smi" ∉ programs) :
    LeavesMig [action] := by
  intro other hother command hcommand hhead
  rw [List.mem_singleton.mp hother] at hcommand
  have hmem : some "nvidia-smi" ∈ programs.map some := by
    rw [← h, ← hhead]
    exact List.mem_map_of_mem hcommand
  simp only [List.mem_map, Option.some.injEq, exists_eq_right] at hmem
  exact hsmi hmem

/-- The actions of the package policy leave MIG alone. -/
theorem lock_actions_leave_mig {actions : List PlanAction}
    (h : lockActions desired audit = .ok actions) : LeavesMig actions := by
  have hpolicy : ∀ reason, LeavesMig [unsupportedPackagePolicy reason] := fun reason =>
    leaves_mig_singleton [] rfl List.not_mem_nil
  unfold lockActions at h
  split at h
  · cases h
    exact leaves_mig_singleton [] rfl List.not_mem_nil
  · split at h
    · cases h
      exact hpolicy _
    · split at h
      · cases h
        unfold aptLockActions
        split
        · exact hpolicy _
        · dsimp only
          split
          · exact leaves_mig_nil
          · exact leaves_mig_singleton ["apt-get"] rfl (by decide)
      · dsimp only at h
        unfold dnfLockActions at h
        split at h
        · cases h
          exact hpolicy _
        · split at h
          · split at h
            · cases h
              exact leaves_mig_nil
            · cases h
              exact hpolicy _
          · obtain ⟨command, hcommand, hactions⟩ := Result.bind_eq_ok.mp h
            unfold dnfModuleEnableCommand at hcommand
            split at hcommand
            · cases hcommand
              cases hactions
              exact leaves_mig_singleton ["python3"] rfl (by decide)
            · cases hcommand
      · cases h
        unfold zypperLockActions
        dsimp only
        split
        · exact leaves_mig_singleton ["zypper"] rfl (by decide)
        · split
          · exact leaves_mig_nil
          · exact hpolicy _
      · cases h
        exact leaves_mig_nil
      · cases h
        exact leaves_mig_nil

/-- The package installation leaves MIG alone. -/
theorem package_actions_leave_mig {policyActions : List PlanAction}
    (h : LeavesMig policyActions) : LeavesMig (packageActions desired audit policyActions) := by
  have hinstall : LeavesMig [installPackages desired audit] := by
    have hprograms : ∃ programs : List String,
        (installPackages desired audit).commands.map List.head? =
        programs.map some ∧ "nvidia-smi" ∉ programs := by
      unfold installPackages packageInstallCommands
      dsimp only
      split
      · exact ⟨[], rfl, List.not_mem_nil⟩
      · split
        · exact ⟨["apt-get"], rfl, by decide⟩
        · exact ⟨["dnf"], rfl, by decide⟩
        · exact ⟨["yum"], rfl, by decide⟩
        · exact ⟨["zypper"], rfl, by decide⟩
        · exact ⟨[], rfl, List.not_mem_nil⟩
    obtain ⟨programs, hcommands, hsmi⟩ := hprograms
    exact leaves_mig_singleton programs hcommands hsmi
  unfold packageActions
  have hpolicy : LeavesMig
      (if desired.kernelPolicy = "pin-compatible" then policyActions else []) := by
    split
    · exact h
    · exact leaves_mig_nil
  split
  · exact hpolicy
  · have hsnapshot : LeavesMig [snapshotCurrentState] :=
      leaves_mig_singleton ["nvidia-converge"] rfl (by decide)
    exact (hsnapshot.append hpolicy).append hinstall

/-- The Docker actions leave MIG alone. -/
theorem docker_actions_leave_mig : LeavesMig (dockerActions desired audit) := by
  have hservice : ∀ service deferStart,
      LeavesMig (dockerServiceAction service deferStart).toList := by
    intro service deferStart
    unfold dockerServiceAction
    split_ifs
    all_goals
      first
        | exact leaves_mig_nil
        | exact leaves_mig_singleton ["systemctl"] rfl (by decide)
  have hruntime : ∀ service, LeavesMig [configureDockerRuntime service] := by
    intro service
    by_cases hactive : service.active = some true
    · exact leaves_mig_singleton ["systemctl", "nvidia-ctk", "systemctl"]
        (by simp [configureDockerRuntime, hactive]) (by decide)
    · exact leaves_mig_singleton ["nvidia-ctk", "systemctl"]
        (by simp [configureDockerRuntime, hactive]) (by decide)
  unfold dockerActions
  split
  · refine (hservice _ _).append ?_
    split
    · exact hruntime _
    · exact leaves_mig_nil
  · exact leaves_mig_nil

/-- Conditional actions have the commands of the actions, under the condition. -/
theorem mig_mutations_ite {condition : Prop} [Decidable condition] (actions : List PlanAction) :
    migMutations (if condition then actions else []) =
      if condition then migMutations actions else [] := by
  split <;> rfl

/-- The MIG commands of the module preparation are its teardown. -/
theorem module_actions_commands :
    migMutations (moduleActions desired audit) =
      if moduleResetRequired desired audit = true ∧ audit.migMode = some .enabled ∧
          audit.migGeometry ≠ [] then migGeometryDestroyCommands (migGpu audit)
      else [] := by
  unfold moduleActions
  rw [mig_mutations_append, mig_mutations_ite, mig_mutations_ite]
  have hprepare : ∀ {reason : Option String}, migMutations
      [{ id := "prepare.module"
         description := "Load the selected on-disk NVIDIA module stack."
         commands := [], destructive := true, reason := reason }] = [] := rfl
  rw [hprepare, ite_self, List.append_nil]
  rfl

/-- The commands of the MIG actions are those of a reconciliation. -/
theorem mig_actions_commands (hmig : desired.mig = "enabled" ∨ desired.mig = "disabled") :
    migMutations (migActions desired audit) =
      if moduleResetRequired desired audit = false ∧ migChangeRequired desired audit = true then
        (reconciliationAction desired audit).commands
      else [] := by
  unfold migActions
  dsimp only
  rw [mig_mutations_append, mig_mutations_append, mig_mutations_append, mig_mutations_ite,
    mig_mutations_ite, mig_mutations_ite, mig_mutations_ite]
  have hreconcile : ∀ {reason : Option String}, migMutations
      [{ id := "reconcile.mig-after-module"
         description :=
           "Reobserve and reconcile MIG mode and UUID-bound geometry after module reset."
         commands := [], destructive := true, reason := reason }] = [] := rfl
  rw [hreconcile, ite_self, List.append_nil, disable_mig_mutations, enable_mig_mutations,
    configure_mig_mutations]
  unfold migChangeRequired reconciliationAction
  cases hreset : moduleResetRequired desired audit with
  | true => simp
  | false =>
      rcases hmig with hmig | hmig <;> cases hmode : audit.migMode with
      | none => simp [hmig, hmode, migModeChangeRequired, migGeometryChangeRequired]
      | some mode =>
          cases mode with
          | enabled =>
              simp [hmig, hmode, migModeChangeRequired, migGeometryChangeRequired,
                disableMig, configureMigGeometry]
          | disabled =>
              simp [hmig, hmode, migModeChangeRequired, migGeometryChangeRequired, enableMig]
          | mixed => simp [hmig, hmode, migModeChangeRequired, migGeometryChangeRequired]

/-- Nothing blocks a plan whose MIG changes are qualified. -/
theorem qualified_of_plan {findings : List Finding} (h : planBlocker desired audit findings = none)
    (hchange : migChangeRequired desired audit = true) : MigQualified audit := by
  unfold migChangeRequired at hchange
  unfold planBlocker at h
  split at h
  · cases h
  · split at h
    · cases h
    · split at h
      · cases h
      · cases hblocker : migChangeBlocker audit with
        | none => exact mig_change_blocker_eq_none.mp hblocker
        | some blocker =>
            rw [hblocker] at h
            cases h

/-- Nothing blocks a module reset whose teardown is qualified. -/
theorem qualified_of_reset (h : moduleResetBlocker desired audit = none)
    (hreset : moduleResetRequired desired audit = true) (hmode : audit.migMode = some .enabled) :
    MigQualified audit := by
  unfold moduleResetBlocker at h
  rw [if_pos ⟨hreset, hmode⟩] at h
  unfold MigQualified
  split_ifs at h with hlength hcomplete hrestorable
  exact ⟨by simpa using hlength, by simpa using hcomplete, by simpa using hrestorable⟩

/-- What blocks a plan is a refusal, which has no commands. -/
theorem plan_blocker_commands {findings : List Finding} {blocker : PlanAction}
    (h : planBlocker desired audit findings = some blocker) : blocker.commands = [] := by
  have hchange : ∀ {refused : PlanAction}, migChangeBlocker audit = some refused →
      refused.commands = [] := by
    intro refused hrefused
    unfold migChangeBlocker at hrefused
    split_ifs at hrefused <;> exact Option.some.inj hrefused ▸ rfl
  unfold planBlocker at h
  split at h
  · exact Option.some.inj h ▸ rfl
  · split at h
    · exact Option.some.inj h ▸ rfl
    · split at h
      · exact Option.some.inj h ▸ rfl
      · split at h
        · next hmig =>
            cases h
            split at hmig
            · exact hchange hmig
            · cases hmig
        · split at h
          · cases h
          · exact Option.some.inj h ▸ rfl

/-- A refusal of a module reset has no commands. -/
theorem module_reset_blocker_commands {blocker : PlanAction}
    (h : moduleResetBlocker desired audit = some blocker) : blocker.commands = [] := by
  unfold moduleResetBlocker at h
  split_ifs at h <;> exact Option.some.inj h ▸ rfl

/-- A plan either refuses and leaves MIG alone, or holds the teardown and the MIG actions. -/
theorem build_plan_cases {findings : List Finding} {plan : List PlanAction}
    (hmig : desired.mig = "enabled" ∨ desired.mig = "disabled")
    (h : buildPlan desired audit findings = .ok plan) :
    (hasUnsupported plan = true ∧ migMutations plan = []) ∨
      planBlocker desired audit findings = none ∧ moduleResetBlocker desired audit = none ∧
        migMutations plan =
          (if moduleResetRequired desired audit = true ∧ audit.migMode = some .enabled ∧
              audit.migGeometry ≠ [] then migGeometryDestroyCommands (migGpu audit) else []) ++
          (if moduleResetRequired desired audit = false ∧
              migChangeRequired desired audit = true then
            (reconciliationAction desired audit).commands else []) := by
  have hrefused : ∀ {blocker : PlanAction}, blocker.unsupported = true →
      hasUnsupported [blocker] = true := fun hblocker => by simp [hasUnsupported, hblocker]
  unfold buildPlan at h
  cases hblocker : planBlocker desired audit findings with
  | some blocker =>
      rw [hblocker] at h
      cases h
      refine .inl ⟨hrefused (plan_blocker_unsupported hblocker), ?_⟩
      exact mig_mutations_of_no_commands (plan_blocker_commands hblocker)
  | none =>
      cases hreset : moduleResetBlocker desired audit with
      | some blocker =>
          rw [hblocker, hreset] at h
          cases h
          refine .inl ⟨hrefused (module_reset_blocker_unsupported hreset), ?_⟩
          exact mig_mutations_of_no_commands (module_reset_blocker_commands hreset)
      | none =>
          rw [hblocker, hreset] at h
          -- Whether the package policy refuses or adds a lock, it holds no MIG command.
          obtain ⟨policyActions, hpolicy, hplan⟩ := Result.bind_eq_ok.mp h
          have hleaves : LeavesMig policyActions := by
            unfold plannedPolicyActions at hpolicy
            split at hpolicy
            · exact lock_actions_leave_mig hpolicy
            · cases hpolicy
              exact leaves_mig_nil
          split at hplan
          · next hunsupported =>
              cases hplan
              exact .inl ⟨hunsupported, mig_mutations_eq_nil hleaves⟩
          · split at hplan
            · cases hplan
              exact .inl ⟨hrefused (refusal_unsupported (by decide)), rfl⟩
            · cases hplan
              refine .inr ⟨rfl, rfl, ?_⟩
              have hpackages : migMutations (packageActions desired audit policyActions) = [] :=
                mig_mutations_eq_nil (package_actions_leave_mig hleaves)
              have hdocker : migMutations (dockerActions desired audit) = [] :=
                mig_mutations_eq_nil docker_actions_leave_mig
              have hverify : migMutations [verifyStackAction] = [] := rfl
              rw [mig_mutations_append, mig_mutations_append, hostActions, mig_mutations_append,
                mig_mutations_append, hpackages, hdocker, hverify, module_actions_commands,
                mig_actions_commands hmig, List.append_nil, List.append_nil, List.nil_append]

/-- The MIG commands of every plan that is built are safe. -/
theorem build_plan_safe {findings : List Finding} {plan : List PlanAction}
    (hmig : desired.mig = "enabled" ∨ desired.mig = "disabled")
    (h : buildPlan desired audit findings = .ok plan) :
    MigCommandsSafe audit (migMutations plan) := by
  rcases build_plan_cases hmig h with ⟨_, hnone⟩ | ⟨hblocker, hreset, hcommands⟩
  · rw [hnone]
    exact safe_nil
  · rw [hcommands]
    by_cases hteardown : moduleResetRequired desired audit = true ∧
        audit.migMode = some .enabled ∧ audit.migGeometry ≠ []
    · -- a module reset: the teardown alone
      have hqualified := qualified_of_reset hreset hteardown.1 hteardown.2.1
      have hno : ¬ (moduleResetRequired desired audit = false ∧
          migChangeRequired desired audit = true) := fun hand => by
        rw [hteardown.1] at hand
        exact Bool.noConfusion hand.1
      rw [if_pos hteardown, if_neg hno, List.append_nil]
      exact ⟨migGpu audit, [.destroyCompute, .destroyGpu], rfl,
        fun _ => ⟨hqualified.gpu, hqualified⟩, by decide, by decide⟩
    · rw [if_neg hteardown, List.nil_append]
      split
      · next hchange => exact reconciliation_action_safe (qualified_of_plan hblocker hchange.2)
      · exact safe_nil

/-- Without a module reset and with a settled mode, a plan that refuses nothing has the MIG
commands of a reconciliation. -/
theorem reconciliation_agrees {findings : List Finding} {plan : List PlanAction}
    (hmig : desired.mig = "enabled" ∨ desired.mig = "disabled")
    (h : buildPlan desired audit findings = .ok plan) (hsupported : hasUnsupported plan = false)
    (hreset : moduleResetRequired desired audit = false)
    (hpending : audit.migMode = audit.migModePending) :
    migMutations plan = migMutations (migReconciliationActions desired audit) := by
  rcases build_plan_cases hmig h with ⟨hunsupported, _⟩ | ⟨hblocker, _, hcommands⟩
  · rw [hunsupported] at hsupported
    cases hsupported
  · rw [hcommands, reconciliation_commands, hreset]
    have hno : ¬ (false = true ∧ audit.migMode = some .enabled ∧ audit.migGeometry ≠ []) :=
      fun hand => Bool.noConfusion hand.1
    rw [if_neg hno, List.nil_append]
    by_cases hchange : migChangeRequired desired audit = true
    · have hknown : modeUnknown audit.migMode = false := by
        unfold migChangeRequired migModeChangeRequired migGeometryChangeRequired at hchange
        cases hmode : audit.migMode with
        | none => simp [hmode] at hchange
        | some mode =>
            cases mode with
            | enabled => rfl
            | disabled => rfl
            | mixed => simp [hmode] at hchange
      have hqualified := reconciliation_blocker_eq_none.mpr (qualified_of_plan hblocker hchange)
      rw [if_pos ⟨rfl, hchange⟩, if_pos ⟨hknown, hpending, hchange, hqualified⟩]
    · rw [if_neg fun hand => hchange hand.2, if_neg fun hand => hchange hand.2.2.1]

end NvidiaConverge
