import NvidiaConverge.Library.Program
import NvidiaConverge.Planning.MigReconciliation

/-!
# Executing MIG commands

`_execute_mig_reconciliation` of `cli.py`: each command is followed by a fresh audit of the host,
and the loop stops at the first failure, at lost evidence, and at a mode that is only pending.
`mig_execution` says what every run issues and when it reports success, for arbitrary results and
audits; `ideal_gpu_converges` says that on a GPU that does what it is told the plan ends well.
-/

namespace NvidiaConverge

/-- What the loop of the reconciliation does to the host: it runs a command or takes an audit. -/
inductive MigOp where
  | run (command : List String)
  | auditHost

/-- What the host answers: the result of a command, or the audit. -/
abbrev MigOp.Reply : MigOp → Type
  | .run _ => CommandResult
  | .auditHost => HostAudit

/-- Programs over these operations, which raise nothing. -/
abbrev MigProgram := Program MigOp MigOp.Reply Empty

/-- `runner.run(command, mutate=True, allow_fail=True)`. -/
abbrev runMigCommand (command : List String) : MigProgram CommandResult :=
  Program.perform (MigOp.run command)

/-- `audit_host(runner)`: one more audit of the host. -/
abbrev freshMigAudit : MigProgram HostAudit :=
  Program.perform MigOp.auditHost

/-- The values that `_execute_mig_reconciliation` returns. -/
structure MigOutcome where
  success : Bool
  audit : HostAudit
  rebootPending : Bool
  results : List CommandResult

/-- `result.returncode not in (0, None)`: the command exited with another status. -/
def CommandResult.failed (result : CommandResult) : Bool :=
  match result.returncode with
  | none => false
  | some code => code != 0

/-- The result that stands for a refused checkpoint. -/
def migCheckpoint (stderr : String) : CommandResult where
  command := ["mig-reconciliation-checkpoint"]
  returncode := some 1
  stderr := stderr

/-- `current = pending = desired`: the desired mode is there and none is pending. -/
def modeSettled (desired : DesiredState) (audit : HostAudit) : Bool :=
  modeIs desired audit.migMode && modeIs desired audit.migModePending

/-- The desired mode is staged and not current. -/
def modeStaged (desired : DesiredState) (audit : HostAudit) : Bool :=
  !modeIs desired audit.migMode && modeIs desired audit.migModePending

/-- The loop of `_execute_mig_reconciliation` over the commands of the actions. -/
def executeMigCommands (desired : DesiredState) (expectedGpuUuids : List String) :
    List (List String) → HostAudit → List CommandResult → MigProgram MigOutcome
  | [], current, results =>
      let rebootPending := modeStaged desired current
      pure ⟨modeSettled desired current || rebootPending, current, rebootPending, results⟩
  | command :: commands, current, results =>
      -- Instances are created on an enabled GPU only; a staged mode waits for its reboot.
      if desired.mig = "enabled" ∧ command.contains "-cgi" = true ∧
          current.migMode ≠ some .enabled then
        if modeStaged desired current then pure ⟨true, current, true, results⟩
        else
          pure ⟨false, current, false, results ++
            [migCheckpoint ("refusing to create MIG geometry while current MIG " ++
              "mode is not enabled")]⟩
      else do
        let result ← runMigCommand command
        if result.failed then pure ⟨false, current, false, results ++ [result]⟩
        else do
          let current ← freshMigAudit
          if current.packageInventoryComplete = false ∨ current.gpuUuids ≠ expectedGpuUuids then
            pure ⟨false, current, false, results ++ [result] ++
              [migCheckpoint ("fresh MIG checkpoint lost complete package/GPU " ++
                "identity evidence")]⟩
          else if command.contains "-mig" then
            if modeSettled desired current then
              executeMigCommands desired expectedGpuUuids commands current (results ++ [result])
            else if modeStaged desired current then
              pure ⟨true, current, true, results ++ [result]⟩
            else
              pure ⟨false, current, false, results ++ [result] ++
                [migCheckpoint ("MIG mode command did not produce the desired current " ++
                  "or pending state")]⟩
          else
            executeMigCommands desired expectedGpuUuids commands current (results ++ [result])

/-- `_execute_mig_reconciliation`: the commands of the actions, audited one by one. -/
def executeMigReconciliation (desired : DesiredState) (audit : HostAudit)
    (actions : List PlanAction) : MigProgram MigOutcome :=
  executeMigCommands desired audit.gpuUuids (actions.flatMap (·.commands)) audit []

/-! ## What a run has seen -/

/-- An operation of the loop, with the reply that it got. -/
abbrev MigEvent := Program.Event MigOp MigOp.Reply

/-- Where a run stands: what the latest audit shows, whether a mode command waits for its audit,
and whether a command failed or a mode command left the mode unsettled. -/
structure MigView where
  audit : HostAudit
  modeCommand : Bool := false
  stopped : Bool := false

/-- What is known behind one more event: a command's kind and failure, or the state of an audit. -/
def MigView.after (desired : DesiredState) (view : MigView) (event : MigEvent) : MigView :=
  match event with
  | ⟨.run command, result⟩ =>
      { view with
        modeCommand := command.contains "-mig"
        stopped := view.stopped || result.failed }
  | ⟨.auditHost, audit⟩ =>
      { audit := audit
        stopped := view.stopped || (view.modeCommand && !modeSettled desired audit) }

/-- What a trace has seen, from the first audit on. -/
def migView (desired : DesiredState) (audit : HostAudit) (trace : List MigEvent) : MigView :=
  trace.foldl (MigView.after desired) { audit := audit }

/-- What may be issued: nothing once the run has stopped, and a creation only while the latest
audit shows the mode enabled. -/
def migAllows (desired : DesiredState) (audit : HostAudit) (trace : List MigEvent) (op : MigOp) :
    Prop :=
  (migView desired audit trace).stopped = false ∧
    ∀ command gpu placement, op = .run command → migStep? command = some (gpu, .create placement) →
      (migView desired audit trace).audit.migMode = some .enabled

/-- How a run may end: success is reported for the latest audit only, with the desired mode
current and pending, or staged with the reboot flag. -/
def MigEnds (desired : DesiredState) (audit : HostAudit) (outcome : MigOutcome)
    (trace : List MigEvent) : Prop :=
  outcome.audit = (migView desired audit trace).audit ∧
    (outcome.success = true → modeSettled desired outcome.audit = true ∨
      (modeIs desired outcome.audit.migModePending = true ∧ outcome.rebootPending = true))

variable {desired : DesiredState} {audit : HostAudit} {trace : List MigEvent}

theorem mig_view_snoc (desired : DesiredState) (audit : HostAudit) (trace : List MigEvent)
    (event : MigEvent) :
    migView desired audit (trace ++ [event]) =
      (migView desired audit trace).after desired event := by
  rw [migView, List.foldl_append]
  rfl

/-- What every run of the loop ends with: allowed operations, and a settled state when it
succeeds. -/
def MigPost (desired : DesiredState) (audit : HostAudit) :
    Program.Outcome Empty MigOutcome → List MigEvent → Prop :=
  Program.ending (Program.Allowed (migAllows desired audit)) (fun error _ => error.elim)
    fun outcome trace =>
      Program.Allowed (migAllows desired audit) trace ∧ MigEnds desired audit outcome trace

/-- The command that creates an instance is recognised by its `-cgi`. -/
theorem contains_of_create {command : List String} {gpu placement : String}
    (h : migStep? command = some (gpu, .create placement)) : command.contains "-cgi" = true := by
  unfold migStep? at h
  split at h
  · cases h
  · cases h
  · cases h
  · simp
  · cases h

open Program in
/-- The loop, behind a trace that may go on: by induction on the commands that are left. -/
theorem ensures_execute_mig_commands (expected : List String) (commands : List (List String))
    (hcreate : desired.mig = "enabled" ∨ ∀ command ∈ commands, ∀ gpu placement,
      migStep? command ≠ some (gpu, .create placement))
    (current : HostAudit) (results : List CommandResult)
    (hallowed : Allowed (migAllows desired audit) trace)
    (hview : migView desired audit trace = { audit := current }) :
    Ensures anyReply (MigPost desired audit)
      (executeMigCommands desired expected commands current results) trace := by
  induction commands generalizing trace current results with
  | nil =>
      refine ensures_pure.mpr ⟨hallowed, hallowed, by rw [hview], fun hsuccess => ?_⟩
      rcases Bool.or_eq_true_iff.mp hsuccess with hsettled | hstaged
      · exact .inl hsettled
      · exact .inr ⟨(Bool.and_eq_true_iff.mp hstaged).2, hstaged⟩
  | cons command commands ih =>
      rw [executeMigCommands]
      split
      · split
        · next hstaged =>
            exact ensures_pure.mpr ⟨hallowed, hallowed, by rw [hview],
              fun _ => .inr ⟨(Bool.and_eq_true_iff.mp hstaged).2, rfl⟩⟩
        · exact ensures_pure.mpr ⟨hallowed, hallowed, by rw [hview],
            fun hsuccess => Bool.noConfusion hsuccess⟩
      · next hguard =>
          -- past the guard a creation meets the enabled mode
          have hrun : migAllows desired audit trace (.run command) := by
            refine ⟨by rw [hview], fun other gpu placement hother hstep => ?_⟩
            cases hother
            rw [hview]
            rcases hcreate with henabled | hnone
            · by_contra hmode
              exact hguard ⟨henabled, contains_of_create hstep, hmode⟩
            · exact absurd hstep (hnone command List.mem_cons_self gpu placement)
          refine ensures_any_reply hallowed fun result => ?_
          have hran := hallowed.snoc hrun result
          have hviewRun := mig_view_snoc desired audit trace ⟨.run command, result⟩
          rw [hview] at hviewRun
          show Ensures _ _ (if result.failed = true then _ else _) _
          split
          · exact ensures_pure.mpr ⟨hran, hran, by rw [hviewRun]; rfl,
              fun hsuccess => Bool.noConfusion hsuccess⟩
          · next hfailed =>
              have haudit : migAllows desired audit (trace ++ [⟨.run command, result⟩])
                  .auditHost := by
                refine ⟨?_, fun other gpu placement hother => by cases hother⟩
                rw [hviewRun]
                simpa [MigView.after] using hfailed
              refine ensures_any_reply hran fun fresh => ?_
              have hseen := hran.snoc haudit fresh
              have hviewSeen := mig_view_snoc desired audit (trace ++ [⟨.run command, result⟩])
                ⟨.auditHost, fresh⟩
              rw [hviewRun] at hviewSeen
              -- the run goes on unless this was a mode command without its mode
              have hnext : (command.contains "-mig" = true → modeSettled desired fresh = true) →
                  migView desired audit
                    (trace ++ [⟨.run command, result⟩] ++ [⟨.auditHost, fresh⟩]) =
                      { audit := fresh } := by
                intro hsettled
                rw [hviewSeen]
                rw [Bool.not_eq_true] at hfailed
                simpa [MigView.after, hfailed] using hsettled
              have hmore : desired.mig = "enabled" ∨ ∀ other ∈ commands, ∀ gpu placement,
                  migStep? other ≠ some (gpu, .create placement) :=
                hcreate.imp_right fun hnone other hother =>
                  hnone other (List.mem_cons_of_mem _ hother)
              show Ensures _ _ (if _ then _ else _) _
              split
              · exact ensures_pure.mpr ⟨hseen, hseen, by rw [hviewSeen]; rfl,
                  fun hsuccess => Bool.noConfusion hsuccess⟩
              · split
                · split
                  · next hsettled => exact ih hmore fresh _ hseen (hnext fun _ => hsettled)
                  · split
                    · next hstaged =>
                        exact ensures_pure.mpr ⟨hseen, hseen, by rw [hviewSeen]; rfl,
                          fun _ => .inr ⟨(Bool.and_eq_true_iff.mp hstaged).2, rfl⟩⟩
                    · exact ensures_pure.mpr ⟨hseen, hseen, by rw [hviewSeen]; rfl,
                        fun hsuccess => Bool.noConfusion hsuccess⟩
                · next hmode => exact ih hmore fresh _ hseen (hnext fun hand => absurd hand hmode)

/-- A reconciliation towards the disabled mode creates nothing. -/
theorem reconciliation_creates_enabled (audit : HostAudit)
    (hmig : desired.mig = "enabled" ∨ desired.mig = "disabled") :
    desired.mig = "enabled" ∨
      ∀ command ∈ (migReconciliationActions desired audit).flatMap (·.commands),
        ∀ gpu placement, migStep? command ≠ some (gpu, .create placement) := by
  refine hmig.imp_right fun hdisabled command hcommand gpu placement hstep => ?_
  rcases reconciliation_cases desired audit with
    ⟨_, hnone⟩ | ⟨hnone, _⟩ | ⟨haction, _⟩
  · rw [hnone] at hcommand
    cases hcommand
  · rw [hnone] at hcommand
    cases hcommand
  · rw [haction, List.flatMap_singleton, reconciliationAction, if_pos hdisabled] at hcommand
    rcases List.mem_append.mp hcommand with hcommand | hcommand
    · unfold migTeardownCommands migGeometryDestroyCommands at hcommand
      split at hcommand
      · cases hcommand
      · simp only [List.mem_cons, List.not_mem_nil, or_false] at hcommand
        rcases hcommand with rfl | rfl <;> cases hstep
    · rw [List.mem_singleton.mp hcommand] at hstep
      cases hstep

/-- Every run of a reconciliation, with arbitrary results and audits. -/
theorem reconciliation_runs (hmig : desired.mig = "enabled" ∨ desired.mig = "disabled")
    {outcome : Program.Outcome Empty MigOutcome} {trace : List MigEvent}
    (hruns : Program.Runs Program.anyReply
      (executeMigReconciliation desired audit (migReconciliationActions desired audit)) [] outcome
      trace) : MigPost desired audit outcome trace :=
  (ensures_execute_mig_commands _ _ (reconciliation_creates_enabled audit hmig) audit []
    Program.allowed_nil rfl).runs hruns

/-! ## A GPU that does what it is told -/

/-- The MIG state of one GPU: its current and its pending mode, and its instances. -/
structure MigState where
  current : MigMode
  pending : MigMode
  geometry : List MigGpuInstance

/-- A host with one GPU on which every command succeeds. A mode change takes effect at once, or
at the next reboot. -/
structure IdealGpu where
  base : HostAudit
  gpu : String
  full : MigGpuInstance
  immediate : Bool
  inventory : base.packageInventoryComplete = true
  named : Text.startsWith gpu "GPU-" = true
  fullMatches : fullMigGeometryMatches [full] [gpu] = true

namespace IdealGpu

variable (ideal : IdealGpu)

/-- What an audit of the ideal GPU shows of its state. -/
def observed (state : MigState) : HostAudit :=
  { ideal.base with
    migMode := some state.current
    migModePending := some state.pending
    gpuUuids := [ideal.gpu]
    migGeometry := state.geometry
    migGeometryComplete := true }

/-- What a step of the commands does to the state of the ideal GPU. -/
def take (state : MigState) : MigStep → MigState
  | .destroyCompute =>
      { state with geometry := state.geometry.map fun gpuInstance =>
          { gpuInstance with computeInstances := [] } }
  | .destroyGpu => { state with geometry := [] }
  | .mode value =>
      let mode := if value = "1" then MigMode.enabled else .disabled
      { state with pending := mode, current := if ideal.immediate then mode else state.current }
  | .create placement =>
      { state with geometry := if placement = "0:0" then [ideal.full] else state.geometry }

/-- The ideal GPU as the server of the loop's operations. -/
def serve (state : MigState) : (op : MigOp) → op.Reply × MigState
  | .run command =>
      ({ command := command, returncode := some 0 },
        match migStep? command with
        | some (gpu, step) => if gpu = ideal.gpu then ideal.take state step else state
        | none => state)
  | .auditHost => (ideal.observed state, state)

variable {ideal}

/-- The name of a GPU is none of the words of a command. -/
theorem gpu_ne {word : String} (hword : Text.startsWith word "GPU-" = false) :
    ideal.gpu ≠ word := by
  rintro rfl
  rw [ideal.named] at hword
  cases hword

/-- The result of a command that the GPU obeyed. -/
def obeyed (command : List String) : CommandResult :=
  { command := command, returncode := some 0 }

open Program in
/-- One command past its guard, up to the audit behind it. -/
theorem run_command {state next : MigState} {command : List String} (commands : List (List String))
    (results : List CommandResult)
    (hserve : (ideal.serve state (.run command)).2 = next)
    (hguard : desired.mig = "enabled" → command.contains "-cgi" = true → state.current = .enabled) :
    run ideal.serve (executeMigCommands desired [ideal.gpu] (command :: commands)
        (ideal.observed state) results) state =
      run ideal.serve
        (if command.contains "-mig" then
          if modeSettled desired (ideal.observed next) then
            executeMigCommands desired [ideal.gpu] commands (ideal.observed next)
              (results ++ [obeyed command])
          else if modeStaged desired (ideal.observed next) then
            pure ⟨true, ideal.observed next, true, results ++ [obeyed command]⟩
          else
            pure ⟨false, ideal.observed next, false, results ++ [obeyed command] ++
              [migCheckpoint ("MIG mode command did not produce the desired current " ++
                "or pending state")]⟩
        else
          executeMigCommands desired [ideal.gpu] commands (ideal.observed next)
            (results ++ [obeyed command])) next := by
  have hno : ¬ (desired.mig = "enabled" ∧ command.contains "-cgi" = true ∧
      (ideal.observed state).migMode ≠ some .enabled) := fun h =>
    h.2.2 (congrArg some (hguard h.1 h.2.1))
  rw [executeMigCommands, if_neg hno]
  subst hserve
  have hkept : ∀ {state : MigState}, ¬ ((ideal.observed state).packageInventoryComplete = false ∨
      (ideal.observed state).gpuUuids ≠ [ideal.gpu]) := by
    intro state h
    rcases h with hlost | hother
    · exact Bool.noConfusion (ideal.inventory.symm.trans hlost)
    · exact hother rfl
  have hcommand : run ideal.serve (runMigCommand command) state =
      (.ok (obeyed command), (ideal.serve state (.run command)).2) := rfl
  have haudit : ∀ state, run ideal.serve freshMigAudit state =
      (.ok (ideal.observed state), state) := fun _ => rfl
  have hsucceeded : ¬ (obeyed command).failed = true := by
    simp [obeyed, CommandResult.failed]
  rw [run_bind_ok hcommand, if_neg hsucceeded, run_bind_ok (haudit _), if_neg hkept]

/-- How a reconciliation ends well on this GPU. -/
def EndsWell (ideal : IdealGpu) (desired : DesiredState)
    (result : Except Empty MigOutcome × MigState) : Prop :=
  ∃ outcome, result.1 = .ok outcome ∧ outcome.success = true ∧
    (outcome.rebootPending = false →
      migReconciliationActions desired (ideal.observed result.2) = [])

/-- A state with the desired mode and geometry needs nothing. -/
def Converged (ideal : IdealGpu) (desired : DesiredState) (state : MigState) : Prop :=
  state.current = state.pending ∧ modeIs desired (some state.current) = true ∧
    (desired.mig = "enabled" → state.geometry = [ideal.full])

/-- The desired mode is compared by its spelling, which tells the modes apart. -/
theorem mode_is_iff {target : MigMode} (h : desired.mig = target.value) (mode : MigMode) :
    modeIs desired (some mode) = true ↔ mode = target := by
  unfold modeIs
  rw [h]
  cases mode <;> cases target <;> decide

/-- A converged state is one that a reconciliation leaves alone. -/
theorem reconciliation_of_converged (hmig : desired.mig = "enabled" ∨ desired.mig = "disabled")
    {state : MigState} (h : Converged ideal desired state) :
    migReconciliationActions desired (ideal.observed state) = [] := by
  obtain ⟨hpending, hmode, hgeometry⟩ := h
  rcases hmig with hmig | hmig
  · have hcurrent : state.current = .enabled := (mode_is_iff hmig state.current).mp hmode
    simp [migReconciliationActions, observed, modeUnknown, ← hpending, hcurrent, hmig,
      migModeChangeRequired, migGeometryChangeRequired, hgeometry hmig, ideal.fullMatches]
  · have hcurrent : state.current = .disabled := (mode_is_iff hmig state.current).mp hmode
    simp [migReconciliationActions, observed, modeUnknown, ← hpending, hcurrent, hmig,
      migModeChangeRequired, migGeometryChangeRequired]

open Program in
/-- The end of the commands, in a converged state. -/
theorem ends_well_converged (hmig : desired.mig = "enabled" ∨ desired.mig = "disabled")
    {state : MigState} (h : Converged ideal desired state) (results : List CommandResult) :
    EndsWell ideal desired (run ideal.serve
      (executeMigCommands desired [ideal.gpu] [] (ideal.observed state) results) state) := by
  have hsettled : modeSettled desired (ideal.observed state) = true := by
    rw [modeSettled, Bool.and_eq_true]
    refine ⟨h.2.1, ?_⟩
    show modeIs desired (some state.pending) = true
    rw [← h.1]
    exact h.2.1
  refine ⟨_, rfl, ?_, fun _ => reconciliation_of_converged hmig h⟩
  show (modeSettled desired (ideal.observed state) || _) = true
  rw [hsettled, Bool.true_or]

/-- The commands of the teardown, ahead of the rest. -/
theorem run_teardown (state : MigState) (commands : List (List String))
    (henabled : desired.mig = "enabled" → state.current = .enabled) (results : List CommandResult) :
    ∃ more, Program.run ideal.serve (executeMigCommands desired [ideal.gpu]
        (migTeardownCommands (ideal.observed state) ++ commands)
          (ideal.observed state) results) state =
      Program.run ideal.serve (executeMigCommands desired [ideal.gpu] commands
        (ideal.observed { state with geometry := [] }) more) { state with geometry := [] } := by
  have hgpu : ideal.gpu ≠ "-mig" := ideal.gpu_ne (by decide)
  have hword : ∀ word ∈ ["-dci", "-dgi"],
      ["nvidia-smi", "mig", "-i", ideal.gpu, word].contains "-mig" = false := by
    intro word hmem
    simp only [List.mem_cons, List.not_mem_nil, or_false] at hmem
    rcases hmem with rfl | rfl <;> simpa using hgpu.symm
  obtain ⟨current, pending, geometry⟩ := state
  unfold migTeardownCommands
  split
  · next hnone =>
      have hgeometry : geometry = [] := hnone
      subst hgeometry
      exact ⟨results, rfl⟩
  · refine ⟨results ++ [obeyed ["nvidia-smi", "mig", "-i", ideal.gpu, "-dci"]] ++
      [obeyed ["nvidia-smi", "mig", "-i", ideal.gpu, "-dgi"]], ?_⟩
    show Program.run ideal.serve (executeMigCommands desired [ideal.gpu]
      (["nvidia-smi", "mig", "-i", ideal.gpu, "-dci"] ::
        ["nvidia-smi", "mig", "-i", ideal.gpu, "-dgi"] :: commands) _ results) _ = _
    have hci : (ideal.serve ⟨current, pending, geometry⟩
        (.run ["nvidia-smi", "mig", "-i", ideal.gpu, "-dci"])).2 =
          ⟨current, pending, geometry.map fun gpuInstance =>
            { gpuInstance with computeInstances := [] }⟩ := by
      simp [serve, migStep?, take]
    have hgi : (ideal.serve ⟨current, pending, geometry.map fun gpuInstance =>
          { gpuInstance with computeInstances := [] }⟩
        (.run ["nvidia-smi", "mig", "-i", ideal.gpu, "-dgi"])).2 = ⟨current, pending, []⟩ := by
      simp [serve, migStep?, take]
    rw [run_command _ _ hci fun hdesired _ => henabled hdesired,
      if_neg (by rw [hword _ (by decide)]; decide),
      run_command _ _ hgi fun hdesired _ => henabled hdesired,
      if_neg (by rw [hword _ (by decide)]; decide)]

/-- The mode command, as the last or the first of the commands: the mode is there, or staged. -/
theorem run_mode {target : MigMode} (htarget : desired.mig = target.value) (value : String)
    (hvalue : (if value = "1" then MigMode.enabled else .disabled) = target)
    (hword : value ≠ "-cgi") (state : MigState)
    (hne : state.current ≠ target) (commands : List (List String)) (results : List CommandResult) :
    (∃ more, Program.run ideal.serve (executeMigCommands desired [ideal.gpu]
        (["nvidia-smi", "-i", ideal.gpu, "-mig", value] :: commands) (ideal.observed state) results)
          state =
        Program.run ideal.serve (executeMigCommands desired [ideal.gpu] commands
          (ideal.observed ⟨target, target, state.geometry⟩) more)
            ⟨target, target, state.geometry⟩) ∨
      EndsWell ideal desired (Program.run ideal.serve (executeMigCommands desired [ideal.gpu]
        (["nvidia-smi", "-i", ideal.gpu, "-mig", value] :: commands) (ideal.observed state) results)
          state) := by
  have hserve : (ideal.serve state (.run ["nvidia-smi", "-i", ideal.gpu, "-mig", value])).2 =
      ⟨if ideal.immediate then target else state.current, target, state.geometry⟩ := by
    simp [serve, migStep?, take, hvalue]
  have hguard : desired.mig = "enabled" →
      ["nvidia-smi", "-i", ideal.gpu, "-mig", value].contains "-cgi" = true →
        state.current = .enabled := by
    intro _ hcontains
    have hgpu : ideal.gpu ≠ "-cgi" := ideal.gpu_ne (by decide)
    simp [hgpu.symm, hword.symm] at hcontains
  have hcontains : ["nvidia-smi", "-i", ideal.gpu, "-mig", value].contains "-mig" = true := by
    simp
  rw [run_command _ _ hserve hguard, if_pos hcontains]
  have hpending : modeIs desired (some target) = true := (mode_is_iff htarget target).mpr rfl
  -- The mode is in force at once, or pending until a reboot, which ends the commands.
  cases himmediate : ideal.immediate with
  | true =>
      left
      have hsettled :
          modeSettled desired (ideal.observed ⟨target, target, state.geometry⟩) = true :=
        Bool.and_eq_true_iff.mpr ⟨hpending, hpending⟩
      refine ⟨results ++ [obeyed ["nvidia-smi", "-i", ideal.gpu, "-mig", value]], ?_⟩
      simp [hsettled]
  | false =>
      right
      have hcurrent : modeIs desired (some state.current) = false := by
        rw [← Bool.not_eq_true, mode_is_iff htarget]
        exact hne
      have hunsettled : modeSettled desired
          (ideal.observed ⟨state.current, target, state.geometry⟩) = false := by
        show (modeIs desired (some state.current) && _) = false
        rw [hcurrent, Bool.false_and]
      have hstaged : modeStaged desired
          (ideal.observed ⟨state.current, target, state.geometry⟩) = true := by
        show (!modeIs desired (some state.current) && modeIs desired (some target)) = true
        rw [hcurrent, hpending]
        rfl
      simp only [Bool.false_eq_true, if_false, hunsettled, hstaged, if_true]
      exact ⟨_, rfl, rfl, fun hreboot => Bool.noConfusion hreboot⟩

/-- The creation, as the last of the commands. -/
theorem run_create (hmig : desired.mig = "enabled") (state : MigState)
    (hcurrent : state.current = .enabled) (hpending : state.pending = .enabled)
    (results : List CommandResult) :
    EndsWell ideal desired (Program.run ideal.serve (executeMigCommands desired [ideal.gpu]
      [desiredFullMigGeometryCommand ideal.gpu] (ideal.observed state) results) state) := by
  have hserve : (ideal.serve state (.run (desiredFullMigGeometryCommand ideal.gpu))).2 =
      { state with geometry := [ideal.full] } := by
    simp [serve, migStep?, take, desiredFullMigGeometryCommand]
  have hcontains : ¬ (desiredFullMigGeometryCommand ideal.gpu).contains "-mig" = true := by
    have hgpu : ideal.gpu ≠ "-mig" := ideal.gpu_ne (by decide)
    simpa [desiredFullMigGeometryCommand] using hgpu.symm
  rw [run_command _ _ hserve fun _ _ => hcurrent, if_neg hcontains]
  have hconverged : Converged ideal desired { state with geometry := [ideal.full] } :=
    ⟨hcurrent.trans hpending.symm, (mode_is_iff hmig _).mpr hcurrent, fun _ => rfl⟩
  exact ends_well_converged (.inl hmig) hconverged _

/-- On the ideal GPU the commands of `configure.mig-geometry` end with the desired geometry. -/
theorem configure_ends_well (hmig : desired.mig = "enabled") (state : MigState)
    (hcurrent : state.current = .enabled) (hpending : state.pending = .enabled) (reason : String) :
    EndsWell ideal desired (Program.run ideal.serve (executeMigCommands desired [ideal.gpu]
      (configureMigGeometry (ideal.observed state) reason).commands (ideal.observed state) [])
        state) := by
  obtain ⟨more, hrun⟩ := run_teardown state [desiredFullMigGeometryCommand ideal.gpu]
    (fun _ => hcurrent) []
  show EndsWell ideal desired (Program.run ideal.serve (executeMigCommands desired [ideal.gpu]
    (migTeardownCommands (ideal.observed state) ++ [desiredFullMigGeometryCommand ideal.gpu]) _ [])
      state)
  rw [hrun]
  exact run_create hmig ⟨state.current, state.pending, []⟩ hcurrent hpending more

/-- On the ideal GPU the commands of `enable.mig` end with the desired mode and geometry. -/
theorem enable_ends_well (hmig : desired.mig = "enabled") (state : MigState)
    (hcurrent : state.current ≠ .enabled) (reason : String) :
    EndsWell ideal desired (Program.run ideal.serve (executeMigCommands desired [ideal.gpu]
      (enableMig (ideal.observed state) reason).commands (ideal.observed state) []) state) := by
  rcases run_mode hmig "1" rfl (by decide) state hcurrent
    [desiredFullMigGeometryCommand ideal.gpu] [] with ⟨more, hrun⟩ | hstaged
  · show EndsWell ideal desired (Program.run ideal.serve (executeMigCommands desired [ideal.gpu]
      (["nvidia-smi", "-i", ideal.gpu, "-mig", "1"] ::
        [desiredFullMigGeometryCommand ideal.gpu]) _ []) state)
    rw [hrun]
    exact run_create hmig _ rfl rfl more
  · exact hstaged

/-- On the ideal GPU the commands of `disable.mig` end with the desired mode. -/
theorem disable_ends_well (hmig : desired.mig = "disabled") (state : MigState)
    (hcurrent : state.current ≠ .disabled) (reason : String) :
    EndsWell ideal desired (Program.run ideal.serve (executeMigCommands desired [ideal.gpu]
      (disableMig (ideal.observed state) reason).commands (ideal.observed state) []) state) := by
  have hne : ¬ desired.mig = "enabled" := by rw [hmig]; decide
  obtain ⟨more, hrun⟩ := run_teardown state [["nvidia-smi", "-i", ideal.gpu, "-mig", "0"]]
    (fun h => absurd h hne) []
  show EndsWell ideal desired (Program.run ideal.serve (executeMigCommands desired [ideal.gpu]
    (migTeardownCommands (ideal.observed state) ++ [["nvidia-smi", "-i", ideal.gpu, "-mig", "0"]])
      _ []) state)
  rw [hrun]
  rcases run_mode hmig "0" rfl (by decide) { state with geometry := [] } hcurrent [] more
    with ⟨last, hlast⟩ | hstaged
  · rw [hlast]
    have hconverged : Converged ideal desired ⟨.disabled, .disabled, []⟩ :=
      ⟨rfl, (mode_is_iff hmig _).mpr rfl, fun h => absurd h hne⟩
    exact ends_well_converged (.inr hmig) hconverged last
  · exact hstaged

/-- A known mode that needs no change is the desired one. -/
theorem current_of_no_change {target : MigMode} (htarget : desired.mig = target.value)
    {state : MigState} (hknown : modeUnknown (ideal.observed state).migMode = false)
    (hchange : migModeChangeRequired desired (ideal.observed state) = false) :
    state.current = target := by
  have hmode : (ideal.observed state).migMode = some state.current := rfl
  rw [hmode] at hknown
  rw [migModeChangeRequired, hmode, htarget] at hchange
  revert hknown hchange
  cases state.current <;> cases target <;> decide

/-- On a GPU that does what it is told, a reconciliation that refuses nothing ends well: by its
one action on a settled mode, or without a command. -/
theorem ideal_gpu_converges (ideal : IdealGpu)
    (hmig : desired.mig = "enabled" ∨ desired.mig = "disabled") (state : MigState)
    (hsupported :
      hasUnsupported (migReconciliationActions desired (ideal.observed state)) = false) :
    EndsWell ideal desired (Program.run ideal.serve
      (executeMigReconciliation desired (ideal.observed state)
        (migReconciliationActions desired (ideal.observed state))) state) := by
  have htarget : ∃ target : MigMode, desired.mig = target.value :=
    hmig.elim (fun h => ⟨.enabled, h⟩) fun h => ⟨.disabled, h⟩
  obtain ⟨target, htarget⟩ := htarget
  unfold executeMigReconciliation
  rcases reconciliation_cases desired (ideal.observed state) with
    ⟨hrefused, _⟩ | ⟨hnone, ⟨hpending, hstaged⟩ | ⟨hpending, hknown, hchange⟩⟩ |
      ⟨haction, hpending, hchange, _⟩
  · rw [hrefused] at hsupported
    cases hsupported
  · -- the desired mode is staged already
    have hcurrent : modeIs desired (some state.current) = false := by
      rw [← Bool.not_eq_true, mode_is_iff htarget]
      rintro rfl
      exact hpending (congrArg some ((mode_is_iff htarget _).mp hstaged).symm)
    have hreboot : modeStaged desired (ideal.observed state) = true := by
      show (!modeIs desired (some state.current) && _) = true
      rw [hcurrent]
      exact hstaged
    rw [hnone]
    refine ⟨_, rfl, ?_, fun hno => ?_⟩
    · show (_ || modeStaged desired (ideal.observed state)) = true
      rw [hreboot, Bool.or_true]
    · exact Bool.noConfusion (hreboot.symm.trans hno)
  · -- nothing to do
    have hcurrent : modeIs desired (some state.current) = true := by
      rw [mode_is_iff htarget]
      have hmode : migModeChangeRequired desired (ideal.observed state) = false :=
        (Bool.or_eq_false_iff.mp hchange).1
      exact current_of_no_change htarget hknown hmode
    have hsettled : modeSettled desired (ideal.observed state) = true := by
      rw [modeSettled, ← hpending, Bool.and_self]
      exact hcurrent
    rw [hnone]
    refine ⟨_, rfl, ?_, fun _ => hnone⟩
    show (modeSettled desired (ideal.observed state) || _) = true
    rw [hsettled, Bool.true_or]
  · have hsame : state.current = state.pending := Option.some.inj hpending
    have hmode : (ideal.observed state).migMode = some state.current := rfl
    rw [haction, List.flatMap_singleton]
    show EndsWell ideal desired (Program.run ideal.serve (executeMigCommands desired [ideal.gpu]
      (reconciliationAction desired (ideal.observed state)).commands _ []) state)
    rw [migChangeRequired, migModeChangeRequired, migGeometryChangeRequired, hmode] at hchange
    rcases hmig with hmig | hmig
    · rw [reconciliationAction, if_neg (by rw [hmig]; decide), hmode]
      -- An enabled GPU lacks its geometry alone; a disabled one gets its mode first.
      cases hcurrent : state.current with
      | enabled =>
          rw [if_neg (by decide)]
          exact configure_ends_well hmig state hcurrent (hsame ▸ hcurrent) _
      | disabled =>
          rw [if_pos rfl]
          exact enable_ends_well hmig state (by rw [hcurrent]; decide) _
      | mixed => simp [hcurrent, hmig] at hchange
    · rw [reconciliationAction, if_pos hmig]
      refine disable_ends_well hmig state (fun hcurrent => ?_) _
      simp [hcurrent, hmig] at hchange

end IdealGpu

/-! ## Planning and reconciliation together -/

/-- Both planners issue safe MIG commands, and the same ones on a settled host without a module
reset whose plan refuses nothing; every run of a reconciliation issues only what its audits allow
and reports success for its last audit; and on a GPU that does what it is told a reconciliation
that refuses nothing ends well. -/
theorem mig_planning_and_reconciliation (haccepted : Accepted desired) :
    (∀ audit findings plan, buildPlan desired audit findings = .ok plan →
      MigCommandsSafe audit (migMutations plan)) ∧
    (∀ audit, MigCommandsSafe audit (migMutations (migReconciliationActions desired audit))) ∧
    (∀ audit findings plan, buildPlan desired audit findings = .ok plan →
      hasUnsupported plan = false → moduleResetRequired desired audit = false →
      audit.migMode = audit.migModePending →
      migMutations plan = migMutations (migReconciliationActions desired audit)) ∧
    (∀ audit outcome trace, Program.Runs Program.anyReply
      (executeMigReconciliation desired audit (migReconciliationActions desired audit)) [] outcome
        trace → MigPost desired audit outcome trace) ∧
    (∀ (ideal : IdealGpu) (state : MigState),
      hasUnsupported (migReconciliationActions desired (ideal.observed state)) = false →
      ideal.EndsWell desired (Program.run ideal.serve
        (executeMigReconciliation desired (ideal.observed state)
          (migReconciliationActions desired (ideal.observed state))) state)) := by
  have hmig := haccepted.fields.mig
  refine ⟨?_, ?_, ?_, ?_, ?_⟩
  · exact fun audit findings plan h => build_plan_safe hmig h
  · exact fun audit => reconciliation_safe
  · exact fun audit findings plan h => reconciliation_agrees hmig h
  · exact fun audit outcome trace hruns => reconciliation_runs hmig hruns
  · exact fun ideal state => ideal.ideal_gpu_converges hmig state

/-- The converged sample host, with MIG enabled. -/
def migHost : HostAudit :=
  { convergedHost (some true) (some true) with
    migMode := some .enabled
    migModePending := some .enabled }

/-- Its GPU, which changes mode at the next reboot. -/
def migHostGpu : IdealGpu where
  base := migHost
  gpu := "GPU-12345678-1234-1234-1234-123456789abc"
  full :=
    { gpuUuid := "GPU-12345678-1234-1234-1234-123456789abc", profile := "MIG 7g.80gb"
      profileId := 0, placementStart := 0, placementSize := 8
      computeInstances := [{ profile := "MIG 7g.80gb", profileId := 0 }] }
  immediate := false
  inventory := rfl
  named := by decide +kernel
  fullMatches := by decide +kernel

/-- The sample host under the default desired state, which disables MIG. -/
theorem mig_planning_and_reconciliation_sample :
    Accepted {} ∧
      (∃ plan, buildPlan {} migHost [] = .ok plan ∧ migMutations plan ≠ [] ∧
        migMutations plan = migMutations (migReconciliationActions {} migHost)) ∧
      migHostGpu.EndsWell {} (Program.run migHostGpu.serve
        (executeMigReconciliation {} (migHostGpu.observed ⟨.enabled, .enabled, [migHostGpu.full]⟩)
          (migReconciliationActions {}
            (migHostGpu.observed ⟨.enabled, .enabled, [migHostGpu.full]⟩)))
        ⟨.enabled, .enabled, [migHostGpu.full]⟩) := by
  have haccepted : Accepted {} := by decide +kernel
  obtain ⟨_, _, hagree, _, hideal⟩ := mig_planning_and_reconciliation haccepted
  refine ⟨haccepted, ?_, hideal migHostGpu _ (by decide +kernel)⟩
  have hplanned : (buildPlan {} migHost []).toOption.map
      (fun plan => (hasUnsupported plan, decide (migMutations plan = []))) =
        some (false, false) := by
    decide +kernel
  cases hplan : buildPlan {} migHost [] with
  | error error =>
      rw [hplan] at hplanned
      cases hplanned
  | ok plan =>
      rw [hplan] at hplanned
      obtain ⟨hsupported, hcommands⟩ := Prod.mk.inj (Option.some.inj hplanned)
      exact ⟨plan, rfl, of_decide_eq_false hcommands,
        hagree migHost [] plan hplan hsupported (by decide +kernel) rfl⟩

/-- Without a package manager the plan is refused, while a reconciliation of the same host still
disables MIG; and with a conflicting pending mode the reconciliation refuses, and does not end in
success. -/
theorem refused_plan_disagrees :
    Accepted {} ∧ moduleResetRequired {} { migHost with packageManager := none } = false ∧
      (buildPlan {} { migHost with packageManager := none } []).toOption.map migMutations =
        some [] ∧
      migMutations (migReconciliationActions {} { migHost with packageManager := none }) =
        [["nvidia-smi", "-i", "GPU-12345678-1234-1234-1234-123456789abc", "-mig", "0"]] ∧
      ((Program.run migHostGpu.serve
        (executeMigReconciliation {} (migHostGpu.observed ⟨.disabled, .enabled, []⟩)
          (migReconciliationActions {} (migHostGpu.observed ⟨.disabled, .enabled, []⟩)))
        ⟨.disabled, .enabled, []⟩).1.toOption.map MigOutcome.success) = some false := by
  decide +kernel

end NvidiaConverge
