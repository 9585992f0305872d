import NvidiaConverge.Rollback.MigObservation

/-!
# Restoring MIG

The MIG phase of `apply_rollback`: whether the snapshot's mode and geometry have to be restored,
the commands that destroy, switch and create, and a fresh observation behind each of them. The
phase refuses an observation that is not stable, and a geometry that differs behind the creation;
it never asks whether a mode command or a destruction did what it was for. So its end is exact or
visible when every stable observation shows what the command before it was for, and only then:
`mig_restoration_iff`.
-/

namespace NvidiaConverge

/-! ## The phase -/

/-- What the phase does to the host: a command, or the commands of one observation. -/
inductive MigRestoreOp where
  | run (command : List String)
  | observe

/-- The type of the reply to each operation of the phase. -/
abbrev MigRestoreOp.Reply : MigRestoreOp → Type
  | .run _ => CommandResult
  | .observe => MigAnswers

/-- Programs over these operations; an error is the text of an exception. -/
abbrev MigRestoreProgram := Program MigRestoreOp MigRestoreOp.Reply String

/-- `runner.run(command, mutate=True, allow_fail=True)`. -/
abbrev runRestoreCommand (command : List String) : MigRestoreProgram CommandResult :=
  Program.perform (MigRestoreOp.run command)

/-- The commands of `_fresh_rollback_mig_observation`. -/
abbrev askMigState : MigRestoreProgram MigAnswers :=
  Program.perform MigRestoreOp.observe

/-- The status that `_refresh_rollback_mig_state` returns. -/
inductive MigRefreshStatus where
  | stable | pendingReboot | failed
  deriving DecidableEq

/-- What `_refresh_rollback_mig_state` returns, with the results so far. -/
structure MigRefresh where
  status : MigRefreshStatus
  mode : Option MigMode
  geometry : List MigGpuInstance
  results : List CommandResult

/-- The mode as a message names it, `None` where it is unknown. -/
def migModeText : Option MigMode → String
  | some mode => mode.value
  | none => "None"

/-- The marker of a mode that waits for a reboot. -/
def migRebootMarker (current pending : Option MigMode) : CommandResult where
  command := ["rollback", "mig-reboot-pending"]
  returncode := some 0
  skipped := true
  reason := some "reboot-required"
  stderr := "MIG target " ++ migModeText pending ++ " is pending while current mode is " ++
    migModeText current ++ "; geometry restoration is deferred until reboot"

/-- A precondition that the phase refuses, as a failed result. -/
def migPrecondition (detail : List String) (stderr : String) : CommandResult where
  command := "rollback-precondition" :: detail
  returncode := some 1
  stderr := stderr

/-- `_refresh_rollback_mig_state` on an observation. -/
def refreshRollbackMigState (snapshot : RollbackSnapshot) (stage : String)
    (observation : MigObservation) (results : List CommandResult) : MigRefresh :=
  let current := observation.current
  let pending := observation.pending
  let results := results ++ observation.results
  if current = none ∨ pending = none then
    ⟨.failed, none, [], results ++ [migPrecondition ["mig-observation", stage]
      "fresh UUID-bound MIG mode observation is incomplete"]⟩
  else if current ≠ pending then
    -- The target mode waits for a reboot.
    if pending = snapshot.migMode then
      ⟨.pendingReboot, current, [], results ++ [migRebootMarker current pending]⟩
    else
      ⟨.failed, current, [], results ++ [migPrecondition ["mig-pending", stage]
        ("fresh MIG state is current=" ++ migModeText current ++ ", pending=" ++
          migModeText pending ++ ", not target=" ++ migModeText snapshot.migMode)]⟩
  else if observation.complete = false then
    ⟨.failed, current, [], results ++ [migPrecondition ["mig-geometry-observation", stage]
      "fresh MIG geometry observation is incomplete"]⟩
  else ⟨.stable, current, observation.geometry, results⟩

/-- What the phase starts from: the snapshot, the current audit, the package commands, and what
is known about the kernel modules. -/
structure MigPhase where
  snapshot : RollbackSnapshot
  currentAudit : HostAudit
  commands : List (List String)
  moduleMatches : Bool
  moduleUnloadNeeded : Bool

/-- How the phase ends: its results, and whether the rollback goes on behind it. -/
structure MigRestored where
  results : List CommandResult
  goesOn : Bool

namespace MigPhase

variable (phase : MigPhase)

/-- `mig_mode_changed`: the audit shows another mode than the snapshot, which records one. -/
def migModeChanged : Bool :=
  (phase.snapshot.migMode = some .enabled ∨ phase.snapshot.migMode = some .disabled) ∧
    phase.currentAudit.migMode ≠ phase.snapshot.migMode

/-- `mig_geometry_changed`: the audit shows another geometry than the snapshot. -/
def migGeometryChanged : Bool :=
  (phase.snapshot.migMode = some .enabled ∨ phase.snapshot.migMode = some .disabled) ∧
    phase.currentAudit.migGeometry ≠ phase.snapshot.migGeometry

/-- `module_reset_expected`: the modules are replaced, which resets the mode. -/
def moduleResetExpected : Bool :=
  phase.moduleUnloadNeeded || (phase.snapshot.moduleLoaded && !phase.moduleMatches)

/-- `mig_restore_required` before the refresh. -/
def migRestoreRequired : Bool :=
  (phase.migModeChanged || phase.migGeometryChanged) ||
    (phase.moduleResetExpected && decide (phase.snapshot.migMode = some .enabled))

/-- `mig_state_may_have_changed`: a change of packages or modules may have changed MIG. -/
def migStateMayHaveChanged : Bool :=
  !phase.commands.isEmpty || phase.moduleUnloadNeeded ||
    (phase.snapshot.moduleLoaded && !phase.moduleMatches)

/-- What an observation of the snapshot's GPUs shows. -/
def observed (answers : MigAnswers) : MigObservation :=
  freshRollbackMigObservation phase.snapshot.gpuUuids answers

/-- One command with the refresh behind it, before the rest of the phase. -/
def commandThenRefresh (stage : String) (command : List String) (results : List CommandResult)
    (rest : MigRefresh → MigRestoreProgram MigRestored) : MigRestoreProgram MigRestored := do
  let result ← runRestoreCommand command
  if result.failed then pure ⟨results ++ [result], false⟩
  else do
    let answers ← askMigState
    let refreshed := refreshRollbackMigState phase.snapshot stage (phase.observed answers)
      (results ++ [result])
    if refreshed.status ≠ .stable then pure ⟨refreshed.results, false⟩
    else rest refreshed

/-- The failure of a creation that left another geometry. -/
def geometryMismatch : CommandResult :=
  migPrecondition ["mig-geometry-mismatch"]
    ("fresh MIG geometry does not exactly match the " ++ "rollback snapshot after creation")

/-- The creation of the geometry that the snapshot recorded, and the check behind it. -/
def createGeometry (gpuUuid : String) (current : MigRefresh) : MigRestoreProgram MigRestored :=
  if phase.snapshot.migMode = some .enabled ∧ current.geometry ≠ phase.snapshot.migGeometry then
    match migGeometryCreateCommand gpuUuid phase.snapshot.migGeometry with
    | none => .raise "ValueError: MIG geometry is not safely restorable"
    | some none => pure ⟨current.results, true⟩
    | some (some command) =>
        phase.commandThenRefresh "post-geometry-create" command current.results fun created =>
          if created.geometry ≠ phase.snapshot.migGeometry then
            pure ⟨created.results ++ [geometryMismatch], false⟩
          else pure ⟨created.results, true⟩
  else pure ⟨current.results, true⟩

/-- `["nvidia-smi", "-i", gpu_uuid, "-mig", mig_value]`. -/
def modeCommand (gpuUuid : String) : List String :=
  ["nvidia-smi", "-i", gpuUuid, "-mig",
    if phase.snapshot.migMode = some .enabled then "1" else "0"]

/-- The change to the mode that the snapshot recorded, and the check behind it. -/
def changeMode (gpuUuid : String) (current : MigRefresh) : MigRestoreProgram MigRestored :=
  if phase.moduleResetExpected = true ∨ current.mode ≠ phase.snapshot.migMode then
    phase.commandThenRefresh "post-mode-change" (phase.modeCommand gpuUuid) current.results
      (phase.createGeometry gpuUuid)
  else phase.createGeometry gpuUuid current

/-- The loop over the commands that destroy instances. -/
def destroyGeometry (gpuUuid : String) : List (List String) → MigRefresh →
    MigRestoreProgram MigRestored
  | [], current => phase.changeMode gpuUuid current
  | command :: commands, current =>
      phase.commandThenRefresh "post-geometry-destroy" command current.results
        (destroyGeometry gpuUuid commands)

/-- The restoration, from a stable observation on. -/
def restore (current : MigRefresh) : MigRestoreProgram MigRestored :=
  if phase.snapshot.migMode = none then .raise "AssertionError"
  else
    match phase.snapshot.gpuUuids with
    | [] => .raise "IndexError: list index out of range"
    | gpuUuid :: _ =>
        if phase.moduleResetExpected = false ∧ current.mode = some .enabled ∧
            current.geometry ≠ [] ∧ (phase.snapshot.migMode = some .disabled ∨
              current.geometry ≠ phase.snapshot.migGeometry) then
          phase.destroyGeometry gpuUuid (migGeometryDestroyCommands gpuUuid) current
        else phase.changeMode gpuUuid current

/-- The MIG phase of an applied rollback, from its first observation on. -/
def program : MigRestoreProgram MigRestored :=
  if phase.migRestoreRequired = true ∨ phase.migStateMayHaveChanged = true then do
    let answers ← askMigState
    let refreshed := refreshRollbackMigState phase.snapshot "post-package-module"
      (phase.observed answers) []
    if refreshed.status ≠ .stable then pure ⟨refreshed.results, false⟩
    else if refreshed.mode ≠ phase.snapshot.migMode ∨
        refreshed.geometry ≠ phase.snapshot.migGeometry then phase.restore refreshed
    else pure ⟨refreshed.results, true⟩
  else pure ⟨[], true⟩

/-- The snapshots that the phase is qualified for: one GPU, a recorded mode, geometry that can be
created again, and none under the disabled mode. -/
structure Qualified : Prop where
  single : ∃ gpuUuid, phase.snapshot.gpuUuids = [gpuUuid]
  restorable : restorableMigGeometry phase.snapshot.migGeometry phase.snapshot.gpuUuids = true
  mode : phase.snapshot.migMode = some .enabled ∨
    (phase.snapshot.migMode = some .disabled ∧ phase.snapshot.migGeometry = [])

/-! ## What a run has seen -/

/-- An operation of the phase with its reply. -/
abbrev Event := Program.Event MigRestoreOp MigRestoreOp.Reply

/-- Where a run stands: the last observation, what the last stable one shows (the audit before
the first), the last command since then, and whether every stable observation so far shows what
the command before it was for. -/
structure View where
  latest : Option MigObservation := none
  mode : Option MigMode
  geometry : List MigGpuInstance
  command : Option MigStep := none
  obeyed : Bool := true

/-- What a command is for, as far as the phase relies on it: compute instances are destroyed
under the enabled mode; GPU instances are all gone where the snapshot has none under that mode;
a mode command leads to the snapshot's mode, without instances where the snapshot has none. -/
def shows : Option MigStep → Option MigMode → List MigGpuInstance → Bool
  | some .destroyCompute, mode, _ => mode = some .enabled
  | some .destroyGpu, _, geometry =>
      phase.snapshot.migMode = some .enabled → phase.snapshot.migGeometry = [] → geometry = []
  | some (.mode _), mode, geometry =>
      mode = phase.snapshot.migMode ∧ (phase.snapshot.migGeometry = [] → geometry = [])
  | some (.create _), _, _ => true
  | none, _, _ => true

/-- The view of a run behind one more event. -/
def after (view : View) (event : Event) : View :=
  match event with
  | ⟨.run command, _⟩ => { view with command := (migStep? command).map (·.2) }
  | ⟨.observe, answers⟩ =>
      let observation := phase.observed answers
      if observation.stable then
        { latest := some observation
          mode := observation.current
          geometry := observation.geometry
          obeyed := view.obeyed &&
            phase.shows view.command observation.current observation.geometry }
      else { view with latest := some observation, command := none }

/-- What a trace has shown, beginning with what the audit did. -/
def view (trace : List Event) : View :=
  trace.foldl phase.after
    { mode := phase.currentAudit.migMode, geometry := phase.currentAudit.migGeometry }

/-- The last observation is stable and shows the enabled mode, current and pending. -/
def View.enabled (view : View) : Prop :=
  ∃ observation, view.latest = some observation ∧ observation.stable = true ∧
    observation.current = some .enabled ∧ observation.pending = some .enabled

/-- A step that creates or destroys needs the enabled mode. -/
def Permits (view : View) : MigStep → Prop
  | .create _ => view.enabled
  | .destroyCompute => view.enabled
  | .destroyGpu => view.enabled
  | .mode _ => True

/-- What may be issued behind a trace, by what it has shown. -/
def allows (trace : List Event) (op : MigRestoreOp) : Prop :=
  ∀ command gpu step, op = .run command → migStep? command = some (gpu, step) →
    Permits (phase.view trace) step

/-- The snapshot's mode is pending behind another one, and the marker says so. -/
def rebootRecorded (results : List CommandResult) : Option MigObservation → Bool
  | some observation =>
      observation.current ≠ observation.pending ∧ observation.pending = phase.snapshot.migMode ∧
        migRebootMarker observation.current observation.pending ∈ results
  | none => false

/-- The last stable observation is that of the snapshot. -/
def Exact (trace : List Event) : Prop :=
  (phase.view trace).mode = phase.snapshot.migMode ∧
    (phase.view trace).geometry = phase.snapshot.migGeometry

/-- The three ends: exact, a failing result, or the reboot marker; and where the rollback goes on,
exact. -/
def EndsVisibly (restored : MigRestored) (trace : List Event) : Prop :=
  (phase.Exact trace ∨ (∃ result ∈ restored.results, result.failed = true) ∨
    phase.rebootRecorded restored.results (phase.view trace).latest = true) ∧
  (restored.goesOn = true → phase.Exact trace)

/-- The whole run was allowed, and ends in one of the three ways. -/
def Restores (restored : MigRestored) (trace : List Event) : Prop :=
  Program.Allowed phase.allows trace ∧ phase.EndsVisibly restored trace

end MigPhase

end NvidiaConverge
