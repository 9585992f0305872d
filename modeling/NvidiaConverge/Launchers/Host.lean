import NvidiaConverge.Library.Program
import NvidiaConverge.Planning.Findings
import NvidiaConverge.Rollback.Snapshot

/-!
# What the launcher code asks of the host

The four launchers and the operations on them: the `systemctl` commands that change a unit, the
observations and trust validations that only read, the audit and the workload probe. An operation
answers with what the source's own function returns; `TrustReply` carries the fact that a
validation's last result repeats its verdict.
-/

namespace NvidiaConverge

/-- The transactional launchers: the four units that can start GPU work. -/
inductive Launcher where
  | dockerSocket | dockerService | nvidiaPersistenced | fabricManager
  deriving DecidableEq

/-- The name of the launcher's unit. -/
def Launcher.unit : Launcher → String
  | .dockerSocket => dockerSocketUnit
  | .dockerService => dockerServiceUnit
  | .nvidiaPersistenced => nvidiaPersistencedUnit
  | .fabricManager => fabricManagerUnit

/-- What a record of the four launchers says about one. -/
def LauncherStates.of (states : LauncherStates) : Launcher → UnitState
  | .dockerSocket => states.dockerSocket
  | .dockerService => states.dockerService
  | .nvidiaPersistenced => states.nvidiaPersistenced
  | .fabricManager => states.fabricManager

/-- `_SERVICE_STOP_ORDER`: the order in which the launchers are masked and stopped. -/
def serviceStopOrder : List Launcher :=
  [.dockerSocket, .dockerService, .nvidiaPersistenced, .fabricManager]

theorem mem_service_stop_order (unit : Launcher) : unit ∈ serviceStopOrder := by
  cases unit <;> decide

theorem service_stop_order_nodup : serviceStopOrder.Nodup := by
  decide

/-! ## Results -/

/-- `returncode in (0, None)`: the command ended well, or was skipped. -/
def CommandResult.succeeded (result : CommandResult) : Bool :=
  result.returncode == some 0 || result.returncode == none

/-- `_commands_succeeded`: every command ended well, or was skipped. -/
def commandsSucceeded (results : List CommandResult) : Bool :=
  results.all CommandResult.succeeded

@[simp] theorem commands_succeeded_nil : commandsSucceeded [] = true := rfl

@[simp] theorem commands_succeeded_cons {result : CommandResult} {results : List CommandResult} :
    commandsSucceeded (result :: results) = (result.succeeded && commandsSucceeded results) :=
  rfl

@[simp] theorem commands_succeeded_append {results more : List CommandResult} :
    commandsSucceeded (results ++ more) = (commandsSucceeded results && commandsSucceeded more) :=
  List.all_append

/-- A failed result that the rollback records itself, without a command of the host. -/
def failedResult (command : List String) (reason : String) : CommandResult where
  command := command
  returncode := some 1
  stderr := reason

@[simp] theorem failed_result_succeeded (command : List String) (reason : String) :
    (failedResult command reason).succeeded = false :=
  rfl

/-- `_command_error`: the summary with the exit code and what the command printed about it. -/
def commandError (summary : String) (result : CommandResult) : String :=
  let code := summary ++ " (exit " ++ (result.returncode.elim "None" toString) ++ ")"
  let detail := Text.strip (if Text.strip result.stderr = "" then result.stdout else result.stderr)
  if detail = "" then code else code ++ ": " ++ detail

/-! ## Observations -/

/-- `_observe_service_state`: the command's result and what it says of the unit. -/
structure Observation where
  result : CommandResult
  state : UnitState
  deriving DecidableEq

/-- The unit was observed inactive and masked. -/
def Observation.quarantined (observation : Observation) : Bool :=
  observation.result.returncode == some 0 && observation.state.active == some false &&
    observation.state.unitFileState == some .masked

/-- The observation says whether the unit is active and what its unit-file state is. -/
def Observation.known (observation : Observation) : Bool :=
  observation.result.returncode == some 0 && observation.state.active.isSome &&
    observation.state.unitFileState.isSome

/-- A unit that was observed quarantined was observed. -/
theorem Observation.known_of_quarantined {observation : Observation}
    (h : observation.quarantined = true) : observation.known = true := by
  simp only [quarantined, Bool.and_eq_true, beq_iff_eq] at h
  simp [known, h.1.1, h.1.2, h.2]

/-- `TrustedGpuServiceIdentity` of a unit: its process, the executable of it and its control
group. -/
structure TrustedGpuServiceIdentity (unit : Launcher) where
  mainPid : Nat
  processStartTimeTicks : Nat
  executableDevice : Nat
  executableInode : Nat
  cgroupPath : String
  deriving DecidableEq

/-- `TrustedUnitFileIdentity`: a unit's file, by its path, its status and its times. -/
structure TrustedUnitFileIdentity where
  path : String
  executable : Bool
  device : Nat
  inode : Nat
  mode : Nat
  ownerUid : Nat
  size : Nat
  modifiedNs : Nat
  changedNs : Nat
  deriving DecidableEq

/-- `TrustedDockerSocketIdentity`: the socket's state, its properties and its files. -/
structure TrustedDockerSocketIdentity where
  active : Bool
  effectiveProperties : List (String × String)
  files : List TrustedUnitFileIdentity
  deriving DecidableEq

/-- Whether a verdict accepts, whatever it returns. -/
def accepts {α : Type} : Except String α → Bool
  | .ok _ => true
  | .error _ => false

theorem accepts_map {α β : Type} (verdict : Except String α) (f : α → β) :
    accepts (verdict.map f) = accepts verdict := by
  cases verdict <;> rfl

/-- A trust validation: the commands that it ran, its own result and its verdict. -/
structure TrustReply (α : Type) where
  observations : List CommandResult
  validation : CommandResult
  verdict : Except String α
  recorded : validation.returncode = some (if accepts verdict then 0 else 1)

/-- The results that a validation returns, its own behind those of its commands. -/
def TrustReply.results {α : Type} (reply : TrustReply α) : List CommandResult :=
  reply.observations ++ [reply.validation]

/-- A validation that refuses leaves a failed result. -/
theorem TrustReply.refused {α : Type} {reply : TrustReply α}
    (h : accepts reply.verdict = false) : commandsSucceeded reply.results = false := by
  have hcode : reply.validation.returncode = some 1 := by simp [reply.recorded, h]
  simp [TrustReply.results, CommandResult.succeeded, hcode]

/-! ## Operations -/

/-- The `systemctl` commands that change a launcher. -/
inductive SystemctlVerb where
  | mask | unmask | enable | disable | start | stop
  deriving DecidableEq

/-- The spelling of the verb on the command line. -/
def SystemctlVerb.name : SystemctlVerb → String
  | .mask => "mask"
  | .unmask => "unmask"
  | .enable => "enable"
  | .disable => "disable"
  | .start => "start"
  | .stop => "stop"

/-- The `systemctl` command as the runner gets it. -/
def systemctlCommand (verb : SystemctlVerb) (unit : Launcher) : List String :=
  ["systemctl", verb.name, unit.unit]

/-- An operation of the code that handles launchers: a command, an observation or a validation. -/
inductive HostOp where
  /-- `runner.run(["systemctl", verb, unit], mutate=True, allow_fail=True)`. -/
  | systemctl (verb : SystemctlVerb) (unit : Launcher)
  /-- `_observe_service_state`. -/
  | observe (unit : Launcher)
  /-- `validate_trusted_docker_socket_unit_identity`. -/
  | validateSocket (allowMasked : Bool)
  /-- `validate_trusted_gpu_service_unit`. -/
  | validateService (unit : Launcher) (allowMasked : Bool)
  /-- `validate_trusted_gpu_service_start`. -/
  | validateStart (unit : Launcher)
  /-- `validate_active_trusted_gpu_service_identity`. -/
  | validateActive (unit : Launcher) (expected : Option (TrustedGpuServiceIdentity unit))
  /-- `revalidate_trusted_docker_socket_identity`. -/
  | revalidateSocket (identity : TrustedDockerSocketIdentity)
  /-- `revalidate_trusted_gpu_service_process_identity`. -/
  | revalidateProcess (unit : Launcher) (identity : TrustedGpuServiceIdentity unit)
  /-- `_observe_trusted_service`: whether the unit is active. -/
  | observeTrusted (unit : Launcher)
  /-- `_record_external_start` and `_record_external_result`. -/
  | record (unit : Launcher) (result : CommandResult)
  /-- `audit_host`. -/
  | audit
  /-- `probe_active_gpu_workloads`. -/
  | probe (audit : HostAudit)

/-- The type of what each operation answers. -/
@[reducible] def HostOp.Reply : HostOp → Type
  | .systemctl _ _ => CommandResult
  | .observe _ => Observation
  | .validateSocket _ => TrustReply (Option TrustedDockerSocketIdentity)
  | .validateService _ _ | .validateStart _ => TrustReply Unit
  | .validateActive unit _ => TrustReply (TrustedGpuServiceIdentity unit)
  | .revalidateSocket _ | .revalidateProcess _ _ => TrustReply Unit
  | .observeTrusted _ => List CommandResult × Except String Bool
  | .record _ _ => Unit
  | .audit => HostAudit
  | .probe _ => CommandResult × Option (List String)

/-- The launcher that an operation is about, if it is about a single one. -/
def HostOp.subject : HostOp → Option Launcher
  | .systemctl _ unit | .observe unit | .validateService unit _ | .validateStart unit
  | .validateActive unit _ | .revalidateProcess unit _ | .observeTrusted unit
  | .record unit _ => some unit
  | .validateSocket _ | .revalidateSocket _ => some .dockerSocket
  | .audit | .probe _ => none

/-- The operation is about this launcher. -/
def HostOp.concerns (unit : Launcher) (op : HostOp) : Prop :=
  op.subject = some unit

/-- The answer is no failure of a command, of an observation, of a trust validation or of the code
itself. -/
def HostOp.fine : (op : HostOp) → op.Reply → Bool
  | .systemctl _ _, reply => reply.succeeded
  | .validateSocket _, reply => accepts reply.verdict
  | .validateService _ _, reply => accepts reply.verdict
  | .validateStart _, reply => accepts reply.verdict
  | .validateActive _ _, reply => accepts reply.verdict
  | .revalidateSocket _, reply => accepts reply.verdict
  | .revalidateProcess _ _, reply => accepts reply.verdict
  | .observeTrusted _, reply => accepts reply.2
  | .record _ result, _ => result.succeeded
  | .observe _, observation => observation.known
  | .audit, _ | .probe _, _ => true

/-- A program of the launcher code, which asks the host for operations. -/
abbrev HostProgram := Program HostOp HostOp.Reply

/-- Ask the host for one operation. -/
abbrev ask {ε : Type} (op : HostOp) : HostProgram ε op.Reply :=
  Program.perform op

end NvidiaConverge
