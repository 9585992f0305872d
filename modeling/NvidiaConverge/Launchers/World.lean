import NvidiaConverge.Launchers.Host

/-!
# Hosts with separate launchers

A host whose launchers are four separate units, each with a state of its own, and its most
important instance: an ideal systemd, in which each command does what it says and every validation
accepts a unit that is as it should be.
-/

namespace NvidiaConverge

open Program (Issues)

/-! ## Separate units -/

/-- Four units, each with a state of its own: what it answers, what a command does to it, and what
an audit sees of it. -/
structure LauncherWorld (Local : Type) where
  read : (op : HostOp) → Local → op.Reply
  command : SystemctlVerb → Launcher → Local → CommandResult × Local
  audited : Launcher → Local → UnitState
  audit : (Launcher → Local) → HostAudit
  probe : HostAudit → (Launcher → Local) → CommandResult × Option (List String)
  audit_launchers : ∀ states unit, (audit states).launchers.of unit = audited unit (states unit)

namespace LauncherWorld

variable {Local : Type} {ε : Type}

/-- The answers of a host about one unit, and the state of the unit behind them. -/
def serveUnit (world : LauncherWorld Local) (state : Local) : (op : HostOp) → op.Reply × Local
  | .systemctl verb unit => world.command verb unit state
  | op => (world.read op state, state)

/-- The answers of the host: an operation on a unit is answered by that unit. -/
def serve (world : LauncherWorld Local) (states : Launcher → Local) :
    (op : HostOp) → op.Reply × (Launcher → Local)
  | .audit => (world.audit states, states)
  | .probe audit => (world.probe audit states, states)
  | op =>
      let unit := op.subject.getD .dockerSocket
      let answer := world.serveUnit (states unit) op
      (answer.1, Function.update states unit answer.2)

variable {world : LauncherWorld Local} {states : Launcher → Local} {unit : Launcher}

/-- An operation on a unit concerns this unit only. -/
theorem serve_subject {op : HostOp} (h : op.subject = some unit) :
    world.serve states op = ((world.serveUnit (states unit) op).1,
      Function.update states unit (world.serveUnit (states unit) op).2) := by
  cases op <;> cases h <;> rfl

/-- A program on one unit runs as it does on this unit alone. -/
theorem run_unit {α : Type} {program : HostProgram ε α}
    (h : Issues (HostOp.concerns unit) program) :
    program.run world.serve states =
      ((program.run world.serveUnit (states unit)).1,
        Function.update states unit (program.run world.serveUnit (states unit)).2) :=
  Program.run_part (fun whole part => Function.update whole unit part)
    (fun _ _ => Function.update_self ..) (fun _ _ _ => Function.update_idem ..)
    (fun _ => Function.update_eq_self ..) (fun _ _ hop => serve_subject hop) h states

end LauncherWorld

/-! ## An ideal systemd -/

/-- The unit file of a launcher: there is none, or one that is static or can be enabled. -/
inductive UnitFragment where
  | missing | static | installable
  deriving DecidableEq

/-- A unit: its file, whether it is linked into a target, and whether it is masked and active.
`trusted` says whether its files and its process pass the trust checks. -/
structure SystemdUnit where
  fragment : UnitFragment
  linked : Bool
  masked : Bool
  active : Bool
  trusted : Bool := true
  deriving DecidableEq

namespace SystemdUnit

/-- `UnitFileState` as systemd derives it from the unit's file and its links. -/
def fileState (state : SystemdUnit) : UnitFileState :=
  if state.masked then .masked
  else
    match state.fragment with
    | .missing => .notFound
    | .static => .static
    | .installable => if state.linked then .enabled else .disabled

/-- `LoadState` is `loaded`: the unit has a file and is not masked. -/
def loaded (state : SystemdUnit) : Bool :=
  !state.masked && state.fragment != .missing

/-- What the observer of the rollback says of the unit. -/
def observed (state : SystemdUnit) : UnitState where
  active := some state.active
  enabled := some (state.fileState == .enabled)
  unitFileState := some state.fileState

/-- What the audit says: nothing about a unit that is masked and still active. -/
def audited (state : SystemdUnit) : UnitState :=
  if state.masked && state.active then {} else state.observed

/-- The exit code of a command that did, or did not, what it says. -/
def exitCode (done : Bool) : Int :=
  if done then 0 else 1

/-- A command of `systemctl` on the unit: its exit code, and the state that it leaves. -/
def command (verb : SystemctlVerb) (unit : Launcher) (state : SystemdUnit) :
    CommandResult × SystemdUnit :=
  let answer (done : Bool) (after : SystemdUnit) : CommandResult × SystemdUnit :=
    ({ command := systemctlCommand verb unit, returncode := some (exitCode done) },
      if done then after else state)
  match verb with
  | .mask => answer true { state with masked := true }
  | .unmask => answer true { state with masked := false }
  | .enable => answer state.loaded { state with linked := state.fragment == .installable }
  | .disable => answer (state.fragment != .missing) { state with linked := false }
  | .start => answer state.loaded { state with active := true }
  | .stop => answer (state.fragment != .missing) { state with active := false }

/-- A validation that is recorded with its verdict. -/
def trust {α : Type} (name : String) (unit : Launcher) (accepted : Bool) (value : α) :
    TrustReply α where
  observations := []
  validation :=
    { command := [name, unit.unit], returncode := some (exitCode accepted) }
  verdict := if accepted then .ok value else .error ("cannot trust " ++ unit.unit)
  recorded := by cases accepted <;> rfl

/-- The process of an active unit, as the trusted observer identifies it. -/
def process (unit : Launcher) : TrustedGpuServiceIdentity unit where
  mainPid := 1
  processStartTimeTicks := 1
  executableDevice := 1
  executableInode := 1
  cgroupPath := "/system.slice/" ++ unit.unit

/-- The definition of the socket, as its validation identifies it. -/
def socket (state : SystemdUnit) : TrustedDockerSocketIdentity where
  active := state.active
  effectiveProperties := []
  files := []

/-- The unit may be masked: it is loaded, or inert where that is allowed. -/
def maskable (state : SystemdUnit) (allowMasked : Bool) : Bool :=
  state.trusted && (state.loaded || (allowMasked && !state.active))

/-- What a unit answers; `base` is the audit's view of everything else. -/
def read (base : HostAudit) : (op : HostOp) → SystemdUnit → op.Reply
  | .systemctl verb unit, state => (state.command verb unit).1
  | .observe _, state =>
      { result := { command := [], returncode := some 0 }, state := state.observed }
  | .validateSocket allowMasked, state =>
      trust "validate-trusted-docker-socket-unit" .dockerSocket (state.maskable allowMasked)
        (if state.loaded then some state.socket else none)
  | .validateService unit allowMasked, state =>
      trust "validate-trusted-gpu-service-unit" unit (state.maskable allowMasked) ()
  | .validateStart unit, state =>
      trust "validate-trusted-gpu-service-start" unit
        (state.trusted && state.loaded && !state.active) ()
  | .validateActive unit expected, state =>
      trust "validate-active-trusted-gpu-service" unit
        (state.trusted && state.loaded && state.active &&
          (expected == none || expected == some (process unit))) (process unit)
  | .revalidateSocket _, state =>
      trust "revalidate-trusted-docker-socket-identity" .dockerSocket state.trusted ()
  | .revalidateProcess unit identity, state =>
      trust "revalidate-trusted-gpu-service-process-identity" unit
        (state.trusted && state.active && identity == process unit) ()
  | .observeTrusted unit, state =>
      ([], if state.trusted && (state.loaded || !state.active) then .ok state.active
        else .error (unit.unit ++ " has an unsupported active unit state"))
  | .record _ _, _ => ()
  | .audit, _ => base
  | .probe _, _ => ({ command := ["probe-active-gpu-workloads"], returncode := some 0 }, some [])

end SystemdUnit

/-- A unit that is enabled and runs. -/
def runningUnit : SystemdUnit where
  fragment := .installable
  linked := true
  masked := false
  active := true

/-- The audit of a host with these units and a healthy Fabric Manager. -/
def auditUnits (base : HostAudit) (states : Launcher → SystemdUnit) : HostAudit :=
  { base with
    launchers :=
      { dockerSocket := (states .dockerSocket).audited
        dockerService := (states .dockerService).audited
        nvidiaPersistenced := (states .nvidiaPersistenced).audited
        fabricManager := (states .fabricManager).audited }
    fabricManagerHealthy := some true
    fabricManagerVersion := base.module.version }

/-- The ideal systemd on a host without GPU workloads. -/
def systemd (base : HostAudit) : LauncherWorld SystemdUnit where
  read := SystemdUnit.read base
  command := SystemdUnit.command
  audited _ state := state.audited
  audit := auditUnits base
  probe _ _ := ({ command := ["probe-active-gpu-workloads"], returncode := some 0 }, some [])
  audit_launchers := by
    intro states unit
    cases unit <;> rfl

end NvidiaConverge
