import NvidiaConverge.Launchers.Observe

/-!
# The trusted-service guard

`TrustedGpuServiceGuard` stops the trusted services before a mutation and starts again what it
stopped. Its two dictionaries are lists of units in the order of their insertion. Every operation
carries the guard as it stands, since the runner may raise at any of them and leave the guard so.
-/

namespace NvidiaConverge

/-- `TrustedGpuServiceGuard`, without the runner and the flag that only its owner reads. -/
structure Guard where
  specs : List Launcher
  results : List CommandResult := []
  originallyActive : List Launcher := []
  pendingRestore : List Launcher := []
  error : Option String := none
  restoreErrors : List String := []
  requiesceErrors : List String := []

/-- An operation of the guard, with the guard as it stands. -/
structure GuardOp where
  op : HostOp
  guard : Guard

/-- The answer to an operation; there is none when the runner raises. -/
@[reducible] def GuardOp.Reply (operation : GuardOp) : Type :=
  Option operation.op.Reply

/-- A method of the guard; its errors are exceptions of the runner, with the guard that they
leave. -/
abbrev GuardProgram :=
  Program GuardOp GuardOp.Reply Guard

/-- `dictionary[unit] = spec`: a new unit is added behind the others, and a known one keeps its
place. -/
def assignUnit (unit : Launcher) (units : List Launcher) : List Launcher :=
  if unit ∈ units then units else units ++ [unit]

namespace Guard

/-- Ask for one operation. Where the runner raises, the guard as it then is goes with the
exception. -/
def ask (guard : Guard) (op : HostOp) : GuardProgram op.Reply := do
  let reply : Option op.Reply ← Program.perform (GuardOp.mk op guard)
  match reply with
  | some answer => pure answer
  | none => .raise guard

def withResults (guard : Guard) (results : List CommandResult) : Guard :=
  { guard with results := guard.results ++ results }

def withRestoreError (guard : Guard) (error : String) : Guard :=
  { guard with restoreErrors := guard.restoreErrors ++ [error] }

def withRequiesceError (guard : Guard) (error : String) : Guard :=
  { guard with requiesceErrors := guard.requiesceErrors ++ [error] }

/-- `pending_restore.pop(unit, None)`: the guard no longer owes the unit a start. -/
def restored (guard : Guard) (unit : Launcher) : Guard :=
  { guard with pendingRestore := guard.pendingRestore.filter (· ≠ unit) }

/-- `_observe_trusted_service` into the guard's results. -/
def observe (guard : Guard) (unit : Launcher) : GuardProgram (Guard × Except String Bool) := do
  let (results, observed) ← guard.ask (.observeTrusted unit)
  pure (guard.withResults results, observed)

/-- A `systemctl` command into the guard's results. -/
def systemctl (guard : Guard) (verb : SystemctlVerb) (unit : Launcher) :
    GuardProgram (Guard × CommandResult) := do
  let result : CommandResult ← guard.ask (.systemctl verb unit)
  pure (guard.withResults [result], result)

/-- `relinquish`: the guard gives up some units, so that it neither starts nor stops them. -/
def relinquish (guard : Guard) (units : List Launcher) : Guard :=
  { guard with
    pendingRestore := guard.pendingRestore.filter (· ∉ units)
    originallyActive := guard.originallyActive.filter (· ∉ units) }

/-! ## Restoring -/

/-- What `restore` makes of its last observation of a unit. -/
def concludeRestore (guard : Guard) (unit : Launcher) : Except String Bool → Guard
  | .error error => guard.withRestoreError error
  | .ok false =>
      guard.withRestoreError (unit.unit ++ " did not return to its original active state")
  | .ok true => guard.restored unit

/-- One target of `restore`: it is started if it is still inactive and its start is trusted. -/
def restoreUnit (guard : Guard) (unit : Launcher) : GuardProgram Guard := do
  let (guard, observed) ← guard.observe unit
  match observed with
  | .ok false => do
      let validation : TrustReply Unit ← guard.ask (.validateStart unit)
      let guard := guard.withResults validation.results
      match validation.verdict with
      | .error error => pure (guard.withRestoreError error)
      | .ok _ => do
          let (guard, started) ← guard.systemctl .start unit
          if started.succeeded then do
            let (guard, observed) ← guard.observe unit
            pure (guard.concludeRestore unit observed)
          else
            pure (guard.withRestoreError ("could not restart " ++ unit.unit ++ ": " ++
              commandError "systemctl start failed" started))
  | observed => pure (guard.concludeRestore unit observed)

/-- The loop of `restore` over its targets, which goes on behind an error. -/
def restoreUnits : List Launcher → Guard → GuardProgram Guard
  | [], guard => pure guard
  | unit :: units, guard => do
      let guard ← guard.restoreUnit unit
      restoreUnits units guard

/-- The units of `pending_restore` that a call of `restore` is about, the last one first. -/
def targets (guard : Guard) (units : Option (List Launcher)) : List Launcher :=
  guard.pendingRestore.reverse.filter fun unit => units.all (unit ∈ ·)

/-- `restore`: start the units that the guard stopped, and tell whether all of them run again. -/
def restore (guard : Guard) (units : Option (List Launcher)) : GuardProgram (Guard × Bool) := do
  let guard ← restoreUnits (guard.targets units) guard
  pure (guard, guard.restoreErrors = [] ∧ guard.targets units = [])

/-! ## Quiescing again -/

/-- What `requiesce` makes of its last observation of a unit: a stopped unit is pending again when
it was active at the gate, and never otherwise. -/
def concludeRequiesce (guard : Guard) (unit : Launcher) : Except String Bool → Guard
  | .error error => guard.withRequiesceError error
  | .ok true => guard.withRequiesceError (unit.unit ++ " remained active after re-quiesce")
  | .ok false =>
      if unit ∈ guard.originallyActive then
        { guard with pendingRestore := assignUnit unit guard.pendingRestore }
      else guard

/-- One unit of `requiesce`: it is stopped if it is active, and must then be inactive. -/
def requiesceUnit (guard : Guard) (unit : Launcher) : GuardProgram Guard := do
  let (guard, observed) ← guard.observe unit
  match observed with
  | .ok true => do
      let (guard, stopped) ← guard.systemctl .stop unit
      if stopped.succeeded then do
        let (guard, observed) ← guard.observe unit
        pure (guard.concludeRequiesce unit observed)
      else
        pure (guard.withRequiesceError ("could not re-quiesce " ++ unit.unit ++ ": " ++
          commandError "systemctl stop failed" stopped))
  | observed => pure (guard.concludeRequiesce unit observed)

/-- The loop of `requiesce` over its units, which goes on behind an error. -/
def requiesceUnits : List Launcher → Guard → GuardProgram Guard
  | [], guard => pure guard
  | unit :: units, guard => do
      let guard ← guard.requiesceUnit unit
      requiesceUnits units guard

/-- `requiesce`: stop the trusted units again, and tell whether that succeeded. -/
def requiesce (guard : Guard) : GuardProgram (Guard × Bool) := do
  let guard ← requiesceUnits guard.specs { guard with requiesceErrors := [] }
  pure (guard, guard.requiesceErrors = [])

/-! ## The initial gate -/

/-- The gate failed: the error is kept, and the units are restored if the caller wants that. -/
def quiesceFailed (restoreOnFailure : Bool) (guard : Guard) (error : String) :
    GuardProgram Guard := do
  let guard := { guard with error := some error }
  if restoreOnFailure then do
    let (guard, _) ← guard.restore none
    pure guard
  else pure guard

/-- A unit that was found active becomes the guard's own: it owes the unit a start. -/
def adopt (guard : Guard) (unit : Launcher) : Guard :=
  { guard with
    originallyActive := assignUnit unit guard.originallyActive
    pendingRestore := assignUnit unit guard.pendingRestore }

/-- The loop of `quiesce_trusted_gpu_services`. -/
def quiesceUnits (restoreOnFailure : Bool) : List Launcher → Guard → GuardProgram Guard
  | [], guard => pure guard
  | unit :: units, guard => do
      let (guard, observed) ← guard.observe unit
      match observed with
      | .error error => quiesceFailed restoreOnFailure guard error
      | .ok false => quiesceUnits restoreOnFailure units guard
      | .ok true => do
          -- The unit is adopted before the stop, so that a stop that fails halfway is undone as
          -- well.
          let (guard, stopped) ← (guard.adopt unit).systemctl .stop unit
          if stopped.succeeded then do
            let (guard, observed) ← guard.observe unit
            match observed with
            | .error error => quiesceFailed restoreOnFailure guard error
            | .ok true =>
                quiesceFailed restoreOnFailure guard
                  (unit.unit ++ " remained active after systemctl stop")
            | .ok false => quiesceUnits restoreOnFailure units guard
          else
            quiesceFailed restoreOnFailure guard ("could not quiesce " ++ unit.unit ++ ": " ++
              commandError "systemctl stop failed" stopped)

/-- `quiesce_trusted_gpu_services`; `systemctl` says whether the executable is there. -/
def quiesce (systemctl : Bool) (specs : List Launcher) (restoreOnFailure : Bool) :
    GuardProgram Guard :=
  if systemctl = false then
    pure { specs, error := some "trusted systemctl executable is required to qualify GPU services" }
  else
    (quiesceUnits restoreOnFailure specs { specs }).handle fun guard => do
      if restoreOnFailure then do
        let (guard, _) ← guard.restore none
        .raise guard
      else .raise guard

end Guard

end NvidiaConverge
