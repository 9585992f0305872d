import NvidiaConverge.Library.Routine
import NvidiaConverge.Launchers.Host
import NvidiaConverge.Recovery.JournalText

/-!
# The command runner

`CommandRunner` of `runner.py`, with the two callbacks by which an applied operation journals its
commands. The runner is a memory that every call goes on with. Its operations are the calls on the
journal's file, what it asks of the host, and the processes that it executes.
-/

namespace NvidiaConverge

open Routine (modify ofExcept ofProgram perform remembered throw throwIf)

/-! ## What the runner asks -/

/-- `TRUSTED_EXECUTABLE_PATH`: the `PATH` of every command that the runner starts. -/
def trustedExecutablePath : String := "/usr/sbin:/usr/bin:/sbin:/bin"

/-- `TRUSTED_WORKING_DIRECTORY`: the directory in which the runner starts a command. -/
def trustedWorkingDirectory : String := "/"

/-- `_PASSTHROUGH_ENVIRONMENT`: the variables that a command inherits. -/
def passthroughEnvironment : List String :=
  ["HTTP_PROXY", "HTTPS_PROXY", "NO_PROXY", "http_proxy", "https_proxy", "no_proxy"]

/-- A process as `subprocess.Popen` is asked for it, and how long it may run. -/
structure Popen where
  command : List String
  mutate : Bool
  executable : String
  environment : List (String × String)
  inputText : Option String
  timeout : Nat
  deriving DecidableEq

/-- How a process ended, with its captured output: it was not started, an exception left the wait,
its group was terminated for the time it took or for its descendants, or it exited. -/
inductive ProcessEnd where
  | notStarted (error : String)
  | raised (error : String)
  | timedOut (stdout stderr : String)
  | lingering (stdout stderr : String)
  | exited (returncode : Int) (stdout stderr : String)

/-- An operation of the runner, on the journal or on the host. -/
inductive RunnerOp where
  /-- `require_applied_state_capacity(REPORT_DIR, SNAPSHOT_DIR)`. -/
  | requireAppliedStateCapacity
  /-- `utc_now`. -/
  | utcNow
  /-- A call on the journal's file. -/
  | journal (op : AppendOp)
  /-- `resolve_executable` on the search path. -/
  | resolveExecutable (name path : String)
  /-- `os.environ`. -/
  | environ
  /-- The home of the effective user, if it has an entry. -/
  | homeDirectory
  /-- `Popen` and the wait for it. -/
  | execute (process : Popen)

/-- The type of the reply to each operation of the runner. -/
@[reducible] def RunnerOp.Reply : RunnerOp → Type
  | .requireAppliedStateCapacity => Except AppendError Unit
  | .utcNow => String
  | .journal op => op.Reply
  | .resolveExecutable _ _ => Option String
  | .environ => List (String × String)
  | .homeDirectory => Option String
  | .execute _ => ProcessEnd

/-- What a call of the runner raises: an error of the report's files, the `RuntimeError` of a
failed command, any other exception of a process, or the misuse of a scope. -/
inductive RunnerError where
  | report (error : AppendError)
  | commandFailed (message : String)
  | process (error : String)
  | scope (message : String)

/-- The error is a `ReportWriteError`, or of its subclass for a damaged journal. -/
def RunnerError.isReportWriteError : RunnerError → Bool
  | .report .reportWrite | .report .reportJournalIntegrity => true
  | _ => false

/-- A `CommandRunner`. Its callbacks are given by the operation that they journal, and
`mutatingOperation` is whether `_MUTATING_OPERATION_IDS` holds that operation. -/
structure Runner where
  apply : Bool := false
  timeout : Nat := 120
  mutationTimeout : Nat := 1800
  executablePath : String := trustedExecutablePath
  callbacks : Option String := none
  results : List CommandResult := []
  privateStateScope : Option (List String) := none
  mutatingOperation : Bool := false

/-- A routine that keeps the runner's own fields and asks for operations of the runner. -/
abbrev RunnerRoutine (α : Type) := Routine RunnerOp RunnerOp.Reply Runner RunnerError α

/-! ## Running a command -/

/-- `start_callback` and `result_callback`, for the operation that they journal. -/
structure Callbacks where
  start : String → List String → Bool → RunnerRoutine Unit
  result : String → CommandResult → Bool → RunnerRoutine Unit

/-- The environment of a process: the variables that pass through, and the ones that the runner
sets. -/
def commandEnvironment (environ : List (String × String)) (home : Option String) (path : String)
    (mutate : Bool) : List (String × String) :=
  environ.filter (fun entry => passthroughEnvironment.contains entry.1) ++
    [("HOME", home.getD trustedWorkingDirectory), ("LANG", "C"), ("LC_ALL", "C"), ("PATH", path)] ++
    if mutate then [("DEBIAN_FRONTEND", "noninteractive"), ("NEEDRESTART_MODE", "l")] else []

/-- The commands behind whose time-out the package database may need recovery. -/
def packageDatabaseCommands : List String :=
  ["apt-get", "dpkg", "dnf", "yum", "rpm", "zypper"]

/-- The line that a command which timed out adds to its standard error. -/
def timeoutDetail (process : Popen) : String :=
  "command process group timed out after " ++ toString process.timeout ++
    " seconds and was terminated" ++
    if process.command.head?.any packageDatabaseCommands.contains then
      "; package database recovery may be required"
    else ""

/-- The result of a process by the way in which it ended, or the exception that it passes on. -/
def processResult (process : Popen) : ProcessEnd → Except RunnerError CommandResult
  | .notStarted error =>
      pure { command := process.command, returncode := some 127, stderr := error }
  | .raised error => .error (.process error)
  | .timedOut stdout stderr =>
      pure
        { command := process.command
          returncode := some 124
          stdout
          stderr := Text.strip (stderr ++ "\n" ++ timeoutDetail process)
          reason := some "timeout-process-group-terminated" }
  | .lingering stdout stderr =>
      pure
        { command := process.command
          returncode := some 125
          stdout
          stderr := Text.strip
            (stderr ++ "\ncommand left descendant processes; process group was terminated")
          reason := some "lingering-process-group-terminated" }
  | .exited returncode stdout stderr =>
      pure { command := process.command, returncode := some returncode, stdout, stderr }

namespace Callbacks

variable (callbacks : Callbacks)

/-- `record_external_start`: the callback is told of the command, if there is one. -/
def recordExternalStart (command : List String) (mutate : Bool) : RunnerRoutine Unit := do
  let runner ← remembered
  match runner.callbacks with
  | some operationId => callbacks.start operationId command mutate
  | none => pure ()

/-- `_record_result`, which is also `record_external_result`. -/
def recordResult (result : CommandResult) (mutate : Bool) : RunnerRoutine Unit := do
  modify fun runner => { runner with results := runner.results ++ [result] }
  let runner ← remembered
  match runner.callbacks with
  | some operationId => callbacks.result operationId result mutate
  | none => pure ()

/-- Record a result and return it, or raise it when the caller allows no failure. -/
def conclude (result : CommandResult) (mutate allowFail : Bool) : RunnerRoutine CommandResult := do
  callbacks.recordResult result mutate
  throwIf (allowFail = false ∧ result.succeeded = false)
    (.commandFailed
      ("command failed: " ++ Text.join " " result.command ++ ": " ++ result.stderr))
  pure result

/-- Execute a command with the runner's time-out for it. -/
def spawn (command : List String) (executable : String) (mutate allowFail : Bool)
    (inputText : Option String) : RunnerRoutine CommandResult := do
  let runner ← remembered
  let environ ← perform .environ
  let home ← perform .homeDirectory
  let process : Popen :=
    { command
      mutate
      executable
      environment := commandEnvironment environ home runner.executablePath mutate
      inputText
      timeout := if mutate then runner.mutationTimeout else runner.timeout }
  let processEnd ← perform (.execute process)
  let result ← ofExcept (processResult process processEnd)
  callbacks.conclude result mutate allowFail

/-- Resolve a command's executable and execute it. -/
def resolve (command : List String) (name : String) (mutate allowFail : Bool)
    (inputText : Option String) : RunnerRoutine CommandResult := do
  let runner ← remembered
  let found : Option String ← perform (RunnerOp.resolveExecutable name runner.executablePath)
  match found with
  | some executable => callbacks.spawn command executable mutate allowFail inputText
  | none =>
      callbacks.conclude
        { command
          returncode := some 127
          stderr := "trusted executable not found: " ++ name }
        mutate allowFail

/-- What `run` does behind the record of the start: a dry run is skipped, anything else is
spawned. -/
def afterStart (command : List String) (mutate allowFail : Bool) (inputText : Option String) :
    RunnerRoutine CommandResult := do
  let runner ← remembered
  if mutate = true ∧ runner.apply = false then
    callbacks.conclude
      { command, returncode := none, skipped := true, reason := some "dry-run" } mutate allowFail
  else
    match command with
    | name :: _ => callbacks.resolve command name mutate allowFail inputText
    | [] => throw (.process "list index out of range")

/-- `run`: the start of the command is recorded before anything else is done for it. -/
def run (command : List String) (mutate allowFail : Bool) (inputText : Option String) :
    RunnerRoutine CommandResult := do
  callbacks.recordExternalStart command mutate
  callbacks.afterStart command mutate allowFail inputText

end Callbacks

/-! ## The callbacks -/

/-- The callbacks of a runner without any, as of a check. -/
def unjournaled : Callbacks where
  start _ _ _ := pure ()
  result _ _ _ := pure ()

/-- The command by which the emergency quarantine masks a unit. -/
def emergencyCommand (unit : Launcher) : List String :=
  ["systemctl", "mask", "--now", unit.unit]

/-- The loop of `_emergency_quarantine_launchers`. -/
def maskUnits : List Launcher → RunnerRoutine Unit
  | [] => pure ()
  | unit :: units => do
      let _ ← unjournaled.run (emergencyCommand unit) true true none
      maskUnits units

/-- `_emergency_quarantine_launchers`, on a runner of its own. -/
def emergencyQuarantineLaunchers : RunnerRoutine Unit :=
  (maskUnits serviceStopOrder).fresh { apply := true }

/-- `except ReportWriteError` of the callbacks. -/
def quarantiningOnReportError (routine : RunnerRoutine Unit) : RunnerRoutine Unit :=
  routine.catching fun error => do
    let runner ← remembered
    if error.isReportWriteError = true ∧ runner.mutatingOperation = true then do
      emergencyQuarantineLaunchers
      throw error
    else throw error

/-- `append_report_journal` of one event, with the time at which it is written. -/
def appendEvent (operationId : String) (details : EventDetails) : RunnerRoutine Unit := do
  let timestamp ← perform .utcNow
  let event : JournalEvent := { operationId, timestamp, details }
  ofProgram (((appendReportJournal event.line).embed RunnerOp.journal fun _ reply => reply).handle
    fun error => .raise (.report error))

/-- `require_applied_state_capacity`, before a mutation. -/
def requireCapacity (mutate : Bool) : RunnerRoutine Unit :=
  if mutate then do
    let reply : Except AppendError Unit ← perform RunnerOp.requireAppliedStateCapacity
    ofExcept (reply.mapError .report)
  else pure ()

/-- `start_callback`: the event of the start is appended before the command may run. -/
def startCallback (operationId : String) (command : List String) (mutate : Bool) :
    RunnerRoutine Unit := do
  quarantiningOnReportError do
    requireCapacity mutate
    appendEvent operationId (.commandStarted command mutate)
  modify fun runner =>
    { runner with mutatingOperation := runner.mutatingOperation || changesHost command mutate }

/-- `result_callback`: the event of the result is appended. -/
def resultCallback (operationId : String) (result : CommandResult) (mutate : Bool) :
    RunnerRoutine Unit :=
  quarantiningOnReportError (appendEvent operationId
    (.commandFinished result.command mutate result.returncode result.skipped result.reason))

/-- The callbacks of an applied operation, which append to its journal. -/
def journaled : Callbacks where
  start := startCallback
  result := resultCallback

/-! ## Private state -/

/-- The one command for which there is a private-state scope. -/
def stagePackagePayloads : List String := ["stage-package-payloads"]

/-- `run_private_state`: a subcommand inside the scope, without events of its own. -/
def runPrivateState (command : List String) (allowFail : Bool) (inputText : Option String) :
    RunnerRoutine CommandResult := do
  let runner ← remembered
  throwIf (runner.privateStateScope ≠ some stagePackagePayloads)
    (.scope "private-state subcommands require the exact package staging scope")
  modify fun runner => { runner with timeout := runner.mutationTimeout, callbacks := none }
  (journaled.run command false allowFail inputText).restoring fun after =>
    { after with timeout := runner.timeout, callbacks := runner.callbacks }

/-- `private_state_scope` up to its `yield`: the scope's own start is recorded. -/
def enterPrivateState (command : List String) : RunnerRoutine Unit := do
  throwIf (command ≠ stagePackagePayloads) (.scope "unsupported private-state command scope")
  let runner ← remembered
  throwIf (runner.privateStateScope ≠ none)
    (.scope "a private-state command scope is already active")
  journaled.recordExternalStart command true
  modify fun runner => { runner with privateStateScope := some command }

/-- `private_state_scope` behind its `yield`, at which the body may have raised. -/
def leavePrivateState (command : List String) (failure : Option String) : RunnerRoutine Unit :=
  (journaled.recordResult
    { command
      returncode := some (if failure.isSome then 1 else 0)
      stderr := failure.getD "" } true).restoring fun after =>
    { after with privateStateScope := none }

/-! ## The calls -/

/-- A call that an operation makes on its runner, or on its journal beside it. -/
inductive RunnerCall where
  | run (command : List String) (mutate allowFail : Bool) (inputText : Option String)
  | runPrivateState (command : List String) (allowFail : Bool) (inputText : Option String)
  | enterPrivateState (command : List String)
  | leavePrivateState (command : List String) (failure : Option String)
  | recordExternalStart (command : List String) (mutate : Bool)
  | recordExternalResult (result : CommandResult) (mutate : Bool)
  | resolveExecutable (name : String)
  | results
  | clearResults
  | append (operationId : String) (details : EventDetails)

/-- What a call returns when it does not raise. -/
@[reducible] def RunnerCall.Value : RunnerCall → Type
  | .run _ _ _ _ | .runPrivateState _ _ _ => CommandResult
  | .resolveExecutable _ => Option String
  | .results => List CommandResult
  | .enterPrivateState _ | .leavePrivateState _ _ | .recordExternalStart _ _
  | .recordExternalResult _ _ | .clearResults | .append _ _ => Unit

/-- The answer to a call of the runner: its value or an exception. -/
abbrev RunnerCall.Answer (call : RunnerCall) : Type :=
  Except RunnerError call.Value

/-- An operation over its runner. What else it observes decides only which calls it makes next, so
every run of it is a run of one of these programs. -/
abbrev RunnerClient (ε α : Type) := Program RunnerCall RunnerCall.Answer ε α

/-- What the runner does for each of its calls. -/
def answerCall : (call : RunnerCall) → RunnerRoutine call.Value
  | .run command mutate allowFail inputText => journaled.run command mutate allowFail inputText
  | .runPrivateState command allowFail inputText => runPrivateState command allowFail inputText
  | .enterPrivateState command => enterPrivateState command
  | .leavePrivateState command failure => leavePrivateState command failure
  | .recordExternalStart command mutate => journaled.recordExternalStart command mutate
  | .recordExternalResult result mutate => journaled.recordResult result mutate
  | .resolveExecutable name => do
      let runner ← remembered
      perform (RunnerOp.resolveExecutable name runner.executablePath)
  | .results => do
      let runner ← remembered
      pure runner.results
  | .clearResults => modify fun runner => { runner with results := [] }
  | .append operationId details => appendEvent operationId details

end NvidiaConverge
