import NvidiaConverge.Library.Run
import NvidiaConverge.Recovery.Index

/-!
# Histories of applied commands

Applied commands run one after the other under the operation lock. An action is one durable step
of the live process, an `exit` at any point between two of them, or a scan that ends before its
last unlink. `step?` says which actions are enabled and what they leave in the store.
-/

namespace NvidiaConverge

open Directory (create)

/-- The commands of the program that apply changes as root, and so keep a journal. -/
inductive AppliedCommand where
  | install
  | lock
  | rollback
  | snapshot
  | verify
  deriving DecidableEq

/-- The arguments of an applied command that recovery depends on. `operationId` is the process's
random identity. -/
structure Request where
  report : String
  operationId : String
  command : AppliedCommand
  snapshot : String := ""
  workingDirectory : List String := []

/-- How far a process has come. The reserving stages are those of `reserve_applied_report`, and
`recording` holds the operations that the rollback has still to record as recovered. A process is
`disputed` when the append of its completion raised and left the whole line in the journal, and
`uncertain` says that the error was a `ReportJournalIntegrityError`. It is `retracted` when it has
then tried to write its report as incomplete, and `written` says whether the new report is there. -/
inductive Stage where
  | admitted
  | reportReserved
  | journalReserved
  | reserved
  | working
  | recording (pending : List UnresolvedOperation)
  | published (completion : Completion)
  | disputed (uncertain : Bool)
  | retracted (written uncertain : Bool)
  | failing
  | finished
  deriving DecidableEq

/-- The process that holds the operation lock; `targets` are its `recovery_operations`. -/
structure Process where
  request : Request
  targets : List UnresolvedOperation
  stage : Stage := .admitted
  snapshot : Option SnapshotBinding := none

namespace Process

/-- The operation that the process was started for. -/
def operationId (p : Process) : String :=
  p.request.operationId

/-- The journal of the process, named after its report. -/
def journal (p : Process) : String :=
  journalName p.request.report

/-- The final report that a completion of the process writes. -/
def report (p : Process) (completion : Completion) : AppliedReport :=
  { operationId := p.operationId
    mode := "apply"
    reportPath := reportDir ++ "/" ++ p.request.report
    incomplete := completion.incomplete
    exitCode := completion.exitCode
    outcome := completion.outcome }

end Process

/-- What decides whether a rollback is fully verified. -/
structure RollbackConclusion where
  succeeded : Bool
  verification : List Bool
  errorFindings : List String

/-- `rollback_fully_verified`: the rollback succeeded, every check of it passed and no finding is an
error. -/
def RollbackConclusion.fullyVerified (conclusion : RollbackConclusion) : Bool :=
  conclusion.succeeded && !conclusion.verification.isEmpty && conclusion.verification.all id &&
    conclusion.errorFindings.isEmpty

/-- The report directory, the live process, the operation identities drawn so far, and which
operation has verified the rollback to which snapshot. -/
structure World where
  store : Store := {}
  live : Option Process := none
  operationIds : List String := []
  verified : List (String × SnapshotBinding) := []

/-- One durable step of a history: of the process that lives, of the scan before one, or its
death. -/
inductive Action where
  | cutScan (count : Nat)
  | start (request : Request)
  | reserveReport
  | reserveJournal (timestamp : String)
  | reserveMarker
  | release
  | begin
  | load (snapshot : SnapshotBinding)
  | append (timestamp : String) (details : EventDetails)
  | verify (conclusion : RollbackConclusion)
  | record (timestamp : String)
  | publish (exitCode : Int) (mutationsStarted : Bool)
  | complete (timestamp : String)
  | completeDisputed (timestamp : String) (uncertain : Bool)
  | retract (written : Bool)
  | publishFailed (written : Option Completion)
  | failPersistence (timestamp error : String)
  | exit

/-! ## The gates -/

/-- `os.path.abspath` of a path, as components: `..` removes the component before it. -/
def abspath (workingDirectory : List String) (text : String) : List String :=
  (purePath text).2.foldl
    (fun components part => if part = ".." then components.dropLast else components ++ [part])
    (if (purePath text).1 = [] then workingDirectory else [])

/-- `main` lets the request pass the operations that the scan returned. -/
def admits (operations : List UnresolvedOperation) (request : Request) : Bool :=
  match recoverySnapshotPath operations with
  | .error _ => false
  | .ok none => true
  | .ok (some required) =>
      request.command == .rollback && purePath request.snapshot == purePath required

/-- The rollback command accepts the loaded snapshot for the operations. -/
def acceptsSnapshot (operations : List UnresolvedOperation) (snapshot : SnapshotBinding) : Bool :=
  operations.all fun operation =>
    operation.binding.map SnapshotBinding.contentKey == some snapshot.contentKey

/-- The events that a command appends while it works. -/
def EventDetails.isWork : EventDetails → Bool
  | .commandStarted _ _ | .commandFinished _ _ _ _ _ | .rollbackSnapshotPersisted _ => true
  | .launcherReleaseAuthorized _ _ => true
  | .operationStarted | .operationCompleted _ _ _ | .reportPersistenceFailed _ => false
  | .operationRecovered _ _ => false

/-- The provisional report, which stands until the operation publishes its own. -/
def provisionalCompletion : Completion :=
  { exitCode := 255, incomplete := true, outcome := "failed" }

/-- The status that `emit_report` gives the report when the append of its completion raised. -/
def retractedCompletion : Completion :=
  { exitCode := 2, incomplete := true, outcome := "failed" }

/-- The status that `_finalize_report` gives a report. -/
def finalCompletion (exitCode : Int) (mutationsStarted : Bool) : Completion :=
  { exitCode
    incomplete := exitCode != 0 && mutationsStarted
    outcome := if exitCode = 0 then "succeeded" else "failed" }

/-! ## Steps -/

/-- `append_report_journal` where it succeeds: the event is the last line of the journal. -/
def Store.append (store : Store) (name : String) (event : JournalEvent) : Option Store :=
  match store.journals.lookup name with
  | some events =>
      some { store with journals := store.journals.insert name (events ++ [event]) }
  | none => none

/-- The world after the live process has moved on. -/
def World.advance (w : World) (p : Process) (stage : Stage) (store : Store) : World :=
  { w with store, live := some { p with stage } }

/-- The process appends to its own journal and moves on. -/
def World.appendOwn (w : World) (p : Process) (stage : Stage) (timestamp : String)
    (details : EventDetails) : Option World := do
  let store ← w.store.append p.journal { operationId := p.operationId, timestamp, details }
  pure (w.advance p stage store)

/-- `reserve_applied_report`, one file at a time, and its undoing. -/
def World.reserve (w : World) (p : Process) (action : Action) : Option World :=
  match action, p.stage with
  | .reserveReport, .admitted => do
      let reports ← create p.request.report (p.report provisionalCompletion) w.store.reports
      pure (w.advance p .reportReserved { w.store with reports })
  | .reserveJournal timestamp, .reportReserved => do
      let started : JournalEvent :=
        { operationId := p.operationId, timestamp, details := .operationStarted }
      let journals ← create p.journal [started] w.store.journals
      pure (w.advance p .journalReserved { w.store with journals })
  | .reserveMarker, .journalReserved =>
      match requireActiveMarkerCapacity w.store with
      | .error _ => none
      | .ok () => do
          let markers ← create p.journal p.operationId w.store.markers
          pure (w.advance p .reserved { w.store with markers })
  | .release, .reserved =>
      some (w.advance p .journalReserved
        { w.store with markers := w.store.markers.erase p.journal })
  | .release, .journalReserved =>
      some (w.advance p .reportReserved
        { w.store with journals := w.store.journals.erase p.journal })
  | .release, .reportReserved =>
      some (w.advance p .admitted
        { w.store with reports := w.store.reports.erase p.request.report })
  | _, _ => none

/-- Whether the command reaches `emit_report` from this stage. -/
def Stage.emits : Stage → Bool
  | .working | .recording [] => true
  | _ => false

/-- Whether writing the report, or appending its completion, can fail at this stage. -/
def Stage.mayFailToEmit : Stage → Bool
  | .published _ => true
  | stage => stage.emits

/-- `_execute_command`, between the reservation and the report. -/
def World.execute (w : World) (p : Process) (action : Action) : Option World :=
  match action, p.stage with
  | .begin, .reserved =>
      if p.request.command = .rollback then none else some (w.advance p .working w.store)
  | .load snapshot, .reserved =>
      if p.request.command = .rollback ∧
          Posix.pathComponents snapshot.path =
            some (abspath p.request.workingDirectory p.request.snapshot) ∧
          acceptsSnapshot p.targets snapshot = true then
        some { w with live := some { p with stage := .working, snapshot := some snapshot } }
      else none
  | .append timestamp details, .working =>
      if details.isWork = true then w.appendOwn p .working timestamp details else none
  -- Recoveries are recorded behind a full verification only.
  | .verify conclusion, .working =>
      match p.snapshot with
      | some snapshot =>
          if conclusion.fullyVerified = true then
            some
              { w with
                live := some { p with stage := .recording p.targets }
                verified := (p.operationId, snapshot) :: w.verified }
          else none
      | none => none
  | .record timestamp, .recording (target :: rest) =>
      match p.snapshot with
      | some snapshot => do
          let store ← w.store.append target.name
            { operationId := target.operationId, timestamp
              details := .operationRecovered p.operationId snapshot }
          pure (w.advance p (.recording rest) store)
      | none => none
  | _, _ => none

/-- Whether `emit_report` goes on to append `report-persistence-failed` from this stage, which it
does not when the integrity of the journal is uncertain. -/
def Stage.recordsFailure : Stage → Bool
  | .failing | .retracted _ false => true
  | _ => false

/-- `emit_report`. The append of the completion can raise with the whole line in the journal, when
its rollback or the close of the file fails. -/
def World.emit (w : World) (p : Process) (action : Action) : Option World :=
  match action with
  | .publish exitCode mutationsStarted =>
      let completion := finalCompletion exitCode mutationsStarted
      if p.stage.emits = true then
        some (w.advance p (.published completion)
          { w.store with
            reports := w.store.reports.insert p.request.report (p.report completion) })
      else none
  | .complete timestamp =>
      match p.stage with
      | .published completion =>
          w.appendOwn p .finished timestamp
            (.operationCompleted completion.exitCode completion.incomplete completion.outcome)
      | _ => none
  -- The append raises with its whole line in the journal.
  | .completeDisputed timestamp uncertain =>
      match p.stage with
      | .published completion =>
          w.appendOwn p (.disputed uncertain) timestamp
            (.operationCompleted completion.exitCode completion.incomplete completion.outcome)
      | _ => none
  | .retract written =>
      match p.stage with
      | .disputed uncertain =>
          some (w.advance p (.retracted written uncertain)
            { w.store with
              reports :=
                if written = true then
                  w.store.reports.insert p.request.report (p.report retractedCompletion)
                else w.store.reports })
      | _ => none
  | .publishFailed written =>
      if p.stage.mayFailToEmit = true then
        some (w.advance p .failing
          { w.store with
            reports :=
              match written with
              | some completion => w.store.reports.insert p.request.report (p.report completion)
              | none => w.store.reports })
      else none
  | .failPersistence timestamp error =>
      if p.stage.recordsFailure = true then
        w.appendOwn p .finished timestamp (.reportPersistenceFailed error)
      else none
  | _ => none

/-- A request that the scan's operations admit becomes the live process. -/
def World.admit (w : World) (request : Request) : Option World :=
  match unresolvedOperations w.store with
  | .error _ => none
  | .ok (store, targets) =>
      if isReportName request.report = true ∧ isJournalOperation request.operationId = true ∧
          request.operationId ∉ w.operationIds ∧ admits targets request = true then
        some
          { w with
            store
            live := some { request, targets }
            operationIds := request.operationId :: w.operationIds }
      else none

/-- One step of a history: the world behind an action, if the program can take the action there. -/
def step? (w : World) (action : Action) : Option World :=
  match w.live, action with
  | none, .cutScan count =>
      match interruptedScan count w.store with
      | .ok store => some { w with store }
      | .error _ => none
  | none, .start request => w.admit request
  | none, _ => none
  | some _, .exit => some { w with live := none }
  | some p, action => w.reserve p action <|> w.execute p action <|> w.emit p action

/-- The world before the first applied command. -/
def initialWorld : World := {}

/-! ## A crashed install and rollbacks to its snapshot -/

/-- The identity that consists of 32 equal digits. -/
def operationOf (digit : Char) : String :=
  String.ofList (List.replicate 32 digit)

/-- The snapshot that the install persisted before it crashed. -/
def installSnapshot : SnapshotBinding :=
  { path := "/var/lib/nvidia-converge/snapshots/before-install.json"
    integritySha256 := String.ofList (List.replicate 64 'e')
    operationId := operationOf 'a'
    hostId := "machine-id-sha256:" ++ String.ofList (List.replicate 64 'f') }

/-- A command reserves its files, binds the snapshot and starts to change the host. -/
def mutateHost (request : Request) (enter : Action) : List Action :=
  [.start request, .reserveReport, .reserveJournal "2026-01-01T00:00:00+00:00", .reserveMarker,
    enter, .append "2026-01-01T00:00:01+00:00" (.rollbackSnapshotPersisted installSnapshot),
    .append "2026-01-01T00:00:02+00:00"
      (.commandStarted ["systemctl", "stop", "docker.service"] true)]

/-- An install that dies while it changes the host. -/
def crashedInstall : List Action :=
  mutateHost { report := "install.json", operationId := operationOf 'a', command := .install }
    .begin ++ [.exit]

/-- A rollback to the install's snapshot, up to its first recorded recovery. -/
def recoverOne (report : String) (digit : Char) : List Action :=
  mutateHost
    { report, operationId := operationOf digit, command := .rollback
      snapshot := installSnapshot.path }
    (.load installSnapshot) ++
  [.append "2026-01-01T00:00:03+00:00"
      (.commandFinished ["systemctl", "stop", "docker.service"] true (some 0) false none),
    .verify { succeeded := true, verification := [true], errorFindings := [] },
    .record "2026-01-01T00:00:04+00:00"]

/-- The steps by which a rollback publishes a successful report, completes its journal and exits. -/
def reportSuccess : List Action :=
  [.publish 0 true, .complete "2026-01-01T00:00:05+00:00", .exit]

end NvidiaConverge
