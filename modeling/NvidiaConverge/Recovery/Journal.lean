import NvidiaConverge.Library.Posix
import NvidiaConverge.Library.Result
import NvidiaConverge.Library.Sha256

/-!
# The operation journal

The events that an applied operation appends to its journal, the automaton that accepts a stream
of them, and what recovery reads from an accepted stream. An event stands for one line of the
file; the reader drops an unterminated last line, so a torn append leaves the events before it.
-/

namespace NvidiaConverge

open Result (refuse)

/-! ## Events -/

/-- The four fields that bind a snapshot: path, integrity, creator and host. -/
structure SnapshotBinding where
  path : String
  integritySha256 : String
  operationId : String
  hostId : String
  deriving DecidableEq

/-- What an event of a journal records besides its operation and its time. -/
inductive EventDetails where
  | operationStarted
  | rollbackSnapshotPersisted (binding : SnapshotBinding)
  | launcherReleaseAuthorized (releaseTarget : String) (binding : SnapshotBinding)
  | commandStarted (command : List String) (mutating : Bool)
  | commandFinished (command : List String) (mutating : Bool) (returncode : Option Int)
      (skipped : Bool) (reason : Option String)
  | operationCompleted (exitCode : Int) (incomplete : Bool) (outcome : String)
  | reportPersistenceFailed (error : String)
  | operationRecovered (recoveryOperationId : String) (binding : SnapshotBinding)
  deriving DecidableEq

/-- One line of a journal: the operation it belongs to, its time and what it records. -/
structure JournalEvent where
  operationId : String
  timestamp : String
  details : EventDetails
  deriving DecidableEq

/-- `_OPERATION_ID`: 32 hexadecimal digits in lower case. -/
def isJournalOperation (text : String) : Bool :=
  text.toList.length == 32 && text.toList.all Sha256.isHexDigit

/-- `_HOST_ID`: a digest of the machine's identity, or of its host name. -/
def isHostId (text : String) : Bool :=
  ["machine-id-sha256:", "hostname-sha256:"].any fun kind =>
    kind.toList.isPrefixOf text.toList &&
      Sha256.isDigest (String.ofList (text.toList.drop kind.toList.length))

/-- `_SAFE_PRIVATE_STATE_COMMANDS`: the commands that change nothing but private state. -/
def safePrivateStateCommands : List (List String) :=
  [["persist-rollback-snapshot"], ["stage-package-payloads"]]

/-- `_RELEASE_TARGETS`: what a launcher release may be authorized for. -/
def releaseTargetNames : List String :=
  ["install-target", "operation-target", "rollback-baseline"]

/-- `MAX_JOURNAL_EVENTS`: the most events that a journal may have. -/
def maxJournalEvents : Nat := 100000

/-- `_snapshot_event_binding` accepts the fields. -/
def SnapshotBinding.valid (binding : SnapshotBinding) : Bool :=
  binding.path.toList.head? == some '/' && Sha256.isDigest binding.integritySha256 &&
    isJournalOperation binding.operationId && isHostId binding.hostId

/-- `_validate_command_event` accepts the command. -/
def validCommand (command : List String) : Bool :=
  !command.isEmpty && command.all (· != "")

/-! ## The automaton -/

/-- The flags of `_validate_event_stream`, as they stand behind some events of a journal. -/
structure StreamState where
  pendingCommand : Option (List String × Bool) := none
  snapshotBinding : Option SnapshotBinding := none
  releaseTargets : List String := []
  hostMutationPossible : Bool := false
  completionSeen : Bool := false
  persistenceFailureSeen : Bool := false
  sealedSeen : Bool := false
  terminalSeen : Bool := false
  terminalAllowsPersistenceFailure : Bool := false
  deriving DecidableEq

/-- Whether a command changes the host when it is journaled as mutating. -/
def changesHost (command : List String) (mutating : Bool) : Bool :=
  mutating && !safePrivateStateCommands.contains command

/-- Whether the event may follow a terminal record. -/
def EventDetails.isPersistenceFailure : EventDetails → Bool
  | .reportPersistenceFailed _ => true
  | _ => false

/-- Whether the event may follow a sealed incomplete state. -/
def EventDetails.followsSeal : EventDetails → Bool
  | .operationRecovered _ _ | .reportPersistenceFailed _ => true
  | _ => false

/-- The order of release targets that the automaton admits. -/
def releaseOrderError (state : StreamState) (releaseTarget : String) : Bool :=
  !releaseTargetNames.contains releaseTarget || state.releaseTargets.contains releaseTarget ||
    (["install-target", "operation-target"].contains releaseTarget &&
      !state.releaseTargets.isEmpty) ||
    (releaseTarget == "rollback-baseline" &&
      !([[], ["install-target"], ["operation-target"]].contains state.releaseTargets)) ||
    !state.hostMutationPossible

/-- `error`: the text of an error about a journal, which names it. -/
def journalError (message name : String) : String :=
  "applied report journal " ++ message ++ ": " ++ name

/-- One event after the first; `journalId` is the operation that the first one named. -/
def validateEvent (name journalId : String) (state : StreamState) (event : JournalEvent) :
    Except String StreamState := do
  refuse (isJournalOperation event.operationId = false)
    (journalError "has an invalid operation ID" name)
  refuse (event.timestamp = "") (journalError "has an invalid timestamp" name)
  refuse (event.operationId ≠ journalId) (journalError "mixes operation IDs" name)
  refuse (state.terminalSeen = true ∧ ¬ (state.terminalAllowsPersistenceFailure = true ∧
      event.details.isPersistenceFailure = true))
    (journalError "has events after its terminal record" name)
  -- Behind a seal only a recovery or a persistence failure may stand.
  refuse (state.sealedSeen = true ∧ event.details.followsSeal = false)
    (journalError "continues after sealed incomplete state instead of recording recovery" name)
  match event.details with
  | .operationStarted => throw (journalError "restarts its operation" name)
  | .commandStarted command mutating => do
      refuse (validCommand command = false) (journalError "has an invalid command event" name)
      refuse (state.pendingCommand ≠ none)
        (journalError "starts a command before the prior command completed" name)
      refuse (changesHost command mutating = true ∧ state.snapshotBinding = none)
        (journalError "records a possible host mutation before rollback snapshot authority" name)
      pure
        { state with
          hostMutationPossible := state.hostMutationPossible || changesHost command mutating
          pendingCommand := some (command, mutating) }
  | .commandFinished command mutating _ _ _ => do
      refuse (validCommand command = false) (journalError "has an invalid command event" name)
      refuse (state.pendingCommand ≠ some (command, mutating))
        (journalError "command completion does not match one pending command" name)
      pure { state with pendingCommand := none }
  | .rollbackSnapshotPersisted binding => do
      refuse (state.pendingCommand ≠ none ∨ state.snapshotBinding ≠ none)
        (journalError "records a misplaced or duplicate rollback snapshot binding" name)
      refuse (binding.valid = false)
        (journalError "has an invalid rollback snapshot binding" name)
      pure { state with snapshotBinding := some binding }
  | .launcherReleaseAuthorized releaseTarget binding => do
      refuse (state.pendingCommand ≠ none ∨ state.snapshotBinding = none)
        (journalError "authorizes launcher release outside a completed snapshot-bound phase" name)
      refuse (binding.valid = false)
        (journalError "has an invalid rollback snapshot binding" name)
      refuse (state.snapshotBinding ≠ some binding)
        (journalError "launcher release does not match its exact rollback snapshot binding" name)
      refuse (releaseOrderError state releaseTarget = true)
        (journalError "has invalid launcher release order" name)
      pure { state with releaseTargets := state.releaseTargets ++ [releaseTarget] }
  | .operationCompleted exitCode incomplete outcome => do
      refuse (state.pendingCommand ≠ none ∨ state.completionSeen = true)
        (journalError "completes with pending or duplicate command state" name)
      refuse (¬ ["succeeded", "failed"].contains outcome ∨
          ¬ (exitCode = 0 ↔ outcome = "succeeded") ∨ incomplete = true ∧ outcome ≠ "failed")
        (journalError "has invalid completion state" name)
      if incomplete = false then
        pure
          { state with
            completionSeen := true
            terminalSeen := true
            terminalAllowsPersistenceFailure := true }
      else do
        refuse (state.snapshotBinding = none)
          (journalError "seals incomplete host state without rollback snapshot authority" name)
        pure
          { state with completionSeen := true, hostMutationPossible := true, sealedSeen := true }
  -- The completion no longer ends the journal: the operation is left to a recovery.
  | .reportPersistenceFailed error => do
      refuse (state.pendingCommand ≠ none ∨ state.persistenceFailureSeen = true)
        (journalError "records invalid report persistence failure state" name)
      refuse (error = "") (journalError "has invalid persistence failure" name)
      pure
        { state with
          persistenceFailureSeen := true
          terminalSeen := false
          terminalAllowsPersistenceFailure := false
          sealedSeen := true }
  | .operationRecovered recoveryId binding => do
      refuse (isJournalOperation recoveryId = false ∨ recoveryId = journalId ∨
          state.snapshotBinding = none ∨ state.hostMutationPossible = false ∨
          binding.valid = false ∨ state.snapshotBinding ≠ some binding)
        (journalError "has invalid recovery state" name)
      pure { state with terminalSeen := true, terminalAllowsPersistenceFailure := false }

/-- `_validate_event_stream`: the operation of the journal. -/
def validateEventStream (name : String) (events : List JournalEvent) : Except String String :=
  match events with
  | { operationId, timestamp, details := .operationStarted } :: rest => do
      refuse (isJournalOperation operationId = false)
        (journalError "has an invalid operation ID" name)
      refuse (timestamp = "") (journalError "has an invalid timestamp" name)
      let _ ← rest.foldlM (validateEvent name operationId) {}
      pure operationId
  | _ => throw (journalError "does not begin with operation-started" name)

/-! ## What recovery reads -/

/-- The fields of the event by which an operation completes. -/
structure Completion where
  exitCode : Int
  incomplete : Bool
  outcome : String
  deriving DecidableEq

/-- The completion that an event records, if it is one. -/
def JournalEvent.completion? (event : JournalEvent) : Option Completion :=
  match event.details with
  | .operationCompleted exitCode incomplete outcome => some ⟨exitCode, incomplete, outcome⟩
  | _ => none

/-- An event's recovery: who recovered, and from which snapshot. -/
def JournalEvent.recovery? (event : JournalEvent) : Option (String × SnapshotBinding) :=
  match event.details with
  | .operationRecovered recoveryId binding => some (recoveryId, binding)
  | _ => none

/-- The snapshot that an event binds to the operation, if it binds one. -/
def JournalEvent.binding? (event : JournalEvent) : Option SnapshotBinding :=
  match event.details with
  | .rollbackSnapshotPersisted binding => some binding
  | _ => none

/-- What an event authorizes a launcher release for, if it does. -/
def JournalEvent.releaseTarget? (event : JournalEvent) : Option String :=
  match event.details with
  | .launcherReleaseAuthorized releaseTarget _ => some releaseTarget
  | _ => none

/-- Whether an event starts a command that changes the host. -/
def JournalEvent.startsMutation (event : JournalEvent) : Bool :=
  match event.details with
  | .commandStarted command mutating => changesHost command mutating
  | _ => false

/-- Whether an event starts one of the private commands. -/
def JournalEvent.startsPrivateState (event : JournalEvent) : Bool :=
  match event.details with
  | .commandStarted command mutating => mutating && safePrivateStateCommands.contains command
  | _ => false

/-- `completions[-1]`: the last completion of a journal, which is the one that counts. -/
def lastCompletion (events : List JournalEvent) : Option Completion :=
  (events.filterMap JournalEvent.completion?).getLast?

/-- The last event by which another operation resolved this journal. -/
def lastRecovery (events : List JournalEvent) : Option (String × SnapshotBinding) :=
  (events.filterMap JournalEvent.recovery?).getLast?

/-- `persistence_failed`: an event records that a report could not be persisted. -/
def persistenceFailed (events : List JournalEvent) : Bool :=
  events.any (·.details.isPersistenceFailure)

/-- `host_mutation_possible`: an event starts a mutation, or the last completion is incomplete. -/
def hostMutationPossible (events : List JournalEvent) : Bool :=
  events.any JournalEvent.startsMutation || (lastCompletion events).any (·.incomplete)

/-- `UnresolvedOperation`; the journal is named by its report. -/
structure UnresolvedOperation where
  name : String
  operationId : String
  binding : Option SnapshotBinding
  launcherReleaseTarget : Option String
  deriving DecidableEq

/-- `_ParsedJournal`: what the scan keeps of a journal. -/
structure ParsedJournal where
  operationId : String
  operation : Option UnresolvedOperation
  completion : Option Completion
  persistenceFailed : Bool
  recoveryOperationId : Option String
  privateSnapshotArtifactsPossible : Bool
  snapshotBindingPresent : Bool
  deriving DecidableEq

/-- `_parse_journal`: the events of a journal are validated as a stream, and summarized. -/
def parseJournal (name : String) (events : List JournalEvent) : Except String ParsedJournal := do
  refuse (events = []) (journalError "is empty or unrepairable" name)
  refuse (maxJournalEvents < events.length) (journalError "exceeds 100000 events" name)
  let operationId ← validateEventStream name events
  let bindings := events.filterMap JournalEvent.binding?
  refuse (1 < bindings.dedup.length)
    ("journal contains conflicting rollback snapshot bindings: " ++ name)
  pure
    { operationId
      operation :=
        if hostMutationPossible events then
          some
            { name, operationId
              binding := bindings.head?
              launcherReleaseTarget :=
                (events.filterMap JournalEvent.releaseTarget?).getLast? }
        else none
      completion := lastCompletion events
      persistenceFailed := persistenceFailed events
      recoveryOperationId := (lastRecovery events).map Prod.fst
      privateSnapshotArtifactsPossible := events.any JournalEvent.startsPrivateState
      snapshotBindingPresent := !bindings.isEmpty }

/-! ## Accepted journals -/

variable {name operationId : String} {events : List JournalEvent} {parsed : ParsedJournal}

/-- The operation of an accepted stream is the one that its first event names. -/
theorem validate_event_stream_id (h : validateEventStream name events = .ok operationId) :
    events.head?.map JournalEvent.operationId = some operationId := by
  unfold validateEventStream at h
  split at h
  · obtain ⟨-, h⟩ := Result.check_bind_eq_ok.mp h
    obtain ⟨-, h⟩ := Result.check_bind_eq_ok.mp h
    obtain ⟨_, -, heq⟩ := Result.bind_eq_ok.mp h
    rw [← Result.pure_eq_ok.mp heq]
    rfl
  · cases h

/-- What the parser returns for an accepted journal, field by field, in terms of its events. -/
structure AcceptedJournal (name : String) (events : List JournalEvent) (parsed : ParsedJournal) :
    Prop where
  stream : validateEventStream name events = .ok parsed.operationId
  operation : parsed.operation =
    if hostMutationPossible events then
      some
        { name, operationId := parsed.operationId
          binding := (events.filterMap JournalEvent.binding?).head?
          launcherReleaseTarget := (events.filterMap JournalEvent.releaseTarget?).getLast? }
    else none
  completion : parsed.completion = lastCompletion events
  persistence : parsed.persistenceFailed = persistenceFailed events
  recovery : parsed.recoveryOperationId = (lastRecovery events).map Prod.fst

theorem parse_journal_ok (h : parseJournal name events = .ok parsed) :
    AcceptedJournal name events parsed := by
  simp only [parseJournal, Result.check_bind_eq_ok] at h
  obtain ⟨-, -, h⟩ := h
  obtain ⟨operationId, hstream, h⟩ := Result.bind_eq_ok.mp h
  obtain ⟨-, h⟩ := Result.check_bind_eq_ok.mp h
  obtain rfl := Result.pure_eq_ok.mp h
  exact
    { stream := hstream
      operation := rfl
      completion := rfl
      persistence := rfl
      recovery := rfl }

/-- The operation of an accepted journal is the operation of its first event. -/
theorem AcceptedJournal.id (h : AcceptedJournal name events parsed) :
    events.head?.map JournalEvent.operationId = some parsed.operationId :=
  validate_event_stream_id h.stream

/-! ## Appending -/

variable {event : JournalEvent}

/-- One more event is the last completion where it is one, and changes nothing where it is not. -/
@[simp] theorem last_completion_append :
    lastCompletion (events ++ [event]) = event.completion?.or (lastCompletion events) := by
  unfold lastCompletion
  cases h : event.completion? <;> simp [h]

/-- One more event is the last recovery where it is one, and changes nothing where it is not. -/
@[simp] theorem last_recovery_append :
    lastRecovery (events ++ [event]) = event.recovery?.or (lastRecovery events) := by
  unfold lastRecovery
  cases h : event.recovery? <;> simp [h]

/-- A journal with one more event records a failed persistence exactly if it did or the event
does. -/
@[simp] theorem persistence_failed_append :
    persistenceFailed (events ++ [event]) =
      (persistenceFailed events || event.details.isPersistenceFailure) := by
  simp [persistenceFailed]

end NvidiaConverge
