import NvidiaConverge.Library.Directory
import NvidiaConverge.Recovery.Journal

/-!
# The active index

The report directory, the markers of its active journals, and the scan that decides which
interrupted operations remain. `unresolvedOperations` bootstraps the index, reads the marked
journals, unlinks the markers of the terminal ones and returns the operations that still need
recovery. `ScanResult` says what a scan that returned has seen and done.
-/

namespace NvidiaConverge

open Directory (create unlinkAll sortedNames)
open Result (refuse)

/-! ## The store -/

/-- The fields of a final report that recovery compares. -/
structure AppliedReport where
  operationId : String
  mode : String
  reportPath : String
  incomplete : Bool
  exitCode : Int
  outcome : String
  deriving DecidableEq

/-- The report directory; `markers` is its subdirectory of active journals. -/
structure Store where
  journals : Directory (List JournalEvent) := ∅
  reports : Directory AppliedReport := ∅
  indexed : Bool := false
  markers : Directory String := ∅

/-- `REPORT_DIR`: where every applied report and its journal are stored. -/
def reportDir : String :=
  "/var/lib/nvidia-converge/reports"

/-- `MAX_RECOVERY_JOURNALS`: the most unresolved operations that a scan returns. -/
def maxRecoveryJournals : Nat := 1024

/-- `MAX_ACTIVE_JOURNAL_MARKERS`: the most markers that the active directory may hold. -/
def maxActiveJournalMarkers : Nat := 1024

/-- `MAX_LEGACY_JOURNALS`: the most journals that the bootstrap reads. -/
def maxLegacyJournals : Nat := 4096

/-- The suffix that makes a report's name the name of its journal. -/
def journalSuffix : String :=
  ".journal.jsonl"

/-- The name of the journal that belongs to a report. -/
def journalName (report : String) : String :=
  report ++ journalSuffix

/-- `journal_name[: -len(suffix)]`: the name of the report that a journal belongs to. -/
def reportName (journal : String) : String :=
  String.ofList (journal.toList.take (journal.toList.length - journalSuffix.toList.length))

/-- `_REPORT_NAME`: a letter or digit, then letters, digits, `.`, `_` and `-`, then `.json`. -/
def isReportName (name : String) : Bool :=
  let stem := name.toList.take (name.toList.length - 5)
  name.toList.drop (name.toList.length - 5) == ".json".toList &&
    stem.head?.any Char.isAlphanum && decide (stem.length ≤ 200) &&
    stem.all fun c => c.isAlphanum || ['.', '_', '-'].contains c

/-! ## Reading -/

/-- Read the file of a journal and parse it. -/
def readJournal (store : Store) (name : String) : Except String ParsedJournal :=
  match store.journals.lookup name with
  | some events => parseJournal name events
  | none => throw ("cannot open applied report journal " ++ name)

/-- Whether the report of a journal is the final one of this completion. -/
def hasFinalReport (store : Store) (name operationId : String) (completion : Option Completion)
    (persistenceFailed : Bool) : Bool :=
  completion.any fun completion =>
    !completion.incomplete && !persistenceFailed &&
      (store.reports.lookup (reportName name)).any fun report =>
        report.operationId == operationId && report.mode == "apply" &&
          report.reportPath == reportDir ++ "/" ++ reportName name && !report.incomplete &&
          report.exitCode == completion.exitCode && report.outcome == completion.outcome

/-- `_completion_has_final_report`: whether the report beside a journal confirms its completion. -/
def completionHasFinalReport (store : Store) (name : String) (parsed : ParsedJournal) : Bool :=
  hasFinalReport store name parsed.operationId parsed.completion parsed.persistenceFailed

/-- `_journal_has_terminal_resolution`: a recovery of the journal, or a complete completion of
it. -/
def journalHasTerminalResolution (parsed : ParsedJournal) : Bool :=
  parsed.recoveryOperationId.isSome ||
    parsed.completion.any fun completion => !completion.incomplete && !parsed.persistenceFailed

/-- `completed`: the operations whose completion has its final report. -/
def completedOperations (store : Store) (indexed : List (String × ParsedJournal)) :
    List String :=
  (indexed.filter fun entry => completionHasFinalReport store entry.1 entry.2).map
    (·.2.operationId)

/-- `terminal`: the journal needs no marker, by itself or by the operations that are completed. -/
def isTerminal (completed : List String) (parsed : ParsedJournal) : Bool :=
  parsed.operation.isNone || completed.contains parsed.operationId ||
    parsed.recoveryOperationId.any completed.contains

/-- `_ensure_active_marker` on the markers: a new one is inserted, one of another operation
refused. -/
def ensureActiveMarker (markers : Directory String) (entry : String × ParsedJournal) :
    Except String (Directory String) :=
  match markers.lookup entry.1 with
  | none => pure (markers.insert entry.1 entry.2.operationId)
  | some operationId => do
      refuse (operationId ≠ entry.2.operationId)
        ("active recovery journal marker conflicts with journal: " ++ entry.1)
      pure markers

/-- `_bootstrap_active_index` of a store: every journal that is not terminal gets its marker. -/
def bootstrapActiveIndex (store : Store) : Except String Store :=
  if store.indexed then pure store
  else do
    let names := sortedNames store.journals
    refuse (maxLegacyJournals < names.length)
      ("legacy applied journal history exceeds the bounded index bootstrap journal limit; " ++
        "archive preserved terminal journals offline before retrying")
    let journals ← names.mapM fun name => do pure (name, ← readJournal store name)
    let completed := completedOperations store journals
    let active := journals.filter fun entry => !isTerminal completed entry.2
    refuse (maxRecoveryJournals < active.length)
      "active applied operation count exceeds the recovery index limit"
    let markers ← active.foldlM ensureActiveMarker store.markers
    pure { store with markers, indexed := true }

/-- The journal of a marker, parsed; the marker names the operation. -/
def readActiveJournal (store : Store) (name : String) : Except String (String × ParsedJournal) := do
  let parsed ← readJournal store name
  refuse (store.markers.lookup name ≠ some parsed.operationId)
    ("active journal marker operation ID does not match its journal: " ++ name)
  pure (name, parsed)

/-- The markers, read in sorted order; the index file is an entry beside them. -/
def readActiveJournals (store : Store) : Except String (List (String × ParsedJournal)) := do
  refuse (maxRecoveryJournals + 1 < store.markers.keys.length + 1)
    "active recovery journal directory exceeds its bounded entry limit"
  (sortedNames store.markers).mapM (readActiveJournal store)

/-! ## The scan -/

/-- The markers that a scan unlinks, in its order. -/
def retirableMarkers (store : Store) (indexed : List (String × ParsedJournal)) : List String :=
  (indexed.filter fun entry => isTerminal (completedOperations store indexed) entry.2).map (·.1)

/-- The operations that a scan returns: those of the markers that are neither terminal nor
resolved. -/
def remainingOperations (store : Store) (indexed : List (String × ParsedJournal)) :
    List UnresolvedOperation :=
  (indexed.filter fun entry =>
      !isTerminal (completedOperations store indexed) entry.2 &&
        !journalHasTerminalResolution entry.2).filterMap
    (·.2.operation)

/-- The store without the markers of these journals. -/
def Store.retire (store : Store) (names : List String) : Store :=
  { store with markers := unlinkAll names store.markers }

/-- `unresolved_operations`: the store behind a scan, and the operations that it returns. -/
def unresolvedOperations (store : Store) : Except String (Store × List UnresolvedOperation) := do
  let store ← bootstrapActiveIndex store
  let indexed ← readActiveJournals store
  refuse (maxRecoveryJournals < (remainingOperations store indexed).length)
    "unresolved applied operation count exceeds the recovery scan limit"
  pure (store.retire (retirableMarkers store indexed), remainingOperations store indexed)

/-- What a scan leaves when it ends after this many unlinks: the process died, or a cleanup
raised. -/
def interruptedScan (count : Nat) (store : Store) : Except String Store := do
  let store ← bootstrapActiveIndex store
  let indexed ← readActiveJournals store
  pure (store.retire ((retirableMarkers store indexed).take count))

/-! ## Reservation -/

/-- `_require_active_marker_capacity`: room for one more marker must be left. -/
def requireActiveMarkerCapacity (store : Store) : Except String Unit := do
  refuse (maxActiveJournalMarkers + 1 < store.markers.keys.length + store.indexed.toNat)
    "active recovery journal index exceeds its bounded entry limit"
  refuse (maxActiveJournalMarkers ≤ store.markers.keys.length)
    "active recovery journal count exceeds the reservation limit"

/-! ## The gates of `main` -/

/-- `PurePosixPath(text)`: the anchor and the parts below it. -/
def purePath (text : String) : List Char × List String :=
  let slashes := text.toList.takeWhile (· == '/')
  (if slashes.length = 2 then slashes else slashes.take 1,
    ((Posix.splitOn '/' text.toList).map String.ofList).filter fun part =>
      part != "" && part != ".")

/-- The binding as `recovery_snapshot_path` compares it. -/
def SnapshotBinding.exactKey (binding : SnapshotBinding) :
    (List Char × List String) × String × String × String :=
  (purePath binding.path, binding.integritySha256, binding.operationId, binding.hostId)

/-- The binding as the rollback command compares it. -/
def SnapshotBinding.contentKey (binding : SnapshotBinding) : String × String × String :=
  (binding.integritySha256, binding.operationId, binding.hostId)

/-- `recovery_snapshot_path`: the snapshot that all unresolved operations name, if there is one. -/
def recoverySnapshotPath (operations : List UnresolvedOperation) :
    Except String (Option String) := do
  let bindings := operations.filterMap (·.binding)
  let missing := (operations.filter fun operation => operation.binding.isNone).map (·.operationId)
  refuse (missing ≠ [])
    ("interrupted host mutation has no durable rollback snapshot binding: " ++
      ", ".intercalate missing)
  refuse (operations ≠ [] ∧ (bindings.map SnapshotBinding.exactKey).dedup.length ≠ 1)
    "unresolved operations do not bind one unambiguous rollback snapshot"
  pure (bindings.head?.map (·.path))

/-! ## What a scan reads -/

/-- The operation that a journal's first event names. -/
def journalOperation (events : List JournalEvent) : Option String :=
  events.head?.map (·.operationId)

/-- The operation is sealed complete: a completion that is not incomplete, with its final report
and no persistence failure. -/
def sealedComplete (store : Store) (name : String) (events : List JournalEvent) : Bool :=
  (journalOperation events).any fun operationId =>
    hasFinalReport store name operationId (lastCompletion events) (persistenceFailed events)

variable {store : Store} {name operationId : String} {events : List JournalEvent}
  {parsed : ParsedJournal} {indexed : List (String × ParsedJournal)}

/-- The scan's test for a final report agrees with the test on the events of the journal. -/
theorem AcceptedJournal.complete (h : AcceptedJournal name events parsed) :
    completionHasFinalReport store name parsed = sealedComplete store name events := by
  simp [completionHasFinalReport, sealedComplete, journalOperation, h.id, h.completion,
    h.persistence]

/-- A journal has no unresolved operation exactly when it cannot have changed the host. -/
theorem AcceptedJournal.operation_none_iff (h : AcceptedJournal name events parsed) :
    parsed.operation = none ↔ hostMutationPossible events = false := by
  rw [h.operation]
  cases hostMutationPossible events <;> simp

/-- What a scan reads of a marker: the journal of that name, parsed, of the operation it names. -/
structure ReadJournal (store : Store) (name : String) (events : List JournalEvent)
    (parsed : ParsedJournal) : Prop where
  journal : store.journals.lookup name = some events
  parse : parseJournal name events = .ok parsed
  marker : store.markers.lookup name = some parsed.operationId

theorem ReadJournal.accepted (h : ReadJournal store name events parsed) :
    AcceptedJournal name events parsed :=
  parse_journal_ok h.parse

theorem read_active_journal_ok {entry : String × ParsedJournal}
    (h : readActiveJournal store name = .ok entry) :
    entry.1 = name ∧ ∃ events, ReadJournal store name events entry.2 := by
  obtain ⟨parsed, hread, h⟩ := Result.bind_eq_ok.mp h
  obtain ⟨hmarker, h⟩ := Result.check_bind_eq_ok.mp h
  obtain rfl := Result.pure_eq_ok.mp h
  rw [Result.refuse_eq_ok, not_not] at hmarker
  unfold readJournal at hread
  split at hread
  · next events hjournal => exact ⟨rfl, events, hjournal, hread, hmarker⟩
  · cases hread

/-- A scan of all markers is a scan of each of them, in the order of their names. -/
theorem read_active_journals_ok (h : readActiveJournals store = .ok indexed) :
    (sortedNames store.markers).mapM (readActiveJournal store) = .ok indexed :=
  (Result.check_bind_eq_ok.mp h).2

/-- Every journal that a scan read has a marker. -/
theorem read_active_journals_mem (h : readActiveJournals store = .ok indexed)
    (hmem : (name, parsed) ∈ indexed) : ∃ events, ReadJournal store name events parsed := by
  obtain ⟨listed, -, hread⟩ :=
    Result.forall₂_exists_left (Result.mapM_eq_ok.mp (read_active_journals_ok h)) hmem
  obtain ⟨rfl, hread⟩ := read_active_journal_ok hread
  exact hread

/-- A scan of all markers reads the journal of every one of them. -/
theorem read_active_journals_marked (h : readActiveJournals store = .ok indexed)
    (hmarker : store.markers.lookup name ≠ none) : ∃ parsed, (name, parsed) ∈ indexed := by
  obtain ⟨⟨listed, parsed⟩, hmem, hread⟩ :=
    Result.forall₂_exists_right (Result.mapM_eq_ok.mp (read_active_journals_ok h))
      (Directory.mem_sorted_names.mpr hmarker)
  obtain ⟨rfl, -⟩ := read_active_journal_ok hread
  exact ⟨parsed, hmem⟩

/-- What a scan reads of a marker is determined by the store. -/
theorem ReadJournal.unique {events' : List JournalEvent} {parsed' : ParsedJournal}
    (h : ReadJournal store name events parsed) (h' : ReadJournal store name events' parsed') :
    events' = events ∧ parsed' = parsed := by
  have hevents : events' = events := Option.some.inj (h'.journal.symm.trans h.journal)
  subst hevents
  exact ⟨rfl, Except.ok.inj (h'.parse.symm.trans h.parse)⟩

/-- The completed operations are those of the journals that a final report confirms. -/
theorem mem_completed_operations :
    operationId ∈ completedOperations store indexed ↔
      ∃ name parsed, (name, parsed) ∈ indexed ∧
        completionHasFinalReport store name parsed = true ∧ parsed.operationId = operationId := by
  simp [completedOperations, and_assoc]

theorem mem_retirable_markers :
    name ∈ retirableMarkers store indexed ↔
      ∃ parsed, (name, parsed) ∈ indexed ∧
        isTerminal (completedOperations store indexed) parsed = true := by
  simp [retirableMarkers]

/-- The operations that a scan returns are those of journals that are neither terminal nor
resolved. -/
theorem mem_remaining_operations {operation : UnresolvedOperation} :
    operation ∈ remainingOperations store indexed ↔
      ∃ name parsed, (name, parsed) ∈ indexed ∧
        isTerminal (completedOperations store indexed) parsed = false ∧
        journalHasTerminalResolution parsed = false ∧ parsed.operation = some operation := by
  simp [remainingOperations, and_assoc]

end NvidiaConverge
