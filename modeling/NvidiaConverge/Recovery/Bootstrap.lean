import NvidiaConverge.Library.Json
import NvidiaConverge.Library.Program
import NvidiaConverge.Recovery.Index

/-!
# The one-time bootstrap of the active index

`bootstrapActiveIndex` of the report directory as the operations that the source issues on its
files, so that a run may be cut off between any two of them, and between any two bytes of a file.
A file of the active directory is durable once its contents and its name are flushed; a power
failure may lose what is not. `Interrupted` collects the directories that interrupted bootstraps
of a legacy directory leave behind.
-/

namespace NvidiaConverge

open Directory (sortedNames)
open Program (perform raiseIf)
open Result (refuse)

/-! ## The files -/

/-- A journal's file: its whole lines, their bytes, and the bytes behind the last newline. -/
structure JournalFile where
  events : List JournalEvent
  size : Nat
  torn : Nat := 0
  deriving DecidableEq

/-- A file of the active directory: whether its contents and its name are flushed. -/
structure ActiveFile where
  text : List Char := []
  written : Bool := false
  linked : Bool := false
  deriving DecidableEq

/-- The report directory on disk. `released` are reserves whose removal is not yet durable,
`bound` the operations whose snapshot and bundle are in place, `others` counts the entries that
are no journal, report or reserve. -/
structure ReportDisk where
  journals : Directory JournalFile := ∅
  reports : Directory AppliedReport := ∅
  reserves : List String := []
  released : List String := []
  others : Nat := 0
  bound : List String := []
  active : Directory ActiveFile := ∅

/-- `MAX_JOURNAL_BYTES`: the most that one journal may hold. -/
def maxJournalBytes : Nat := 8 * 1024 * 1024

/-- `MAX_LEGACY_DIRECTORY_ENTRIES`: the most entries that the bootstrap reads. -/
def maxLegacyDirectoryEntries : Nat := 16384

/-- `MAX_LEGACY_JOURNAL_TOTAL_BYTES`: the most that all journals may hold together. -/
def maxLegacyJournalTotalBytes : Nat := 64 * 1024 * 1024

/-- `ACTIVE_JOURNAL_INDEX_NAME`: the name of the sentinel that ends the bootstrap. -/
def activeJournalIndexName : String :=
  "index-v1.json"

/-- `ACTIVE_JOURNAL_INDEX_SCHEMA`: the schema version of the sentinel and of every marker. -/
def activeJournalIndexSchema : String :=
  "1.0"

/-- `_JOURNAL_NAME`: the name is a report's name with the suffix of a journal. -/
def isJournalFileName (name : String) : Bool :=
  journalSuffix.toList.isSuffixOf name.toList && isReportName (reportName name)

/-- The text of the sentinel, as `_create_active_index` writes it. -/
@[irreducible] def activeIndexText : List Char :=
  (Json.dumps none (.object [("schema_version", .string activeJournalIndexSchema)]) ++ "\n").toList

/-- The fields of the marker that says that a journal belongs to an active operation. -/
def activeMarkerValue (name operationId : String) : Json.Value :=
  .object [("journal", .string name), ("operation_id", .string operationId),
    ("schema_version", .string activeJournalIndexSchema)]

/-- `_active_marker_payload`: the whole text of the marker, with its final newline. -/
@[irreducible] def activeMarkerPayload (name operationId : String) : List Char :=
  (Json.dumps none (activeMarkerValue name operationId) ++ "\n").toList

/-- The operation that a marker's fields name. -/
def markerOperation (name : String) : Json.Value → Except String String
  | .object fields =>
      match fields.lookup "journal", fields.lookup "operation_id",
        fields.lookup "schema_version" with
      | some (.string journal), some (.string operationId), some (.string schema) => do
          refuse (isJournalOperation operationId = false ∨ fields.length ≠ 3 ∨ journal ≠ name ∨
              schema ≠ activeJournalIndexSchema)
            ("active recovery journal marker has invalid fields: " ++ name)
          pure operationId
      | _, _, _ => throw ("active recovery journal marker has invalid fields: " ++ name)
  | _ => throw ("active recovery journal marker has invalid fields: " ++ name)

/-- `_parse_active_marker`: the operation that a marker's text names, or the reason why it is
invalid. -/
def parseActiveMarker (name : String) (payload : List Char) : Except String String :=
  match Json.loads (String.ofList payload) with
  | some value => markerOperation name value
  | none => throw ("active recovery journal marker is invalid: " ++ name)

/-- The size of a journal's file, with the torn tail behind its last whole line. -/
def JournalFile.length (file : JournalFile) : Nat :=
  file.size + file.torn

/-- The directory as the scan of the index sees it; a marker that cannot be read stops the scan. -/
def ReportDisk.store (disk : ReportDisk) : Store where
  journals := disk.journals.mapValues (·.events)
  reports := disk.reports

/-- Whether a report is the final one of the journal's completion. -/
def AppliedReport.final (report : AppliedReport) (name operationId : String)
    (completion : Completion) : Bool :=
  report.operationId == operationId && report.mode == "apply" &&
    report.reportPath == reportDir ++ "/" ++ name && !report.incomplete &&
    report.exitCode == completion.exitCode && report.outcome == completion.outcome

/-! ## The operations -/

/-- A call of the bootstrap on the files of the directory. -/
inductive DiskOp where
  /-- Read a file of the active directory. -/
  | readActive (name : String)
  /-- `O_CREAT | O_EXCL` in the active directory. -/
  | createActive (name : String)
  /-- Write one more byte of a new file. -/
  | appendActive (name : String) (byte : Char)
  /-- `os.fsync` of a new file. -/
  | syncActiveFile (name : String)
  /-- `os.fsync` of the active directory. -/
  | syncActiveDirectory
  /-- `os.scandir` of the report directory: its journals, its reserves and all its entries. -/
  | scanReports
  /-- `_read_private_journal`. -/
  | readJournal (name : String)
  /-- `_truncate_torn_journal`. -/
  | truncateJournal (name : String)
  /-- Read a final report. -/
  | readReport (name : String)
  /-- `cleanup_staged_snapshot_artifacts`: whether the authority to preserve was in place. -/
  | cleanArtifacts (operationId : String) (preserveBound : Bool)
  /-- `_unlink_private_legacy_reserve`. -/
  | unlinkReserve (name : String)
  /-- `os.fsync` of the report directory. -/
  | syncReportDirectory

/-- The type of what each operation on the report directory returns. -/
def DiskOp.Reply : DiskOp → Type
  | .readActive _ => Option (List Char)
  | .createActive _ | .cleanArtifacts _ _ | .unlinkReserve _ => Bool
  | .scanReports => List String × List String × Nat
  | .readJournal _ => Option JournalFile
  | .readReport _ => Option AppliedReport
  | .appendActive _ _ | .syncActiveFile _ | .syncActiveDirectory | .truncateJournal _
  | .syncReportDirectory => Unit

/-- The directory after one file of the active directory is changed. An absent one stays absent. -/
def ReportDisk.updateActive (disk : ReportDisk) (name : String) (f : ActiveFile → ActiveFile) :
    ReportDisk :=
  match disk.active.lookup name with
  | some file => { disk with active := disk.active.insert name (f file) }
  | none => disk

/-- The directory without a journal's torn tail. -/
def ReportDisk.truncate (disk : ReportDisk) (name : String) : ReportDisk :=
  match disk.journals.lookup name with
  | some file => { disk with journals := disk.journals.insert name { file with torn := 0 } }
  | none => disk

/-- `cleanup_snapshot_payload_artifacts`, as far as a later one can tell. -/
def cleanArtifacts (bound : List String) (operationId : String) (preserveBound : Bool) :
    Option (List String) :=
  if preserveBound then if bound.contains operationId then some bound else none
  else some (bound.filter (· != operationId))

/-- How many entries the report directory has, as the bound of the bootstrap counts them. -/
def ReportDisk.entries (disk : ReportDisk) : Nat :=
  (sortedNames disk.journals).length + (sortedNames disk.reports).length + disk.reserves.length +
    disk.others

/-- What each operation returns on a directory, and the directory that it leaves. -/
def serveDisk (disk : ReportDisk) : (op : DiskOp) → op.Reply × ReportDisk
  | .readActive name => ((disk.active.lookup name).map (·.text), disk)
  | .createActive name =>
      if disk.active.lookup name = none then
        (true, { disk with active := disk.active.insert name {} })
      else (false, disk)
  | .appendActive name byte =>
      ((), disk.updateActive name fun file => { file with text := file.text ++ [byte] })
  | .syncActiveFile name => ((), disk.updateActive name fun file => { file with written := true })
  | .syncActiveDirectory =>
      ((), { disk with active := disk.active.mapValues fun file => { file with linked := true } })
  | .scanReports => ((sortedNames disk.journals, disk.reserves, disk.entries), disk)
  | .readJournal name => (disk.journals.lookup name, disk)
  | .truncateJournal name => ((), disk.truncate name)
  | .readReport name => (disk.reports.lookup name, disk)
  | .cleanArtifacts operationId preserveBound =>
      match cleanArtifacts disk.bound operationId preserveBound with
      | some bound => (true, { disk with bound })
      | none => (false, disk)
  | .unlinkReserve name =>
      if disk.reserves.contains name then
        (true,
          { disk with reserves := disk.reserves.erase name, released := name :: disk.released })
      else (false, disk)
  | .syncReportDirectory => ((), { disk with released := [] })

/-! ## The program -/

/-- A program that works on the report directory and may raise a message. -/
abbrev DiskProgram := Program DiskOp DiskOp.Reply String

namespace Disk

/-- Read a file of the active directory, if it is there. -/
def readActive (name : String) : DiskProgram (Option (List Char)) :=
  perform (DiskOp.readActive name)

/-- Whether a file was created in the active directory. -/
def createActive (name : String) : DiskProgram Bool :=
  perform (DiskOp.createActive name)

/-- Write one more byte to a file of the active directory. -/
def appendActive (name : String) (byte : Char) : DiskProgram Unit :=
  perform (DiskOp.appendActive name byte)

/-- Flush the contents of one file of the active directory. -/
def syncActiveFile (name : String) : DiskProgram Unit :=
  perform (DiskOp.syncActiveFile name)

/-- Flush the entries of the active directory itself. -/
def syncActiveDirectory : DiskProgram Unit :=
  perform DiskOp.syncActiveDirectory

/-- The journals, the reserves and the number of entries. -/
def scanReports : DiskProgram (List String × List String × Nat) :=
  perform DiskOp.scanReports

/-- Read a journal with its size and its torn tail. -/
def readJournal (name : String) : DiskProgram (Option JournalFile) :=
  perform (DiskOp.readJournal name)

/-- Discard the torn tail of a journal. -/
def truncateJournal (name : String) : DiskProgram Unit :=
  perform (DiskOp.truncateJournal name)

/-- Read the report that stands beside a journal. -/
def readReport (name : String) : DiskProgram (Option AppliedReport) :=
  perform (DiskOp.readReport name)

/-- Remove the artifacts of an operation, and tell whether that succeeded. -/
def cleanArtifacts (operationId : String) (preserveBound : Bool) : DiskProgram Bool :=
  perform (DiskOp.cleanArtifacts operationId preserveBound)

/-- Remove a reserve file, and tell whether it was there. -/
def unlinkReserve (name : String) : DiskProgram Bool :=
  perform (DiskOp.unlinkReserve name)

/-- Flush the entries of the report directory itself. -/
def syncReportDirectory : DiskProgram Unit :=
  perform DiskOp.syncReportDirectory

end Disk

/-- `_active_index_present`: whether the sentinel is there. One with another text is an error. -/
def activeIndexPresent : DiskProgram Bool := do
  match ← Disk.readActive activeJournalIndexName with
  | none => pure false
  | some payload => do
      raiseIf (payload ≠ activeIndexText) "active recovery journal index has invalid contents"
      pure true

/-- `_write_all` of a new file, one byte at a time, so that a run may stop inside it. -/
def appendAll (name : String) : List Char → DiskProgram Unit
  | [] => pure ()
  | byte :: rest => do
      Disk.appendActive name byte
      appendAll name rest

/-- Write the whole text of a new file of the active directory and flush it. -/
def writeActiveFile (name : String) (payload : List Char) : DiskProgram Unit := do
  appendAll name payload
  Disk.syncActiveFile name

/-- `_ensure_active_marker`: create and write the marker, or accept the one that has exactly this
text. -/
def ensureMarkerFile (name operationId : String) : DiskProgram Unit := do
  if ← Disk.createActive name then
    writeActiveFile name (activeMarkerPayload name operationId)
  else do
    let existing ← Disk.readActive name
    raiseIf (existing ≠ some (activeMarkerPayload name operationId))
      ("active recovery journal marker conflicts with journal: " ++ name)

/-- `_create_active_index`: write the sentinel, which a rerun takes as the end of the bootstrap. -/
def createActiveIndex : DiskProgram Unit := do
  if ← activeIndexPresent then pure ()
  else if ← Disk.createActive activeJournalIndexName then
    writeActiveFile activeJournalIndexName activeIndexText
  else do
    let present ← activeIndexPresent
    raiseIf (present = false) "active recovery journal index is invalid"

/-- The first loop of `_bootstrap_active_index`: read, parse and repair every journal. -/
def readLegacyJournals : Nat → List String → DiskProgram (List (String × ParsedJournal))
  | _, [] => pure []
  | total, name :: rest => do
      match ← Disk.readJournal name with
      | none => .raise ("cannot open applied report journal " ++ name)
      | some file => do
          raiseIf (maxJournalBytes < file.length)
            ("applied report journal exceeds 8388608 bytes: " ++ name)
          raiseIf (maxLegacyJournalTotalBytes < total + file.length)
            ("legacy applied journal history exceeds the bounded index bootstrap byte limit; " ++
              "archive preserved terminal journals offline before retrying")
          let parsed ← Program.ofExcept (parseJournal name file.events)
          if file.torn ≠ 0 then Disk.truncateJournal name
          let others ← readLegacyJournals (total + file.length) rest
          pure ((name, parsed) :: others)

/-- `_completion_has_final_report` of one journal. -/
def readFinalReport (entry : String × ParsedJournal) : DiskProgram Bool := do
  match entry.2.completion with
  | none => pure false
  | some completion =>
      if completion.incomplete = true ∨ entry.2.persistenceFailed = true then pure false
      else do
        match ← Disk.readReport (reportName entry.1) with
        | none => pure false
        | some report => pure (report.final (reportName entry.1) entry.2.operationId completion)

/-- The set `completed`: the operations of the journals that a final report confirms. -/
def readCompleted : List (String × ParsedJournal) → DiskProgram (List String)
  | [] => pure []
  | entry :: rest => do
      let complete ← readFinalReport entry
      let others ← readCompleted rest
      pure (if complete then entry.2.operationId :: others else others)

/-- The second loop: a marker for every journal that is not terminal. -/
def markActiveJournals (completed : List String) :
    Nat → List (String × ParsedJournal) → DiskProgram Unit
  | _, [] => pure ()
  | count, (name, parsed) :: rest =>
      if isTerminal completed parsed then do
        if parsed.operation = none ∧ parsed.privateSnapshotArtifactsPossible = true then do
          let clean ← Disk.cleanArtifacts parsed.operationId parsed.snapshotBindingPresent
          raiseIf (clean = false)
            ("cannot clean safe pre-mutation rollback artifacts for operation " ++
              parsed.operationId)
        markActiveJournals completed count rest
      else do
        raiseIf (maxRecoveryJournals < count + 1)
          "active applied operation count exceeds the recovery index limit"
        ensureMarkerFile name parsed.operationId
        markActiveJournals completed (count + 1) rest

/-- The loop over the reserves: whether one was released. -/
def releaseReserves : List String → DiskProgram Bool
  | [] => pure false
  | name :: rest => do
      let released ← Disk.unlinkReserve name
      let others ← releaseReserves rest
      pure (released || others)

/-- `_bootstrap_active_index`: mark every active journal of a legacy directory, and write the
sentinel last. -/
def bootstrapDisk : DiskProgram Unit := do
  if ← activeIndexPresent then pure ()
  else do
    let (names, reserves, entries) ← Disk.scanReports
    raiseIf (maxLegacyDirectoryEntries < entries)
      ("legacy applied report directory exceeds the bounded index bootstrap entry limit; " ++
        "archive preserved terminal report history offline before retrying")
    raiseIf (names.all isJournalFileName = false)
      "applied report directory contains an unsafe journal name"
    raiseIf (maxLegacyJournals < names.length)
      ("legacy applied journal history exceeds the bounded index bootstrap journal limit; " ++
        "archive preserved terminal journals offline before retrying")
    let journals ← readLegacyJournals 0 names
    let completed ← readCompleted journals
    markActiveJournals completed 0 journals
    let released ← releaseReserves (reserves.insertionSort (· ≤ ·))
    if released then Disk.syncReportDirectory
    Disk.syncActiveDirectory
    -- The index comes last: a bootstrap without it is repeated as a whole.
    createActiveIndex
    Disk.syncActiveDirectory

/-! ## Interrupted runs -/

/-- What a power failure leaves of a file: nothing if its name was not flushed, and a part of its
text if its contents were not. -/
def ActiveFile.Survives (file : ActiveFile) : Option ActiveFile → Prop
  | none => file.linked = false
  | some left =>
      left.written = true ∧ left.linked = true ∧ left.text <+: file.text ∧
        (file.written = true → left.text = file.text)

/-- A power failure: what was not flushed may be lost, and released reserves may be back. -/
structure PowerLoss (before after : ReportDisk) : Prop where
  journals : after.journals = before.journals
  reports : after.reports = before.reports
  others : after.others = before.others
  bound : after.bound = before.bound
  released : after.released = []
  reserves : ∃ back : List String, back.Sublist before.released ∧
    after.reserves = before.reserves ++ back
  absent : ∀ name, before.active.lookup name = none → after.active.lookup name = none
  active : ∀ name file, before.active.lookup name = some file →
    file.Survives (after.active.lookup name)

/-- The directories that interrupted bootstraps of `start` leave: each run was killed, or the
power failed. -/
inductive Interrupted (start : ReportDisk) : ReportDisk → Prop where
  | legacy : Interrupted start start
  | killed {disk left : ReportDisk} (hbefore : Interrupted start disk)
      (hrun : Program.Runs (Program.served serveDisk) bootstrapDisk disk .interrupted left) :
      Interrupted start left
  | powerLoss {disk left after : ReportDisk} (hbefore : Interrupted start disk)
      (hrun : Program.Runs (Program.served serveDisk) bootstrapDisk disk .interrupted left)
      (hloss : PowerLoss left after) : Interrupted start after

/-! ## Reading through the index -/

/-- Read one marker and return the operation that it names. -/
def readActiveMarker (disk : ReportDisk) (name : String) : Except String String := do
  refuse (isJournalFileName name = false)
    ("active recovery journal directory contains an unsafe marker name: " ++ name)
  parseActiveMarker name ((disk.active.lookup name).elim [] fun file => file.text)

/-- `_read_active_markers`: the operation of every marker of the active directory. -/
def readActiveMarkers (disk : ReportDisk) : Except String (Directory String) :=
  ((sortedNames disk.active).filter (· != activeJournalIndexName)).foldlM (fun markers name => do
    let operationId ← readActiveMarker disk name
    pure (AList.insert name operationId markers)) ∅

/-- `unresolved_operations` of a directory that has its index. -/
def indexedOperations (disk : ReportDisk) : Except String (List UnresolvedOperation) := do
  let markers ← readActiveMarkers disk
  let (_, operations) ← unresolvedOperations { disk.store with indexed := true, markers }
  pure operations

/-- Every journal of the directory, parsed, in the order of the names. -/
def parsedJournals (disk : ReportDisk) : Except String (List (String × ParsedJournal)) :=
  (sortedNames disk.journals).mapM fun name => do pure (name, ← readJournal disk.store name)

/-- The operations that remain when every journal of the directory is classified. -/
def classifiedOperations (disk : ReportDisk) : Except String (List UnresolvedOperation) := do
  pure (remainingOperations disk.store (← parsedJournals disk))

end NvidiaConverge
