import NvidiaConverge.Library.Triple
import NvidiaConverge.Recovery.JournalText
import NvidiaConverge.Recovery.Restart

/-!
# The reservation of an applied report

`reserveAppliedReport` as the calls that it makes on its four files and their two directories: the
provisional report, the journal with its first line, the marker that names the journal, and the
emergency reserve. Every call may fail, and a run may be cut off between any two of them. `Crash`
says what a killed process or a power failure leaves, and `cleanupStaleReserves` and
`nextOperations` are what the next applied command runs first.
-/

namespace NvidiaConverge.Reserve

open Directory (sortedNames)
open Program (ofExcept onError raiseIf)
open Result (refuse)

/-! ## The files -/

/-- The files that a reservation creates: the report, its journal, its marker and its reserve. -/
inductive ReservedFile where
  | report
  | journal
  | marker
  | reserve
  deriving DecidableEq

/-- What `reserve_applied_report` is called with: the path of the report in its two parts, the
report, and the other directories of the state. -/
structure ReservationRequest where
  directory : String
  name : String
  operationId : String
  startedAt : String
  reportText : List Char
  capacityPaths : List String

namespace ReservationRequest

variable (request : ReservationRequest)

/-- What `main` makes the request with: `uuid4().hex` and `utc_now()`. -/
def WellFormed : Prop :=
  isJournalOperation request.operationId = true ∧ request.startedAt ≠ ""

/-- `report_journal_path`; the marker has the same name. -/
def journal : String :=
  journalName request.name

/-- The event with which the journal of a new operation begins. -/
def started : JournalEvent where
  operationId := request.operationId
  timestamp := request.startedAt
  details := .operationStarted

/-- What is written to a file; the reserve is allocated. -/
def text : ReservedFile → List Char
  | .report => request.reportText
  | .journal => request.started.line
  | .marker => activeMarkerPayload request.journal request.operationId
  | .reserve => []

end ReservationRequest

/-- `_EMERGENCY_RESERVE_SUFFIX`: the suffix of a reserve's name. -/
def emergencyReserveSuffix : String :=
  ".emergency-reserve"

/-- `report_emergency_reserve_path`: the name of the reserve that belongs to a report. -/
def emergencyReserveName (report : String) : String :=
  "." ++ report ++ emergencyReserveSuffix

/-- `APPLIED_REPORT_EMERGENCY_RESERVE_BYTES`: the size of a reserve. -/
def emergencyReserveBytes : Nat := 4 * 1024 * 1024

/-- `MIN_APPLIED_STATE_FREE_BYTES`: the space that must be free before an operation starts. -/
def minStateFreeBytes : Int := 64 * 1024 * 1024

/-- `MIN_APPLIED_STATE_FREE_INODES`: the inodes that must be free before an operation starts. -/
def minStateFreeInodes : Int := 32

/-! ## The calls -/

/-- What `fstat` and `fstatvfs` say about a directory of the state. -/
structure StateCapacity where
  device : Nat
  frsize : Int
  bsize : Int
  bavail : Int
  favail : Int
  deriving DecidableEq

/-- What `posix_fallocate` came to, unless it raised an error that is not expected of it. -/
inductive Allocation where
  | missing
  | unsupported
  | allocated
  deriving DecidableEq

/-- A call of the reservation on the file system. -/
inductive ReserveOp where
  /-- `_open_report_directory`. -/
  | openReports
  /-- `_open_active_journal_directory`. -/
  | openActive
  /-- `os.open` with `O_CREAT | O_EXCL`. -/
  | create (file : ReservedFile)
  /-- `os.fchmod` and `os.fstat` of a new file: behind them the file is known to be created. -/
  | inspect (file : ReservedFile)
  /-- `_validate_private_report_file`. -/
  | validate (file : ReservedFile)
  /-- `os.write`: the number of bytes written. -/
  | write (file : ReservedFile) (payload : List Char)
  /-- `os.posix_fallocate` of the reserve. -/
  | allocate (size : Nat)
  /-- `os.ftruncate` of the reserve. -/
  | truncateReserve
  /-- `os.lseek` to the start of the reserve. -/
  | rewindReserve
  /-- `_write_all` of random bytes to the reserve. -/
  | writeRandom (count : Nat)
  /-- `os.fsync` of a file. -/
  | sync (file : ReservedFile)
  /-- `_validate_open_private_file_binding`. -/
  | bind (file : ReservedFile)
  /-- The `os.fstat` whose result is returned. -/
  | stat (file : ReservedFile)
  /-- `os.close` of a file. -/
  | close (file : ReservedFile)
  /-- `_unlink_created_private_file`. -/
  | unlink (file : ReservedFile)
  /-- `os.fsync` of the report directory. -/
  | syncReports
  /-- `os.fsync` of the active directory. -/
  | syncActive
  /-- `_verify_report_directory_binding`. -/
  | verifyReports
  /-- `_verify_active_journal_directory_binding`. -/
  | verifyActive
  /-- `os.scandir` of the active directory. -/
  | scanActive
  /-- `open_private_directory` of a directory of the state. -/
  | openState (path : String)
  /-- `os.fstat` and `os.fstatvfs` of it. -/
  | measureState (path : String)
  /-- `os.close` of it. -/
  | closeState (path : String)
  /-- `os.close` of the active directory. -/
  | closeActive
  /-- `os.close` of the report directory. -/
  | closeReports

/-- What a call returns when it does not fail. -/
@[reducible] def ReserveOp.Value : ReserveOp → Type
  | .write .. => Nat
  | .allocate _ => Allocation
  | .scanActive => List String
  | .measureState _ => StateCapacity
  | _ => Unit

/-- What a call replies: an error, or its value. -/
abbrev ReserveOp.Reply (op : ReserveOp) : Type :=
  Except String op.Value

/-- A part of the reservation; its errors are those of `OSError` and `ValueError`. -/
abbrev ReserveProgram := Program ReserveOp ReserveOp.Reply String

/-- Make one call of the reservation. -/
abbrev call (op : ReserveOp) : ReserveProgram op.Value :=
  Program.call op

/-- A part whose errors are ignored, as under `except OSError: pass`. -/
def ignoring (program : ReserveProgram Unit) : ReserveProgram Unit :=
  program.handle fun _ => pure ()

/-! ## New files -/

/-- The `try` block of a new file: its status, its contents, its flush and the checks of its
name. -/
def fillFile (file : ReservedFile) (fill : ReserveProgram Unit) : ReserveProgram Unit := do
  call (.validate file)
  fill
  call (.sync file)
  call (.bind file)
  call (.stat file)

/-- What `_create_private_file` and `_create_emergency_reserve` share: `fill` writes the file. -/
def createFile (file : ReservedFile) (fill : ReserveProgram Unit) : ReserveProgram Unit := do
  call (.create file)
  -- `created` is still `None`: nothing unlinks the file.
  onError (call (.inspect file)) (call (.close file))
  onError (fillFile file fill) do
    ignoring (call (.unlink file))
    call (.close file)
  call (.close file)

/-- `_write_all`: write until nothing is left. A call may write a part. -/
def writeAll (file : ReservedFile) (payload : List Char) : ReserveProgram Unit :=
  if _hmore : payload = [] then pure ()
  else do
    let written : Nat ← call (.write file payload)
    if _hwritten : written = 0 then .raise "short write while persisting applied report evidence"
    else writeAll file (payload.drop written)
  termination_by payload.length
  decreasing_by
    have hlength := List.length_pos_iff.mpr _hmore
    rw [List.length_drop]
    omega

/-- `_create_private_file`: create a file exclusively and write its text. -/
def createPrivateFile (file : ReservedFile) (text : List Char) : ReserveProgram Unit :=
  createFile file (writeAll file text)

/-- The loop of `_allocate_emergency_bytes`, in chunks of 64 KiB. -/
def fillReserve (remaining : Nat) : ReserveProgram Unit :=
  if remaining = 0 then pure ()
  else do
    call (.writeRandom (min (64 * 1024) remaining))
    fillReserve (remaining - min (64 * 1024) remaining)
  termination_by remaining

/-- `_allocate_emergency_bytes`: allocate the size, or write it where allocation is not
supported. -/
def allocateEmergencyBytes (size : Nat) : ReserveProgram Unit := do
  raiseIf (size = 0) "emergency reserve size must be positive"
  let allocation : Allocation ← call (.allocate size)
  match allocation with
  | .allocated => pure ()
  | .unsupported => do
      call .truncateReserve
      call .rewindReserve
      fillReserve size
  | .missing => do
      call .rewindReserve
      fillReserve size

/-- `_create_emergency_reserve`: create the reserve and allocate its size. -/
def createEmergencyReserve : ReserveProgram Unit :=
  createFile .reserve (allocateEmergencyBytes emergencyReserveBytes)

/-! ## Limits -/

/-- The loop of `_require_active_marker_capacity`: the number of markers. -/
def countMarkers : Nat → Nat → List String → Except String Nat
  | _, markers, [] => pure markers
  | entries, markers, name :: rest => do
      refuse (maxActiveJournalMarkers + 1 < entries + 1)
        "active recovery journal index exceeds its bounded entry limit"
      if name = activeJournalIndexName then countMarkers (entries + 1) markers rest
      else do
        refuse (isJournalFileName name = false)
          ("active recovery journal index contains an unsafe entry: " ++ name)
        countMarkers (entries + 1) (markers + 1) rest

/-- `_require_active_marker_capacity`: room for one more marker must be left. -/
def requireMarkerCapacity : ReserveProgram Unit := do
  let markers ← Program.handle (do
    let names : List String ← call .scanActive
    ofExcept (countMarkers 0 0 names) : ReserveProgram Nat) fun error =>
      (.raise ("cannot inspect active recovery journal capacity: " ++ error) : ReserveProgram Nat)
  raiseIf (maxActiveJournalMarkers ≤ markers)
    "active recovery journal count exceeds the reservation limit"

/-- One directory of `require_applied_state_capacity`: the devices that were checked. -/
def checkStateCapacity (checked : List Nat) (path : String) (capacity : StateCapacity) :
    Except String (List Nat) :=
  if checked.contains capacity.device then pure checked
  else do
    let fragment := if capacity.frsize = 0 then capacity.bsize else capacity.frsize
    refuse (fragment ≤ 0 ∨ capacity.bavail < 0 ∨ capacity.favail < 0)
      ("applied state filesystem returned invalid capacity for " ++ path)
    refuse (capacity.bavail * fragment < minStateFreeBytes)
      ("applied state filesystem has insufficient free space for host mutation: " ++
        toString (capacity.bavail * fragment) ++ " bytes available at " ++ path ++ "; " ++
        toString minStateFreeBytes ++ " required after emergency reservation")
    refuse (capacity.favail < minStateFreeInodes)
      ("applied state filesystem has insufficient free inodes for host mutation: " ++
        toString capacity.favail ++ " available at " ++ path ++ "; " ++
        toString minStateFreeInodes ++ " required after emergency reservation")
    pure (capacity.device :: checked)

/-- `require_applied_state_capacity`: every state directory must have space and inodes left. -/
def requireStateCapacity : List Nat → List String → ReserveProgram Unit
  | _, [] => pure ()
  | checked, path :: rest => do
      (call (.openState path)).handle fun error =>
        (.raise ("cannot inspect applied state storage capacity for " ++ path ++ ": " ++ error) :
          ReserveProgram Unit)
      let checked ← onError (do
        let capacity : StateCapacity ← call (.measureState path)
        ofExcept (checkStateCapacity checked path capacity)) (call (.closeState path))
      call (.closeState path)
      requireStateCapacity checked rest

/-! ## The reservation -/

/-- `_validate_applied_report_path`: the report lies directly in `REPORT_DIR` under a safe name. -/
def validateAppliedReportPath (directory name : String) : Except String Unit := do
  refuse (directory ≠ reportDir) ("applied reports must be stored directly in " ++ reportDir)
  refuse (isReportName name = false) "cannot derive an emergency reserve from an unsafe name"

/-- The local variables that the handler of `reserve_applied_report` reads. -/
structure ReserveProgress where
  opened : Bool := false
  created : List ReservedFile := []
  marked : Bool := false

/-- A step of the reservation; its error finds the local variables as they are. -/
def during {α : Type} (progress : ReserveProgress) (program : ReserveProgram α) :
    Program ReserveOp ReserveOp.Reply (ReserveProgress × String) α :=
  program.handle fun error => .raise (progress, error)

/-- The `try` block of `reserve_applied_report`. -/
def reserveFiles (request : ReservationRequest) :
    Program ReserveOp ReserveOp.Reply (ReserveProgress × String) Unit := do
  during {} (call .openActive)
  during { opened := true } (createPrivateFile .report (request.text .report))
  during { opened := true, created := [.report] }
    (createPrivateFile .journal (request.text .journal))
  during { opened := true, created := [.report, .journal] } do
    call .syncReports
    call .verifyReports
    requireMarkerCapacity
    createPrivateFile .marker (request.text .marker)
  during { opened := true, created := [.report, .journal], marked := true } do
    call .syncActive
    call .verifyActive
    createEmergencyReserve
  during { opened := true, created := [.report, .journal, .reserve], marked := true } do
    call .syncReports
    call .verifyReports
    requireStateCapacity [] (reportDir :: request.capacityPaths)
    call .verifyReports

/-- The loop over `created` in the handler: every file is unlinked, and errors are ignored. -/
def unlinkCreated : List ReservedFile → ReserveProgram Unit
  | [] => pure ()
  | file :: rest => do
      ignoring (call (.unlink file))
      unlinkCreated rest

/-- The `except` block of `reserve_applied_report`. -/
def undoReservation (progress : ReserveProgress) : ReserveProgram Unit := do
  if progress.marked then
    ignoring do
      call (.unlink .marker)
      call .syncActive
  unlinkCreated progress.created.reverse
  ignoring (call .syncReports)

/-- The `finally` block of `reserve_applied_report`. -/
def closeDirectories (opened : Bool) : ReserveProgram Unit := do
  if opened then call .closeActive
  call .closeReports

/-- `reserve_applied_report`: create the files of a new operation, or remove what was created of
them. -/
def reserveAppliedReport (request : ReservationRequest) : ReserveProgram Unit := do
  ofExcept (validateAppliedReportPath request.directory request.name)
  call .openReports
  (reserveFiles request).handle fun (progress, error) => (do
    undoReservation progress
    closeDirectories progress.opened
    .raise ("cannot reserve applied report '" ++ request.directory ++ "/" ++ request.name ++
      "': " ++ error) : ReserveProgram Unit)
  closeDirectories true

/-! ## What the calls do -/

/-- The directory that a reservation found, and what it created there. -/
structure Reservation where
  disk : ReportDisk
  files : ReservedFile → Option ActiveFile := fun _ => none
  /-- The bytes of the reserve. -/
  reserved : Nat := 0
  /-- Whether a file was unlinked again. -/
  removed : Bool := false

/-- Whether nothing in the directory has the name of this file. -/
def Fresh (disk : ReportDisk) (request : ReservationRequest) : ReservedFile → Prop
  | .report => disk.reports.lookup request.name = none
  | .journal => disk.journals.lookup request.journal = none
  | .marker => disk.active.lookup request.journal = none
  | .reserve => emergencyReserveName request.name ∉ disk.reserves

instance (disk : ReportDisk) (request : ReservationRequest) (file : ReservedFile) :
    Decidable (Fresh disk request file) := by
  cases file <;> unfold Fresh <;> infer_instance

namespace Reservation

/-- The reservation with another state of a file. -/
def put (state : Reservation) (file : ReservedFile) (content : Option ActiveFile) : Reservation :=
  { state with files := Function.update state.files file content }

/-- Change what a file of the reservation holds, if the file is there. -/
def update (state : Reservation) (file : ReservedFile) (f : ActiveFile → ActiveFile) :
    Reservation :=
  state.put file ((state.files file).map f)

/-- Write some bytes behind what a file holds. -/
def extend (state : Reservation) (file : ReservedFile) (bytes : List Char) : Reservation :=
  state.update file fun content => { content with text := content.text ++ bytes }

/-- Flush the names of the files in the report directory. -/
def syncReports (state : Reservation) : Reservation :=
  let linked := fun file : ActiveFile => { file with linked := true }
  ((state.update .report linked).update .journal linked).update .reserve linked

/-- The names in the active directory, with the new marker where it is there. -/
def activeNames (request : ReservationRequest) (state : Reservation) : List String :=
  match state.files .marker with
  | some _ => request.journal :: state.disk.active.keys
  | none => state.disk.active.keys

end Reservation

/-- When a call may succeed: a file is created only where there is none, a write may be short, and
a scan lists the entries in any order. -/
def MaySucceed (request : ReservationRequest) (state : Reservation) :
    (op : ReserveOp) → op.Value → Prop
  | .create file, _ => state.files file = none ∧ Fresh state.disk request file
  | .write _ payload, written => written ≤ payload.length
  | .scanActive, names => List.Perm names (state.activeNames request)
  | _, _ => True

/-- The files that a call leaves where it succeeds, by what it returns. -/
def Reservation.succeed (state : Reservation) : (op : ReserveOp) → op.Value → Reservation
  | .create file, _ => state.put file (some {})
  | .write file payload, written => state.extend file (payload.take written)
  | .allocate size, value =>
      if value = Allocation.allocated then { state with reserved := size } else state
  | .truncateReserve, _ => { state with reserved := 0 }
  | .writeRandom count, _ => { state with reserved := state.reserved + count }
  | .sync file, _ => state.update file fun content => { content with written := true }
  | .unlink file, _ => { state.put file none with removed := true }
  | .syncReports, _ => state.syncReports
  | .syncActive, _ => state.update .marker fun content => { content with linked := true }
  | _, _ => state

/-- What a failed call leaves: a write may end at any byte, an allocation at any size. -/
def Reservation.FailsTo (state : Reservation) : ReserveOp → Reservation → Prop
  | .write file payload, following => ∃ count, following = state.extend file (payload.take count)
  | .allocate _, following | .writeRandom _, following =>
      ∃ reserved, following = { state with reserved }
  | _, following => following = state

/-- The environment of the reservation: a call that fails leaves the files, and one that succeeds
does its work. -/
def Reserving (request : ReservationRequest) (state : Reservation) (op : ReserveOp)
    (reply : op.Reply) (following : Reservation) : Prop :=
  match reply with
  | .ok value => MaySucceed request state op value ∧ following = state.succeed op value
  | .error _ => state.FailsTo op following

/-- The file that stays behind when the call fails. -/
def ReserveOp.leaves : ReserveOp → Option ReservedFile
  | .inspect file | .close file | .unlink file => some file
  | .closeActive | .closeReports => some .report
  | _ => none

/-- The environment in which these calls fail only where there is no file to stay behind. -/
def Dependable (request : ReservationRequest) (state : Reservation) (op : ReserveOp)
    (reply : op.Reply) (following : Reservation) : Prop :=
  Reserving request state op reply following ∧
    ∀ file, op.leaves = some file → state.files file ≠ none → reply.isOk = true

/-! ## What a crash leaves -/

/-- What a crash leaves of a reservation: the process is killed; or the power fails before a file
was unlinked, and what was not flushed may be lost. -/
inductive Crash (state : Reservation) : Reservation → Prop where
  | killed : Crash state state
  | powerLoss {left : Reservation} (hremoved : state.removed = false)
      (hdisk : left.disk = state.disk)
      (habsent : ∀ file, state.files file = none → left.files file = none)
      (hfiles : ∀ file content, state.files file = some content →
        content.Survives (left.files file)) : Crash state left

/-- The journal's file, as far as its first line is written. -/
def startedJournal (started : JournalEvent) (text : List Char) : JournalFile :=
  if text = started.line then { events := [started], size := text.length }
  else { events := [], size := 0, torn := text.length }

/-- The report directory with the files of the reservation. -/
def Reservation.directory (request : ReservationRequest) (state : Reservation) : ReportDisk :=
  { state.disk with
    journals :=
      match state.files .journal with
      | some file =>
          state.disk.journals.insert request.journal (startedJournal request.started file.text)
      | none => state.disk.journals
    active :=
      match state.files .marker with
      | some file => state.disk.active.insert request.journal file
      | none => state.disk.active
    reserves :=
      match state.files .reserve with
      | some _ => state.disk.reserves ++ [emergencyReserveName request.name]
      | none => state.disk.reserves
    others := state.disk.others + (state.files .report).elim 0 fun _ => 1 }

/-! ## The next applied command -/

/-- `active_recovery_journal_names` of a directory that has its index. -/
def activeRecoveryJournalNames (disk : ReportDisk) : Except String (List String) := do
  refuse (maxRecoveryJournals + 1 < (sortedNames disk.active).length)
    "active recovery journal directory exceeds its bounded entry limit"
  let _ ← readActiveMarkers disk
  pure ((sortedNames disk.active).filter (· != activeJournalIndexName))

/-- The loop of `cleanup_stale_applied_report_reserves`: whether a reserve was released. -/
def releaseActiveReserves : List String → DiskProgram Bool
  | [] => pure false
  | name :: rest => do
      raiseIf (journalSuffix.toList.isSuffixOf name.toList = false)
        "active recovery index returned an unsafe journal name"
      raiseIf (isReportName (reportName name) = false)
        "cannot release an unsafe emergency reserve name"
      let released ← Disk.unlinkReserve (emergencyReserveName (reportName name))
      let others ← releaseActiveReserves rest
      pure (released || others)

/-- `cleanup_stale_applied_report_reserves`, behind `active_recovery_journal_names`. -/
def releaseStaleReserves (names : List String) : DiskProgram Unit := do
  let released ← releaseActiveReserves names
  if released then Disk.syncReportDirectory

/-- `cleanup_stale_applied_report_reserves`: the directory that it leaves. -/
def cleanupStaleReserves (disk : ReportDisk) : Except String ReportDisk := do
  (bootstrapRun disk).1
  let names ← activeRecoveryJournalNames (bootstrapRun disk).2
  (Program.run serveDisk (releaseStaleReserves names) (bootstrapRun disk).2).1
  pure (Program.run serveDisk (releaseStaleReserves names) (bootstrapRun disk).2).2

/-- `unresolved_operations` of the next process on a directory, with its bootstrap. -/
def nextOperations (disk : ReportDisk) : Except String (List UnresolvedOperation) := do
  (bootstrapRun disk).1
  indexedOperations (bootstrapRun disk).2

/-- The directory as `main` finds it before it reserves: it has its index, and these operations
were read through it. -/
structure Admitted (disk : ReportDisk) (operations : List UnresolvedOperation) : Prop where
  index : disk.text activeJournalIndexName = some activeIndexText
  operations : nextOperations disk = .ok operations

/-- The next applied command cleans up, and then reads the same operations. -/
def Unblocked (disk : ReportDisk) (operations : List UnresolvedOperation) : Prop :=
  ∃ cleaned remaining, cleanupStaleReserves disk = .ok cleaned ∧
    nextOperations cleaned = .ok remaining ∧
    ∀ operation, operation ∈ remaining ↔ operation ∈ operations

/-- The whole of a file, its contents and its name flushed. -/
def ReservationRequest.durable (request : ReservationRequest)
    (file : ReservedFile) : ActiveFile where
  text := request.text file
  written := true
  linked := true

/-- What is promised of a reservation that ended so, from a directory with these operations, and
of the crashes of one kind. -/
structure Atomic (request : ReservationRequest) (operations : List UnresolvedOperation)
    (kind : Reservation → Prop) (outcome : Program.Outcome String Unit) (final : Reservation) :
    Prop where
  /-- Nothing is left of a reservation that fails. -/
  raised : ∀ error, outcome = .raised error → ∀ file, final.files file = none
  /-- A reservation that returns has its four files. -/
  returned : outcome = .returned () →
    final.reserved = emergencyReserveBytes ∧ ∀ file, final.files file = some (request.durable file)
  /-- The operations are not those of the reservation. -/
  unlisted : final.files .journal ≠ none →
    ∀ operation ∈ operations, operation.name ≠ request.journal
  /-- A crash does not block the next command. -/
  crashed : ∀ left, Crash final left → kind left → Unblocked (left.directory request) operations

/-- The marker, if it is there, lacks its final line feed at most. -/
def MarkerWritten (request : ReservationRequest) (left : Reservation) : Prop :=
  ∀ marker, left.files .marker = some marker →
    (request.text .marker).length ≤ marker.text.length + 1

end NvidiaConverge.Reserve
