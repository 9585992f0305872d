import NvidiaConverge.Library.Triple

/-!
# Appending to a journal

`append_report_journal` as the calls that it makes on the journal's file. The environment answers
each call as it likes: a write may be short, a failing write may have written a part, and a
failing truncation may have happened. `ensures_append_closed` says what every sequence of answers
leaves in the file when the two descriptors close, and `ensures_append_report_journal` what it
leaves in any case.
-/

namespace NvidiaConverge

open Program (Ensures Outcome closing ending perform raiseIf)

/-! ## The calls -/

/-- The error of a call: `ENOSPC` and `EDQUOT` are capacity errors. -/
inductive OsFailure where
  | capacity
  | other
  deriving DecidableEq

/-- What the append raises: an `OSError` on its way, and the two errors that its caller sees. -/
inductive AppendError where
  | os (failure : OsFailure)
  | reportWrite
  | reportJournalIntegrity
  deriving DecidableEq

/-- What the append compares of a file's status; `isPrivate` is what
`_validate_private_report_file` accepts. -/
structure FileStatus where
  identity : Nat
  size : Nat
  isPrivate : Bool
  deriving DecidableEq

/-- A call on the journal's file or beside it. -/
inductive AppendOp where
  /-- `_open_report_directory`. -/
  | openDirectory
  /-- `os.open` of the journal with `O_APPEND`. -/
  | openJournal
  /-- `os.fstat` of the open journal. -/
  | fstat
  /-- `os.stat` of the journal's name. -/
  | statName
  /-- `os.pread` of one byte. -/
  | readByte (offset : Nat)
  /-- `os.write`. -/
  | write (payload : List Char)
  /-- `os.fsync` of the open journal. -/
  | fsync
  /-- `os.ftruncate`. -/
  | truncate (size : Nat)
  /-- `_verify_report_directory_binding`. -/
  | verifyDirectory
  /-- `_unlink_private_reserve`: whether there was a reserve. -/
  | unlinkReserve
  /-- `os.fsync` of the report directory. -/
  | fsyncDirectory
  /-- `os.close` of the open journal, in the inner `finally` block. -/
  | closeJournal
  /-- `os.close` of the report directory, in the outer `finally` block. -/
  | closeDirectory

/-- What a call returns when it does not fail. -/
@[reducible] def AppendOp.Value : AppendOp → Type
  | .fstat | .statName => FileStatus
  | .readByte _ => Option Char
  | .write _ => Nat
  | .unlinkReserve => Bool
  | .openDirectory | .openJournal | .fsync | .truncate _ | .verifyDirectory | .fsyncDirectory
  | .closeJournal | .closeDirectory => Unit

/-- The answer to a call: its value, or the failure that the operating system reports. -/
abbrev AppendOp.Reply (op : AppendOp) : Type :=
  Except OsFailure op.Value

/-- The answers on a journal with these bytes. -/
def journalAnswers (bytes : List Char) : (op : AppendOp) → op.Reply → List Char → Prop
  | .fstat, .ok status, after => status.size = bytes.length ∧ after = bytes
  | .readByte offset, .ok byte, after => byte = bytes[offset]? ∧ after = bytes
  | .write payload, .ok written, after =>
      written ≤ payload.length ∧ after = bytes ++ payload.take written
  | .write payload, .error _, after => ∃ count, after = bytes ++ payload.take count
  | .truncate size, .ok _, after => after = bytes.take size
  | .truncate size, .error _, after => after = bytes ∨ after = bytes.take size
  | _, _, after => after = bytes

/-! ## The program -/

/-- A program that works on the journal's file through these calls and may raise an
`AppendError`. -/
abbrev AppendProgram := Program AppendOp AppendOp.Reply AppendError

/-- Make one call. Where it fails, the program raises the failure as an `OSError`, as Python
does. -/
def call (op : AppendOp) : AppendProgram op.Value := do
  match ← perform op with
  | .ok value => pure value
  | .error failure => .raise (.os failure)

/-- `_validate_private_report_file`: the opened file must be a private regular file. -/
def validatePrivateReportFile (status : FileStatus) : AppendProgram Unit :=
  raiseIf (status.isPrivate = false) (.os .other)

/-- `os.fstat` of a file that has to be private. -/
def privateStatus : AppendProgram FileStatus := do
  let status : FileStatus ← call .fstat
  validatePrivateReportFile status
  pure status

/-- `os.stat` of a name that has to be private. -/
def privateNameStatus : AppendProgram FileStatus := do
  let status : FileStatus ← call .statName
  validatePrivateReportFile status
  pure status

/-- `_validate_open_private_file_binding`: the name must still lead to the file that is open. -/
def validateOpenPrivateFileBinding : AppendProgram Unit := do
  let opened ← privateStatus
  let named ← privateNameStatus
  raiseIf (named.identity ≠ opened.identity) (.os .other)

/-- The last byte of the journal and its status behind it. -/
def readTail (status : FileStatus) : AppendProgram (Option Char × FileStatus) := do
  let finalByte : Option Char ← call (.readByte (status.size - 1))
  let current : FileStatus ← call .fstat
  pure (finalByte, current)

/-- `_validate_journal_append_boundary`: the journal must not be empty and must end with a
newline. -/
def validateJournalAppendBoundary (status : FileStatus) : AppendProgram Unit := do
  raiseIf (status.size = 0) .reportJournalIntegrity
  let (finalByte, current) ←
    (readTail status).handle fun _ => (.raise .reportJournalIntegrity : AppendProgram _)
  raiseIf (finalByte ≠ some (Char.ofNat 10) ∨ current.identity ≠ status.identity ∨
    current.size ≠ status.size) .reportJournalIntegrity

/-- `_write_all`: write until nothing is left. A call may write a part, and one that writes nothing
is an error. -/
def writeAll (payload : List Char) : AppendProgram Unit :=
  if _hmore : payload = [] then pure ()
  else do
    let written : Nat ← call (.write payload)
    if _hwritten : written = 0 then .raise (.os .other)
    else writeAll (payload.drop written)
  termination_by payload.length
  decreasing_by
    have hlength := List.length_pos_iff.mpr _hmore
    rw [List.length_drop]
    omega

/-- `_durably_rollback_journal_append`: cut the file back to its original size and flush it, after
checks that it is the same file and has grown by no more than this append. -/
def durablyRollbackJournalAppend (original : FileStatus) (appendLength : Nat) :
    AppendProgram Unit := do
  let current ← privateStatus
  raiseIf (current.identity ≠ original.identity ∨ current.size < original.size ∨
    original.size + appendLength < current.size) (.os .other)
  call (.truncate original.size)
  call .fsync
  let repaired ← privateStatus
  raiseIf (repaired.identity ≠ original.identity ∨ repaired.size ≠ original.size) (.os .other)
  let named ← privateNameStatus
  raiseIf (named.identity ≠ original.identity ∨ named.size ≠ original.size) (.os .other)

/-- The body of the inner `try`: the line is written, flushed, and both names are checked again. -/
def writeDurably (line : List Char) : AppendProgram Unit := do
  writeAll line
  call .fsync
  validateOpenPrivateFileBinding
  call .verifyDirectory

/-- What follows a durable rollback: the emergency reserve is released once, and only for a
capacity error. -/
def retryAppend (retry : AppendProgram Unit) (emergencyRetryAvailable : Bool)
    (appendError : AppendError) : AppendProgram Unit := do
  if emergencyRetryAvailable = true ∧ appendError = .os .capacity then do
    let released : Bool ← call .unlinkReserve
    if released = true then do
      call .fsyncDirectory
      call .verifyDirectory
      retry
    else .raise .reportWrite
  else .raise .reportWrite

/-- One round of the loop: the checks before the append, the append itself, and the way back where
it fails. -/
def appendRound (line : List Char) (emergencyRetryAvailable : Bool) (retry : AppendProgram Unit) :
    AppendProgram Unit := do
  let status ← privateStatus
  validateOpenPrivateFileBinding
  validateJournalAppendBoundary status
  (writeDurably line).handle fun appendError => do
    (durablyRollbackJournalAppend status line.length).handle fun _ =>
      (.raise .reportJournalIntegrity : AppendProgram _)
    retryAppend retry emergencyRetryAvailable appendError

/-- The open journal, closed behind its rounds; the second round is the last one. -/
def appendOpened (line : List Char) : AppendProgram Unit := do
  call .openJournal
  closing (call .closeJournal)
    (appendRound line true (appendRound line false (.raise .reportWrite)))

/-- `append_report_journal` of an encoded line. A journal that does not close is a
`ReportWriteError`, whatever its rounds ended with; a directory that does not close is a bare
`OSError`. -/
def appendReportJournal (line : List Char) : AppendProgram Unit := do
  (call .openDirectory).handle fun _ => (.raise .reportWrite : AppendProgram _)
  closing (call .closeDirectory) ((appendOpened line).handle fun
    | .os _ => .raise .reportWrite
    | error => .raise error)

/-! ## What the parts ensure -/

variable {α : Type} {old bytes line payload : List Char} {status : FileStatus}

/-- The rule of a call: the postcondition at the interruption, for every value and for every
failure. -/
theorem ensures_call (op : AppendOp) {post : Outcome AppendError op.Value → List Char → Prop} :
    Ensures journalAnswers post (call op) bytes ↔
      post .interrupted bytes ∧
        (∀ value after, journalAnswers bytes op (.ok value) after →
          post .interrupted after ∧ post (.returned value) after) ∧
        ∀ failure after, journalAnswers bytes op (.error failure) after →
          post .interrupted after ∧ post (.raised (.os failure)) after := by
  refine Program.ensures_bind.trans ((Program.ensures_perform op).trans
    (and_congr_right fun _ => ?_))
  constructor
  · intro h
    exact ⟨fun value after hanswer => Program.ensures_pure.mp (h (.ok value) after hanswer).2,
      fun failure after hanswer => Program.ensures_raise.mp (h (.error failure) after hanswer).2⟩
  · rintro ⟨hvalue, hfailure⟩ (failure | value) after hanswer
    · have h := hfailure failure after hanswer
      exact ⟨h.1, Program.ensures_raise.mpr h⟩
    · have h := hvalue value after hanswer
      exact ⟨h.1, Program.ensures_pure.mpr h⟩

/-- A part that leaves the file as it is, and the errors and values that it ends with. -/
def leaving (bytes : List Char) (errors : AppendError → Prop) (values : α → Prop) :
    Outcome AppendError α → List Char → Prop :=
  ending (· = bytes) (fun error after => after = bytes ∧ errors error)
    (fun value after => after = bytes ∧ values value)

/-- The error is an `OSError` that one of the calls raised. -/
def IsOsError (error : AppendError) : Prop :=
  ∃ failure, error = .os failure

/-- One part that leaves the file as it is before another part. -/
theorem ensures_behind {β : Type} {program : AppendProgram α} {rest : α → AppendProgram β}
    {errors : AppendError → Prop} {values : α → Prop}
    {post : Outcome AppendError β → List Char → Prop}
    (h : Ensures journalAnswers (leaving bytes errors values) program bytes)
    (hinterrupted : post .interrupted bytes)
    (hraised : ∀ error, errors error → post (.raised error) bytes)
    (hreturned : ∀ value, values value → Ensures journalAnswers post (rest value) bytes) :
    Ensures journalAnswers post (program >>= rest) bytes := by
  refine h.bind ?_ ?_ ?_
  · rintro after rfl
    exact hinterrupted
  · rintro error after ⟨rfl, herror⟩
    exact hraised error herror
  · rintro value after ⟨rfl, hvalue⟩
    exact hreturned value hvalue

/-- A part whose value the rest does not use may be specified without it. -/
theorem ensures_forget {program : AppendProgram α} {errors : AppendError → Prop}
    {values : α → Prop} (h : Ensures journalAnswers (leaving bytes errors values) program bytes) :
    Ensures journalAnswers (leaving bytes errors fun _ => True) program bytes :=
  h.mono fun outcome after hpost => by
    cases outcome with
    | interrupted => exact hpost
    | raised error => exact hpost
    | returned value => exact ⟨hpost.1, trivial⟩

/-- A check leaves the bytes alone and lets the program go on only where its condition is false. -/
theorem ensures_check {condition : Prop} [Decidable condition] {error : AppendError}
    (errors : AppendError → Prop) (herror : errors error) :
    Ensures journalAnswers (leaving bytes errors fun _ => ¬ condition)
      (raiseIf condition error : AppendProgram Unit) bytes :=
  Program.ensures_raise_if.mpr ⟨rfl, fun _ => ⟨rfl, herror⟩, fun h => ⟨rfl, h⟩⟩

/-- A part under `except … raise error` leaves the same bytes, and all of its errors become that
one. -/
theorem ensures_replaced {program : AppendProgram α} {errors : AppendError → Prop}
    {values : α → Prop} (error : AppendError)
    (h : Ensures journalAnswers (leaving bytes errors values) program bytes) :
    Ensures journalAnswers (leaving bytes (· = error) values)
      (program.handle fun _ => (.raise error : AppendProgram α)) bytes := by
  refine h.handle (fun _ hsame => hsame) ?_ fun _ _ hvalue => hvalue
  rintro _ after ⟨rfl, -⟩
  exact Program.ensures_raise.mpr ⟨rfl, rfl, rfl⟩

/-- A call is quiet when it leaves the bytes of the file as they are: all but `write` and
`ftruncate`. -/
def AppendOp.quiet : AppendOp → Bool
  | .write _ | .truncate _ => false
  | _ => true

theorem quiet_answer {op : AppendOp} {reply : op.Reply} {after : List Char} (h : op.quiet = true)
    (hanswer : journalAnswers bytes op reply after) : after = bytes := by
  cases op with
  | write payload | truncate size => cases h
  | fstat | readByte offset =>
      cases reply with
      | error failure => exact hanswer
      | ok value => exact hanswer.2
  | _ => exact hanswer

/-- A quiet call leaves the bytes, and its only errors are its own `OSError`s. -/
theorem ensures_quiet_call (op : AppendOp) (h : op.quiet = true) :
    Ensures journalAnswers (leaving bytes IsOsError fun _ => True) (call op) bytes := by
  refine (ensures_call op).mpr ⟨rfl, fun value after hanswer => ?_, fun failure after hanswer => ?_⟩
  · have hsame := quiet_answer h hanswer
    exact ⟨hsame, hsame, trivial⟩
  · have hsame := quiet_answer h hanswer
    exact ⟨hsame, hsame, failure, rfl⟩

theorem ensures_fstat :
    Ensures journalAnswers
      (leaving bytes IsOsError fun status : FileStatus => status.size = bytes.length)
      (call .fstat) bytes :=
  (ensures_call .fstat).mpr ⟨rfl, fun _ _ h => ⟨h.2, h.2, h.1⟩, fun _ _ h => ⟨h, h, _, rfl⟩⟩

theorem ensures_private_status :
    Ensures journalAnswers (leaving bytes IsOsError fun status => status.size = bytes.length)
      privateStatus bytes := by
  refine ensures_behind ensures_fstat rfl (fun error h => ⟨rfl, h⟩) fun status hsize => ?_
  refine ensures_behind (ensures_check IsOsError ⟨_, rfl⟩) rfl (fun error h => ⟨rfl, h⟩)
    fun _ _ => ?_
  exact Program.ensures_pure.mpr ⟨rfl, rfl, hsize⟩

theorem ensures_private_name_status :
    Ensures journalAnswers (leaving bytes IsOsError fun _ => True) privateNameStatus bytes := by
  refine ensures_behind (ensures_quiet_call .statName rfl) rfl (fun error h => ⟨rfl, h⟩)
    fun status _ => ?_
  refine ensures_behind (ensures_check IsOsError ⟨_, rfl⟩) rfl (fun error h => ⟨rfl, h⟩)
    fun _ _ => ?_
  exact Program.ensures_pure.mpr ⟨rfl, rfl, trivial⟩

theorem ensures_file_binding :
    Ensures journalAnswers (leaving bytes IsOsError fun _ => True) validateOpenPrivateFileBinding
      bytes := by
  refine ensures_behind ensures_private_status rfl (fun error h => ⟨rfl, h⟩) fun opened _ => ?_
  refine ensures_behind ensures_private_name_status rfl (fun error h => ⟨rfl, h⟩) fun named _ => ?_
  exact ensures_forget (ensures_check IsOsError ⟨_, rfl⟩)

/-- The tail of the journal is refused or left as it is. -/
theorem ensures_append_boundary :
    Ensures journalAnswers (leaving bytes (· = .reportJournalIntegrity) fun _ => True)
      (validateJournalAppendBoundary status) bytes := by
  refine ensures_behind (ensures_check ((· = .reportJournalIntegrity)) rfl) rfl
    (fun error h => ⟨rfl, h⟩) fun _ _ => ?_
  have htail : Ensures journalAnswers (leaving bytes IsOsError fun _ => True) (readTail status)
      bytes := by
    refine ensures_behind (ensures_quiet_call (.readByte _) rfl) rfl
      (fun error h => ⟨rfl, h⟩) fun finalByte _ => ?_
    refine ensures_behind ensures_fstat rfl (fun error h => ⟨rfl, h⟩) fun current _ => ?_
    exact Program.ensures_pure.mpr ⟨rfl, rfl, trivial⟩
  refine ensures_behind (ensures_replaced _ htail) rfl (fun error h => ⟨rfl, h⟩) ?_
  rintro ⟨finalByte, current⟩ -
  exact ensures_forget (ensures_check ((· = .reportJournalIntegrity)) rfl)

/-- The bytes before the append, and a part of the line. -/
def PartlyAppended (old line after : List Char) : Prop :=
  ∃ count, after = old ++ line.take count

theorem partly_appended_none : PartlyAppended old line old :=
  ⟨0, by simp⟩

theorem partly_appended_take {after : List Char} (h : PartlyAppended old line after) (size : Nat)
    (hsize : size = old.length) : after.take size = old := by
  obtain ⟨count, rfl⟩ := h
  subst hsize
  exact List.take_left

theorem partly_appended_behind {after : List Char} {written : Nat}
    (h : PartlyAppended (old ++ line.take written) (line.drop written) after) :
    PartlyAppended old line after := by
  obtain ⟨count, rfl⟩ := h
  refine ⟨written + count, ?_⟩
  rw [List.append_assoc, List.take_add]

/-- Writing in pieces leaves a part of the line, or the whole line. -/
theorem ensures_write_all (payload : List Char) :
    ∀ old, Ensures journalAnswers
      (ending (PartlyAppended old payload) (fun error after => PartlyAppended old payload after ∧
        IsOsError error) fun _ after => after = old ++ payload) (writeAll payload) old := by
  -- The induction is on what is still to be written.
  induction hlength : payload.length using Nat.strong_induction_on generalizing payload with
  | h length ih =>
      intro old
      unfold writeAll
      by_cases hmore : payload = []
      · subst hmore
        exact Program.ensures_pure.mpr ⟨partly_appended_none, (List.append_nil old).symm⟩
      · rw [dif_neg hmore]
        refine Program.ensures_bind.mpr ((ensures_call (.write payload)).mpr
          ⟨partly_appended_none, ?_, fun failure after h => ⟨h, h, failure, rfl⟩⟩)
        rintro written after ⟨hwritten, rfl⟩
        have hpart : PartlyAppended old payload (old ++ payload.take written) := ⟨written, rfl⟩
        refine ⟨hpart, ?_⟩
        show Ensures journalAnswers _ (dite _ _ _) _
        split
        · exact Program.ensures_raise.mpr ⟨hpart, hpart, _, rfl⟩
        · next hsome =>
            have hshorter : (payload.drop written).length < length := by
              have hpos := List.length_pos_iff.mpr hmore
              rw [List.length_drop]
              omega
            refine (ih _ hshorter _ rfl _).mono fun outcome final h => ?_
            cases outcome with
            | interrupted => exact partly_appended_behind h
            | raised error => exact ⟨partly_appended_behind h.1, h.2⟩
            | returned value =>
                show final = old ++ payload
                rw [show final = _ from h, List.append_assoc, List.take_append_drop]

/-- The inner `try` leaves the whole line where it returns, and otherwise a part of it and an
`OSError`. -/
theorem ensures_write_durably :
    Ensures journalAnswers
      (ending (PartlyAppended old line) (fun error after => PartlyAppended old line after ∧
        IsOsError error) fun _ after => after = old ++ line) (writeDurably line) old := by
  refine (ensures_write_all line old).bind (fun _ h => h) (fun _ _ h => h) ?_
  rintro _ after rfl
  have hwhole : PartlyAppended old line (old ++ line) := ⟨line.length, by rw [List.take_length]⟩
  refine ensures_behind (ensures_quiet_call .fsync rfl) hwhole (fun _ h => ⟨hwhole, h⟩)
    fun _ _ => ?_
  refine ensures_behind ensures_file_binding hwhole (fun _ h => ⟨hwhole, h⟩) fun _ _ => ?_
  exact (ensures_quiet_call .verifyDirectory rfl).mono fun outcome final h => by
    cases outcome with
    | interrupted =>
        obtain rfl : final = _ := h
        exact hwhole
    | raised error =>
        obtain ⟨rfl, herror⟩ := h
        exact ⟨hwhole, herror⟩
    | returned value => exact h.1

/-- A rollback that succeeds leaves the bytes from before the append. -/
theorem ensures_rollback {after : List Char} (hpart : PartlyAppended old line after)
    (hsize : status.size = old.length) (appendLength : Nat) :
    Ensures journalAnswers
      (ending (PartlyAppended old line) (fun _ final => PartlyAppended old line final)
        fun _ final => final = old) (durablyRollbackJournalAppend status appendLength) after := by
  refine ensures_behind ensures_private_status hpart (fun _ _ => hpart) fun current _ => ?_
  refine ensures_behind (ensures_check IsOsError ⟨_, rfl⟩) hpart (fun _ _ => hpart) fun _ _ => ?_
  have hold : after.take status.size = old := partly_appended_take hpart _ hsize
  refine Program.ensures_bind.mpr ((ensures_call (.truncate status.size)).mpr ⟨hpart, ?_, ?_⟩)
  · rintro _ final (rfl : final = after.take status.size)
    rw [hold]
    have hnone : PartlyAppended old line old := partly_appended_none
    refine ⟨hnone, ?_⟩
    refine ensures_behind (ensures_quiet_call .fsync rfl) hnone (fun _ _ => hnone)
      fun _ _ => ?_
    refine ensures_behind ensures_private_status hnone (fun _ _ => hnone) fun repaired _ => ?_
    refine ensures_behind (ensures_check IsOsError ⟨_, rfl⟩) hnone (fun _ _ => hnone) fun _ _ => ?_
    refine ensures_behind ensures_private_name_status hnone (fun _ _ => hnone) fun named _ => ?_
    exact Program.ensures_raise_if.mpr ⟨hnone, fun _ => hnone, fun _ => rfl⟩
  · rintro failure final (rfl | rfl)
    · exact ⟨hpart, hpart⟩
    · rw [hold]
      exact ⟨partly_appended_none, partly_appended_none⟩

/-- How an append ends: all of the line, none of it, or a journal whose tail is in doubt. -/
def appendEnds (old line : List Char) : Outcome AppendError Unit → List Char → Prop :=
  ending (PartlyAppended old line)
    (fun error after => error ≠ .reportJournalIntegrity ∧ after = old ∨
      error = .reportJournalIntegrity ∧ PartlyAppended old line after)
    fun _ after => after = old ++ line

/-- An error before the first write, or after a durable rollback. -/
theorem append_ends_os {error : AppendError} (h : IsOsError error) :
    appendEnds old line (.raised error) old := by
  obtain ⟨failure, rfl⟩ := h
  exact .inl ⟨by simp, rfl⟩

theorem ensures_report_write :
    Ensures journalAnswers (appendEnds old line) (.raise .reportWrite) old :=
  Program.ensures_raise.mpr ⟨partly_appended_none, .inl ⟨by simp, rfl⟩⟩

theorem ensures_retry_append {retry : AppendProgram Unit}
    (h : Ensures journalAnswers (appendEnds old line) retry old) (available : Bool)
    (error : AppendError) :
    Ensures journalAnswers (appendEnds old line) (retryAppend retry available error) old := by
  have hnone : PartlyAppended old line old := partly_appended_none
  unfold retryAppend
  split
  · refine ensures_behind (ensures_quiet_call .unlinkReserve rfl) hnone
      (fun _ => append_ends_os) fun released _ => ?_
    show Ensures journalAnswers _ (ite _ _ _) _
    split
    · refine ensures_behind (ensures_quiet_call .fsyncDirectory rfl) hnone
        (fun _ => append_ends_os) fun _ _ => ?_
      exact ensures_behind (ensures_quiet_call .verifyDirectory rfl) hnone
        (fun _ => append_ends_os) fun _ _ => h
    · exact ensures_report_write
  · exact ensures_report_write

/-- One round of the loop ends as the whole append may, provided that its retry does. -/
theorem ensures_append_round {retry : AppendProgram Unit}
    (h : Ensures journalAnswers (appendEnds old line) retry old) (available : Bool) :
    Ensures journalAnswers (appendEnds old line) (appendRound line available retry) old := by
  have hnone : PartlyAppended old line old := partly_appended_none
  refine ensures_behind ensures_private_status hnone (fun _ => append_ends_os)
    fun status hsize => ?_
  refine ensures_behind ensures_file_binding hnone (fun _ => append_ends_os) fun _ _ => ?_
  refine ensures_behind ensures_append_boundary hnone
    (fun error herror => .inr ⟨herror, hnone⟩) fun _ _ => ?_
  refine ensures_write_durably.handle (fun _ hpart => hpart) ?_ fun _ _ hwhole => hwhole
  rintro error after ⟨hpart, -⟩
  have hrollback : Ensures journalAnswers (ending (PartlyAppended old line)
      (fun error final => error = .reportJournalIntegrity ∧ PartlyAppended old line final)
      fun _ final => final = old)
      ((durablyRollbackJournalAppend status line.length).handle fun _ =>
        (.raise .reportJournalIntegrity : AppendProgram _)) after := by
    refine (ensures_rollback hpart hsize _).handle (fun _ hpart => hpart) ?_ fun _ _ hold => hold
    exact fun _ final hpart => Program.ensures_raise.mpr ⟨hpart, rfl, hpart⟩
  refine hrollback.bind (fun _ hpart => hpart) (fun _ _ herror => .inr herror) ?_
  rintro _ final rfl
  exact ensures_retry_append h available error

/-! ## Closing -/

/-- The two calls of the `finally` blocks, which close the descriptors. -/
def AppendOp.closes : AppendOp → Bool
  | .closeJournal | .closeDirectory => true
  | _ => false

/-- The answers of a system on which the two closing calls never fail. -/
def closedAnswers (bytes : List Char) (op : AppendOp) (reply : op.Reply) (after : List Char) :
    Prop :=
  journalAnswers bytes op reply after ∧ (op.closes = true → ∃ value, reply = .ok value)

/-- How an append ends when it raises as `raised` says. When a descriptor fails to close, a part of
the line may be left behind any error. -/
def endsUnlessUnclosed (closeFails : Prop) (raised : AppendError → List Char → Prop)
    (old line : List Char) : Outcome AppendError Unit → List Char → Prop :=
  ending (PartlyAppended old line)
    (fun error after => raised error after ∨ closeFails ∧ PartlyAppended old line after)
    fun _ after => after = old ++ line

/-- What an append raises: nothing of the line is left, or the tail of the journal is in doubt. -/
def appendRaises (old line : List Char) (error : AppendError) (after : List Char) : Prop :=
  error = .reportWrite ∧ after = old ∨
    error = .reportJournalIntegrity ∧ PartlyAppended old line after

variable {env : List Char → (op : AppendOp) → op.Reply → List Char → Prop} {closeFails : Prop}

/-- A descriptor that is closed fails to close only where it may. -/
theorem ensures_close (op : AppendOp) (hop : op.closes = true)
    (hanswers : ∀ bytes op reply after, env bytes op reply after →
      journalAnswers bytes op reply after)
    (hcloses : ∀ bytes op failure after, env bytes op (.error failure) after →
      op.closes = true → closeFails) :
    Ensures env (leaving bytes (fun _ => closeFails) fun _ => True) (call op) bytes := by
  have hquiet : op.quiet = true := by
    cases op <;> first | rfl | cases hop
  refine Program.ensures_bind.mpr ((Program.ensures_perform op).mpr ⟨rfl, ?_⟩)
  rintro (failure | value) after hanswer
  · have hsame := quiet_answer hquiet (hanswers _ _ _ _ hanswer)
    exact ⟨hsame, Program.ensures_raise.mpr
      ⟨hsame, hsame, hcloses _ _ _ _ hanswer hop⟩⟩
  · have hsame := quiet_answer hquiet (hanswers _ _ _ _ hanswer)
    exact ⟨hsame, Program.ensures_pure.mpr ⟨hsame, hsame, trivial⟩⟩

/-- A descriptor is closed behind a part of the append. -/
theorem ensures_closing {close program : AppendProgram Unit}
    {raised : AppendError → List Char → Prop}
    (hclose : ∀ bytes, Ensures env (leaving bytes (fun _ => closeFails) fun _ => True) close bytes)
    (hpart : ∀ error after, raised error after → PartlyAppended old line after)
    (h : Ensures env (endsUnlessUnclosed closeFails raised old line) program old) :
    Ensures env (endsUnlessUnclosed closeFails raised old line) (closing close program)
      old := by
  have hwhole : PartlyAppended old line (old ++ line) := ⟨line.length, by rw [List.take_length]⟩
  refine h.closing (fun _ hcut => hcut) (fun error final herror => ?_) fun _ final hreturned => ?_
  · have hleft : PartlyAppended old line final := herror.elim (hpart error final) And.right
    refine (hclose _).mono fun outcome closed hends => ?_
    cases outcome with
    | interrupted =>
        obtain rfl : closed = final := hends
        exact hleft
    | raised failure =>
        obtain ⟨rfl, hfails⟩ := hends
        exact .inr ⟨hfails, hleft⟩
    | returned _ =>
        obtain ⟨rfl, -⟩ := hends
        exact ⟨hleft, herror⟩
  · obtain rfl : final = old ++ line := hreturned
    refine (hclose _).mono fun outcome closed hends => ?_
    cases outcome with
    | interrupted =>
        obtain rfl : closed = old ++ line := hends
        exact hwhole
    | raised failure =>
        obtain ⟨rfl, hfails⟩ := hends
        exact .inr ⟨hfails, hwhole⟩
    | returned _ =>
        obtain ⟨rfl, -⟩ := hends
        exact ⟨hwhole, rfl⟩

/-- An append is all or nothing, or says that it is not, unless a descriptor fails to close. -/
theorem ensures_append (old line : List Char)
    (hanswers : ∀ bytes op reply after, env bytes op reply after →
      journalAnswers bytes op reply after)
    (hcloses : ∀ bytes op failure after, env bytes op (.error failure) after →
      op.closes = true → closeFails) :
    Ensures env (endsUnlessUnclosed closeFails (appendRaises old line) old line)
      (appendReportJournal line) old := by
  have hnone : PartlyAppended old line old := partly_appended_none
  have hrounds : Ensures env (appendEnds old line)
      (appendRound line true (appendRound line false (.raise .reportWrite))) old :=
    (ensures_append_round (ensures_append_round ensures_report_write false) true).narrow hanswers
  have hopened : Ensures env
      (endsUnlessUnclosed closeFails
        (fun error after => error ≠ .reportJournalIntegrity ∧ after = old ∨
          error = .reportJournalIntegrity ∧ PartlyAppended old line after) old line)
      (appendOpened line) old := by
    refine ((ensures_quiet_call .openJournal rfl).narrow hanswers).bind ?_ ?_ ?_
    · rintro after rfl
      exact hnone
    · rintro error after ⟨rfl, failure, rfl⟩
      exact .inl (.inl ⟨by simp, rfl⟩)
    · rintro _ after ⟨rfl, -⟩
      refine ensures_closing (fun _ => ensures_close .closeJournal rfl hanswers hcloses) ?_
        (hrounds.mono ?_)
      · rintro error final (⟨-, rfl⟩ | ⟨-, hpart⟩)
        · exact partly_appended_none
        · exact hpart
      · intro outcome final hends
        cases outcome with
        | interrupted => exact hends
        | raised error => exact .inl hends
        | returned _ => exact hends
  have hhandled : Ensures env (endsUnlessUnclosed closeFails (appendRaises old line) old line)
      ((appendOpened line).handle fun
        | .os _ => .raise .reportWrite
        | error => .raise error) old := by
    -- `except OSError` turns the error of the journal's `close` into `ReportWriteError` as well.
    refine hopened.handle (fun _ hpart => hpart) ?_ fun _ _ hwhole => hwhole
    rintro error after ((⟨hne, rfl⟩ | ⟨rfl, hpart⟩) | ⟨hfails, hpart⟩)
    · cases error with
      | os failure => exact Program.ensures_raise.mpr ⟨hnone, .inl (.inl ⟨rfl, rfl⟩)⟩
      | reportWrite => exact Program.ensures_raise.mpr ⟨hnone, .inl (.inl ⟨rfl, rfl⟩)⟩
      | reportJournalIntegrity => exact absurd rfl hne
    · exact Program.ensures_raise.mpr ⟨hpart, .inl (.inr ⟨rfl, hpart⟩)⟩
    · cases error <;> exact Program.ensures_raise.mpr ⟨hpart, .inr ⟨hfails, hpart⟩⟩
  have hdirectory : Ensures env (leaving old (· = .reportWrite) fun _ => True)
      ((call .openDirectory).handle fun _ => (.raise .reportWrite : AppendProgram _)) old :=
    (ensures_replaced .reportWrite (ensures_quiet_call .openDirectory rfl)).narrow hanswers
  refine hdirectory.bind ?_ ?_ ?_
  · rintro after rfl
    exact hnone
  · rintro error after ⟨rfl, rfl⟩
    exact .inl (.inl ⟨rfl, rfl⟩)
  · rintro _ after ⟨rfl, -⟩
    -- The directory is closed outside that handler: its error leaves as it is.
    refine ensures_closing (fun _ => ensures_close .closeDirectory rfl hanswers hcloses) ?_ hhandled
    rintro error final (⟨-, rfl⟩ | ⟨-, hpart⟩)
    · exact partly_appended_none
    · exact hpart

/-- An append whose descriptors close is all or nothing, or says that it is not. -/
theorem ensures_append_closed (old line : List Char) :
    Ensures closedAnswers
      (ending (PartlyAppended old line) (appendRaises old line) fun _ after => after = old ++ line)
      (appendReportJournal line) old := by
  have h : Ensures closedAnswers (endsUnlessUnclosed False (appendRaises old line) old line)
      (appendReportJournal line) old := by
    refine ensures_append old line (fun _ _ _ _ hanswer => hanswer.1) ?_
    intro bytes op failure after hanswer hop
    obtain ⟨value, hvalue⟩ := hanswer.2 hop
    cases hvalue
  refine h.mono fun outcome after hends => ?_
  cases outcome with
  | interrupted => exact hends
  | raised error => exact hends.resolve_right fun hfails => hfails.1
  | returned _ => exact hends

/-- Whether the descriptors close or not, an append leaves a part of its line at most, and returns
with the whole line only. -/
theorem ensures_append_report_journal (old line : List Char) :
    Ensures journalAnswers
      (ending (PartlyAppended old line) (fun _ after => PartlyAppended old line after)
        fun _ after => after = old ++ line) (appendReportJournal line) old := by
  have h : Ensures journalAnswers (endsUnlessUnclosed True (appendRaises old line) old line)
      (appendReportJournal line) old :=
    ensures_append old line (fun _ _ _ _ hanswer => hanswer) fun _ _ _ _ _ _ => trivial
  refine h.mono fun outcome after hends => ?_
  cases outcome with
  | interrupted => exact hends
  | raised error =>
      rcases hends with (⟨-, rfl⟩ | ⟨-, hpart⟩) | ⟨-, hpart⟩
      · exact partly_appended_none
      · exact hpart
      · exact hpart
  | returned _ => exact hends

end NvidiaConverge
