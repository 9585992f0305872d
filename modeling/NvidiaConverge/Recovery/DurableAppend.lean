import NvidiaConverge.Library.Embed
import NvidiaConverge.Recovery.JournalText

/-!
# Appends and the disk

What an append leaves in the journal's file and on the disk beneath it: `ensures_append_line`. The
bytes that were durable stay durable through every call of the append, also through a rollback;
an append that returns is durable; and nothing is appended behind a torn line.
-/

namespace NvidiaConverge

open Program (Ensures Triple ending)

/-! ## The file and the disk -/

/-- The bytes of a journal, and what of them a loss of power leaves at least. -/
structure CachedJournal where
  bytes : List Char
  durable : List Char

/-- The bytes that survive a power loss behind a call, by what it answered. -/
def durableAfter (bytes durable : List Char) : (op : AppendOp) → op.Reply → List Char
  | .fsync, .ok _ => bytes
  | .truncate size, _ => durable.take size
  | _, _ => durable

/-- The answers of the calls on a journal's file, with the bytes that they leave in it and on the
disk. -/
def fileAnswers (file : CachedJournal) (op : AppendOp) (reply : op.Reply) (after : CachedJournal) :
    Prop :=
  journalAnswers file.bytes op reply after.bytes ∧
    after.durable = durableAfter file.bytes file.durable op reply

/-- The file and the disk begin with these bytes. -/
def CachedJournal.Keeps (kept : List Char) (file : CachedJournal) : Prop :=
  kept <+: file.bytes ∧ kept <+: file.durable

/-- Everything that is in the file is on the disk, and the old bytes are its beginning. -/
def CachedJournal.Synced (kept : List Char) (file : CachedJournal) : Prop :=
  file.Keeps kept ∧ file.durable = file.bytes

/-- A condition that the calls that write nothing keep. -/
structure Steady (kept : List Char) (inv : CachedJournal → Prop) : Prop where
  quiet : ∀ {file after op reply}, AppendOp.quiet op = true → inv file →
    fileAnswers file op reply after → inv after
  keeps : ∀ {file}, inv file → file.Keeps kept

variable {α : Type} {kept line : List Char} {inv : CachedJournal → Prop} {status : FileStatus}
  {file after : CachedJournal}

/-- A quiet call changes no byte, and leaves the durable bytes or makes every byte durable. -/
theorem quiet_durable {op : AppendOp} {reply : op.Reply} (h : op.quiet = true)
    (hanswer : fileAnswers file op reply after) :
    after.bytes = file.bytes ∧ (after.durable = file.durable ∨ after.durable = file.bytes) := by
  refine ⟨quiet_answer h hanswer.1, ?_⟩
  rw [hanswer.2]
  cases op with
  | write payload | truncate size => cases h
  | fsync =>
      cases reply with
      | ok value => exact .inr rfl
      | error failure => exact .inl rfl
  | _ => exact .inl rfl

theorem steady_keeps : Steady kept (CachedJournal.Keeps kept) where
  quiet hquiet hkeeps hanswer := by
    obtain ⟨hbytes, hdurable⟩ := quiet_durable hquiet hanswer
    refine ⟨hbytes ▸ hkeeps.1, ?_⟩
    rcases hdurable with h | h
    · exact h ▸ hkeeps.2
    · exact h ▸ hkeeps.1
  keeps h := h

theorem steady_synced : Steady kept (CachedJournal.Synced kept) where
  quiet hquiet hsynced hanswer := by
    obtain ⟨hbytes, hdurable⟩ := quiet_durable hquiet hanswer
    refine ⟨steady_keeps.quiet hquiet hsynced.1 hanswer, ?_⟩
    rcases hdurable with h | h
    · rw [h, hbytes, hsynced.2]
    · rw [h, hbytes]
  keeps h := h.1

/-- A part of the append that goes on from `inv` to `post`, and keeps the bytes wherever it ends. -/
abbrev KeepsFrom (kept : List Char) (inv : CachedJournal → Prop) (program : AppendProgram α)
    (post : α → CachedJournal → Prop) : Prop :=
  Triple fileAnswers inv program post (CachedJournal.Keeps kept) (CachedJournal.Keeps kept)

/-- A call, by what each of its answers leaves. -/
theorem keeps_call (op : AppendOp) {post : op.Value → CachedJournal → Prop}
    (hok : ∀ file value after, inv file → fileAnswers file op (.ok value) after → post value after)
    (herror : ∀ file failure after, inv file → fileAnswers file op (.error failure) after →
      after.Keeps kept)
    (hinv : ∀ file, inv file → file.Keeps kept)
    (hpost : ∀ value file, post value file → file.Keeps kept) :
    KeepsFrom kept inv (call op) post := by
  intro file hfile
  refine Program.ensures_bind.mpr ((Program.ensures_perform op).mpr ⟨hinv file hfile, ?_⟩)
  rintro (failure | value) after hanswer
  · have h := herror file failure after hfile hanswer
    exact ⟨h, Program.ensures_raise.mpr ⟨h, h⟩⟩
  · have h := hok file value after hfile hanswer
    exact ⟨hpost value after h, Program.ensures_pure.mpr ⟨hpost value after h, h⟩⟩

/-- A call that writes nothing keeps any steady property of the file. -/
theorem Steady.call (h : Steady kept inv) (op : AppendOp) (hquiet : op.quiet = true) :
    KeepsFrom kept inv (call op) fun _ => inv :=
  keeps_call op (fun _ _ _ hinv hanswer => h.quiet hquiet hinv hanswer)
    (fun _ _ _ hinv hanswer => h.keeps (h.quiet hquiet hinv hanswer)) (fun _ => h.keeps)
    fun _ _ => h.keeps

theorem Steady.check (h : Steady kept inv) {condition : Prop} [Decidable condition]
    {error : AppendError} :
    KeepsFrom kept inv (Program.raiseIf condition error : AppendProgram Unit) fun _ => inv :=
  (Program.triple_raise_if (fun _ => h.keeps) fun _ => h.keeps).mono (fun _ hinv => hinv)
    (fun _ _ hpost => hpost.1) (fun _ hfail => hfail) fun _ hcrash => hcrash

theorem Steady.done (h : Steady kept inv) (value : α) :
    KeepsFrom kept inv (pure value : AppendProgram α) fun _ => inv :=
  Program.triple_pure (fun _ hinv => hinv) fun _ => h.keeps

/-- A part whose errors become one keeps what it kept. -/
theorem KeepsFrom.replaced {program : AppendProgram α} {post : α → CachedJournal → Prop}
    (h : KeepsFrom kept inv program post) (error : AppendError) :
    KeepsFrom kept inv (program.handle fun _ => (.raise error : AppendProgram α)) post :=
  h.reraise fun _ hkeeps => hkeeps

/-- A status of the open journal, which is at least as long as what it keeps. -/
theorem Steady.private_status (h : Steady kept inv) :
    KeepsFrom kept inv privateStatus fun status file => inv file ∧ kept.length ≤ status.size := by
  have hstatus : KeepsFrom kept inv (NvidiaConverge.call .fstat)
      fun (status : FileStatus) file => inv file ∧ kept.length ≤ status.size := by
    refine keeps_call .fstat (fun file status after hinv hanswer => ?_)
      (fun _ _ _ hinv hanswer => h.keeps (h.quiet rfl hinv hanswer)) (fun _ => h.keeps)
      fun _ _ hpost => h.keeps hpost.1
    refine ⟨h.quiet rfl hinv hanswer, ?_⟩
    rw [show status.size = file.bytes.length from hanswer.1.1]
    exact (h.keeps hinv).1.length_le
  refine hstatus.bind fun status => ?_
  refine (Program.triple_raise_if (fun _ hpre => h.keeps hpre.1) fun _ hpre => h.keeps hpre.1).bind
    fun _ => ?_
  exact Program.triple_pure (fun _ hpre => hpre.1) fun _ hpre => h.keeps hpre.1.1

/-- The check of the name's binding keeps any steady property of the file. -/
theorem Steady.file_binding (h : Steady kept inv) :
    KeepsFrom kept inv validateOpenPrivateFileBinding fun _ => inv := by
  have hopened : KeepsFrom kept inv privateStatus fun _ => inv :=
    h.private_status.mono (fun _ hinv => hinv) (fun _ _ hpost => hpost.1) (fun _ hfail => hfail)
      fun _ hcrash => hcrash
  have hnamed : KeepsFrom kept inv privateNameStatus fun _ => inv :=
    (h.call .statName rfl).bind fun _ => h.check.bind fun _ => h.done _
  exact hopened.bind fun _ => hnamed.bind fun _ => h.check

theorem Steady.append_boundary (h : Steady kept inv) :
    KeepsFrom kept inv (validateJournalAppendBoundary status) fun _ => inv := by
  refine h.check.bind fun _ => ?_
  have htail : KeepsFrom kept inv (readTail status) fun _ => inv :=
    (h.call (.readByte _) rfl).bind fun _ => (h.call .fstat rfl).bind fun _ => h.done _
  refine (htail.replaced _).bind ?_
  rintro ⟨finalByte, current⟩
  exact h.check

theorem keeps_write (payload : List Char) :
    KeepsFrom kept (CachedJournal.Keeps kept) (call (.write payload))
      fun _ => CachedJournal.Keeps kept := by
  have hgrown : ∀ {file after : CachedJournal} {count : Nat}, file.Keeps kept →
      after.bytes = file.bytes ++ payload.take count → after.durable = file.durable →
      after.Keeps kept := by
    intro file after count hkeeps hbytes hdurable
    exact ⟨hbytes ▸ hkeeps.1.trans (List.prefix_append _ _), hdurable ▸ hkeeps.2⟩
  refine keeps_call (.write payload) (fun file written after hkeeps hanswer => ?_)
    (fun file failure after hkeeps hanswer => ?_) (fun _ hkeeps => hkeeps) fun _ _ hkeeps => hkeeps
  · exact hgrown hkeeps hanswer.1.2 hanswer.2
  · obtain ⟨count, hbytes⟩ := hanswer.1
    exact hgrown hkeeps hbytes hanswer.2

theorem keeps_write_all (payload : List Char) :
    KeepsFrom kept (CachedJournal.Keeps kept) (writeAll payload) fun _ =>
      CachedJournal.Keeps kept := by
  -- The induction is on what is still to be written.
  induction hlength : payload.length using Nat.strong_induction_on generalizing payload with
  | h length ih =>
      unfold writeAll
      split
      · exact steady_keeps.done _
      · next hmore =>
          refine (keeps_write payload).bind fun written => ?_
          show KeepsFrom kept _ (dite _ _ _) _
          split
          · exact Program.triple_raise (fun _ hkeeps => hkeeps) fun _ hkeeps => hkeeps
          · next hwritten =>
              refine ih _ ?_ _ rfl
              have hpositive := List.length_pos_iff.mpr hmore
              rw [List.length_drop]
              omega

/-- A truncation to a status that was taken of a file with these bytes. -/
theorem keeps_truncate {size : Nat} (hsize : kept.length ≤ size) :
    KeepsFrom kept (CachedJournal.Keeps kept) (call (.truncate size))
      fun _ => CachedJournal.Keeps kept := by
  have htaken : ∀ {bytes : List Char}, kept <+: bytes → kept <+: bytes.take size := by
    intro bytes h
    rw [List.prefix_iff_eq_take] at h ⊢
    rw [List.take_take, Nat.min_eq_left hsize]
    exact h
  refine keeps_call (.truncate size) (fun file _ after hkeeps hanswer => ?_)
    (fun file _ after hkeeps hanswer => ?_) (fun _ hkeeps => hkeeps) fun _ _ hkeeps => hkeeps
  · obtain ⟨hbytes, hdurable⟩ := hanswer
    exact ⟨hbytes ▸ htaken hkeeps.1, hdurable ▸ htaken hkeeps.2⟩
  · obtain ⟨hbytes, hdurable⟩ := hanswer
    refine ⟨?_, hdurable ▸ htaken hkeeps.2⟩
    rcases hbytes with h | h
    · exact h ▸ hkeeps.1
    · exact h ▸ htaken hkeeps.1

/-- A line that was written durably is on the disk. -/
theorem synced_write_durably :
    KeepsFrom kept (CachedJournal.Keeps kept) (writeDurably line) fun _ =>
      CachedJournal.Synced kept := by
  refine (keeps_write_all line).bind fun _ => ?_
  have hfsync : KeepsFrom kept (CachedJournal.Keeps kept) (call .fsync)
      fun _ => CachedJournal.Synced kept := by
    refine keeps_call .fsync (fun file _ after hkeeps hanswer => ?_)
      (fun _ _ _ hkeeps hanswer => steady_keeps.quiet rfl hkeeps hanswer) (fun _ hkeeps => hkeeps)
      fun _ _ hsynced => hsynced.1
    refine ⟨steady_keeps.quiet rfl hkeeps hanswer, ?_⟩
    rw [show after.durable = file.bytes from hanswer.2]
    exact (show after.bytes = file.bytes from hanswer.1).symm
  refine hfsync.bind fun _ => steady_synced.file_binding.bind fun _ => ?_
  exact steady_synced.call .verifyDirectory rfl

/-- The rollback of an append cuts behind the old bytes only, and so keeps them. -/
theorem keeps_rollback {original : FileStatus} (hsize : kept.length ≤ original.size)
    (length : Nat) :
    KeepsFrom kept (CachedJournal.Keeps kept) (durablyRollbackJournalAppend original length)
      fun _ => CachedJournal.Keeps kept := by
  have hstatus : KeepsFrom kept (CachedJournal.Keeps kept) privateStatus
      fun _ => CachedJournal.Keeps kept :=
    steady_keeps.private_status.mono (fun _ hkeeps => hkeeps) (fun _ _ hpost => hpost.1)
      (fun _ hfail => hfail) fun _ hcrash => hcrash
  have hnamed : KeepsFrom kept (CachedJournal.Keeps kept) privateNameStatus
      fun _ => CachedJournal.Keeps kept :=
    (steady_keeps.call .statName rfl).bind fun _ => steady_keeps.check.bind fun _ =>
      steady_keeps.done _
  refine hstatus.bind fun _ => steady_keeps.check.bind fun _ => ?_
  refine (keeps_truncate hsize).bind fun _ => (steady_keeps.call .fsync rfl).bind fun _ => ?_
  exact hstatus.bind fun _ => steady_keeps.check.bind
    fun _ => hnamed.bind fun _ => steady_keeps.check

/-- The way back of a failed append leaves the file synced where the retry does. -/
theorem synced_retry {retry : AppendProgram Unit}
    (h : KeepsFrom kept (CachedJournal.Keeps kept) retry fun _ => CachedJournal.Synced kept)
    (available : Bool) (error : AppendError) :
    KeepsFrom kept (CachedJournal.Keeps kept) (retryAppend retry available error)
      fun _ => CachedJournal.Synced kept := by
  have hraise : KeepsFrom kept (CachedJournal.Keeps kept) (.raise .reportWrite : AppendProgram Unit)
      fun _ => CachedJournal.Synced kept :=
    Program.triple_raise (fun _ hkeeps => hkeeps) fun _ hkeeps => hkeeps
  unfold retryAppend
  split
  · refine (steady_keeps.call .unlinkReserve rfl).bind fun released => ?_
    show KeepsFrom kept _ (ite _ _ _) _
    split
    · exact (steady_keeps.call .fsyncDirectory rfl).bind fun _ =>
        (steady_keeps.call .verifyDirectory rfl).bind fun _ => h
    · exact hraise
  · exact hraise

theorem synced_round {retry : AppendProgram Unit}
    (h : KeepsFrom kept (CachedJournal.Keeps kept) retry fun _ => CachedJournal.Synced kept)
    (available : Bool) :
    KeepsFrom kept (CachedJournal.Keeps kept) (appendRound line available retry)
      fun _ => CachedJournal.Synced kept := by
  refine steady_keeps.private_status.bind fun status => ?_
  intro file hpre
  obtain ⟨hkeeps, hsize⟩ := hpre
  refine (?_ : KeepsFrom kept (CachedJournal.Keeps kept) _ _) file hkeeps
  refine steady_keeps.file_binding.bind fun _ => steady_keeps.append_boundary.bind fun _ => ?_
  intro file hkeeps
  refine (synced_write_durably file hkeeps).handle (fun _ hcrash => hcrash) ?_
    fun _ _ hpost => hpost
  intro error final hfinal
  exact (((keeps_rollback hsize line.length).replaced _).bind fun _ =>
    synced_retry h available error)
    final hfinal

/-- A descriptor is closed behind a part of the append. -/
theorem KeepsFrom.closed {close program : AppendProgram Unit}
    (h : KeepsFrom kept (CachedJournal.Keeps kept) program fun _ => CachedJournal.Synced kept)
    (hsynced : KeepsFrom kept (CachedJournal.Synced kept) close fun _ => CachedJournal.Synced kept)
    (hkeeps : KeepsFrom kept (CachedJournal.Keeps kept) close fun _ => CachedJournal.Keeps kept) :
    KeepsFrom kept (CachedJournal.Keeps kept) (Program.closing close program)
      fun _ => CachedJournal.Synced kept :=
  Program.Triple.closing h (fun _ => hsynced) hkeeps (fun _ hfail => hfail) fun _ _ hpost => hpost.1

/-- An append keeps what was durable, and is durable when it returns. -/
theorem synced_append_report_journal (line : List Char) :
    KeepsFrom kept (CachedJournal.Keeps kept) (appendReportJournal line)
      fun _ => CachedJournal.Synced kept := by
  have hraise : KeepsFrom kept (CachedJournal.Keeps kept) (.raise .reportWrite : AppendProgram Unit)
      fun _ => CachedJournal.Synced kept :=
    Program.triple_raise (fun _ hkeeps => hkeeps) fun _ hkeeps => hkeeps
  have hrounds : KeepsFrom kept (CachedJournal.Keeps kept)
      (appendRound line true (appendRound line false (.raise .reportWrite)))
      fun _ => CachedJournal.Synced kept :=
    synced_round (synced_round hraise false) true
  have hopened : KeepsFrom kept (CachedJournal.Keeps kept) (appendOpened line)
      fun _ => CachedJournal.Synced kept :=
    (steady_keeps.call .openJournal rfl).bind fun _ => hrounds.closed
      (steady_synced.call .closeJournal rfl) (steady_keeps.call .closeJournal rfl)
  have hhandled {handler : AppendError → AppendProgram Unit}
      (hraises : ∀ error, ∃ other, handler error = .raise other) :
      KeepsFrom kept (CachedJournal.Keeps kept) ((appendOpened line).handle handler)
        fun _ => CachedJournal.Synced kept := by
    intro file hkeeps
    refine (hopened file hkeeps).handle (fun _ hcrash => hcrash) ?_ fun _ _ hpost => hpost
    intro error final hfinal
    obtain ⟨other, hother⟩ := hraises error
    rw [hother]
    exact Program.ensures_raise.mpr ⟨hfinal, hfinal⟩
  refine ((steady_keeps.call .openDirectory rfl).replaced _).bind fun _ => ?_
  refine (hhandled fun error => ?_).closed (steady_synced.call .closeDirectory rfl)
    (steady_keeps.call .closeDirectory rfl)
  cases error <;> exact ⟨_, rfl⟩

/-! ## The torn line -/

variable {bytes : List Char}

/-- A status of the file in which the boundary is read. -/
theorem ensures_boundary_torn (hsize : status.size = bytes.length)
    (htorn : bytes.getLast? ≠ some (Char.ofNat 10)) :
    Ensures journalAnswers (leaving bytes (fun _ => True) fun _ => False)
      (validateJournalAppendBoundary status) bytes := by
  have htail : Ensures journalAnswers (leaving bytes IsOsError fun read : _ × _ =>
      read.1 = bytes.getLast?) (readTail status) bytes := by
    refine Program.ensures_bind.mpr ((ensures_call (.readByte (status.size - 1))).mpr ⟨rfl, ?_,
      fun failure after hanswer => ?_⟩)
    · rintro finalByte after ⟨hbyte, rfl⟩
      refine ⟨rfl, ?_⟩
      refine ensures_behind ensures_fstat rfl (fun _ herror => ⟨rfl, herror⟩) fun current _ => ?_
      refine Program.ensures_pure.mpr ⟨rfl, rfl, ?_⟩
      rw [List.getLast?_eq_getElem?, ← hsize]
      exact hbyte
    · obtain rfl : after = bytes := hanswer
      exact ⟨rfl, rfl, failure, rfl⟩
  refine ensures_behind (ensures_check (fun _ => True) trivial) rfl (fun _ _ => ⟨rfl, trivial⟩)
    fun _ _ => ?_
  refine ensures_behind (ensures_replaced _ htail) rfl (fun _ _ => ⟨rfl, trivial⟩) ?_
  rintro ⟨finalByte, current⟩ (hbyte : finalByte = bytes.getLast?)
  refine (ensures_check (fun _ => True) trivial).mono fun outcome final hends => ?_
  cases outcome with
  | interrupted => exact hends
  | raised error => exact hends
  | returned _ => exact absurd (.inl (hbyte ▸ htorn)) hends.2

/-- A descriptor that is closed behind a part that never returns leaves the file as it is, whether
the close fails or not. -/
theorem ensures_closing_raised {close program : AppendProgram Unit}
    (hclose : Ensures journalAnswers (leaving bytes (fun _ => True) fun _ => True) close bytes)
    (h : Ensures journalAnswers (leaving bytes (fun _ => True) fun _ => False) program bytes) :
    Ensures journalAnswers (leaving bytes (fun _ => True) fun _ => False)
      (Program.closing close program) bytes := by
  refine h.closing (fun _ hsame => hsame) ?_ fun _ _ hvalue => hvalue.2.elim
  rintro error final ⟨rfl, -⟩
  refine hclose.mono fun outcome closed hends => ?_
  cases outcome with
  | interrupted => exact hends
  | raised failure => exact hends
  | returned _ => exact ⟨hends.1, hends.1, trivial⟩

/-- Nothing is appended behind a torn line: the append raises and leaves the bytes. -/
theorem ensures_append_torn (line : List Char) (htorn : bytes.getLast? ≠ some (Char.ofNat 10)) :
    Ensures journalAnswers (leaving bytes (fun _ => True) fun _ => False) (appendReportJournal line)
      bytes := by
  have hround : ∀ available retry, Ensures journalAnswers
      (leaving bytes (fun _ => True) fun _ => False) (appendRound line available retry) bytes := by
    intro available retry
    refine ensures_behind ensures_private_status rfl (fun _ _ => ⟨rfl, trivial⟩)
      fun status hsize => ?_
    refine ensures_behind ensures_file_binding rfl (fun _ _ => ⟨rfl, trivial⟩) fun _ _ => ?_
    exact ensures_behind (ensures_boundary_torn hsize htorn) rfl (fun _ _ => ⟨rfl, trivial⟩)
      fun _ => False.elim
  have hquiet : ∀ op : AppendOp, op.quiet = true → Ensures journalAnswers
      (leaving bytes (fun _ => True) fun _ => True) (call op) bytes := by
    intro op hop
    refine (ensures_quiet_call op hop).mono fun outcome final hends => ?_
    cases outcome with
    | interrupted => exact hends
    | raised error => exact ⟨hends.1, trivial⟩
    | returned _ => exact hends
  have hopened : Ensures journalAnswers (leaving bytes (fun _ => True) fun _ => False)
      (appendOpened line) bytes :=
    ensures_behind (ensures_quiet_call .openJournal rfl) rfl (fun _ _ => ⟨rfl, trivial⟩) fun _ _ =>
      ensures_closing_raised (hquiet .closeJournal rfl) (hround true _)
  refine ensures_behind (ensures_replaced .reportWrite (ensures_quiet_call .openDirectory rfl)) rfl
    (fun _ _ => ⟨rfl, trivial⟩) fun _ _ => ensures_closing_raised (hquiet .closeDirectory rfl) ?_
  refine hopened.handle (fun _ hsame => hsame) ?_ fun _ _ hvalue => hvalue
  rintro error after ⟨rfl, -⟩
  cases error <;> exact Program.ensures_raise.mpr ⟨rfl, rfl, trivial⟩

/-! ## Appended lines -/

/-- The file holds the events and a torn line; what was promised of them is on the disk. -/
structure CachedJournal.Holds (promised events : List JournalEvent) (torn : List Char)
    (file : CachedJournal) : Prop where
  bytes : file.bytes = journalText events ++ torn
  torn : ∀ c ∈ torn, c ≠ Char.ofNat 10
  known : promised <+: events
  durable : journalText promised <+: file.durable

variable {promised events : List JournalEvent} {torn : List Char} {event : JournalEvent}

theorem journal_text_mono (h : promised <+: events) :
    journalText promised <+: journalText events := by
  obtain ⟨rest, rfl⟩ := h
  exact ⟨journalText rest, (List.flatMap_append ..).symm⟩

/-- The text of a journal with one more event is its text followed by the event's line. -/
theorem journal_text_append :
    journalText (events ++ [event]) = journalText events ++ event.line := by
  simp [journalText]

theorem CachedJournal.Holds.keeps (h : file.Holds promised events torn) :
    file.Keeps (journalText promised) :=
  ⟨h.bytes ▸ (journal_text_mono h.known).trans (List.prefix_append _ _), h.durable⟩

/-- A file with a part of the next line behind the events still holds every promised event. -/
theorem holds_partly (hpromised : promised <+: events)
    (hpart : PartlyAppended (journalText events) event.line after.bytes)
    (hdurable : journalText promised <+: after.durable) :
    ∃ more torn, (more = [] ∨ more = [event]) ∧ after.Holds promised (events ++ more) torn := by
  obtain ⟨count, hbytes⟩ := hpart
  rcases Nat.lt_or_ge count event.line.length with hshort | hlong
  · refine ⟨[], event.line.take count, .inl rfl, ?_⟩
    rw [List.append_nil]
    exact ⟨hbytes, torn_line_no_newline hshort, hpromised, hdurable⟩
  · refine ⟨[event], [], .inr rfl, ?_, by simp, hpromised.trans (List.prefix_append _ _), hdurable⟩
    rw [hbytes, List.take_of_length_le hlong, List.append_nil, journal_text_append]

/-- An append that returns has its whole line on the disk, behind whole lines; wherever else it
ends, the file holds the events with or without the new one. -/
theorem ensures_append_line (h : file.Holds promised events torn) :
    Ensures fileAnswers
      (ending
        (fun after => ∃ more torn, (more = [] ∨ more = [event]) ∧
          after.Holds promised (events ++ more) torn)
        (fun _ after => ∃ more torn, (more = [] ∨ more = [event]) ∧
          after.Holds promised (events ++ more) torn)
        fun _ after => after.bytes = journalText (events ++ [event]) ∧ after.durable = after.bytes)
      (appendReportJournal event.line) file := by
  refine Program.ensures_iff_runs.mpr fun outcome final hruns => ?_
  have hview := hruns.along CachedJournal.bytes fun _ _ _ _ hanswer => hanswer.1
  have hkept := (synced_append_report_journal event.line file h.keeps).runs hruns
  by_cases hwhole : torn = []
  · have hbytes : file.bytes = journalText events := by rw [h.bytes, hwhole, List.append_nil]
    have hends := (ensures_append_report_journal file.bytes event.line).runs hview
    have hpart : outcome = .interrupted ∨ (∃ error, outcome = .raised error) →
        ∃ more torn, (more = [] ∨ more = [event]) ∧ final.Holds promised (events ++ more) torn := by
      intro hcut
      refine holds_partly h.known (hbytes ▸ partly_appended_of_runs hview) ?_
      rcases hcut with rfl | ⟨error, rfl⟩
      · exact hkept.2
      · exact hkept.2
    cases outcome with
    | interrupted => exact hpart (.inl rfl)
    | raised error => exact hpart (.inr ⟨error, rfl⟩)
    | returned _ => exact ⟨by rw [journal_text_append, ← hbytes]; exact hends, hkept.2⟩
  · have htorn : file.bytes.getLast? ≠ some (Char.ofNat 10) := by
      obtain ⟨front, last, rfl⟩ := (List.eq_nil_or_concat torn).resolve_left hwhole
      rw [h.bytes, List.concat_eq_append, ← List.append_assoc, List.getLast?_concat]
      intro hlast
      exact h.torn last (by simp) (Option.some.inj hlast)
    have hends := (ensures_append_torn event.line htorn).runs hview
    have hsame : final.bytes = file.bytes → journalText promised <+: final.durable →
        ∃ more torn, (more = [] ∨ more = [event]) ∧ final.Holds promised (events ++ more) torn :=
      fun hbytes hdurable => ⟨[], torn, .inl rfl, by rw [hbytes, List.append_nil, h.bytes], h.torn,
        by rw [List.append_nil]; exact h.known, hdurable⟩
    cases outcome with
    | interrupted => exact hsame hends hkept.2
    | raised error => exact hsame hends.1 hkept.2
    | returned _ => exact hends.2.elim

/-! ## What recovery reads behind a loss of power -/

/-- Splitting a journal's text into lines gives back its events, one line each. -/
theorem split_journal_append (events : List JournalEvent) (rest : List Char) :
    Text.splitLines (journalText events ++ rest) =
      events.map JournalEvent.text ++ Text.splitLines rest := by
  induction events with
  | nil => rfl
  | cons event events ih =>
      have hline : journalText (event :: events) ++ rest =
          event.text ++ Char.ofNat 10 :: (journalText events ++ rest) := by
        simp [journalText, JournalEvent.line]
      rw [hline, Text.split_lines_append fun c hc =>
        not_line_break_of_printable (event.printable c hc), ih]
      rfl

/-- The reader trusts everything up to the last line feed. -/
theorem trusted_length_ge {name : String} {cut : List Char} {trustedLength : Nat}
    (hdurable : journalText promised <+: cut)
    (hread : readPrivateJournal name cut = .ok trustedLength) :
    (journalText promised).length ≤ trustedLength := by
  obtain ⟨tail, rfl⟩ := hdurable
  obtain ⟨-, hread⟩ := Result.check_bind_eq_ok.mp hread
  split at hread
  · rw [← Result.pure_eq_ok.mp hread, List.length_append]
    omega
  · obtain ⟨-, hread⟩ := Result.check_bind_eq_ok.mp hread
    rw [← Result.pure_eq_ok.mp hread]
    rcases List.eq_nil_or_concat promised with rfl | ⟨others, last, rfl⟩
    · exact Nat.zero_le _
    · have hne : others.concat last ≠ [] := by simp
      obtain ⟨front, hfront⟩ := journal_text_last hne
      rw [hfront, List.reverse_append, List.reverse_append, List.dropWhile_append]
      split <;> simp

/-- Whatever stands behind the durable events, a reader that admits the journal finds them. -/
theorem recovered_events_durable {name : String} {cut : List Char}
    {found : List (List (String × Json.Value))} (hdurable : journalText promised <+: cut)
    (hread : recoveredEvents name cut = .ok found) :
    promised.map JournalEvent.fields <+: found := by
  obtain ⟨trustedLength, htrusted, hread⟩ := Result.bind_eq_ok.mp hread
  have hlength := trusted_length_ge hdurable htrusted
  have hkept : journalText promised <+: truncateTornJournal cut trustedLength := by
    unfold truncateTornJournal
    split
    · exact List.prefix_take_iff.mpr ⟨hdurable, hlength⟩
    · exact hdurable
  obtain ⟨rest, hrest⟩ := hkept
  rw [← hrest, split_journal_append, List.mapM_append] at hread
  obtain ⟨first, hfirst, hread⟩ := Result.bind_eq_ok.mp hread
  obtain ⟨others, -, hread⟩ := Result.bind_eq_ok.mp hread
  rw [← split_journal_text, load_journal_text] at hfirst
  rw [← Result.pure_eq_ok.mp hread, ← Except.ok.inj hfirst]
  exact List.prefix_append _ _

end NvidiaConverge
