import NvidiaConverge.Library.JsonCharacters
import NvidiaConverge.Recovery.Append
import NvidiaConverge.Recovery.Bootstrap

/-!
# The text of a journal

The line of an event, and what the reader recovers from a journal that was cut off inside an
append. `journal_append_atomic` puts the two sides together.
-/

namespace NvidiaConverge

open Program (Outcome Runs)
open Result (refuse)

/-! ## The lines -/

/-- The four fields of a binding, in the order of their keys. -/
def SnapshotBinding.fields (binding : SnapshotBinding) : List (String × Json.Value) :=
  [("snapshot_host_id", .string binding.hostId),
    ("snapshot_integrity_sha256", .string binding.integritySha256),
    ("snapshot_operation_id", .string binding.operationId),
    ("snapshot_path", .string binding.path)]

/-- The JSON value of a field that may be missing: `null` where it is. -/
def optionValue {α : Type} (value : α → Json.Value) : Option α → Json.Value
  | some found => value found
  | none => .null

/-- `payload` of an event, with its keys in order. -/
def JournalEvent.fields (event : JournalEvent) : List (String × Json.Value) :=
  let operation := ("operation_id", Json.Value.string event.operationId)
  let timestamp := ("timestamp", Json.Value.string event.timestamp)
  match event.details with
  | .operationStarted => [("event", .string "operation-started"), operation, timestamp]
  | .rollbackSnapshotPersisted binding =>
      [("event", .string "rollback-snapshot-persisted"), operation] ++ binding.fields ++
        [timestamp]
  | .launcherReleaseAuthorized releaseTarget binding =>
      [("event", .string "launcher-release-authorized"), operation,
        ("release_target", .string releaseTarget)] ++ binding.fields ++ [timestamp]
  | .commandStarted command mutating =>
      [("command", .array (command.map .string)), ("event", .string "command-started"),
        ("mutating", .bool mutating), operation, timestamp]
  | .commandFinished command mutating returncode skipped reason =>
      [("command", .array (command.map .string)), ("event", .string "command-finished"),
        ("mutating", .bool mutating), operation, ("reason", optionValue .string reason),
        ("returncode", optionValue .int returncode), ("skipped", .bool skipped), timestamp]
  | .operationCompleted exitCode incomplete outcome =>
      [("event", .string "operation-completed"), ("exit_code", .int exitCode),
        ("incomplete", .bool incomplete), operation, ("outcome", .string outcome), timestamp]
  | .reportPersistenceFailed error =>
      [("error", .string error), ("event", .string "report-persistence-failed"), operation,
        timestamp]
  | .operationRecovered recoveryOperationId binding =>
      [("event", .string "operation-recovered"), operation,
        ("recovery_operation_id", .string recoveryOperationId)] ++ binding.fields ++ [timestamp]

/-- The text of an event's line: its fields as compact JSON. -/
def JournalEvent.text (event : JournalEvent) : List Char :=
  Json.render none 0 (.object event.fields)

/-- The line that an append writes for an event, with its newline. -/
def JournalEvent.line (event : JournalEvent) : List Char :=
  event.text ++ [Char.ofNat 10]

/-- The bytes of a journal that holds exactly these events. -/
def journalText (events : List JournalEvent) : List Char :=
  events.flatMap JournalEvent.line

/-! ## The reader -/

/-- `_load_event`: the fields of a journal's line, which must be a JSON object. -/
def loadEvent (name line : String) : Except String (List (String × Json.Value)) :=
  match Json.loads line with
  | some (.object fields) => pure fields
  | some _ => throw ("applied report journal event is not an object: " ++ name)
  | none => throw ("applied report journal contains invalid JSON: " ++ name)

/-- `_read_private_journal`: the trusted length. -/
def readPrivateJournal (name : String) (payload : List Char) : Except String Nat := do
  refuse (maxJournalBytes < payload.length)
    ("applied report journal exceeds 8388608 bytes: " ++ name)
  if payload = [] ∨ payload.getLast? = some (Char.ofNat 10) then pure payload.length
  else do
    let trustedLength := (payload.reverse.dropWhile (· != Char.ofNat 10)).length
    refuse (trustedLength = 0)
      ("applied report journal has no complete durable record: " ++ name)
    pure trustedLength

/-- `_truncate_torn_journal`: the bytes behind the trusted length are cut off. -/
def truncateTornJournal (payload : List Char) (trustedLength : Nat) : List Char :=
  if trustedLength ≠ payload.length then payload.take trustedLength else payload

/-- The events that a reader finds in the repaired journal. -/
def recoveredEvents (name : String) (payload : List Char) :
    Except String (List (List (String × Json.Value))) := do
  let trustedLength ← readPrivateJournal name payload
  (Text.splitLines (truncateTornJournal payload trustedLength)).mapM fun line =>
    loadEvent name (String.ofList line)

/-! ## Lines are read back -/

variable {event started : JournalEvent} {events : List JournalEvent} {name : String}
  {old part cut : List Char}

/-- Every event is plain JSON, so that it can be written and read back. -/
theorem JournalEvent.plain (event : JournalEvent) : Json.Plain (.object event.fields) := by
  have hstrings : ∀ texts : List String, Json.PlainItems (texts.map .string) := fun texts =>
    Json.plain_items_iff.mpr fun item hmem => by
      obtain ⟨text, -, rfl⟩ := List.mem_map.mp hmem
      trivial
  have hoption : ∀ {α : Type} (value : α → Json.Value) (found : Option α),
      (∀ v, Json.Plain (value v)) → Json.Plain (optionValue value found) := by
    intro α value found h
    cases found with
    | none => trivial
    | some v => exact h v
  have hreason : ∀ reason, Json.Plain (optionValue .string reason) := fun reason =>
    hoption _ reason fun _ => trivial
  have hreturncode : ∀ returncode, Json.Plain (optionValue .int returncode) := fun returncode =>
    hoption _ returncode fun _ => trivial
  cases hdetails : event.details <;>
    simp [JournalEvent.fields, hdetails, SnapshotBinding.fields, Json.Plain, Json.PlainFields,
      hstrings, hreason, hreturncode]

theorem JournalEvent.load (event : JournalEvent) :
    loadEvent name (String.ofList event.text) = .ok event.fields := by
  unfold loadEvent
  rw [show String.ofList event.text = Json.dumps none (.object event.fields) from rfl,
    Json.loads_dumps event.plain]
  rfl

/-- A line feed ends a line and stands nowhere else. -/
theorem JournalEvent.printable (event : JournalEvent) : ∀ c ∈ event.text, Json.IsPrintable c :=
  Json.printable_render 0 _ event.plain

theorem not_line_break_of_printable {c : Char} (h : Json.IsPrintable c) :
    Text.isLineBreak c = false := by
  obtain ⟨hlow, hhigh⟩ := h
  simp only [Text.isLineBreak, List.contains_eq_mem, decide_eq_false_iff_not, List.mem_cons,
    List.not_mem_nil, or_false]
  omega

theorem newline_not_printable : ¬ Json.IsPrintable (Char.ofNat 10) := by
  decide

theorem split_journal_text (events : List JournalEvent) :
    Text.splitLines (journalText events) = events.map JournalEvent.text := by
  have hjoin := Text.split_lines_join (events.map JournalEvent.text) (by
    intro text hmem c hc
    obtain ⟨event, -, rfl⟩ := List.mem_map.mp hmem
    exact not_line_break_of_printable (event.printable c hc))
  rw [List.flatMap_map] at hjoin
  exact hjoin

/-- The events of a whole journal are read back. -/
theorem load_journal_text (events : List JournalEvent) :
    (Text.splitLines (journalText events)).mapM (fun line =>
      loadEvent name (String.ofList line)) = .ok (events.map JournalEvent.fields) := by
  rw [split_journal_text]
  refine Result.mapM_eq_ok.mpr (List.forall₂_map_left_iff.mpr (List.forall₂_map_right_iff.mpr ?_))
  exact List.forall₂_same.mpr fun event _ => event.load

/-! ## The torn tail -/

theorem journal_text_ne_nil (hne : events ≠ []) : journalText events ≠ [] := by
  cases events with
  | nil => exact absurd rfl hne
  | cons event rest => simp [journalText, JournalEvent.line]

/-- The text of a journal with an event ends with a line feed. -/
theorem journal_text_last (hne : events ≠ []) :
    ∃ front, journalText events = front ++ [Char.ofNat 10] := by
  obtain ⟨others, last, rfl⟩ := (List.eq_nil_or_concat events).resolve_left hne
  refine ⟨journalText others ++ last.text, ?_⟩
  simp [journalText, JournalEvent.line]

/-- The trusted part of a journal ends at its last line feed. -/
theorem read_private_journal_torn (hne : events ≠ [])
    (hpart : ∀ c ∈ part, c ≠ Char.ofNat 10)
    (hsize : (journalText events ++ part).length ≤ maxJournalBytes) :
    readPrivateJournal name (journalText events ++ part) = .ok (journalText events).length := by
  obtain ⟨front, hfront⟩ := journal_text_last hne
  unfold readPrivateJournal
  rw [Result.refuse_of_not (by omega)]
  by_cases hempty : part = []
  · rw [hempty, List.append_nil, hfront, if_pos (.inr List.getLast?_concat)]
    rfl
  · have htorn : (journalText events ++ part).getLast? ≠ some (Char.ofNat 10) := by
      obtain ⟨others, last, rfl⟩ := (List.eq_nil_or_concat part).resolve_left hempty
      rw [List.concat_eq_append, ← List.append_assoc, List.getLast?_concat]
      intro hlast
      exact hpart last (by simp) (Option.some.inj hlast)
    have htrusted : ((journalText events ++ part).reverse.dropWhile (· != Char.ofNat 10)).length =
        (journalText events).length := by
      rw [List.reverse_append, List.dropWhile_append_of_pos (by
        intro c hc
        simpa using hpart c (List.mem_reverse.mp hc)), hfront, List.reverse_append]
      simp
    have hpositive : (journalText events).length ≠ 0 := by
      rw [hfront]
      simp
    rw [if_neg (not_or.mpr ⟨by simp [journal_text_ne_nil hne], htorn⟩)]
    simp only [htrusted]
    rw [Result.refuse_of_not hpositive]
    rfl

/-- A torn tail is discarded and nothing else. -/
theorem recovered_events_torn (name : String) (hne : events ≠ [])
    (hpart : ∀ c ∈ part, c ≠ Char.ofNat 10)
    (hsize : (journalText events ++ part).length ≤ maxJournalBytes) :
    recoveredEvents name (journalText events ++ part) = .ok (events.map JournalEvent.fields) := by
  have hrepaired : truncateTornJournal (journalText events ++ part) (journalText events).length =
      journalText events := by
    unfold truncateTornJournal
    split
    · exact List.take_left
    · next hsame =>
        rw [not_not, List.length_append] at hsame
        rw [List.length_eq_zero_iff.mp (show part.length = 0 by omega), List.append_nil]
  unfold recoveredEvents
  rw [read_private_journal_torn hne hpart hsize, Result.ok_bind, hrepaired]
  exact load_journal_text events

/-- A part of a line that is not the whole line has no line feed. -/
theorem torn_line_no_newline {count : Nat} (h : count < event.line.length) :
    ∀ c ∈ event.line.take count, c ≠ Char.ofNat 10 := by
  intro c hc
  have hlength : count ≤ event.text.length := by
    simp only [JournalEvent.line, List.length_append, List.length_singleton] at h
    omega
  rw [JournalEvent.line, List.take_append_of_le_length hlength] at hc
  rintro rfl
  exact newline_not_printable (event.printable _ (List.mem_of_mem_take hc))

/-! ## The append -/

/-- What an append that ended leaves: the whole line, nothing of it, or a journal whose integrity
it denies. -/
def AllOrNothing (old line : List Char) : Outcome AppendError Unit → List Char → Prop
  | .interrupted, _ => True
  | .returned _, after => after = old ++ line
  | .raised error, after =>
      error = .reportWrite ∧ after = old ∨ error = .reportJournalIntegrity

/-- Wherever an append ends, it has written a part of its line. -/
theorem partly_appended_of_runs {line after : List Char} {outcome : Outcome AppendError Unit}
    (hruns : Runs journalAnswers (appendReportJournal line) old outcome after) :
    PartlyAppended old line after := by
  have hends := (ensures_append_report_journal old line).runs hruns
  cases outcome with
  | interrupted | raised error => exact hends
  | returned value => exact ⟨line.length, by rw [List.take_length]; exact hends⟩

/-- A truncation behind the old bytes keeps a part of the line. -/
theorem partly_appended_cut {line after : List Char} (h : PartlyAppended old line after)
    (hold : old <+: cut) (hcut : cut <+: after) :
    cut = old ++ line ∨ ∃ count < line.length, cut = old ++ line.take count := by
  obtain ⟨count, rfl⟩ := h
  obtain ⟨part, rfl⟩ := hold
  have hpart : part <+: line :=
    ((List.prefix_append_right_inj old).mp hcut).trans (List.take_prefix count line)
  rcases Nat.lt_or_ge part.length line.length with hshort | hlong
  · exact .inr ⟨part.length, hshort, by rw [← List.prefix_iff_eq_take.mp hpart]⟩
  · exact .inl (by rw [hpart.eq_of_length_le hlong])

/-- An append whose descriptors close is all or nothing. Whether they close or not, it leaves the
old bytes and a part of its line, and returns with the whole line only; and from every truncation
behind the old bytes that the reader admits, the reader recovers the old events, and the new one
exactly when its whole line is there. -/
theorem journal_append_atomic {outcome : Outcome AppendError Unit} {after : List Char}
    (hruns : Runs journalAnswers (appendReportJournal event.line) old outcome after) :
    (Runs closedAnswers (appendReportJournal event.line) old outcome after →
      AllOrNothing old event.line outcome after) ∧
      PartlyAppended old event.line after ∧
      (∀ value, outcome = .returned value → after = old ++ event.line) ∧
      ∀ (name : String) (events : List JournalEvent) (cut : List Char), events ≠ [] →
        old = journalText events → old <+: cut → cut <+: after → cut.length ≤ maxJournalBytes →
        recoveredEvents name cut = .ok ((if cut = old ++ event.line then events ++ [event]
          else events).map JournalEvent.fields) := by
  refine ⟨fun hclosed => ?_, partly_appended_of_runs hruns, ?_, ?_⟩
  · have hends := (ensures_append_closed old event.line).runs hclosed
    cases outcome with
    | interrupted => trivial
    | raised error => exact hends.imp_right And.left
    | returned value => exact hends
  · rintro value rfl
    exact (ensures_append_report_journal old event.line).runs hruns
  · intro name events cut hne hevents hold hcut hsize
    rcases partly_appended_cut (partly_appended_of_runs hruns) hold hcut with
      rfl | ⟨count, hcount, rfl⟩
    · have hwhole : old ++ event.line = journalText (events ++ [event]) := by
        simp [hevents, journalText]
      rw [if_pos rfl, hwhole, ← List.append_nil (journalText _)]
      rw [hwhole, ← List.append_nil (journalText _)] at hsize
      exact recovered_events_torn name (by simp) (by simp) hsize
    · have htorn : old ++ event.line.take count ≠ old ++ event.line := by
        intro hsame
        have hlength := congrArg List.length (List.append_cancel_left hsame)
        rw [List.length_take] at hlength
        omega
      rw [if_neg htorn, hevents]
      rw [hevents] at hsize
      exact recovered_events_torn name hne (torn_line_no_newline hcount) hsize

/-! ## Appends that nothing disturbs -/

/-- The answers of a file system on which every call succeeds. -/
def serveJournal (bytes : List Char) : (op : AppendOp) → op.Reply × List Char
  | .fstat | .statName => (.ok { identity := 0, size := bytes.length, isPrivate := true }, bytes)
  | .readByte offset => (.ok bytes[offset]?, bytes)
  | .write payload => (.ok payload.length, bytes ++ payload)
  | .truncate size => (.ok (), bytes.take size)
  | .unlinkReserve => (.ok true, bytes)
  | .openDirectory | .openJournal | .fsync | .verifyDirectory | .fsyncDirectory => (.ok (), bytes)
  | .closeJournal | .closeDirectory => (.ok (), bytes)

/-- The same file system, where the journal fails to close. -/
def serveUnclosed (bytes : List Char) : (op : AppendOp) → op.Reply × List Char
  | .closeJournal => (.error .other, bytes)
  | op => serveJournal bytes op

theorem serve_journal_answers {bytes after : List Char} {op : AppendOp} {reply : op.Reply}
    (h : Program.served serveJournal bytes op reply after) :
    journalAnswers bytes op reply after := by
  cases op with
  | write payload =>
      obtain ⟨rfl, rfl⟩ := Prod.mk.inj h
      exact ⟨Nat.le_refl _, by rw [List.take_length]⟩
  | fstat | readByte offset =>
      obtain ⟨rfl, rfl⟩ := Prod.mk.inj h
      exact ⟨rfl, rfl⟩
  | _ =>
      obtain ⟨rfl, rfl⟩ := Prod.mk.inj h
      rfl

theorem serve_closed_answers {bytes after : List Char} {op : AppendOp} {reply : op.Reply}
    (h : Program.served serveJournal bytes op reply after) :
    closedAnswers bytes op reply after := by
  refine ⟨serve_journal_answers h, fun hop => ?_⟩
  cases op with
  | closeJournal | closeDirectory => exact ⟨_, (Prod.mk.inj h).1.symm⟩
  | _ => cases hop

theorem serve_unclosed_answers {bytes after : List Char} {op : AppendOp} {reply : op.Reply}
    (h : Program.served serveUnclosed bytes op reply after) :
    journalAnswers bytes op reply after := by
  cases op with
  | closeJournal =>
      obtain ⟨rfl, rfl⟩ := Prod.mk.inj h
      rfl
  | _ => exact serve_journal_answers h

/-- The first event of the journal of an install. -/
def installStarted : JournalEvent where
  operationId := String.ofList (List.replicate 32 'a')
  timestamp := "2026-01-01T00:00:00+00:00"
  details := .operationStarted

/-- The event by which a package command of the install starts. -/
def packageStarted : JournalEvent :=
  { installStarted with details := .commandStarted ["dpkg-query", "--show"] false }

/-- An append that returns, with what a truncation to the old bytes would have recovered, and one
whose journal fails to close, which raises `ReportWriteError` behind the whole line. -/
theorem journal_append_atomic_package_started :
    (∃ after, Runs closedAnswers (appendReportJournal packageStarted.line)
        (journalText [installStarted]) (.returned ()) after ∧
      after = journalText [installStarted] ++ packageStarted.line ∧
      recoveredEvents "install.json.journal.jsonl" (journalText [installStarted]) =
        .ok [installStarted.fields]) ∧
    ∃ after, Runs journalAnswers (appendReportJournal packageStarted.line)
        (journalText [installStarted]) (.raised .reportWrite) after ∧
      after = journalText [installStarted] ++ packageStarted.line ∧
      PartlyAppended (journalText [installStarted]) packageStarted.line after := by
  constructor
  · have hreturns : (Program.run serveJournal (appendReportJournal packageStarted.line)
        (journalText [installStarted])).1 = .ok () := by decide +kernel
    have hruns := Program.runs_run serveJournal
      (appendReportJournal packageStarted.line) (journalText [installStarted])
    rw [hreturns] at hruns
    have hclosed := hruns.mono fun _ _ _ _ => serve_closed_answers
    obtain ⟨hall, -, -, hrecovers⟩ := journal_append_atomic (hruns.mono fun _ _ _ _ =>
      serve_journal_answers)
    have hwhole : _ = journalText [installStarted] ++ packageStarted.line := hall hclosed
    have hrecovered := hrecovers "install.json.journal.jsonl" [installStarted]
      (journalText [installStarted]) (List.cons_ne_nil _ _) rfl (List.prefix_refl _)
      (hwhole ▸ List.prefix_append _ _) (by decide +kernel)
    have htorn : journalText [installStarted] ≠
        journalText [installStarted] ++ packageStarted.line := by
      simp [JournalEvent.line]
    rw [if_neg htorn] at hrecovered
    exact ⟨_, hclosed, hwhole, hrecovered⟩
  · have hraises : Program.run serveUnclosed (appendReportJournal packageStarted.line)
        (journalText [installStarted]) =
          (.error .reportWrite, journalText [installStarted] ++ packageStarted.line) := by
      decide +kernel
    have hruns := Program.runs_run serveUnclosed
      (appendReportJournal packageStarted.line) (journalText [installStarted])
    rw [hraises] at hruns
    have hanswered := hruns.mono fun _ _ _ _ => serve_unclosed_answers
    exact ⟨_, hanswered, rfl, (journal_append_atomic hanswered).2.1⟩

/-- An event with an error text of this length. -/
def longError (length : Nat) : JournalEvent :=
  { installStarted with
    details := .reportPersistenceFailed (String.ofList (List.replicate length 'a')) }

/-- An object is at least as long as its first text. -/
theorem length_render_string_field (level : Nat) (key value : String)
    (fields : List (String × Json.Value)) :
    (Json.renderString value).length ≤
      (Json.render none level (.object ((key, .string value) :: fields))).length := by
  cases fields with
  | nil =>
      simp only [Json.render, Json.renderFields, List.cons_append, List.length_cons,
        List.length_append]
      omega
  | cons next rest =>
      simp only [Json.render, Json.renderFields, List.cons_append, List.length_cons,
        List.length_append]
      omega

theorem length_long_error (length : Nat) : length ≤ (longError length).text.length := by
  have hchars : ∀ count, (List.replicate count 'a').flatMap Json.renderChar =
      List.replicate count 'a' := by
    intro count
    induction count with
    | zero => rfl
    | succ count ih => rw [List.replicate_succ, List.flatMap_cons, ih]; rfl
  have hstring : (Json.renderString (String.ofList (List.replicate length 'a'))).length =
      length + 2 := by
    simp [Json.renderString, hchars]
  have hfield := length_render_string_field 0 "error" (String.ofList (List.replicate length 'a'))
    [("event", .string "report-persistence-failed"),
      ("operation_id", .string installStarted.operationId),
      ("timestamp", .string installStarted.timestamp)]
  have htext : length + 2 ≤ (longError length).text.length := hstring ▸ hfield
  omega

theorem length_long_journal (length : Nat) :
    length < (journalText [installStarted, longError length]).length := by
  have hlength := length_long_error length
  simp only [journalText, JournalEvent.line, List.flatMap_cons, List.flatMap_nil,
    List.length_append, List.length_singleton, List.length_nil]
  omega

/-- The reader refuses a journal that the writer let grow too long. -/
theorem recovered_events_too_long (name : String) (h : maxJournalBytes < cut.length) :
    ∃ error, recoveredEvents name cut = .error error := by
  refine ⟨"applied report journal exceeds 8388608 bytes: " ++ name, ?_⟩
  unfold recoveredEvents readPrivateJournal
  simp [refuse, h]
  rfl

/-- A truncation that keeps the whole line recovers an event whose append had not completed, and
a journal that is too long is not recovered at all. -/
theorem whole_line_recovered_before_append_completed :
    ¬ (∀ (name : String) (event : JournalEvent) (events : List JournalEvent)
      (after cut : List Char),
        events.head?.map JournalEvent.details = some .operationStarted →
        Runs journalAnswers (appendReportJournal event.line) (journalText events)
          .interrupted after →
        journalText events <+: cut → cut <+: after → cut.length ≤ maxJournalBytes →
        recoveredEvents name cut = .ok (events.map JournalEvent.fields)) ∧
      ¬ (∀ (name : String) (event : JournalEvent) (events : List JournalEvent)
        (after cut : List Char),
        events.head?.map JournalEvent.details = some .operationStarted →
        Runs journalAnswers (appendReportJournal event.line) (journalText events)
          .interrupted after →
        journalText events <+: cut → cut <+: after → cut ≠ journalText events ++ event.line →
        recoveredEvents name cut = .ok (events.map JournalEvent.fields)) := by
  constructor
  · intro hall
    have hwritten : Program.stopAfter serveJournal 8 (appendReportJournal packageStarted.line)
        (journalText [installStarted]) = journalText [installStarted, packageStarted] := by
      decide +kernel
    have hruns := (Program.runs_stop_after serveJournal 8
      (appendReportJournal packageStarted.line) (journalText [installStarted])).mono
        fun _ _ _ _ => serve_journal_answers
    rw [hwritten] at hruns
    have hsize : (journalText [installStarted, packageStarted]).length ≤ maxJournalBytes := by
      decide +kernel
    have hold : journalText [installStarted] <+: journalText [installStarted, packageStarted] :=
      ⟨packageStarted.line, by simp [journalText]⟩
    have hclaimed := hall "install.json.journal.jsonl" packageStarted [installStarted] _ _ rfl hruns
      hold (List.prefix_refl _) hsize
    rw [← List.append_nil (journalText [installStarted, packageStarted])] at hsize hclaimed
    have hrecovered := recovered_events_torn "install.json.journal.jsonl"
      (List.cons_ne_nil _ _) (fun _ hnone => absurd hnone List.not_mem_nil) hsize
    rw [hclaimed] at hrecovered
    exact absurd (congrArg List.length (Except.ok.inj hrecovered)) (by simp)
  · intro hall
    obtain ⟨length, hlength⟩ : ∃ length, maxJournalBytes ≤ length := ⟨_, Nat.le_refl _⟩
    have hlong := Nat.lt_of_le_of_lt hlength (length_long_journal length)
    have hcut : journalText [installStarted, longError length] ≠
        journalText [installStarted, longError length] ++ packageStarted.line := by
      simp [JournalEvent.line]
    have hclaimed := hall "install.json.journal.jsonl" packageStarted
      [installStarted, longError length] _ _ rfl .interrupted (List.prefix_refl _)
      (List.prefix_refl _) hcut
    obtain ⟨error, herror⟩ := recovered_events_too_long "install.json.journal.jsonl" hlong
    rw [herror] at hclaimed
    cases hclaimed

end NvidiaConverge
