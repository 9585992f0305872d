import NvidiaConverge.Recovery.Bootstrap

/-!
# The parts of the bootstrap

What each part of the bootstrap leaves wherever it is cut off, when it raises, and what it has done
when it returns. A file of the active directory is written once and never touched again, journals
lose only their torn tails, and reports stay as they are.
-/

namespace NvidiaConverge

open Directory (sortedNames)
open Program (Ensures Outcome ending)

variable {disk before after : ReportDisk} {name operationId : String} {payload : List Char}

/-- The environment of the bootstrap: every operation is served by the report directory. -/
abbrev onDisk := Program.served serveDisk

/-! ## One file -/

/-- The directory with one more file, or another one in its place. -/
def ReportDisk.withActive (disk : ReportDisk) (name : String) (file : ActiveFile) : ReportDisk :=
  { disk with active := disk.active.insert name file }

theorem lookup_with_active {file : ActiveFile} :
    (disk.withActive name file).active.lookup name = some file :=
  AList.lookup_insert _

theorem lookup_with_active_ne {file : ActiveFile} {other : String} (h : other ≠ name) :
    (disk.withActive name file).active.lookup other = disk.active.lookup other :=
  AList.lookup_insert_ne h

/-- A change of the file that was put into the active directory is a change of what was put. -/
theorem update_with_active {file : ActiveFile} {f : ActiveFile → ActiveFile} :
    (disk.withActive name file).updateActive name f = disk.withActive name (f file) := by
  rw [ReportDisk.updateActive, lookup_with_active]
  show { disk with active := (disk.active.insert name file).insert name (f file) } = _
  rw [AList.insert_insert]
  rfl

/-- Every part of a text may be what an interrupted write leaves. -/
theorem ensures_append_all {rest : List Char} (text : List Char)
    {post : Outcome String Unit → ReportDisk → Prop}
    (hpart : ∀ count, post .interrupted (disk.withActive name { text := text ++ rest.take count }))
    (hwhole : post (.returned ()) (disk.withActive name { text := text ++ rest })) :
    Ensures onDisk post (appendAll name rest) (disk.withActive name { text }) := by
  induction rest generalizing text with
  | nil =>
      have hstart := hpart 0
      rw [List.take_nil, List.append_nil] at hstart
      rw [List.append_nil] at hwhole
      exact Program.ensures_pure.mpr ⟨hstart, hwhole⟩
  | cons byte rest ih =>
      have hstart := hpart 0
      rw [List.take_zero, List.append_nil] at hstart
      have hnext : Ensures onDisk post (appendAll name rest)
          (disk.withActive name { text := text ++ [byte] }) := by
        refine ih (text ++ [byte]) (fun count => ?_) ?_
        · have := hpart (count + 1)
          rwa [List.take_succ_cons, List.append_cons] at this
        · rwa [List.append_cons] at hwhole
      refine Program.ensures_bind.mpr
        ((Program.ensures_perform_served (DiskOp.appendActive name byte)).mpr ?_)
      simp only [serveDisk, update_with_active]
      exact ⟨hstart, hnext.start, hnext⟩

/-- Writing a new file leaves a part of it where the run stops, and all of it, flushed, at the
end. -/
theorem ensures_write_active {post : Outcome String Unit → ReportDisk → Prop}
    (hpart : ∀ count, post .interrupted (disk.withActive name { text := payload.take count }))
    (hwritten : post .interrupted (disk.withActive name { text := payload, written := true }))
    (hwhole : post (.returned ()) (disk.withActive name { text := payload, written := true })) :
    Ensures onDisk post (writeActiveFile name payload) (disk.withActive name {}) := by
  have hflush : Ensures onDisk post (Disk.syncActiveFile name)
      (disk.withActive name { text := payload }) := by
    refine (Program.ensures_perform_served (DiskOp.syncActiveFile name)).mpr ?_
    have hunflushed := hpart payload.length
    rw [List.take_length] at hunflushed
    simp only [serveDisk, update_with_active]
    exact ⟨hunflushed, hwritten, hwhole⟩
  exact Program.ensures_bind.mpr (ensures_append_all [] hpart hflush)

/-- The text of a file of the active directory. -/
def ReportDisk.text (disk : ReportDisk) (name : String) : Option (List Char) :=
  (disk.active.lookup name).map (·.text)

/-- The check for the sentinel changes nothing, and returns whether it is there with the right
text. -/
theorem ensures_active_index_present {post : Outcome String Bool → ReportDisk → Prop}
    (hstart : post .interrupted disk)
    (habsent : disk.text activeJournalIndexName = none → post (.returned false) disk)
    (hpresent : disk.text activeJournalIndexName = some activeIndexText →
      post (.returned true) disk)
    (hinvalid : ∀ error text, disk.text activeJournalIndexName = some text →
      text ≠ activeIndexText → post (.raised error) disk) :
    Ensures onDisk post activeIndexPresent disk := by
  refine Program.ensures_bind.mpr
    ((Program.ensures_perform_served (DiskOp.readActive activeJournalIndexName)).mpr
      ⟨hstart, hstart, ?_⟩)
  have hreply : (serveDisk disk (.readActive activeJournalIndexName)).1 =
      disk.text activeJournalIndexName := rfl
  rw [hreply]
  cases htext : disk.text activeJournalIndexName with
  | none => exact Program.ensures_pure.mpr ⟨hstart, habsent htext⟩
  | some text =>
      refine Program.ensures_bind.mpr (Program.ensures_raise_if.mpr ⟨hstart, ?_, ?_⟩)
      · exact fun hne => hinvalid _ text htext hne
      · intro heq
        rw [not_not] at heq
        exact Program.ensures_pure.mpr ⟨hstart, hpresent (heq ▸ htext)⟩

/-- A new file, wherever writing it is cut off. -/
structure PartOf (file : ActiveFile) (payload : List Char) : Prop where
  text : file.text <+: payload
  written : file.written = true → file.text = payload

theorem part_of_take (payload : List Char) (count : Nat) :
    PartOf { text := payload.take count } payload :=
  ⟨List.take_prefix count payload, fun hwritten => Bool.noConfusion hwritten⟩

theorem part_of_written (payload : List Char) :
    PartOf { text := payload, written := true } payload :=
  ⟨List.prefix_refl payload, fun _ => rfl⟩

theorem part_of_empty (payload : List Char) : PartOf {} payload :=
  ⟨List.nil_prefix, fun hwritten => Bool.noConfusion hwritten⟩

theorem serve_create_absent (h : disk.text name = none) :
    serveDisk disk (.createActive name) = (true, disk.withActive name {}) := by
  rw [ReportDisk.text, Option.map_eq_none_iff] at h
  exact if_pos h

theorem serve_create_present {text : List Char} (h : disk.text name = some text) :
    serveDisk disk (.createActive name) = (false, disk) := by
  obtain ⟨file, hfile, -⟩ := Option.map_eq_some_iff.mp h
  exact if_neg (by simp [hfile])

/-- The rule of creating a file exclusively, for a name that is free and for one that is taken. -/
theorem ensures_create_active {post : Outcome String Bool → ReportDisk → Prop}
    (hstart : post .interrupted disk)
    (hcreated : disk.text name = none →
      post .interrupted (disk.withActive name {}) ∧ post (.returned true) (disk.withActive name {}))
    (hexists : ∀ text, disk.text name = some text → post (.returned false) disk) :
    Ensures onDisk post (Disk.createActive name) disk := by
  refine (Program.ensures_perform_served (DiskOp.createActive name)).mpr ⟨hstart, ?_⟩
  cases htext : disk.text name with
  | none =>
      rw [serve_create_absent htext]
      exact hcreated htext
  | some text =>
      rw [serve_create_present htext]
      exact ⟨hstart, hexists text htext⟩

/-- `_ensure_active_marker` writes a marker that is not there, and accepts the one that is. -/
theorem ensures_marker_file {post : Outcome String Unit → ReportDisk → Prop}
    (hstart : post .interrupted disk)
    (hpart : disk.text name = none → ∀ file, PartOf file (activeMarkerPayload name operationId) →
      post .interrupted (disk.withActive name file))
    (hnew : disk.text name = none → post (.returned ())
      (disk.withActive name { text := activeMarkerPayload name operationId, written := true }))
    (hthere : disk.text name = some (activeMarkerPayload name operationId) →
      post (.returned ()) disk)
    (hconflict : ∀ error text, disk.text name = some text →
      text ≠ activeMarkerPayload name operationId → post (.raised error) disk) :
    Ensures onDisk post (ensureMarkerFile name operationId) disk := by
  refine Program.ensures_bind.mpr (ensures_create_active hstart ?_ ?_)
  · intro hnone
    have hempty := hpart hnone {} (part_of_empty _)
    have hwrite : Ensures onDisk post
        (writeActiveFile name (activeMarkerPayload name operationId)) (disk.withActive name {}) :=
      ensures_write_active (fun count => hpart hnone _ (part_of_take _ count))
        (hpart hnone _ (part_of_written _)) (hnew hnone)
    exact ⟨hempty, by simpa only [Program.before, if_true] using hwrite⟩
  · intro text hsome
    refine Program.ensures_bind.mpr
      ((Program.ensures_perform_served (DiskOp.readActive name)).mpr ⟨hstart, hstart, ?_⟩)
    show Ensures onDisk post (Program.raiseIf (disk.text name ≠ _) _) disk
    refine Program.ensures_raise_if.mpr ⟨hstart, fun hne => ?_, fun heq => ?_⟩
    · exact hconflict _ text hsome fun heq => hne (heq ▸ hsome)
    · exact hthere (not_not.mp heq)

/-- `_create_active_index` behind a marker directory without an index. -/
theorem ensures_create_index {post : Outcome String Unit → ReportDisk → Prop}
    (hnone : disk.text activeJournalIndexName = none) (hstart : post .interrupted disk)
    (hpart : ∀ file, PartOf file activeIndexText →
      post .interrupted (disk.withActive activeJournalIndexName file))
    (hnew : post (.returned ())
      (disk.withActive activeJournalIndexName { text := activeIndexText, written := true })) :
    Ensures onDisk post createActiveIndex disk := by
  have hcreate : Ensures onDisk post (do
      if ← Disk.createActive activeJournalIndexName then
        writeActiveFile activeJournalIndexName activeIndexText
      else do
        let present ← activeIndexPresent
        Program.raiseIf (present = false) "active recovery journal index is invalid") disk := by
    refine Program.ensures_bind.mpr (ensures_create_active hstart ?_ ?_)
    · intro _
      have hempty := hpart {} (part_of_empty _)
      have hwrite : Ensures onDisk post (writeActiveFile activeJournalIndexName activeIndexText)
          (disk.withActive activeJournalIndexName {}) :=
        ensures_write_active (fun count => hpart _ (part_of_take _ count))
          (hpart _ (part_of_written _)) hnew
      exact ⟨hempty, by simpa only [Program.before, if_true] using hwrite⟩
    · intro text hsome
      exact absurd (hnone.symm.trans hsome) (by simp)
  refine Program.ensures_bind.mpr (ensures_active_index_present hstart ?_ ?_ ?_)
  · exact fun _ => hcreate
  · exact fun hsome => absurd (hnone.symm.trans hsome) (by simp)
  · exact fun _ _ hsome => absurd (hnone.symm.trans hsome) (by simp)

/-! ## The journals -/

/-- The journal's file without its torn tail. -/
def JournalFile.whole (file : JournalFile) : JournalFile :=
  { file with torn := 0 }

/-- Some torn tails are gone, and nothing else. -/
structure Repaired (before after : ReportDisk) : Prop where
  frame : after = { before with journals := after.journals }
  journals : ∀ name, (after.journals.lookup name).map JournalFile.whole =
    (before.journals.lookup name).map JournalFile.whole
  shorter : ∀ name file left, before.journals.lookup name = some file →
    after.journals.lookup name = some left → left.torn ≤ file.torn

theorem Repaired.refl (disk : ReportDisk) : Repaired disk disk where
  frame := rfl
  journals _ := rfl
  shorter _ _ _ hfile hleft := by rw [Option.some.inj (hleft.symm.trans hfile)]

theorem Repaired.trans {middle : ReportDisk} (h : Repaired before middle)
    (h' : Repaired middle after) : Repaired before after where
  frame := by rw [h'.frame, h.frame]
  journals name := (h'.journals name).trans (h.journals name)
  shorter name file left hfile hleft := by
    have hsame := h.journals name
    rw [hfile] at hsame
    obtain ⟨found, hfound, -⟩ := Option.map_eq_some_iff.mp hsame
    exact (h'.shorter name found left hfound hleft).trans (h.shorter name file found hfile hfound)

theorem truncate_eq {file : JournalFile} (h : disk.journals.lookup name = some file) :
    disk.truncate name = { disk with journals := disk.journals.insert name file.whole } := by
  rw [ReportDisk.truncate, h]
  rfl

theorem repaired_truncate {file : JournalFile} (h : disk.journals.lookup name = some file) :
    Repaired disk (disk.truncate name) := by
  rw [truncate_eq h]
  refine ⟨rfl, fun other => ?_, fun other found left hfound hleft => ?_⟩
  · by_cases hother : other = name
    · subst hother
      show ((disk.journals.insert other file.whole).lookup other).map _ = _
      rw [AList.lookup_insert, h]
      rfl
    · show ((disk.journals.insert name file.whole).lookup other).map _ = _
      rw [AList.lookup_insert_ne hother]
  · rcases Directory.lookup_insert_eq_some hleft with ⟨-, rfl⟩ | ⟨-, hsame⟩
    · exact Nat.zero_le _
    · rw [Option.some.inj (hsame.symm.trans hfound)]

/-- What the first loop reads: every journal within the limits, parsed. -/
def legacyJournals (disk : ReportDisk) : Nat → List String →
    Except String (List (String × ParsedJournal))
  | _, [] => pure []
  | total, name :: rest =>
      match disk.journals.lookup name with
      | none => throw ("cannot open applied report journal " ++ name)
      | some file => do
          Result.refuse (maxJournalBytes < file.length)
            ("applied report journal exceeds 8388608 bytes: " ++ name)
          Result.refuse (maxLegacyJournalTotalBytes < total + file.length)
            ("legacy applied journal history exceeds the bounded index bootstrap byte limit; " ++
              "archive preserved terminal journals offline before retrying")
          let parsed ← parseJournal name file.events
          let others ← legacyJournals disk (total + file.length) rest
          pure ((name, parsed) :: others)

theorem legacy_journals_congr {names : List String} {total : Nat}
    (h : ∀ name ∈ names, after.journals.lookup name = before.journals.lookup name) :
    legacyJournals after total names = legacyJournals before total names := by
  induction names generalizing total with
  | nil => rfl
  | cons name rest ih =>
      have hrest : ∀ total, legacyJournals after total rest = legacyJournals before total rest :=
        fun total => ih fun other hother => h other (List.mem_cons_of_mem _ hother)
      unfold legacyJournals
      rw [h name List.mem_cons_self]
      simp only [hrest]

/-- The first of several journals is read and parsed within its bounds, and then the others are. -/
theorem legacy_journals_cons_ok {names : List String} {total : Nat}
    {journals : List (String × ParsedJournal)} :
    legacyJournals disk total (name :: names) = .ok journals ↔
      ∃ file parsed others, disk.journals.lookup name = some file ∧
        file.length ≤ maxJournalBytes ∧ total + file.length ≤ maxLegacyJournalTotalBytes ∧
        parseJournal name file.events = .ok parsed ∧
        legacyJournals disk (total + file.length) names = .ok others ∧
        journals = (name, parsed) :: others := by
  rw [legacyJournals]
  cases hlookup : disk.journals.lookup name with
  | none =>
      constructor
      · intro h
        cases h
      · rintro ⟨_, _, _, hfile, -⟩
        cases hfile
  | some file =>
      rw [Result.check_bind_eq_ok, Result.check_bind_eq_ok, Result.refuse_eq_ok,
        Result.refuse_eq_ok, not_lt, not_lt]
      constructor
      · rintro ⟨hsize, htotal, h⟩
        obtain ⟨parsed, hparse, h⟩ := Result.bind_eq_ok.mp h
        obtain ⟨others, hothers, h⟩ := Result.bind_eq_ok.mp h
        exact ⟨file, parsed, others, rfl, hsize, htotal, hparse, hothers,
          (Result.pure_eq_ok.mp h).symm⟩
      · rintro ⟨found, parsed, others, hfound, hsize, htotal, hparse, hothers, rfl⟩
        obtain rfl := Option.some.inj hfound
        refine ⟨hsize, htotal, Result.bind_eq_ok.mpr ⟨parsed, hparse, ?_⟩⟩
        exact Result.bind_eq_ok.mpr ⟨others, hothers, rfl⟩

/-- The first loop repairs what it reads, and raises exactly when it cannot read everything. -/
def readingEnds (disk : ReportDisk) (total : Nat) (names : List String) :
    Outcome String (List (String × ParsedJournal)) → ReportDisk → Prop :=
  ending (Repaired disk)
    (fun _ left => Repaired disk left ∧ ∀ journals, legacyJournals disk total names ≠ .ok journals)
    (fun journals left => Repaired disk left ∧ legacyJournals disk total names = .ok journals)

/-- The first loop ends as `legacyJournals` says, with a repair of the directory at every point. -/
theorem ensures_read_journals {names : List String} (total : Nat) (hnodup : names.Nodup) :
    Ensures onDisk (readingEnds disk total names) (readLegacyJournals total names) disk := by
  induction names generalizing total disk with
  | nil => exact Program.ensures_pure.mpr ⟨.refl disk, .refl disk, rfl⟩
  | cons name rest ih =>
      obtain ⟨hfresh, hrest⟩ := List.nodup_cons.mp hnodup
      refine Program.ensures_bind.mpr
        ((Program.ensures_perform_served (DiskOp.readJournal name)).mpr
          ⟨.refl disk, .refl disk, ?_⟩)
      show Ensures onDisk _ (match disk.journals.lookup name with
        | none => _
        | some file => _) disk
      cases hlookup : disk.journals.lookup name with
      | none =>
          refine Program.ensures_raise.mpr ⟨.refl disk, .refl disk, fun journals h => ?_⟩
          obtain ⟨_, _, _, hfile, -⟩ := legacy_journals_cons_ok.mp h
          exact Option.some_ne_none _ (hfile.symm.trans hlookup)
      | some file =>
          refine Program.ensures_bind.mpr (Program.ensures_raise_if.mpr ⟨.refl disk, ?_, ?_⟩)
          · refine fun hsize => ⟨.refl disk, fun journals h => ?_⟩
            obtain ⟨found, _, _, hfile, hle, -⟩ := legacy_journals_cons_ok.mp h
            obtain rfl := Option.some.inj (hfile.symm.trans hlookup)
            omega
          intro hsize
          refine Program.ensures_bind.mpr (Program.ensures_raise_if.mpr ⟨.refl disk, ?_, ?_⟩)
          · refine fun htotal => ⟨.refl disk, fun journals h => ?_⟩
            obtain ⟨found, _, _, hfile, -, hle, -⟩ := legacy_journals_cons_ok.mp h
            obtain rfl := Option.some.inj (hfile.symm.trans hlookup)
            omega
          intro htotal
          refine Program.ensures_bind.mpr (Program.ensures_of_except.mpr ⟨.refl disk, ?_, ?_⟩)
          · intro parsed hparse
            -- The rest reads the same journals, whether this one was repaired or not.
            have hloop : ∀ repaired, Repaired disk repaired →
                (∀ other ∈ rest, repaired.journals.lookup other = disk.journals.lookup other) →
                Ensures onDisk (readingEnds disk total (name :: rest)) (do
                  let others ← readLegacyJournals (total + file.length) rest
                  pure ((name, parsed) :: others)) repaired := by
              intro repaired hrepaired hsame
              have hcongr := @legacy_journals_congr disk repaired rest (total + file.length) hsame
              refine (ih (total + file.length) hrest).bind (fun left h => hrepaired.trans h)
                (fun error left h => ⟨hrepaired.trans h.1, fun journals hall => ?_⟩)
                (fun others left h => Program.ensures_pure.mpr
                  ⟨hrepaired.trans h.1, hrepaired.trans h.1, ?_⟩)
              · obtain ⟨found, _, others, hfile, -, -, -, hothers, -⟩ :=
                  legacy_journals_cons_ok.mp hall
                obtain rfl := Option.some.inj (hfile.symm.trans hlookup)
                exact h.2 others (hcongr.trans hothers)
              · exact legacy_journals_cons_ok.mpr ⟨file, parsed, others, hlookup, not_lt.mp hsize,
                  not_lt.mp htotal, hparse, hcongr.symm.trans h.2, rfl⟩
            have hwhole := hloop disk (.refl disk) fun _ _ => rfl
            show Ensures onDisk _
              (if file.torn ≠ 0 then Disk.truncateJournal name >>= _ else _) disk
            split
            · have hrepaired := repaired_truncate hlookup
              have hsame : ∀ other ∈ rest,
                  (disk.truncate name).journals.lookup other = disk.journals.lookup other := by
                intro other hother
                rw [truncate_eq hlookup]
                exact AList.lookup_insert_ne fun heq => hfresh (heq ▸ hother)
              have hnext := hloop (disk.truncate name) hrepaired hsame
              refine Program.ensures_bind.mpr
                ((Program.ensures_perform_served (DiskOp.truncateJournal name)).mpr ?_)
              exact ⟨.refl disk, hrepaired, hnext⟩
            · exact hwhole
          · refine fun error herror => ⟨.refl disk, fun journals h => ?_⟩
            obtain ⟨found, _, _, hfile, -, -, hparse, -⟩ := legacy_journals_cons_ok.mp h
            obtain rfl := Option.some.inj (hfile.symm.trans hlookup)
            rw [herror] at hparse
            cases hparse

/-! ## The completed operations -/

/-- Reading a final report changes nothing, and returns what `completionHasFinalReport` says. -/
theorem ensures_final_report (entry : String × ParsedJournal) :
    Ensures onDisk
      (ending (· = disk) (fun _ _ => False)
        (fun complete left => left = disk ∧
          complete = completionHasFinalReport disk.store entry.1 entry.2))
      (readFinalReport entry) disk := by
  obtain ⟨name, parsed⟩ := entry
  unfold readFinalReport completionHasFinalReport hasFinalReport
  cases parsed.completion with
  | none => exact Program.ensures_pure.mpr ⟨rfl, rfl, rfl⟩
  | some completion =>
      by_cases hopen : completion.incomplete = true ∨ parsed.persistenceFailed = true
      · simp only [if_pos hopen]
        refine Program.ensures_pure.mpr ⟨rfl, rfl, ?_⟩
        rcases hopen with hopen | hopen <;> simp [hopen]
      · simp only [if_neg hopen]
        refine Program.ensures_bind.mpr
          ((Program.ensures_perform_served (DiskOp.readReport (reportName name))).mpr
            ⟨rfl, rfl, ?_⟩)
        have hreply : (serveDisk disk (.readReport (reportName name))).1 =
            disk.reports.lookup (reportName name) := rfl
        rw [hreply]
        rw [not_or, Bool.not_eq_true, Bool.not_eq_true] at hopen
        have hlookup : disk.store.reports.lookup (reportName name) =
            disk.reports.lookup (reportName name) := rfl
        cases hreport : disk.reports.lookup (reportName name) with
        | none =>
            refine Program.ensures_pure.mpr ⟨rfl, rfl, ?_⟩
            simp [hlookup, hreport]
        | some report =>
            refine Program.ensures_pure.mpr ⟨rfl, rfl, ?_⟩
            simp [hlookup, hreport, hopen.1, hopen.2, AppliedReport.final]

/-- The set `completed` that is read is the one that the store determines, and nothing changes. -/
theorem ensures_read_completed (journals : List (String × ParsedJournal)) :
    Ensures onDisk
      (ending (· = disk) (fun _ _ => False)
        (fun completed left => left = disk ∧
          completed = completedOperations disk.store journals))
      (readCompleted journals) disk := by
  induction journals with
  | nil => exact Program.ensures_pure.mpr ⟨rfl, rfl, rfl⟩
  | cons entry rest ih =>
      refine (ensures_final_report entry).bind (fun _ h => h) (fun _ _ h => h) ?_
      rintro complete _ ⟨rfl, rfl⟩
      refine ih.bind (fun _ h => h) (fun _ _ h => h) ?_
      rintro completed _ ⟨rfl, rfl⟩
      refine Program.ensures_pure.mpr ⟨rfl, rfl, ?_⟩
      unfold completedOperations
      split
      · next hcomplete => rw [List.filter_cons_of_pos (by exact hcomplete), List.map_cons]
      · next hcomplete => rw [List.filter_cons_of_neg (by exact hcomplete)]

/-! ## The markers -/

/-- The journals that get a marker: those that are not terminal. -/
def activeJournals (completed : List String) (journals : List (String × ParsedJournal)) :
    List (String × ParsedJournal) :=
  journals.filter fun entry => !isTerminal completed entry.2

/-- Whether the loop cleans up behind a terminal journal. -/
def cleansUp (completed : List String) (parsed : ParsedJournal) : Prop :=
  isTerminal completed parsed = true ∧ parsed.operation = none ∧
    parsed.privateSnapshotArtifactsPossible = true

instance (completed : List String) (parsed : ParsedJournal) :
    Decidable (cleansUp completed parsed) :=
  inferInstanceAs (Decidable (_ ∧ _))

/-- The bound snapshots after the cleanups, if each finds the authority it preserves. -/
def cleanups (completed : List String) (bound : List String)
    (journals : List (String × ParsedJournal)) : Option (List String) :=
  journals.foldlM (fun bound entry =>
    if cleansUp completed entry.2 then
      cleanArtifacts bound entry.2.operationId entry.2.snapshotBindingPresent
    else some bound) bound

/-- Markers were created, and nothing that was there was touched. -/
structure MarkedSoFar (completed : List String) (journals : List (String × ParsedJournal))
    (before after : ReportDisk) : Prop where
  frame : after = { before with bound := after.bound, active := after.active }
  old : ∀ name file, before.active.lookup name = some file →
    after.active.lookup name = some file
  new : ∀ name file, before.active.lookup name = none → after.active.lookup name = some file →
    ∃ parsed, (name, parsed) ∈ activeJournals completed journals ∧
      PartOf file (activeMarkerPayload name parsed.operationId)

/-- The second loop can mark every active journal: markers that are there agree, and cleanups
succeed. -/
structure Markable (completed : List String) (count : Nat)
    (journals : List (String × ParsedJournal)) (disk : ReportDisk) : Prop where
  agree : ∀ name parsed text, (name, parsed) ∈ activeJournals completed journals →
    disk.text name = some text → text = activeMarkerPayload name parsed.operationId
  count : count + (activeJournals completed journals).length ≤ maxRecoveryJournals
  clean : cleanups completed disk.bound journals ≠ none

/-- Every active journal has its marker; the new ones are flushed. -/
structure AllMarked (completed : List String) (journals : List (String × ParsedJournal))
    (before after : ReportDisk) : Prop where
  marked : MarkedSoFar completed journals before after
  all : ∀ name parsed, (name, parsed) ∈ activeJournals completed journals →
    ∃ file, after.active.lookup name = some file ∧
      file.text = activeMarkerPayload name parsed.operationId ∧
      (before.active.lookup name = none → file.written = true)
  bound : cleanups completed before.bound journals = some after.bound

/-- The points at which the second loop may stop, fail or return, by the markers written so far. -/
def markingEnds (completed : List String) (count : Nat)
    (journals : List (String × ParsedJournal)) (disk : ReportDisk) :
    Outcome String Unit → ReportDisk → Prop :=
  ending (MarkedSoFar completed journals disk)
    (fun _ left => MarkedSoFar completed journals disk left ∧
      ¬ Markable completed count journals disk)
    (fun _ left => AllMarked completed journals disk left ∧ Markable completed count journals disk)

section Marking

variable {completed : List String} {count : Nat} {parsed : ParsedJournal} {file : ActiveFile}
  {rest : List (String × ParsedJournal)} {left : ReportDisk}

theorem active_journals_terminal (h : isTerminal completed parsed = true) :
    activeJournals completed ((name, parsed) :: rest) = activeJournals completed rest :=
  List.filter_cons_of_neg (by simp [h])

theorem active_journals_active (h : isTerminal completed parsed = false) :
    activeJournals completed ((name, parsed) :: rest) =
      (name, parsed) :: activeJournals completed rest :=
  List.filter_cons_of_pos (by simp [h])

/-- The name of an active journal is one of the names. -/
theorem mem_of_active (h : (name, parsed) ∈ activeJournals completed rest) :
    name ∈ rest.map Prod.fst :=
  List.mem_map_of_mem (List.mem_of_mem_filter h)

theorem MarkedSoFar.refl (completed : List String) (journals : List (String × ParsedJournal))
    (disk : ReportDisk) : MarkedSoFar completed journals disk disk where
  frame := rfl
  old _ _ h := h
  new _ _ hnone hsome := absurd (hnone.symm.trans hsome) (by simp)

/-! ### A terminal journal -/

/-- Markers so far behind a terminal journal are markers so far of the whole list. -/
theorem MarkedSoFar.terminal {bound : List String} (hterminal : isTerminal completed parsed = true)
    (h : MarkedSoFar completed rest { disk with bound } left) :
    MarkedSoFar completed ((name, parsed) :: rest) disk left where
  frame := h.frame
  old := h.old
  new other file hnone hsome := by
    rw [active_journals_terminal hterminal]
    exact h.new other file hnone hsome

/-- Behind a terminal journal the loop can mark the list exactly when it can mark the rest. -/
theorem markable_terminal {bound : List String} (hterminal : isTerminal completed parsed = true)
    (hclean : (if cleansUp completed parsed then
      cleanArtifacts disk.bound parsed.operationId parsed.snapshotBindingPresent
      else some disk.bound) = some bound) :
    Markable completed count ((name, parsed) :: rest) disk ↔
      Markable completed count rest { disk with bound } := by
  have hcleanups : cleanups completed disk.bound ((name, parsed) :: rest) =
      cleanups completed bound rest := by
    rw [cleanups, List.foldlM_cons]
    simp only [hclean]
    rfl
  constructor
  · rintro ⟨hagree, hcount, hbound⟩
    rw [active_journals_terminal hterminal] at hagree hcount
    exact ⟨hagree, hcount, hcleanups ▸ hbound⟩
  · rintro ⟨hagree, hcount, hbound⟩
    refine ⟨?_, ?_, hcleanups.symm ▸ hbound⟩
    · rw [active_journals_terminal hterminal]
      exact hagree
    · rw [active_journals_terminal hterminal]
      exact hcount

theorem AllMarked.terminal {bound : List String} (hterminal : isTerminal completed parsed = true)
    (hclean : (if cleansUp completed parsed then
      cleanArtifacts disk.bound parsed.operationId parsed.snapshotBindingPresent
      else some disk.bound) = some bound)
    (h : AllMarked completed rest { disk with bound } left) :
    AllMarked completed ((name, parsed) :: rest) disk left where
  marked := h.marked.terminal hterminal
  all other found hmem := by
    rw [active_journals_terminal hterminal] at hmem
    exact h.all other found hmem
  bound := by
    rw [cleanups, List.foldlM_cons]
    simp only [hclean]
    exact h.bound

/-! ### An active journal -/

/-- Markers so far behind a journal that had its marker are markers so far of the whole list. -/
theorem MarkedSoFar.there (hactive : isTerminal completed parsed = false)
    (h : MarkedSoFar completed rest disk left) :
    MarkedSoFar completed ((name, parsed) :: rest) disk left where
  frame := h.frame
  old := h.old
  new other file hnone hsome := by
    rw [active_journals_active hactive]
    obtain ⟨found, hmem, hpart⟩ := h.new other file hnone hsome
    exact ⟨found, List.mem_cons_of_mem _ hmem, hpart⟩

/-- A marker that was written before the rest of the loop. -/
theorem MarkedSoFar.written (hactive : isTerminal completed parsed = false)
    (hnone : disk.active.lookup name = none)
    (hpart : PartOf file (activeMarkerPayload name parsed.operationId))
    (h : MarkedSoFar completed rest (disk.withActive name file) left) :
    MarkedSoFar completed ((name, parsed) :: rest) disk left where
  frame := h.frame
  old other found hfound := by
    have hother : other ≠ name := by
      rintro rfl
      exact Option.some_ne_none _ (hfound.symm.trans hnone)
    exact h.old other found ((lookup_with_active_ne hother).trans hfound)
  new other found hnone' hsome := by
    rw [active_journals_active hactive]
    by_cases hother : other = name
    · subst hother
      have hkept := h.old other file lookup_with_active
      rw [← Option.some.inj (hkept.symm.trans hsome)]
      exact ⟨parsed, List.mem_cons_self, hpart⟩
    · obtain ⟨owner, hmem, hpart⟩ :=
        h.new other found ((lookup_with_active_ne hother).trans hnone') hsome
      exact ⟨owner, List.mem_cons_of_mem _ hmem, hpart⟩

theorem cleanups_active (hactive : isTerminal completed parsed = false) {bound : List String} :
    cleanups completed bound ((name, parsed) :: rest) = cleanups completed bound rest := by
  have hkeep : ¬ cleansUp completed parsed := by
    rintro ⟨hterminal, -⟩
    rw [hactive] at hterminal
    cases hterminal
  rw [cleanups, List.foldlM_cons]
  simp only [if_neg hkeep]
  rfl

/-- Behind an active journal the loop can mark the list exactly when it can mark the rest. -/
theorem markable_active {state : ReportDisk} (hactive : isTerminal completed parsed = false)
    (hagree : ∀ text, disk.text name = some text →
      text = activeMarkerPayload name parsed.operationId)
    (hsame : ∀ other, other ∈ rest.map Prod.fst → state.text other = disk.text other)
    (hbound : state.bound = disk.bound) :
    Markable completed count ((name, parsed) :: rest) disk ↔
      Markable completed (count + 1) rest state := by
  constructor
  · rintro ⟨hall, hcount, hclean⟩
    rw [active_journals_active hactive] at hall hcount
    rw [cleanups_active hactive] at hclean
    refine ⟨fun other found text hmem htext => ?_, ?_, hbound ▸ hclean⟩
    · rw [hsame other (mem_of_active hmem)] at htext
      exact hall other found text (List.mem_cons_of_mem _ hmem) htext
    · rw [List.length_cons] at hcount
      omega
  · rintro ⟨hall, hcount, hclean⟩
    refine ⟨fun other found text hmem htext => ?_, ?_, ?_⟩
    · rw [active_journals_active hactive] at hmem
      rcases List.mem_cons.mp hmem with heq | hmem
      · obtain ⟨rfl, rfl⟩ := Prod.mk.inj heq
        exact hagree text htext
      · exact hall other found text hmem ((hsame other (mem_of_active hmem)).trans htext)
    · rw [active_journals_active hactive, List.length_cons]
      omega
    · rw [cleanups_active hactive]
      exact hbound ▸ hclean

/-- A list is all marked when its first journal had its marker already and the rest is all
marked. -/
theorem AllMarked.there (hactive : isTerminal completed parsed = false)
    (htext : disk.text name = some (activeMarkerPayload name parsed.operationId))
    (h : AllMarked completed rest disk left) :
    AllMarked completed ((name, parsed) :: rest) disk left where
  marked := h.marked.there hactive
  all other found hmem := by
    rw [active_journals_active hactive] at hmem
    rcases List.mem_cons.mp hmem with heq | hmem
    · obtain ⟨rfl, rfl⟩ := Prod.mk.inj heq
      obtain ⟨file, hfile, hpayload⟩ := Option.map_eq_some_iff.mp htext
      refine ⟨file, h.marked.old other file hfile, hpayload, fun hnone => ?_⟩
      exact absurd (hfile.symm.trans hnone) (Option.some_ne_none file)
    · exact h.all other found hmem
  bound := (cleanups_active hactive).trans h.bound

/-- A list is all marked when the loop wrote the first marker and then marked the rest. -/
theorem AllMarked.written (hactive : isTerminal completed parsed = false)
    (hnone : disk.active.lookup name = none)
    (h : AllMarked completed rest (disk.withActive name
      { text := activeMarkerPayload name parsed.operationId, written := true }) left) :
    AllMarked completed ((name, parsed) :: rest) disk left where
  marked := h.marked.written hactive hnone (part_of_written _)
  all other found hmem := by
    rw [active_journals_active hactive] at hmem
    rcases List.mem_cons.mp hmem with heq | hmem
    · obtain ⟨rfl, rfl⟩ := Prod.mk.inj heq
      exact ⟨_, h.marked.old other _ lookup_with_active, rfl, fun _ => rfl⟩
    · obtain ⟨file, hfile, htext, hwritten⟩ := h.all other found hmem
      refine ⟨file, hfile, htext, fun hother => ?_⟩
      by_cases heq : other = name
      · subst heq
        have hkept := h.marked.old other _ lookup_with_active
        rw [Option.some.inj (hfile.symm.trans hkept)]
      · exact hwritten ((lookup_with_active_ne heq).trans hother)
  bound := (cleanups_active hactive).trans h.bound

theorem text_eq_none : disk.text name = none ↔ disk.active.lookup name = none :=
  Option.map_eq_none_iff

/-- The loop behind an active journal: its marker, then the rest. -/
theorem ensures_mark_active_journal (hactive : isTerminal completed parsed = false)
    (hfresh : name ∉ rest.map Prod.fst)
    (ih : ∀ disk, Ensures onDisk (markingEnds completed (count + 1) rest disk)
      (markActiveJournals completed (count + 1) rest) disk) :
    Ensures onDisk (markingEnds completed count ((name, parsed) :: rest) disk)
      (ensureMarkerFile name parsed.operationId >>= fun _ =>
        markActiveJournals completed (count + 1) rest) disk := by
  refine Program.ensures_bind.mpr (ensures_marker_file (.refl _ _ disk) ?_ ?_ ?_ ?_)
  · intro hnone file hpart
    exact (MarkedSoFar.refl completed rest _).written hactive (text_eq_none.mp hnone) hpart
  · intro hnone
    have hlookup := text_eq_none.mp hnone
    have hsame : ∀ other, other ∈ rest.map Prod.fst →
        (disk.withActive name
          { text := activeMarkerPayload name parsed.operationId, written := true }).text other =
          disk.text other := by
      intro other hother
      have hne : other ≠ name := by
        rintro rfl
        exact hfresh hother
      rw [ReportDisk.text, lookup_with_active_ne hne]
      rfl
    have hmarkable := @markable_active disk name completed count parsed rest _ hactive
      (fun text htext => absurd (hnone.symm.trans htext) (by simp)) hsame rfl
    refine (ih _).mono fun outcome left h => ?_
    cases outcome with
    | interrupted => exact MarkedSoFar.written hactive hlookup (part_of_written _) h
    | raised error =>
        exact ⟨h.1.written hactive hlookup (part_of_written _), fun hall => h.2 (hmarkable.mp hall)⟩
    | returned value => exact ⟨h.1.written hactive hlookup, hmarkable.mpr h.2⟩
  · intro hthere
    have hmarkable := @markable_active disk name completed count parsed rest disk hactive
      (fun text htext => Option.some.inj (htext.symm.trans hthere)) (fun _ _ => rfl) rfl
    refine (ih disk).mono fun outcome left h => ?_
    cases outcome with
    | interrupted => exact MarkedSoFar.there hactive h
    | raised error => exact ⟨h.1.there hactive, fun hall => h.2 (hmarkable.mp hall)⟩
    | returned value => exact ⟨h.1.there hactive hthere, hmarkable.mpr h.2⟩
  · intro error text htext hne
    refine ⟨.refl _ _ disk, fun hall => hne (hall.agree name parsed text ?_ htext)⟩
    rw [active_journals_active hactive]
    exact List.mem_cons_self

/-- The loop behind a terminal journal whose artifacts do not stop it. -/
theorem ensures_terminal_journal {bound : List String}
    (hterminal : isTerminal completed parsed = true)
    (hclean : (if cleansUp completed parsed then
      cleanArtifacts disk.bound parsed.operationId parsed.snapshotBindingPresent
      else some disk.bound) = some bound)
    (ih : ∀ disk, Ensures onDisk (markingEnds completed count rest disk)
      (markActiveJournals completed count rest) disk) :
    Ensures onDisk (markingEnds completed count ((name, parsed) :: rest) disk)
      (markActiveJournals completed count rest) { disk with bound } := by
  have hmarkable := @markable_terminal disk name completed count parsed rest bound hterminal hclean
  refine (ih { disk with bound }).mono fun outcome left h => ?_
  cases outcome with
  | interrupted => exact MarkedSoFar.terminal hterminal h
  | raised error => exact ⟨h.1.terminal hterminal, fun hall => h.2 (hmarkable.mp hall)⟩
  | returned value => exact ⟨h.1.terminal hterminal hclean, hmarkable.mpr h.2⟩

/-- The step lemma of the loop for a terminal journal: its cleanup, then the rest of the loop. -/
theorem ensures_clean_journal (hterminal : isTerminal completed parsed = true)
    (ih : ∀ disk, Ensures onDisk (markingEnds completed count rest disk)
      (markActiveJournals completed count rest) disk) :
    Ensures onDisk (markingEnds completed count ((name, parsed) :: rest) disk)
      (if parsed.operation = none ∧ parsed.privateSnapshotArtifactsPossible = true then
        Disk.cleanArtifacts parsed.operationId parsed.snapshotBindingPresent >>= fun clean =>
          Program.raiseIf (clean = false)
            ("cannot clean safe pre-mutation rollback artifacts for operation " ++
              parsed.operationId) >>= fun _ => markActiveJournals completed count rest
      else markActiveJournals completed count rest) disk := by
  split
  · next hcleans =>
      have hcleans : cleansUp completed parsed := ⟨hterminal, hcleans⟩
      refine Program.ensures_bind.mpr ((Program.ensures_perform_served
        (DiskOp.cleanArtifacts parsed.operationId parsed.snapshotBindingPresent)).mpr ?_)
      simp only [serveDisk]
      cases hclean : cleanArtifacts disk.bound parsed.operationId parsed.snapshotBindingPresent with
      | none =>
          refine ⟨.refl _ _ disk, .refl _ _ disk, Program.ensures_bind.mpr
            (Program.ensures_raise_if.mpr ⟨.refl _ _ disk, fun _ => ⟨.refl _ _ disk, ?_⟩, ?_⟩)⟩
          · refine fun hall => hall.clean ?_
            rw [cleanups, List.foldlM_cons]
            simp only [if_pos hcleans, hclean]
            rfl
          · exact fun hfalse => absurd rfl hfalse
      | some bound =>
          have hrest := @ensures_terminal_journal disk name completed count parsed rest bound
            hterminal (by rw [if_pos hcleans, hclean]) ih
          refine ⟨.refl _ _ disk, hrest.start, Program.ensures_bind.mpr
            (Program.ensures_raise_if.mpr ⟨hrest.start, fun hfalse => ?_, fun _ => hrest⟩)⟩
          cases hfalse
  · next hkeeps =>
      exact ensures_terminal_journal hterminal (if_neg fun hcleans => hkeeps hcleans.2) ih

/-- The second loop marks every active journal, and raises exactly when it cannot. -/
theorem ensures_mark_active {journals : List (String × ParsedJournal)}
    (hnodup : (journals.map Prod.fst).Nodup) (hcount : count ≤ maxRecoveryJournals) :
    Ensures onDisk (markingEnds completed count journals disk)
      (markActiveJournals completed count journals) disk := by
  induction journals generalizing count disk with
  | nil =>
      have hmarked := MarkedSoFar.refl completed [] disk
      refine Program.ensures_pure.mpr ⟨hmarked, ⟨hmarked, ?_, rfl⟩, ⟨?_, hcount, ?_⟩⟩
      · exact fun _ _ hmem => absurd hmem List.not_mem_nil
      · exact fun _ _ _ hmem => absurd hmem List.not_mem_nil
      · exact Option.some_ne_none _
  | cons entry rest ih =>
      obtain ⟨name, parsed⟩ := entry
      obtain ⟨hfresh, hrest⟩ := List.nodup_cons.mp hnodup
      unfold markActiveJournals
      cases hterminal : isTerminal completed parsed with
      | true =>
          rw [if_pos rfl]
          exact ensures_clean_journal hterminal fun disk => ih hrest hcount
      | false =>
          rw [if_neg Bool.false_ne_true]
          refine Program.ensures_bind.mpr (Program.ensures_raise_if.mpr ⟨.refl _ _ disk, ?_, ?_⟩)
          · refine fun hfull => ⟨.refl _ _ disk, fun hall => ?_⟩
            have hlength := hall.count
            rw [active_journals_active hterminal, List.length_cons] at hlength
            omega
          · intro hroom
            exact ensures_mark_active_journal hterminal hfresh fun disk =>
              ih hrest (not_lt.mp hroom)

end Marking

/-! ## The report directory itself -/

/-- What a run may do to the journals, the reports and the reserves. -/
structure Kept (before after : ReportDisk) : Prop where
  journals : ∀ name, (after.journals.lookup name).map JournalFile.whole =
    (before.journals.lookup name).map JournalFile.whole
  shorter : ∀ name file left, before.journals.lookup name = some file →
    after.journals.lookup name = some left → left.torn ≤ file.torn
  reports : after.reports = before.reports
  others : after.others = before.others
  reserves : after.reserves.length + after.released.length ≤
    before.reserves.length + before.released.length

/-- A directory with the same journals and reports, and no more reserves than before, is kept. -/
theorem Kept.of_eq (hjournals : after.journals = before.journals)
    (hreports : after.reports = before.reports) (hothers : after.others = before.others)
    (hreserves : after.reserves.length + after.released.length ≤
      before.reserves.length + before.released.length) : Kept before after where
  journals name := by rw [hjournals]
  shorter name file left hfile hleft := by
    rw [hjournals] at hleft
    rw [Option.some.inj (hleft.symm.trans hfile)]
  reports := hreports
  others := hothers
  reserves := hreserves

theorem Kept.refl (disk : ReportDisk) : Kept disk disk :=
  .of_eq rfl rfl rfl (Nat.le_refl _)

theorem Kept.trans {middle : ReportDisk} (h : Kept before middle) (h' : Kept middle after) :
    Kept before after where
  journals name := (h'.journals name).trans (h.journals name)
  shorter name file left hfile hleft := by
    have hsame := h.journals name
    rw [hfile] at hsame
    obtain ⟨found, hfound, -⟩ := Option.map_eq_some_iff.mp hsame
    exact (h'.shorter name found left hfound hleft).trans (h.shorter name file found hfile hfound)
  reports := h'.reports.trans h.reports
  others := h'.others.trans h.others
  reserves := h'.reserves.trans h.reserves

theorem Repaired.kept (h : Repaired before after) : Kept before after where
  journals := h.journals
  shorter := h.shorter
  reports := by rw [h.frame]
  others := by rw [h.frame]
  reserves := by rw [h.frame]

theorem MarkedSoFar.kept {completed : List String} {journals : List (String × ParsedJournal)}
    (h : MarkedSoFar completed journals before after) : Kept before after :=
  .of_eq (by rw [h.frame]) (by rw [h.frame]) (by rw [h.frame]) (by rw [h.frame])

/-- Reserves were released, and nothing else happened. -/
structure Released (before after : ReportDisk) : Prop where
  frame : after = { before with reserves := after.reserves, released := after.released }
  reserves : after.reserves.length + after.released.length ≤
    before.reserves.length + before.released.length

theorem Released.kept (h : Released before after) : Kept before after :=
  .of_eq (by rw [h.frame]) (by rw [h.frame]) (by rw [h.frame]) h.reserves

theorem released_unlink (h : disk.reserves.contains name = true) :
    Released disk
      { disk with reserves := disk.reserves.erase name, released := name :: disk.released } := by
  refine ⟨rfl, ?_⟩
  rw [List.contains_iff_mem] at h
  have hlength := List.length_erase_of_mem h
  have hpositive := List.length_pos_of_mem h
  show (disk.reserves.erase name).length + (disk.released.length + 1) ≤ _
  omega

/-- The loop over the reserves ends with a released directory wherever it stops. -/
theorem ensures_release_reserves (names : List String) :
    Ensures onDisk
      (ending (Released disk) (fun _ _ => False) (fun _ left => Released disk left))
      (releaseReserves names) disk := by
  induction names generalizing disk with
  | nil => exact Program.ensures_pure.mpr ⟨⟨rfl, Nat.le_refl _⟩, ⟨rfl, Nat.le_refl _⟩⟩
  | cons name rest ih =>
      have hrest : ∀ left, Released disk left → ∀ released : Bool, Ensures onDisk
          (ending (Released disk) (fun _ _ => False) (fun _ left => Released disk left))
          (do
            let others ← releaseReserves rest
            pure (released || others)) left := by
        intro left hleft released
        have htrans : ∀ final, Released left final → Released disk final := fun final h =>
          ⟨by rw [h.frame, hleft.frame], h.reserves.trans hleft.reserves⟩
        exact (@ih left).bind htrans (fun _ _ h => h) fun others final h =>
          Program.ensures_pure.mpr ⟨htrans final h, htrans final h⟩
      refine Program.ensures_bind.mpr
        ((Program.ensures_perform_served (DiskOp.unlinkReserve name)).mpr ?_)
      have hself : Released disk disk := ⟨rfl, Nat.le_refl _⟩
      simp only [serveDisk]
      split
      · next hthere =>
          have hunlinked := released_unlink hthere
          exact ⟨hself, hunlinked, hrest _ hunlinked true⟩
      · exact ⟨hself, hself, hrest disk hself false⟩

end NvidiaConverge
