import NvidiaConverge.Recovery.BootstrapRules

/-!
# Restarting an interrupted bootstrap

A rerun finds the journals, the reports and the files of the active directory that its
predecessors left. It accepts a marker that is complete, and raises on one that is not:
`Settled` is the condition under which a rerun does what an uninterrupted run would have done, and
`restart_exact_iff` says that it is exact.
-/

namespace NvidiaConverge

open Directory (sortedNames)
open Program (Ensures Outcome ending)

variable {start disk before after left : ReportDisk} {name : String} {payload : List Char}
  {journals : List (String × ParsedJournal)}

/-! ## The plan -/

/-- A marker that a bootstrap of the directory writes. -/
def Planned (disk : ReportDisk) (name : String) (payload : List Char) : Prop :=
  ∃ journals parsed, parsedJournals disk = .ok journals ∧
    (name, parsed) ∈ activeJournals (completedOperations disk.store journals) journals ∧
    payload = activeMarkerPayload name parsed.operationId

theorem completed_operations_congr (h : after.reports = before.reports) :
    completedOperations after.store journals = completedOperations before.store journals := by
  simp only [completedOperations, completionHasFinalReport, hasFinalReport, ReportDisk.store, h]

/-- A run reads the same events in every journal. -/
theorem Kept.events (h : Kept before after) (name : String) :
    after.store.journals.lookup name = before.store.journals.lookup name := by
  have hsame := congrArg (Option.map JournalFile.events) (h.journals name)
  rw [Option.map_map, Option.map_map] at hsame
  simp only [ReportDisk.store, Directory.lookup_map_values]
  exact hsame

theorem Kept.names (h : Kept before after) :
    sortedNames after.journals = sortedNames before.journals := by
  refine Directory.sorted_names_congr fun name => ?_
  have hsame := h.journals name
  rw [← Option.map_eq_none_iff, hsame, Option.map_eq_none_iff]

theorem Kept.parsed_journals (h : Kept before after) :
    parsedJournals after = parsedJournals before := by
  have hread : ∀ name, readJournal after.store name = readJournal before.store name :=
    fun name => by
    unfold readJournal
    rw [h.events name]
  simp only [parsedJournals, h.names, hread]

theorem Kept.planned_iff (h : Kept before after) :
    Planned after name payload ↔ Planned before name payload := by
  simp only [Planned, h.parsed_journals, completed_operations_congr h.reports]

/-- What the loop reads is what the journals parse to. -/
theorem legacy_journals_parsed {total : Nat} {names : List String}
    (h : legacyJournals disk total names = .ok journals) :
    names.mapM (fun name => do pure (name, ← readJournal disk.store name)) =
        (.ok journals : Except String (List (String × ParsedJournal))) ∧
      journals.map Prod.fst = names := by
  induction names generalizing total journals with
  | nil =>
      obtain rfl := Result.pure_eq_ok.mp h
      exact ⟨rfl, rfl⟩
  | cons name rest ih =>
      obtain ⟨file, parsed, others, hfile, -, -, hparse, hothers, rfl⟩ :=
        legacy_journals_cons_ok.mp h
      obtain ⟨hrest, hnames⟩ := ih hothers
      have hread : readJournal disk.store name = .ok parsed := by
        simp only [readJournal, ReportDisk.store, Directory.lookup_map_values, hfile]
        exact hparse
      refine ⟨?_, by rw [List.map_cons, hnames]⟩
      rw [List.mapM_cons, hread, hrest]
      rfl

/-- A shorter file is within the limits of a longer one. -/
theorem Kept.legacy_journals (h : Kept before after) {total total' : Nat} {names : List String}
    (hread : legacyJournals before total names = .ok journals) (hle : total' ≤ total) :
    legacyJournals after total' names = .ok journals := by
  induction names generalizing total total' journals with
  | nil => exact hread
  | cons name rest ih =>
      obtain ⟨file, parsed, others, hfile, hsize, htotal, hparse, hothers, rfl⟩ :=
        legacy_journals_cons_ok.mp hread
      have hsame := h.journals name
      rw [hfile] at hsame
      obtain ⟨found, hfound, hwhole⟩ := Option.map_eq_some_iff.mp hsame
      have hshorter := h.shorter name file found hfile hfound
      have hevents : found.events = file.events := (JournalFile.mk.inj hwhole).1
      have hbytes : found.size = file.size := (JournalFile.mk.inj hwhole).2.1
      have hlength : found.length ≤ file.length := by
        unfold JournalFile.length
        omega
      refine legacy_journals_cons_ok.mpr
        ⟨found, parsed, others, hfound, by omega, by omega, hevents ▸ hparse, ?_, rfl⟩
      exact ih hothers (by omega)

/-! ## One run -/

/-- The active directory gained files, each a part of a planned one; what was there is as it was,
up to its flushed name. -/
structure Grown (disk left : ReportDisk) : Prop where
  old : ∀ name file, disk.active.lookup name = some file →
    ∃ kept, left.active.lookup name = some kept ∧ kept.text = file.text ∧
      kept.written = file.written ∧ (file.linked = true → kept.linked = true)
  new : ∀ name file, disk.active.lookup name = none → left.active.lookup name = some file →
    name = activeJournalIndexName ∧ PartOf file activeIndexText ∨
      ∃ payload, Planned disk name payload ∧ PartOf file payload

/-- Every planned marker is in place with its whole text and a flushed name; the contents of the
new ones are flushed. -/
def MarkersPlaced (disk left : ReportDisk) : Prop :=
  ∀ name payload, Planned disk name payload →
    ∃ file, left.active.lookup name = some file ∧ file.text = payload ∧ file.linked = true ∧
      (disk.active.lookup name = none → file.written = true)

/-- Where a run may be: it has kept the journals, and the index only follows all the markers. -/
structure Progress (disk left : ReportDisk) : Prop where
  kept : Kept disk left
  grown : Grown disk left
  index : disk.active.lookup activeJournalIndexName = none →
    left.active.lookup activeJournalIndexName ≠ none → MarkersPlaced disk left

/-- A run may bootstrap the directory: its journals are read, parsed and within every bound. -/
structure Bootable (disk : ReportDisk) (journals : List (String × ParsedJournal)) : Prop where
  entries : disk.entries ≤ maxLegacyDirectoryEntries
  names : (sortedNames disk.journals).all isJournalFileName = true
  count : (sortedNames disk.journals).length ≤ maxLegacyJournals
  reads : legacyJournals disk 0 (sortedNames disk.journals) = .ok journals
  marks : Markable (completedOperations disk.store journals) 0 journals disk

/-- A run succeeds: there is an index, or one can be built. -/
def Ready (disk : ReportDisk) : Prop :=
  disk.text activeJournalIndexName = some activeIndexText ∨
    disk.text activeJournalIndexName = none ∧ ∃ journals, Bootable disk journals

/-- What a run that returned has done: nothing, where the index was there, and else the whole
index. -/
def Finished (disk left : ReportDisk) : Prop :=
  disk.text activeJournalIndexName = some activeIndexText ∧ left = disk ∨
    disk.text activeJournalIndexName = none ∧ MarkersPlaced disk left ∧
      ∃ file, left.active.lookup activeJournalIndexName = some file ∧ file.text = activeIndexText

/-- How a run ends: with progress wherever it stops, and it returns exactly where the directory is
ready. -/
def bootstrapEnds (disk : ReportDisk) : Outcome String Unit → ReportDisk → Prop :=
  ending (Progress disk) (fun _ left => Progress disk left ∧ ¬ Ready disk)
    (fun _ left => Progress disk left ∧ Ready disk ∧ Finished disk left)

theorem Grown.refl (disk : ReportDisk) : Grown disk disk where
  old _ file h := ⟨file, h, rfl, rfl, id⟩
  new _ _ hnone hsome := absurd (hnone.symm.trans hsome) (by simp)

theorem Progress.refl (disk : ReportDisk) : Progress disk disk where
  kept := .refl disk
  grown := .refl disk
  index hnone hsome := absurd hnone hsome

/-- The active directory does not change while the index is absent. -/
theorem Progress.of_active (hkept : Kept disk left) (h : left.active = disk.active) :
    Progress disk left where
  kept := hkept
  grown :=
    { old := fun name file hfile => ⟨file, by rw [h, hfile], rfl, rfl, id⟩
      new := fun name file hnone hsome => by
        rw [h] at hsome
        exact absurd (hnone.symm.trans hsome) (by simp) }
  index hnone hsome := absurd hnone (h ▸ hsome)

/-- The name of the index is not the name of a journal. -/
theorem index_not_journal : isJournalFileName activeJournalIndexName = false := by
  decide

theorem index_not_named (hnames : (sortedNames disk.journals).all isJournalFileName = true) :
    activeJournalIndexName ∉ sortedNames disk.journals := by
  intro hmem
  have hjournal := List.all_eq_true.mp hnames _ hmem
  rw [index_not_journal] at hjournal
  cases hjournal

/-- A run that leaves the active directory as it is makes no step back. -/
theorem Progress.same_active (h : Progress disk left) (hkept : Kept left after)
    (hactive : after.active = left.active) : Progress disk after where
  kept := h.kept.trans hkept
  grown :=
    { old := fun name file hfile => by
        rw [hactive]
        exact h.grown.old name file hfile
      new := fun name file hnone hsome => by
        rw [hactive] at hsome
        exact h.grown.new name file hnone hsome }
  index hnone hsome := by
    rw [hactive] at hsome
    intro name payload hplanned
    rw [hactive]
    exact h.index hnone hsome name payload hplanned

/-- The directory with all names of its active directory flushed. -/
def ReportDisk.synced (disk : ReportDisk) : ReportDisk :=
  { disk with active := disk.active.mapValues fun file => { file with linked := true } }

/-- Behind a flush every name of the active directory is durable, with the same text. -/
theorem lookup_synced : disk.synced.active.lookup name =
    (disk.active.lookup name).map fun file => { file with linked := true } :=
  Directory.lookup_map_values _ _

theorem lookup_synced_eq_some {file : ActiveFile} :
    disk.synced.active.lookup name = some file ↔
      ∃ found, disk.active.lookup name = some found ∧ { found with linked := true } = file := by
  rw [lookup_synced, Option.map_eq_some_iff]

theorem MarkersPlaced.synced (h : MarkersPlaced disk left) : MarkersPlaced disk left.synced := by
  intro name payload hplanned
  obtain ⟨file, hfile, htext, -, hwritten⟩ := h name payload hplanned
  exact ⟨_, lookup_synced_eq_some.mpr ⟨file, hfile, rfl⟩, htext, rfl, hwritten⟩

theorem Progress.synced (h : Progress disk left) : Progress disk left.synced where
  kept := h.kept.trans (.of_eq rfl rfl rfl (Nat.le_refl _))
  grown :=
    { old := fun name file hfile => by
        obtain ⟨kept, hkept, htext, hwritten, -⟩ := h.grown.old name file hfile
        exact ⟨_, lookup_synced_eq_some.mpr ⟨kept, hkept, rfl⟩, htext, hwritten, fun _ => rfl⟩
      new := fun name file hnone hsome => by
        obtain ⟨found, hfound, rfl⟩ := lookup_synced_eq_some.mp hsome
        rcases h.grown.new name found hnone hfound with ⟨hindex, hpart⟩ | ⟨payload, hplanned, hpart⟩
        · exact .inl ⟨hindex, ⟨hpart.text, hpart.written⟩⟩
        · exact .inr ⟨payload, hplanned, ⟨hpart.text, hpart.written⟩⟩ }
  index hnone hsome := by
    have hindex : left.active.lookup activeJournalIndexName ≠ none := by
      intro habsent
      rw [lookup_synced, habsent] at hsome
      exact hsome rfl
    exact (h.index hnone hindex).synced

/-- A run that writes the index behind the placed markers makes progress. -/
theorem Progress.with_index {file : ActiveFile} (h : Progress disk left)
    (hplaced : MarkersPlaced disk left)
    (hnone : disk.active.lookup activeJournalIndexName = none)
    (hunnamed : ∀ payload, ¬ Planned disk activeJournalIndexName payload)
    (hpart : PartOf file activeIndexText) :
    Progress disk (left.withActive activeJournalIndexName file) ∧
      MarkersPlaced disk (left.withActive activeJournalIndexName file) := by
  have hplaced' : MarkersPlaced disk (left.withActive activeJournalIndexName file) := by
    intro name payload hplanned
    have hname : name ≠ activeJournalIndexName := by
      rintro rfl
      exact hunnamed payload hplanned
    rw [lookup_with_active_ne hname]
    exact hplaced name payload hplanned
  refine ⟨⟨h.kept.trans (.of_eq rfl rfl rfl (Nat.le_refl _)), ⟨?_, ?_⟩,
    fun _ _ => hplaced'⟩, hplaced'⟩
  · intro name found hfound
    have hname : name ≠ activeJournalIndexName := by
      rintro rfl
      exact Option.some_ne_none _ (hfound.symm.trans hnone)
    rw [lookup_with_active_ne hname]
    exact h.grown.old name found hfound
  · intro name found hfresh hsome
    by_cases hname : name = activeJournalIndexName
    · subst hname
      rw [← Option.some.inj (lookup_with_active.symm.trans hsome)]
      exact .inl ⟨rfl, hpart⟩
    · rw [lookup_with_active_ne hname] at hsome
      exact h.grown.new name found hfresh hsome

section Bootable

variable {completed : List String} {repaired marked : ReportDisk}

theorem Repaired.active (h : Repaired disk repaired) : repaired.active = disk.active := by
  rw [h.frame]

theorem planned_of_active (hreads : parsedJournals disk = .ok journals)
    (hcompleted : completed = completedOperations disk.store journals) {parsed : ParsedJournal}
    (hmem : (name, parsed) ∈ activeJournals completed journals) :
    Planned disk name (activeMarkerPayload name parsed.operationId) :=
  ⟨journals, parsed, hreads, hcompleted ▸ hmem, rfl⟩

/-- A planned marker belongs to an active journal and names its operation. -/
theorem Planned.active (hreads : parsedJournals disk = .ok journals)
    (hcompleted : completed = completedOperations disk.store journals)
    (h : Planned disk name payload) :
    ∃ parsed, (name, parsed) ∈ activeJournals completed journals ∧
      payload = activeMarkerPayload name parsed.operationId := by
  obtain ⟨found, parsed, hfound, hmem, hpayload⟩ := h
  obtain rfl := Except.ok.inj (hreads.symm.trans hfound)
  exact ⟨parsed, hcompleted ▸ hmem, hpayload⟩

/-- The markers of an interrupted loop are planned ones. -/
theorem Progress.of_marked (hrepaired : Repaired disk repaired)
    (hreads : parsedJournals disk = .ok journals)
    (hcompleted : completed = completedOperations disk.store journals)
    (hunindexed : activeJournalIndexName ∉ journals.map Prod.fst)
    (h : MarkedSoFar completed journals repaired marked) : Progress disk marked := by
  have hactive := hrepaired.active
  refine ⟨hrepaired.kept.trans h.kept, ⟨?_, ?_⟩, ?_⟩
  · intro name file hfile
    exact ⟨file, h.old name file (hactive ▸ hfile), rfl, rfl, id⟩
  · intro name file hnone hsome
    obtain ⟨parsed, hmem, hpart⟩ := h.new name file (hactive ▸ hnone) hsome
    exact .inr ⟨_, planned_of_active hreads hcompleted hmem, hpart⟩
  · intro hnone hsome
    obtain ⟨file, hfile⟩ := Option.ne_none_iff_exists'.mp hsome
    obtain ⟨parsed, hmem, -⟩ := h.new _ file (hactive ▸ hnone) hfile
    exact absurd (mem_of_active hmem) hunindexed

/-- When the loop has marked every active journal, the planned markers are placed. -/
theorem AllMarked.placed (hrepaired : Repaired disk repaired)
    (hreads : parsedJournals disk = .ok journals)
    (hcompleted : completed = completedOperations disk.store journals)
    (h : AllMarked completed journals repaired marked) (hleft : left.active = marked.active) :
    MarkersPlaced disk left.synced := by
  intro name payload hplanned
  obtain ⟨parsed, hmem, rfl⟩ := hplanned.active hreads hcompleted
  obtain ⟨file, hfile, htext, hwritten⟩ := h.all name parsed hmem
  refine ⟨{ file with linked := true }, lookup_synced_eq_some.mpr ⟨file, hleft ▸ hfile, rfl⟩,
    htext, rfl, fun hnone => hwritten ?_⟩
  rw [hrepaired.active]
  exact hnone

/-- The last steps: the markers' names are flushed, then the index is written. -/
theorem ensures_index_last (hprogress : Progress disk left)
    (hplaced : MarkersPlaced disk left.synced)
    (hnone : disk.active.lookup activeJournalIndexName = none)
    (habsent : left.active.lookup activeJournalIndexName = none)
    (hunnamed : ∀ payload, ¬ Planned disk activeJournalIndexName payload)
    (hready : Ready disk) :
    Ensures onDisk (bootstrapEnds disk) (do
      Disk.syncActiveDirectory
      createActiveIndex
      Disk.syncActiveDirectory) left := by
  have hindexed : ∀ file, PartOf file activeIndexText →
      Progress disk (left.synced.withActive activeJournalIndexName file) := fun file hpart =>
    (hprogress.synced.with_index hplaced hnone hunnamed hpart).1
  refine Program.ensures_bind.mpr ((Program.ensures_perform_served DiskOp.syncActiveDirectory).mpr
    ⟨hprogress, hprogress.synced, ?_⟩)
  have habsent' : left.synced.text activeJournalIndexName = none := by
    rw [ReportDisk.text, lookup_synced, habsent]
    rfl
  refine Program.ensures_bind.mpr (ensures_create_index habsent' hprogress.synced hindexed ?_)
  have hlast := hprogress.synced.with_index hplaced hnone hunnamed (part_of_written activeIndexText)
  refine (Program.ensures_perform_served DiskOp.syncActiveDirectory).mpr
    ⟨hlast.1, hlast.1.synced, hlast.1.synced, hready,
      .inr ⟨text_eq_none.mpr hnone, hlast.2.synced, ?_⟩⟩
  exact ⟨_, lookup_synced_eq_some.mpr ⟨_, lookup_with_active, rfl⟩, rfl⟩

end Bootable

theorem Bootable.parsed (h : Bootable disk journals) :
    parsedJournals disk = .ok journals ∧ journals.map Prod.fst = sortedNames disk.journals :=
  legacy_journals_parsed h.reads

/-- A bootstrap that finds no index: behind the markers. -/
theorem ensures_behind_markers {repaired marked : ReportDisk} (hrepaired : Repaired disk repaired)
    (hboot : Bootable disk journals)
    (hnone : disk.active.lookup activeJournalIndexName = none)
    (hmarked : AllMarked (completedOperations disk.store journals) journals repaired marked)
    (reserves : List String) :
    Ensures onDisk (bootstrapEnds disk) (do
      let released ← releaseReserves reserves
      if released then Disk.syncReportDirectory
      Disk.syncActiveDirectory
      createActiveIndex
      Disk.syncActiveDirectory) marked := by
  obtain ⟨hreads, hnamed⟩ := hboot.parsed
  have hunindexed : activeJournalIndexName ∉ journals.map Prod.fst :=
    hnamed ▸ index_not_named hboot.names
  have hunnamed : ∀ payload, ¬ Planned disk activeJournalIndexName payload := by
    intro payload hplanned
    obtain ⟨parsed, hmem, -⟩ := hplanned.active hreads rfl
    exact hunindexed (mem_of_active hmem)
  have hprogress := Progress.of_marked hrepaired hreads rfl hunindexed hmarked.marked
  have habsent : marked.active.lookup activeJournalIndexName = none := by
    by_contra hsome
    obtain ⟨file, hfile⟩ := Option.ne_none_iff_exists'.mp hsome
    obtain ⟨parsed, hmem, -⟩ :=
      hmarked.marked.new _ file (by rw [hrepaired.active, hnone]) hfile
    exact hunindexed (mem_of_active hmem)
  have hready : Ready disk := .inr ⟨text_eq_none.mpr hnone, journals, hboot⟩
  have hlast : ∀ left, Kept marked left → left.active = marked.active →
      Ensures onDisk (bootstrapEnds disk) (do
        Disk.syncActiveDirectory
        createActiveIndex
        Disk.syncActiveDirectory) left := fun left hkept hactive =>
    ensures_index_last (hprogress.same_active hkept hactive)
      (hmarked.placed hrepaired hreads rfl hactive) hnone (hactive ▸ habsent) hunnamed hready
  refine (ensures_release_reserves reserves).bind
    (fun left h => hprogress.same_active h.kept (by rw [h.frame])) (fun _ _ h => h.elim) ?_
  intro released left h
  have hactive : left.active = marked.active := by rw [h.frame]
  show Ensures onDisk _ (if released = true then Disk.syncReportDirectory >>= _ else _) left
  split
  · have hkept : Kept marked { left with released := [] } :=
      h.kept.trans (.of_eq rfl rfl rfl (by simp))
    exact Program.ensures_bind.mpr ((Program.ensures_perform_served DiskOp.syncReportDirectory).mpr
      ⟨hprogress.same_active h.kept hactive, (hlast _ hkept hactive).start, hlast _ hkept hactive⟩)
  · exact hlast left h.kept hactive

/-- A repair makes no difference to whether the loop can mark the journals. -/
theorem Repaired.markable_iff {repaired : ReportDisk} (h : Repaired disk repaired)
    (completed : List String) (count : Nat) (journals : List (String × ParsedJournal)) :
    Markable completed count journals repaired ↔ Markable completed count journals disk := by
  have htext : ∀ name, repaired.text name = disk.text name := fun name => by
    rw [ReportDisk.text, h.active]
    rfl
  have hbound : repaired.bound = disk.bound := by rw [h.frame]
  constructor
  · rintro ⟨hagree, hcount, hclean⟩
    exact ⟨fun name parsed text hmem hfound => hagree name parsed text hmem
      ((htext name).trans hfound), hcount, hbound ▸ hclean⟩
  · rintro ⟨hagree, hcount, hclean⟩
    exact ⟨fun name parsed text hmem hfound => hagree name parsed text hmem
      ((htext name).symm.trans hfound), hcount, hbound.symm ▸ hclean⟩

/-- Every run keeps what it found, writes the index last, and raises exactly when it is not
ready. -/
theorem ensures_bootstrap (disk : ReportDisk) :
    Ensures onDisk (bootstrapEnds disk) bootstrapDisk disk := by
  have hself := Progress.refl disk
  refine Program.ensures_bind.mpr (ensures_active_index_present hself ?_ ?_ ?_)
  · intro habsent
    have hnone := text_eq_none.mp habsent
    -- A refusal: whatever journals there are, the directory is not ready.
    have hrefuse : ∀ {left error}, Progress disk left → (∀ journals, ¬ Bootable disk journals) →
        bootstrapEnds disk (.raised error) left := by
      intro left error hprogress hnever
      refine ⟨hprogress, ?_⟩
      rintro (hpresent | ⟨-, journals, hboot⟩)
      · exact absurd (habsent.symm.trans hpresent) (by simp)
      · exact hnever journals hboot
    refine Program.ensures_bind.mpr ((Program.ensures_perform_served DiskOp.scanReports).mpr
      ⟨hself, hself, ?_⟩)
    refine Program.ensures_bind.mpr (Program.ensures_raise_if.mpr
      ⟨hself, fun hmany => hrefuse hself fun _ hboot => ?_, fun hentries => ?_⟩)
    · exact absurd hboot.entries (not_le.mpr hmany)
    refine Program.ensures_bind.mpr (Program.ensures_raise_if.mpr
      ⟨hself, fun hunsafe => hrefuse hself fun _ hboot => ?_, fun hnames => ?_⟩)
    · exact absurd (hboot.names.symm.trans hunsafe) (by simp)
    refine Program.ensures_bind.mpr (Program.ensures_raise_if.mpr
      ⟨hself, fun hmany => hrefuse hself fun _ hboot => ?_, fun hcount => ?_⟩)
    · exact absurd hboot.count (not_le.mpr hmany)
    refine (ensures_read_journals 0 disk.journals.sorted_names_nodup).bind
      (fun left h => .of_active h.kept h.active)
      (fun error left h => hrefuse (.of_active h.1.kept h.1.active) fun journals hboot =>
        h.2 journals hboot.reads) ?_
    rintro journals repaired ⟨hrepaired, hreads⟩
    obtain ⟨hparsed, hnamed⟩ := legacy_journals_parsed hreads
    have hprogress : Progress disk repaired := .of_active hrepaired.kept hrepaired.active
    have hsafe : (sortedNames disk.journals).all isJournalFileName = true :=
      (Bool.not_eq_false _).mp hnames
    have hunindexed : activeJournalIndexName ∉ journals.map Prod.fst :=
      hnamed ▸ index_not_named hsafe
    refine (ensures_read_completed journals).bind (fun left h => h ▸ hprogress)
      (fun _ _ h => h.elim) ?_
    rintro completed left ⟨rfl, hcompleted⟩
    -- The repairs of the first loop touch journals only, so that the completed operations are those
    -- of the directory as it was found.
    rw [completed_operations_congr hrepaired.kept.reports] at hcompleted
    have hunique : (journals.map Prod.fst).Nodup := hnamed ▸ disk.journals.sorted_names_nodup
    have hmarkable := hrepaired.markable_iff completed 0 journals
    refine (ensures_mark_active hunique (Nat.zero_le _)).bind
      (fun marked h => .of_marked hrepaired hparsed hcompleted hunindexed h)
      (fun error marked h => hrefuse (.of_marked hrepaired hparsed hcompleted hunindexed h.1)
        fun found hboot => ?_) ?_
    · obtain rfl := Except.ok.inj (hreads.symm.trans hboot.reads)
      exact h.2 (hmarkable.mpr (hcompleted ▸ hboot.marks))
    · rintro _ marked ⟨hmarked, hmarks⟩
      have hboot : Bootable disk journals :=
        ⟨not_lt.mp hentries, hsafe, not_lt.mp hcount, hreads,
          hcompleted ▸ hmarkable.mp hmarks⟩
      exact ensures_behind_markers hrepaired hboot hnone (hcompleted ▸ hmarked) _
  · intro hpresent
    exact Program.ensures_pure.mpr ⟨hself, hself, .inl hpresent, .inl ⟨hpresent, rfl⟩⟩
  · intro error text htext hne
    refine ⟨hself, ?_⟩
    rintro (hpresent | ⟨habsent, -⟩)
    · exact hne (Option.some.inj (htext.symm.trans hpresent))
    · exact absurd (htext.symm.trans habsent) (by simp)

/-! ## Many runs -/

/-- A legacy report directory: no index yet, and nothing in flight. -/
structure Legacy (start : ReportDisk) : Prop where
  active : start.active = ∅
  released : start.released = []

/-- What interrupted bootstraps of a legacy directory have in common. -/
structure Resumable (start disk : ReportDisk) : Prop where
  kept : Kept start disk
  files : ∀ name file, disk.active.lookup name = some file →
    name = activeJournalIndexName ∧ file.text <+: activeIndexText ∨
      ∃ payload, Planned start name payload ∧ file.text <+: payload
  index : disk.active.lookup activeJournalIndexName ≠ none →
    ∀ name payload, Planned start name payload →
      ∃ file, disk.active.lookup name = some file ∧ file.linked = true

theorem Legacy.lookup (h : Legacy start) (name : String) : start.active.lookup name = none := by
  rw [h.active]
  exact AList.lookup_empty name

theorem Legacy.resumable (h : Legacy start) : Resumable start start where
  kept := .refl start
  files name file hfile := absurd ((h.lookup name).symm.trans hfile) (by simp)
  index hindex := absurd (h.lookup _) hindex

/-- A killed run leaves a resumable directory. -/
theorem Resumable.killed (h : Resumable start disk) (hrun : Progress disk left) :
    Resumable start left where
  kept := h.kept.trans hrun.kept
  files name file hfile := by
    cases hold : disk.active.lookup name with
    | some found =>
        obtain ⟨kept, hkept, htext, -⟩ := hrun.grown.old name found hold
        obtain rfl := Option.some.inj (hkept.symm.trans hfile)
        rw [htext]
        exact h.files name found hold
    | none =>
        rcases hrun.grown.new name file hold hfile with ⟨hname, hpart⟩ | ⟨payload, hplanned, hpart⟩
        · exact .inl ⟨hname, hpart.text⟩
        · exact .inr ⟨payload, h.kept.planned_iff.mp hplanned, hpart.text⟩
  index hindex name payload hplanned := by
    by_cases hold : disk.active.lookup activeJournalIndexName = none
    · obtain ⟨file, hfile, -, hlinked, -⟩ :=
        hrun.index hold hindex name payload (h.kept.planned_iff.mpr hplanned)
      exact ⟨file, hfile, hlinked⟩
    · obtain ⟨found, hfound, hlinked⟩ := h.index hold name payload hplanned
      obtain ⟨kept, hkept, -, -, hstays⟩ := hrun.grown.old name found hfound
      exact ⟨kept, hkept, hstays hlinked⟩

/-- A directory that can be resumed can still be resumed behind a power loss. -/
theorem Resumable.powerLoss (h : Resumable start disk) (hloss : PowerLoss disk after) :
    Resumable start after where
  kept := by
    refine h.kept.trans (.of_eq hloss.journals hloss.reports hloss.others ?_)
    obtain ⟨back, hback, hreserves⟩ := hloss.reserves
    have hlength := hback.length_le
    rw [hloss.released, hreserves, List.length_append, List.length_nil]
    omega
  files name file hfile := by
    cases hold : disk.active.lookup name with
    | none => exact absurd ((hloss.absent name hold).symm.trans hfile) (by simp)
    | some found =>
        have hsurvives := hloss.active name found hold
        rw [hfile] at hsurvives
        obtain ⟨-, -, hpart, -⟩ := hsurvives
        rcases h.files name found hold with ⟨hname, hprefix⟩ | ⟨payload, hplanned, hprefix⟩
        · exact .inl ⟨hname, hpart.trans hprefix⟩
        · exact .inr ⟨payload, hplanned, hpart.trans hprefix⟩
  index hindex name payload hplanned := by
    have hold : disk.active.lookup activeJournalIndexName ≠ none := fun habsent =>
      hindex (hloss.absent _ habsent)
    obtain ⟨found, hfound, hlinked⟩ := h.index hold name payload hplanned
    have hsurvives := hloss.active name found hfound
    cases hleft : after.active.lookup name with
    | none =>
        rw [hleft] at hsurvives
        exact absurd (hlinked.symm.trans hsurvives) (by simp)
    | some kept =>
        rw [hleft] at hsurvives
        exact ⟨kept, rfl, hsurvives.2.1⟩

/-- However often a bootstrap was interrupted, its directory can be resumed. -/
theorem Interrupted.resumable (hlegacy : Legacy start) (h : Interrupted start disk) :
    Resumable start disk := by
  induction h with
  | legacy => exact hlegacy.resumable
  | killed _ hrun ih => exact ih.killed ((ensures_bootstrap _).runs hrun)
  | powerLoss _ hrun hloss ih =>
      exact (ih.killed ((ensures_bootstrap _).runs hrun)).powerLoss hloss

/-- The run of a whole bootstrap on a directory. -/
def bootstrapRun (disk : ReportDisk) : Except String Unit × ReportDisk :=
  Program.run serveDisk bootstrapDisk disk

/-- A whole run makes progress, and returns exactly where the directory is ready, which finishes
it. -/
theorem bootstrap_run_spec (disk : ReportDisk) :
    Progress disk (bootstrapRun disk).2 ∧
      ((bootstrapRun disk).1 = .ok () ↔ Ready disk) ∧
      (Ready disk → Finished disk (bootstrapRun disk).2) := by
  have hends := (ensures_bootstrap disk).runs (Program.runs_run serveDisk bootstrapDisk disk)
  unfold bootstrapRun
  cases hresult : (Program.run serveDisk bootstrapDisk disk).1 with
  | error error =>
      rw [hresult] at hends
      exact ⟨hends.1, ⟨(fun h => nomatch h), fun h => absurd h hends.2⟩, fun h => absurd h hends.2⟩
  | ok value =>
      rw [hresult] at hends
      exact ⟨hends.1, ⟨fun _ => hends.2.1, fun _ => rfl⟩, fun _ => hends.2.2⟩

/-! ## What a rerun does -/

/-- The active directory holds the index and every planned marker, whole, and nothing else. -/
def FullIndex (start left : ReportDisk) : Prop :=
  ∀ name text, left.text name = some text ↔
    name = activeJournalIndexName ∧ text = activeIndexText ∨ Planned start name text

theorem FullIndex.text_eq {other : ReportDisk} (h : FullIndex start left)
    (h' : FullIndex start other) (name : String) : left.text name = other.text name :=
  Option.ext fun text => (h name text).trans (h' name text).symm

theorem Planned.unique {payload' : List Char} (h : Planned disk name payload)
    (hnodup : ∀ journals, parsedJournals disk = .ok journals → (journals.map Prod.fst).Nodup)
    (h' : Planned disk name payload') : payload' = payload := by
  obtain ⟨journals, parsed, hreads, hmem, rfl⟩ := h
  obtain ⟨parsed', hmem', rfl⟩ := h'.active hreads rfl
  have hunique := List.inj_on_of_nodup_map (hnodup journals hreads)
    (List.mem_of_mem_filter hmem) (List.mem_of_mem_filter hmem') rfl
  rw [(Prod.mk.inj hunique).2]

/-- The condition under which a rerun does what the interrupted run would have done: what is left
of its files is whole, the markers are flushed, and the authority that the cleanups preserve is
still in place where they run again. -/
structure Settled (start disk : ReportDisk) : Prop where
  index : ∀ text, disk.text activeJournalIndexName = some text → text = activeIndexText
  markers : ∀ name file payload, disk.active.lookup name = some file →
    Planned start name payload → file.text = payload ∧ file.written = true
  bound : disk.text activeJournalIndexName = none → ∀ journals,
    parsedJournals disk = .ok journals →
      cleanups (completedOperations disk.store journals) disk.bound journals ≠ none

/-- No marker is planned under the name of the index. -/
theorem Bootable.unnamed (h : Bootable disk journals) (payload : List Char) :
    ¬ Planned disk activeJournalIndexName payload := by
  intro hplanned
  obtain ⟨hreads, hnamed⟩ := h.parsed
  obtain ⟨parsed, hmem, -⟩ := hplanned.active hreads rfl
  exact index_not_named h.names (hnamed ▸ mem_of_active hmem)

/-- What was bootable stays bootable while the files that are left agree. -/
theorem Resumable.bootable (h : Resumable start disk) (hlegacy : Legacy start)
    (hboot : Bootable start journals) (hsettled : Settled start disk)
    (habsent : disk.text activeJournalIndexName = none) : Bootable disk journals where
  entries := by
    have hreserves := h.kept.reserves
    have hentries := hboot.entries
    rw [hlegacy.released, List.length_nil] at hreserves
    unfold ReportDisk.entries at hentries ⊢
    rw [h.kept.names, h.kept.reports, h.kept.others]
    omega
  names := by
    rw [h.kept.names]
    exact hboot.names
  count := by
    rw [h.kept.names]
    exact hboot.count
  reads := by
    rw [h.kept.names]
    exact h.kept.legacy_journals hboot.reads (Nat.le_refl _)
  marks := by
    have hparsed := hboot.parsed.1
    rw [completed_operations_congr h.kept.reports]
    refine ⟨fun name parsed text hmem htext => ?_, hboot.marks.count, ?_⟩
    · obtain ⟨file, hfile, rfl⟩ := Option.map_eq_some_iff.mp htext
      exact (hsettled.markers name file _ hfile (planned_of_active hparsed rfl hmem)).1
    · have hclean := hsettled.bound habsent journals (h.kept.parsed_journals.trans hparsed)
      rwa [completed_operations_congr h.kept.reports] at hclean

/-- The text of a file of the active directory is that of the file of this name. -/
theorem text_eq_some {text : List Char} : disk.text name = some text ↔
    ∃ file, disk.active.lookup name = some file ∧ file.text = text :=
  Option.map_eq_some_iff

/-- A run that returned from a settled directory leaves the full index. -/
theorem Resumable.full_index (h : Resumable start disk) (hsettled : Settled start disk)
    (hprogress : Progress disk left) (hfinished : Finished disk left) : FullIndex start left := by
  intro name text
  constructor
  · intro htext
    obtain ⟨file, hfile, rfl⟩ := text_eq_some.mp htext
    cases hold : disk.active.lookup name with
    | some found =>
        obtain ⟨kept, hkept, hsame, -⟩ := hprogress.grown.old name found hold
        obtain rfl := Option.some.inj (hkept.symm.trans hfile)
        rw [hsame]
        rcases h.files name found hold with ⟨rfl, -⟩ | ⟨payload, hplanned, -⟩
        · exact .inl ⟨rfl, hsettled.index _ (text_eq_some.mpr ⟨found, hold, rfl⟩)⟩
        · exact .inr ((hsettled.markers name found payload hold hplanned).1.symm ▸ hplanned)
    | none =>
        rcases hfinished with ⟨-, rfl⟩ | ⟨-, hplaced, last, hlast, hlasttext⟩
        · exact absurd (hold.symm.trans hfile) (by simp)
        · rcases hprogress.grown.new name file hold hfile with ⟨rfl, -⟩ | ⟨payload, hplanned, -⟩
          · obtain rfl := Option.some.inj (hlast.symm.trans hfile)
            exact .inl ⟨rfl, hlasttext⟩
          · obtain ⟨placed, hfound, rfl, -⟩ := hplaced name payload hplanned
            obtain rfl := Option.some.inj (hfound.symm.trans hfile)
            exact .inr (h.kept.planned_iff.mp hplanned)
  · rintro (⟨rfl, rfl⟩ | hplanned)
    · rcases hfinished with ⟨hpresent, rfl⟩ | ⟨-, -, last, hlast, hlasttext⟩
      · exact hpresent
      · exact text_eq_some.mpr ⟨last, hlast, hlasttext⟩
    · rcases hfinished with ⟨hpresent, rfl⟩ | ⟨-, hplaced, -⟩
      · have hindex : left.active.lookup activeJournalIndexName ≠ none := fun habsent =>
          absurd ((text_eq_none.mpr habsent).symm.trans hpresent) (by simp)
        obtain ⟨file, hfile, -⟩ := h.index hindex name text hplanned
        exact text_eq_some.mpr ⟨file, hfile, (hsettled.markers name file text hfile hplanned).1⟩
      · obtain ⟨file, hfile, hsame, -⟩ := hplaced name text (h.kept.planned_iff.mpr hplanned)
        exact text_eq_some.mpr ⟨file, hfile, hsame⟩

/-- A marker that is there, whole and flushed. -/
def Durable (left : ReportDisk) (name : String) (payload : List Char) : Prop :=
  ∃ file, left.active.lookup name = some file ∧ file.text = payload ∧ file.written = true ∧
    file.linked = true

/-- Behind the index, every marker is durable. -/
theorem Resumable.durable (h : Resumable start disk) (hsettled : Settled start disk)
    (hprogress : Progress disk left)
    (hindex : left.active.lookup activeJournalIndexName ≠ none)
    (hplanned : Planned start name payload) : Durable left name payload := by
  by_cases hold : disk.active.lookup activeJournalIndexName = none
  · obtain ⟨file, hfile, htext, hlinked, hnew⟩ :=
      hprogress.index hold hindex name payload (h.kept.planned_iff.mpr hplanned)
    refine ⟨file, hfile, htext, ?_, hlinked⟩
    cases hfound : disk.active.lookup name with
    | none => exact hnew hfound
    | some found =>
        obtain ⟨kept, hkept, -, hwritten, -⟩ := hprogress.grown.old name found hfound
        obtain rfl := Option.some.inj (hkept.symm.trans hfile)
        exact hwritten.trans (hsettled.markers name found payload hfound hplanned).2
  · obtain ⟨found, hfound, hlinked⟩ := h.index hold name payload hplanned
    obtain ⟨htext, hflushed⟩ := hsettled.markers name found payload hfound hplanned
    obtain ⟨kept, hkept, hsame, hwritten, hstays⟩ := hprogress.grown.old name found hfound
    exact ⟨kept, hkept, hsame.trans htext, hwritten.trans hflushed, hstays hlinked⟩

/-- A legacy directory is settled if it can be bootstrapped. -/
theorem Legacy.settled (h : Legacy start) (hboot : Bootable start journals) :
    Settled start start where
  index text htext := by
    rw [text_eq_none.mpr (h.lookup _)] at htext
    cases htext
  markers name file payload hfile := absurd ((h.lookup name).symm.trans hfile) (by simp)
  bound _ found hfound := by
    obtain rfl := Except.ok.inj (hboot.parsed.1.symm.trans hfound)
    exact hboot.marks.clean

end NvidiaConverge
