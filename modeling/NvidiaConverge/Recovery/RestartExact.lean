import NvidiaConverge.Library.JsonRoundTrip
import NvidiaConverge.Recovery.History
import NvidiaConverge.Recovery.Restart

/-!
# The restarted index

Reading through a full index gives what classifying every journal of the legacy directory gives:
the journals without a marker are terminal, and no marked journal is terminal on its own. With
that, a rerun of an interrupted bootstrap is exact precisely from a settled directory.
-/

namespace NvidiaConverge

open Directory (sortedNames)
open Program (Outcome)

variable {start disk left : ReportDisk} {name operationId : String} {payload : List Char}
  {journals : List (String × ParsedJournal)} {parsed : ParsedJournal}

/-! ## Reading the markers -/

/-- The text of a marker parses to the operation that it was written for. -/
theorem parse_marker_payload (h : isJournalOperation operationId = true) :
    parseActiveMarker name (activeMarkerPayload name operationId) = .ok operationId := by
  have hplain : Json.Plain (activeMarkerValue name operationId) := by
    simp [activeMarkerValue, Json.Plain, Json.PlainFields]
  have hnewline : ("\n" : String) = String.ofList [Char.ofNat 10] := rfl
  have hloads : Json.loads (String.ofList (activeMarkerPayload name operationId)) =
      some (activeMarkerValue name operationId) := by
    rw [activeMarkerPayload, String.ofList_toList, hnewline]
    exact Json.loads_dumps_newline hplain
  rw [parseActiveMarker, hloads]
  show markerOperation name (activeMarkerValue name operationId) = _
  unfold markerOperation activeMarkerValue
  simp [List.lookup, h, Result.refuse]

/-- The operation of an accepted journal has the form of one. -/
theorem AcceptedJournal.journal_operation {events : List JournalEvent}
    (h : AcceptedJournal name events parsed) : isJournalOperation parsed.operationId = true := by
  have hstream := h.stream
  unfold validateEventStream at hstream
  split at hstream
  · obtain ⟨hid, hstream⟩ := Result.check_bind_eq_ok.mp hstream
    obtain ⟨-, hstream⟩ := Result.check_bind_eq_ok.mp hstream
    obtain ⟨_, -, hsame⟩ := Result.bind_eq_ok.mp hstream
    rw [Result.refuse_eq_ok, Bool.not_eq_false] at hid
    rw [← Result.pure_eq_ok.mp hsame]
    exact hid
  · cases hstream

/-- A journal that was parsed with the others. -/
theorem parsed_journals_mem (h : parsedJournals disk = .ok journals)
    (hmem : (name, parsed) ∈ journals) : readJournal disk.store name = .ok parsed := by
  obtain ⟨listed, -, hread⟩ := Result.forall₂_exists_left (Result.mapM_eq_ok.mp h) hmem
  obtain ⟨found, hfound, hpair⟩ := Result.bind_eq_ok.mp hread
  obtain ⟨rfl, rfl⟩ := Prod.mk.inj (Result.pure_eq_ok.mp hpair)
  exact hfound

theorem parsed_journal_operation (h : parsedJournals disk = .ok journals)
    (hmem : (name, parsed) ∈ journals) : isJournalOperation parsed.operationId = true := by
  have hread := parsed_journals_mem h hmem
  unfold readJournal at hread
  split at hread
  · exact (parse_journal_ok hread).journal_operation
  · cases hread

/-- Markers that are all well formed are read, one for each name. -/
theorem read_markers_ok (step : String → Except String String) (names : List String)
    (h : ∀ name ∈ names, ∃ operationId, step name = .ok operationId) (markers : Directory String) :
    ∃ result, names.foldlM (fun markers name => do
        let operationId ← step name
        pure (AList.insert name operationId markers)) markers = .ok result ∧
      ∀ name, result.lookup name =
        if name ∈ names then (step name).toOption else markers.lookup name := by
  induction names generalizing markers with
  | nil => exact ⟨markers, rfl, fun name => by simp⟩
  | cons first rest ih =>
      obtain ⟨operationId, hfirst⟩ := h first List.mem_cons_self
      obtain ⟨result, hfold, hlookup⟩ :=
        ih (fun name hmem => h name (List.mem_cons_of_mem _ hmem))
          (markers.insert first operationId)
      refine ⟨result, ?_, fun name => ?_⟩
      · rw [List.foldlM_cons, hfirst]
        exact hfold
      · rw [hlookup name]
        by_cases hname : name = first
        · subst hname
          simp [AList.lookup_insert, hfirst, Except.toOption]
        · simp [hname, AList.lookup_insert_ne hname]

/-! ## A full index -/

/-- The journals of a directory that get a marker. -/
def indexedJournals (disk : ReportDisk) (journals : List (String × ParsedJournal)) :
    List (String × ParsedJournal) :=
  activeJournals (completedOperations disk.store journals) journals

/-- The journals that get a marker are listed in the order of their names. -/
theorem Bootable.indexed_names (h : Bootable start journals) :
    ((indexedJournals start journals).map Prod.fst).Sublist (sortedNames start.journals) := by
  rw [← h.parsed.2]
  exact List.filter_sublist.map Prod.fst

/-- A journal that gets a marker was read, and its operation is well formed. -/
theorem Bootable.indexed_operation (h : Bootable start journals)
    (hmem : (name, parsed) ∈ indexedJournals start journals) :
    readJournal start.store name = .ok parsed ∧ isJournalOperation parsed.operationId = true := by
  have hjournal : (name, parsed) ∈ journals := List.mem_of_mem_filter hmem
  exact ⟨parsed_journals_mem h.parsed.1 hjournal, parsed_journal_operation h.parsed.1 hjournal⟩

/-- The files of a full index are the index and the markers of the active journals. -/
theorem FullIndex.present_iff (hfull : FullIndex start left) (hboot : Bootable start journals) :
    left.active.lookup name ≠ none ∧ name ≠ activeJournalIndexName ↔
      name ∈ (indexedJournals start journals).map Prod.fst := by
  constructor
  · rintro ⟨hpresent, hname⟩
    obtain ⟨file, hfile⟩ := Option.ne_none_iff_exists'.mp hpresent
    rcases (hfull name file.text).mp (text_eq_some.mpr ⟨file, hfile, rfl⟩) with
      ⟨hindex, -⟩ | hplanned
    · exact absurd hindex hname
    · obtain ⟨parsed, hmem, -⟩ := hplanned.active hboot.parsed.1 rfl
      exact List.mem_map_of_mem hmem
  · intro hmem
    obtain ⟨⟨_, parsed⟩, hentry, rfl⟩ := List.mem_map.mp hmem
    have hplanned := planned_of_active hboot.parsed.1 rfl hentry
    obtain ⟨file, hfile, -⟩ := text_eq_some.mp ((hfull _ _).mpr (.inr hplanned))
    refine ⟨by simp [hfile], ?_⟩
    intro hindex
    simp only at hindex hplanned
    exact hboot.unnamed _ (hindex ▸ hplanned)

/-- Reading the markers of a full index gives the operations of the active journals. -/
theorem FullIndex.markers (hfull : FullIndex start left) (hboot : Bootable start journals) :
    ∃ markers, readActiveMarkers left = .ok markers ∧
      sortedNames markers = (indexedJournals start journals).map Prod.fst ∧
      ∀ name parsed, (name, parsed) ∈ indexedJournals start journals →
        markers.lookup name = some parsed.operationId := by
  have hnames : ∀ name, name ∈ (sortedNames left.active).filter (· != activeJournalIndexName) ↔
      name ∈ (indexedJournals start journals).map Prod.fst := fun name => by
    rw [List.mem_filter, Directory.mem_sorted_names, bne_iff_ne]
    exact hfull.present_iff hboot
  have hread : ∀ name parsed, (name, parsed) ∈ indexedJournals start journals →
      readActiveMarker left name = .ok parsed.operationId := by
    intro name parsed hmem
    have hsafe : isJournalFileName name = true :=
      List.all_eq_true.mp hboot.names name (hboot.indexed_names.subset (List.mem_map_of_mem hmem))
    obtain ⟨file, hfile, htext⟩ := text_eq_some.mp
      ((hfull name _).mpr (.inr (planned_of_active hboot.parsed.1 rfl hmem)))
    unfold readActiveMarker
    rw [Result.refuse_of_not (by simp [hsafe]), hfile]
    show parseActiveMarker name file.text = _
    rw [htext]
    exact parse_marker_payload (hboot.indexed_operation hmem).2
  obtain ⟨markers, hmarkers, hlookup⟩ := read_markers_ok (readActiveMarker left)
    ((sortedNames left.active).filter (· != activeJournalIndexName)) (fun name hmem => by
      obtain ⟨⟨_, parsed⟩, hentry, rfl⟩ := List.mem_map.mp ((hnames name).mp hmem)
      exact ⟨_, hread _ parsed hentry⟩) ∅
  have hmarker : ∀ name parsed, (name, parsed) ∈ indexedJournals start journals →
      markers.lookup name = some parsed.operationId := by
    intro name parsed hmem
    rw [hlookup, if_pos ((hnames name).mpr (List.mem_map_of_mem hmem)), hread name parsed hmem]
    rfl
  refine ⟨markers, hmarkers, ?_, hmarker⟩
  refine Directory.sorted_names_eq (hboot.indexed_names.nodup start.journals.sorted_names_nodup)
    (start.journals.sorted_names_sorted.pairwise.sublist hboot.indexed_names).sortedLE
    fun name => ?_
  by_cases hmem : name ∈ (indexedJournals start journals).map Prod.fst
  · obtain ⟨⟨_, parsed⟩, hentry, rfl⟩ := List.mem_map.mp hmem
    simp [hmem, hmarker _ parsed hentry]
  · rw [hlookup, if_neg (fun hlisted => hmem ((hnames name).mp hlisted))]
    simp [hmem]

/-- No active journal is completed, nor recovered by a completed one. -/
theorem completed_indexed (disk : ReportDisk) (journals : List (String × ParsedJournal)) :
    completedOperations disk.store (indexedJournals disk journals) = [] := by
  rw [List.eq_nil_iff_forall_not_mem]
  intro operationId hmem
  obtain ⟨name, parsed, hactive, hcomplete, rfl⟩ := mem_completed_operations.mp hmem
  obtain ⟨hjournal, hopen⟩ := List.mem_filter.mp hactive
  have hcompleted : parsed.operationId ∈ completedOperations disk.store journals :=
    mem_completed_operations.mpr ⟨name, parsed, hjournal, hcomplete, rfl⟩
  simp [isTerminal, hcompleted] at hopen

/-- The marked journals leave the operations that all journals leave. -/
theorem remaining_indexed (disk : ReportDisk) (journals : List (String × ParsedJournal)) :
    remainingOperations disk.store (indexedJournals disk journals) =
      remainingOperations disk.store journals := by
  unfold remainingOperations
  rw [completed_indexed]
  simp only [indexedJournals, activeJournals, List.filter_filter]
  congr 1
  refine List.filter_congr fun entry _ => ?_
  simp only [isTerminal]
  cases entry.2.operation <;> cases entry.2.recoveryOperationId <;> simp [Bool.and_comm]

/-- What remains depends on the reports of the directory only. -/
theorem remaining_operations_congr {store store' : Store} (h : store'.reports = store.reports)
    (indexed : List (String × ParsedJournal)) :
    remainingOperations store' indexed = remainingOperations store indexed := by
  simp only [remainingOperations, completedOperations, completionHasFinalReport, hasFinalReport, h]

/-- The directory with its index, as the scan sees it. -/
def ReportDisk.indexedStore (disk : ReportDisk) (markers : Directory String) : Store :=
  { disk.store with indexed := true, markers }

/-- Every marked journal is read, and its marker names its operation. -/
theorem Bootable.read_indexed (hboot : Bootable start journals) (hkept : Kept start left)
    {markers : Directory String}
    (hnames : sortedNames markers = (indexedJournals start journals).map Prod.fst)
    (hlookup : ∀ name parsed, (name, parsed) ∈ indexedJournals start journals →
      markers.lookup name = some parsed.operationId) :
    readActiveJournals (left.indexedStore markers) = .ok (indexedJournals start journals) := by
  have hcount := hboot.marks.count
  have hlength : markers.keys.length = (indexedJournals start journals).length := by
    have hlisted := (List.perm_insertionSort (· ≤ ·) markers.keys).length_eq
    have hsame := congrArg List.length hnames
    rw [List.length_map] at hsame
    exact hlisted.symm.trans hsame
  unfold readActiveJournals
  rw [Result.refuse_of_not (by
    simp only [ReportDisk.indexedStore, hlength, indexedJournals]
    unfold maxRecoveryJournals at hcount ⊢
    omega)]
  show (sortedNames markers).mapM _ = _
  rw [hnames]
  refine Result.mapM_eq_ok.mpr (List.forall₂_map_left_iff.mpr (List.forall₂_same.mpr ?_))
  rintro ⟨name, parsed⟩ hmem
  have hjournal : readJournal (left.indexedStore markers) name = .ok parsed := by
    show readJournal left.store name = .ok parsed
    unfold readJournal
    rw [hkept.events name]
    exact (hboot.indexed_operation hmem).1
  unfold readActiveJournal
  rw [hjournal, Result.ok_bind, Result.refuse_of_not (by
    simp [ReportDisk.indexedStore, hlookup name parsed hmem])]
  rfl

/-- The scan through a full index returns what classifying every journal returns. -/
theorem FullIndex.operations (hfull : FullIndex start left) (hboot : Bootable start journals)
    (hkept : Kept start left) : indexedOperations left = classifiedOperations start := by
  obtain ⟨markers, hmarkers, hnames, hlookup⟩ := hfull.markers hboot
  have hread := hboot.read_indexed hkept hnames hlookup
  have hreports : (left.indexedStore markers).reports = start.store.reports := hkept.reports
  have hbound : (remainingOperations start.store journals).length ≤ maxRecoveryJournals := by
    rw [← remaining_indexed]
    have hcount := hboot.marks.count
    have hfiltered := List.length_filterMap_le (fun entry : String × ParsedJournal =>
        entry.2.operation) ((indexedJournals start journals).filter fun entry =>
      !isTerminal (completedOperations start.store (indexedJournals start journals)) entry.2 &&
        !journalHasTerminalResolution entry.2)
    have hlisted := List.length_filter_le (fun entry : String × ParsedJournal =>
      !isTerminal (completedOperations start.store (indexedJournals start journals)) entry.2 &&
        !journalHasTerminalResolution entry.2) (indexedJournals start journals)
    unfold remainingOperations
    simp only [indexedJournals] at hfiltered hlisted ⊢
    omega
  unfold indexedOperations classifiedOperations
  rw [hmarkers, hboot.parsed.1]
  show ((unresolvedOperations (left.indexedStore markers)) >>= fun answer =>
    (.ok answer.2 : Except String _)) = .ok (remainingOperations start.store journals)
  unfold unresolvedOperations
  rw [show bootstrapActiveIndex (left.indexedStore markers) =
    .ok (left.indexedStore markers) from rfl, Result.ok_bind, hread, Result.ok_bind,
    remaining_operations_congr hreports, remaining_indexed, Result.refuse_of_not (by omega)]
  rfl

/-! ## Exactness -/

/-- A rerun on `disk` does what an uninterrupted run on `start` does. -/
structure RestartExact (start disk : ReportDisk) : Prop where
  returns : (bootstrapRun disk).1 = .ok ()
  markers : ∀ name, (bootstrapRun disk).2.text name = (bootstrapRun start).2.text name
  durable : ∀ {outcome left}, Program.Runs onDisk bootstrapDisk disk outcome left →
    left.text activeJournalIndexName ≠ none →
      ∀ {name payload}, Planned start name payload → Durable left name payload
  operations : indexedOperations (bootstrapRun disk).2 = classifiedOperations start

/-- An uninterrupted run that returned could bootstrap. -/
theorem Legacy.bootable (h : Legacy start) (hreturns : (bootstrapRun start).1 = .ok ()) :
    ∃ journals, Bootable start journals := by
  rcases (bootstrap_run_spec start).2.1.mp hreturns with hpresent | ⟨-, hboot⟩
  · rw [text_eq_none.mpr (h.lookup _)] at hpresent
    cases hpresent
  · exact hboot

/-- Any run of the bootstrap, wherever it stops, has made progress only. -/
theorem progress_of_runs {outcome : Outcome String Unit}
    (h : Program.Runs onDisk bootstrapDisk disk outcome left) : Progress disk left := by
  have hends := (ensures_bootstrap disk).runs h
  cases outcome with
  | interrupted => exact hends
  | raised error => exact hends.1
  | returned value => exact hends.1

/-- A rerun from a settled directory is exact. -/
theorem Resumable.exact (h : Resumable start disk) (hlegacy : Legacy start)
    (hboot : Bootable start journals) (hsettled : Settled start disk) :
    RestartExact start disk := by
  have hready : Ready disk := by
    cases hindex : disk.text activeJournalIndexName with
    | some text => exact .inl (hsettled.index text hindex ▸ hindex)
    | none => exact .inr ⟨hindex, journals, h.bootable hlegacy hboot hsettled hindex⟩
  have hstart : Ready start := .inr ⟨text_eq_none.mpr (hlegacy.lookup _), journals, hboot⟩
  obtain ⟨hprogress, hreturns, hfinished⟩ := bootstrap_run_spec disk
  obtain ⟨hprogress', -, hfinished'⟩ := bootstrap_run_spec start
  have hfull := h.full_index hsettled hprogress (hfinished hready)
  have hfull' := hlegacy.resumable.full_index (hlegacy.settled hboot) hprogress' (hfinished' hstart)
  refine ⟨hreturns.mpr hready, hfull.text_eq hfull', ?_, ?_⟩
  · intro outcome left hrun hindex name payload hplanned
    exact h.durable hsettled (progress_of_runs hrun)
      (fun habsent => hindex (text_eq_none.mpr habsent))
      hplanned
  · exact hfull.operations hboot (h.kept.trans hprogress.kept)

/-- Where a rerun is exact, the directory that it found was settled. -/
theorem Legacy.settled_of_exact (hlegacy : Legacy start)
    (hboot : Bootable start journals) (hexact : RestartExact start disk) : Settled start disk := by
  obtain ⟨hprogress, hreturns, hfinished⟩ := bootstrap_run_spec disk
  obtain ⟨hprogress', -, hfinished'⟩ := bootstrap_run_spec start
  have hready := hreturns.mp hexact.returns
  have hstart : Ready start := .inr ⟨text_eq_none.mpr (hlegacy.lookup _), journals, hboot⟩
  have hfull := hlegacy.resumable.full_index (hlegacy.settled hboot) hprogress' (hfinished' hstart)
  refine ⟨?_, ?_, ?_⟩
  · intro text htext
    rcases hready with hpresent | ⟨habsent, -⟩
    · exact Option.some.inj (htext.symm.trans hpresent)
    · exact absurd (habsent.symm.trans htext) (by simp)
  · intro name file payload hfile hplanned
    obtain ⟨kept, hkept, htext, hwritten, -⟩ := hprogress.grown.old name file hfile
    have hplace : (bootstrapRun disk).2.text name = some payload :=
      (hexact.markers name).trans ((hfull name payload).mpr (.inr hplanned))
    have hindex : (bootstrapRun disk).2.text activeJournalIndexName ≠ none := by
      rw [hexact.markers, (hfull _ _).mpr (.inl ⟨rfl, rfl⟩)]
      simp
    obtain ⟨durable, hdurable, -, hflushed, -⟩ :=
      hexact.durable (Program.runs_run serveDisk bootstrapDisk disk) hindex hplanned
    obtain rfl := Option.some.inj (hkept.symm.trans hdurable)
    refine ⟨?_, hwritten.symm.trans hflushed⟩
    rw [← htext]
    exact Option.some.inj ((text_eq_some.mpr ⟨kept, hkept, rfl⟩).symm.trans hplace)
  · intro habsent found hfound
    rcases hready with hpresent | ⟨-, others, hboot'⟩
    · exact absurd (habsent.symm.trans hpresent) (by simp)
    · obtain rfl := Except.ok.inj (hboot'.parsed.1.symm.trans hfound)
      exact hboot'.marks.clean

/-- A rerun after any interruptions is exact precisely from a settled directory. -/
theorem restart_exact_iff (hlegacy : Legacy start) (hreturns : (bootstrapRun start).1 = .ok ())
    (hinterrupted : Interrupted start disk) : RestartExact start disk ↔ Settled start disk := by
  obtain ⟨journals, hboot⟩ := hlegacy.bootable hreturns
  have hresumable := hinterrupted.resumable hlegacy
  exact ⟨hlegacy.settled_of_exact hboot, hresumable.exact hlegacy hboot⟩

/-- The legacy directory of an install that died while it changed the host. -/
def crashedDirectory : ReportDisk :=
  { journals := (∅ : Directory JournalFile).insert (journalName "install.json")
      { events :=
          [{ operationId := operationOf 'a'
             timestamp := "2026-01-01T00:00:00+00:00"
             details := .operationStarted },
           { operationId := operationOf 'a'
             timestamp := "2026-01-01T00:00:01+00:00"
             details := .rollbackSnapshotPersisted installSnapshot },
           { operationId := operationOf 'a'
             timestamp := "2026-01-01T00:00:02+00:00"
             details := .commandStarted ["systemctl", "stop", "docker.service"] true }]
        size := 1024 } }

theorem crashed_directory_returns : (bootstrapRun crashedDirectory).1 = .ok () := by
  decide +kernel

/-- The run is killed behind the whole, flushed marker and before the index. -/
def markedDirectory : ReportDisk :=
  Program.stopAfter serveDisk 120 bootstrapDisk crashedDirectory

/-- The only marker that the bootstrap of that directory plans. -/
theorem crashed_directory_planned {name : String} {payload : List Char}
    (h : Planned crashedDirectory name payload) :
    name = journalName "install.json" ∧
      payload = activeMarkerPayload (journalName "install.json") (operationOf 'a') := by
  obtain ⟨journals, parsed, hreads, hmem, rfl⟩ := h
  have hplanned : (parsedJournals crashedDirectory).toOption.map (fun journals =>
      (activeJournals (completedOperations crashedDirectory.store journals) journals).map
        fun entry => (entry.1, entry.2.operationId)) =
      some [(journalName "install.json", operationOf 'a')] := by
    decide +kernel
  rw [hreads] at hplanned
  have hentry : (name, parsed.operationId) ∈ [(journalName "install.json", operationOf 'a')] :=
    Option.some.inj hplanned ▸ List.mem_map.mpr ⟨(name, parsed), hmem, rfl⟩
  obtain ⟨rfl, hoperation⟩ := Prod.mk.inj (List.mem_singleton.mp hentry)
  exact ⟨rfl, by rw [hoperation]⟩

/-- What the killed run leaves: the whole, flushed marker, no index, and nothing else changed. -/
theorem marked_directory_shown :
    markedDirectory.text activeJournalIndexName = none ∧ markedDirectory.bound = [] ∧
      (markedDirectory.active.lookup (journalName "install.json")).map (fun file =>
        (decide (file.text = activeMarkerPayload (journalName "install.json") (operationOf 'a')),
          file.written)) = some (true, true) := by
  decide +kernel

/-- The directory with the marker alone is settled. -/
theorem marked_directory_settled (hinterrupted : Interrupted crashedDirectory markedDirectory) :
    Settled crashedDirectory markedDirectory := by
  obtain ⟨habsent, hbound, hmarker⟩ := marked_directory_shown
  have hlegacy : Legacy crashedDirectory := ⟨rfl, rfl⟩
  obtain ⟨started, hboot⟩ := hlegacy.bootable crashed_directory_returns
  refine ⟨?_, ?_, ?_⟩
  · intro text htext
    rw [habsent] at htext
    cases htext
  · intro name file payload hfile hplanned
    obtain ⟨rfl, rfl⟩ := crashed_directory_planned hplanned
    rw [hfile] at hmarker
    obtain ⟨htext, hwritten⟩ := Prod.mk.inj (Option.some.inj hmarker)
    exact ⟨of_decide_eq_true htext, hwritten⟩
  · -- The rerun reads the journals that the first run read.
    intro _ journals hreads
    have hkept := (hinterrupted.resumable hlegacy).kept
    rw [completed_operations_congr hkept.reports, hbound]
    exact (hlegacy.settled hboot).bound rfl journals (hkept.parsed_journals ▸ hreads)

/-- A run that was killed between the marker and the index is repeated exactly. -/
theorem restart_exact_iff_crashed_install : RestartExact crashedDirectory markedDirectory := by
  have hinterrupted : Interrupted crashedDirectory markedDirectory :=
    .killed .legacy (Program.runs_stop_after serveDisk 120 bootstrapDisk crashedDirectory)
  exact (restart_exact_iff ⟨rfl, rfl⟩ crashed_directory_returns hinterrupted).mpr
    (marked_directory_settled hinterrupted)

/-- The run is killed between the exclusive create of the marker and its first byte. -/
def emptyMarker : ReportDisk :=
  Program.stopAfter serveDisk 4 bootstrapDisk crashedDirectory

theorem empty_marker_stops_rerun :
    ¬ ∀ start disk, Legacy start → (bootstrapRun start).1 = .ok () → Interrupted start disk →
      RestartExact start disk := by
  intro hall
  have hinterrupted : Interrupted crashedDirectory emptyMarker :=
    .killed .legacy (Program.runs_stop_after serveDisk 4 bootstrapDisk crashedDirectory)
  have hexact := hall _ _ ⟨rfl, rfl⟩ crashed_directory_returns hinterrupted
  exact absurd hexact.returns (by decide +kernel)

end NvidiaConverge
