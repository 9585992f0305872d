import NvidiaConverge.Recovery.Consistency
import NvidiaConverge.Recovery.ReserveRuns
import NvidiaConverge.Recovery.RestartExact

/-!
# The next command behind a crashed reservation

A directory with its index is read through its markers: `Readable` says when that succeeds and
`Remains` which operations it lists. A crashed reservation adds at most one marker, whose journal
holds its first event only, so that the list stays the same; `applied_report_reservation_atomic`
puts this together with the runs.
-/

namespace NvidiaConverge.Reserve

open Directory (sortedNames)
open Program (Outcome Runs)

variable {request : ReservationRequest} {start disk : ReportDisk} {name : String}
  {parsed : ParsedJournal} {operations : List UnresolvedOperation}

/-! ## Reading through the markers -/

/-- The names of the markers of a directory, in order and without the index. -/
def markerNames (disk : ReportDisk) : List String :=
  (sortedNames disk.active).filter (· != activeJournalIndexName)

/-- A marker of the directory that can be read, with the journal that it names. -/
structure Entry (disk : ReportDisk) (name : String) (parsed : ParsedJournal) : Prop where
  listed : name ∈ markerNames disk
  marker : readActiveMarker disk name = .ok parsed.operationId
  journal : readJournal disk.store name = .ok parsed

/-- Every marker of the directory and its journal can be read, and there are not too many. -/
structure Readable (disk : ReportDisk) : Prop where
  bounded : (markerNames disk).length ≤ maxRecoveryJournals
  entries : ∀ name ∈ markerNames disk, ∃ parsed, Entry disk name parsed

/-- The marked operations whose completion has its final report. -/
def Completed (disk : ReportDisk) (operationId : String) : Prop :=
  ∃ name parsed, Entry disk name parsed ∧
    completionHasFinalReport disk.store name parsed = true ∧ parsed.operationId = operationId

/-- The operations that a scan lists: of an entry that is not completed, recovered or resolved. -/
def Remains (disk : ReportDisk) (operation : UnresolvedOperation) : Prop :=
  ∃ name parsed, Entry disk name parsed ∧ ¬ Completed disk parsed.operationId ∧
    (∀ recoverer, parsed.recoveryOperationId = some recoverer → ¬ Completed disk recoverer) ∧
    journalHasTerminalResolution parsed = false ∧ parsed.operation = some operation

/-- Markers that were all read are those of the names, each with what its step returned. -/
theorem read_markers_steps {step : String → Except String String} {names : List String}
    {markers result : Directory String}
    (h : names.foldlM (fun markers name => do
      let operationId ← step name
      pure (AList.insert name operationId markers)) markers = .ok result) :
    ∀ name ∈ names, ∃ operationId, step name = .ok operationId := by
  induction names generalizing markers with
  | nil => exact fun _ hmem => absurd hmem List.not_mem_nil
  | cons first rest ih =>
      rw [List.foldlM_cons] at h
      obtain ⟨following, hstep, h⟩ := Result.bind_eq_ok.mp h
      obtain ⟨operationId, hfirst, -⟩ := Result.bind_eq_ok.mp hstep
      intro name hmem
      rcases List.mem_cons.mp hmem with rfl | hmem
      · exact ⟨operationId, hfirst⟩
      · exact ih h name hmem

theorem marker_names_sorted : (markerNames disk).SortedLE :=
  (disk.active.sorted_names_sorted.pairwise.sublist List.filter_sublist).sortedLE

theorem marker_names_nodup : (markerNames disk).Nodup :=
  disk.active.sorted_names_nodup.filter _

/-- The markers are read where each one is, and then hold the names of the directory. -/
theorem read_active_markers_ok
    (h : ∀ name ∈ markerNames disk, ∃ operationId, readActiveMarker disk name = .ok operationId) :
    ∃ markers, readActiveMarkers disk = .ok markers ∧ sortedNames markers = markerNames disk ∧
      ∀ name, markers.lookup name =
        if name ∈ markerNames disk then (readActiveMarker disk name).toOption else none := by
  obtain ⟨markers, hmarkers, hlookup⟩ := read_markers_ok (readActiveMarker disk) _ h ∅
  refine ⟨markers, hmarkers, ?_, hlookup⟩
  refine Directory.sorted_names_eq marker_names_nodup marker_names_sorted fun name => ?_
  rw [hlookup]
  by_cases hmem : name ∈ markerNames disk
  · obtain ⟨operationId, hread⟩ := h name hmem
    simp [hmem, hread, Except.toOption]
  · simp [hmem]

/-- A readable directory has its markers and their journals read, one for each entry. -/
theorem Readable.indexed (h : Readable disk) :
    ∃ markers indexed, readActiveMarkers disk = .ok markers ∧
      readActiveJournals (disk.indexedStore markers) = .ok indexed ∧
      indexed.length ≤ maxRecoveryJournals ∧
      ∀ name parsed, (name, parsed) ∈ indexed ↔ Entry disk name parsed := by
  have hmarker : ∀ name ∈ markerNames disk, ∃ operationId,
      readActiveMarker disk name = .ok operationId := fun name hmem => by
    obtain ⟨parsed, hentry⟩ := h.entries name hmem
    exact ⟨_, hentry.marker⟩
  obtain ⟨markers, hmarkers, hnames, hlookup⟩ := read_active_markers_ok hmarker
  have hnamed : ∀ name parsed, Entry disk name parsed →
      markers.lookup name = some parsed.operationId := fun name parsed hentry => by
    rw [hlookup, if_pos hentry.listed, hentry.marker]
    rfl
  have hread : ∀ name parsed, Entry disk name parsed →
      readActiveJournal (disk.indexedStore markers) name = .ok (name, parsed) := by
    intro name parsed hentry
    refine Result.bind_eq_ok.mpr ⟨parsed, hentry.journal, ?_⟩
    refine Result.check_bind_eq_ok.mpr ⟨Result.refuse_eq_ok.mpr ?_, rfl⟩
    rw [not_not]
    exact hnamed name parsed hentry
  obtain ⟨indexed, hindexed⟩ : ∃ indexed, (markerNames disk).mapM
      (readActiveJournal (disk.indexedStore markers)) = .ok indexed :=
    Result.mapM_succeeds fun name hmem => by
      obtain ⟨parsed, hentry⟩ := h.entries name hmem
      exact ⟨_, hread name parsed hentry⟩
  have hforall := Result.mapM_eq_ok.mp hindexed
  have hlength : indexed.length ≤ maxRecoveryJournals :=
    hforall.length_eq ▸ h.bounded
  refine ⟨markers, indexed, hmarkers, ?_, hlength,
    fun name parsed => ⟨fun hmem => ?_, fun hentry => ?_⟩⟩
  · have hkeys : markers.keys.length = (markerNames disk).length := by
      rw [← hnames]
      exact (List.perm_insertionSort (· ≤ ·) markers.keys).length_eq.symm
    have hbounded := h.bounded
    refine Result.check_bind_eq_ok.mpr ⟨Result.refuse_eq_ok.mpr ?_, ?_⟩
    · show ¬ maxRecoveryJournals + 1 < markers.keys.length + 1
      omega
    · show (sortedNames markers).mapM _ = _
      rw [hnames]
      exact hindexed
  · obtain ⟨listed, hlisted, hfound⟩ := Result.forall₂_exists_left hforall hmem
    obtain ⟨parsed', hentry⟩ := h.entries listed hlisted
    obtain ⟨rfl, rfl⟩ := Prod.mk.inj (Except.ok.inj ((hread _ _ hentry).symm.trans hfound))
    exact hentry
  · obtain ⟨found, hmem, hfound⟩ := Result.forall₂_exists_right hforall hentry.listed
    rwa [← Except.ok.inj ((hread _ _ hentry).symm.trans hfound)] at hmem

/-- A journal is not terminal exactly when it has an operation that neither completed nor was
recovered. -/
theorem is_terminal_iff {completed : List String} :
    isTerminal completed parsed = false ↔ parsed.operation ≠ none ∧
      parsed.operationId ∉ completed ∧
      ∀ recoverer, parsed.recoveryOperationId = some recoverer → recoverer ∉ completed := by
  cases hrecovery : parsed.recoveryOperationId <;>
    simp [isTerminal, hrecovery, and_assoc, Option.ne_none_iff_isSome]

/-- The operations that a readable directory lists. -/
theorem Readable.lists (h : Readable disk) :
    ∃ remaining, indexedOperations disk = .ok remaining ∧
      ∀ operation, operation ∈ remaining ↔ Remains disk operation := by
  obtain ⟨markers, indexed, hmarkers, hindexed, hlength, hmem⟩ := h.indexed
  have hcompleted : ∀ operationId, operationId ∈
      completedOperations (disk.indexedStore markers) indexed ↔ Completed disk operationId := by
    intro operationId
    simp only [mem_completed_operations, hmem, Completed]
    rfl
  have hremaining : ∀ operation, operation ∈
      remainingOperations (disk.indexedStore markers) indexed ↔ Remains disk operation := by
    intro operation
    simp only [mem_remaining_operations, hmem, Remains, is_terminal_iff, hcompleted]
    constructor
    · rintro ⟨name, parsed, hentry, ⟨-, hopen, hrecovered⟩, hresolution, hoperation⟩
      exact ⟨name, parsed, hentry, hopen, hrecovered, hresolution, hoperation⟩
    · rintro ⟨name, parsed, hentry, hopen, hrecovered, hresolution, hoperation⟩
      exact ⟨name, parsed, hentry, ⟨by simp [hoperation], hopen, hrecovered⟩, hresolution,
        hoperation⟩
  refine ⟨_, ?_, hremaining⟩
  have hbounded : (remainingOperations (disk.indexedStore markers) indexed).length ≤
      maxRecoveryJournals := by
    unfold remainingOperations
    exact (List.length_filterMap_le _ _).trans ((List.length_filter_le _ _).trans hlength)
  have hunresolved : unresolvedOperations (disk.indexedStore markers) =
      .ok ((disk.indexedStore markers).retire
        (retirableMarkers (disk.indexedStore markers) indexed),
          remainingOperations (disk.indexedStore markers) indexed) := by
    refine Result.bind_eq_ok.mpr ⟨disk.indexedStore markers, rfl, ?_⟩
    refine Result.bind_eq_ok.mpr ⟨indexed, hindexed, ?_⟩
    exact Result.check_bind_eq_ok.mpr ⟨Result.refuse_eq_ok.mpr (by omega), rfl⟩
  exact Result.bind_eq_ok.mpr ⟨markers, hmarkers, Result.bind_eq_ok.mpr ⟨_, hunresolved, rfl⟩⟩

/-- A directory whose operations were listed is readable. -/
theorem readable_of_operations (h : indexedOperations disk = .ok operations) : Readable disk := by
  obtain ⟨markers, hmarkers, h⟩ := Result.bind_eq_ok.mp h
  obtain ⟨⟨store, listed⟩, h, -⟩ := Result.bind_eq_ok.mp h
  obtain ⟨bootstrapped, hbootstrapped, h⟩ := Result.bind_eq_ok.mp h
  obtain rfl : disk.indexedStore markers = bootstrapped := Except.ok.inj hbootstrapped
  obtain ⟨indexed, hindexed, -⟩ := Result.bind_eq_ok.mp h
  have hsteps := read_markers_steps hmarkers
  obtain ⟨markers', hmarkers', hnames, hlookup⟩ := read_active_markers_ok hsteps
  obtain rfl : markers = markers' := Except.ok.inj (hmarkers.symm.trans hmarkers')
  have hkeys : markers.keys.length = (markerNames disk).length := by
    rw [← hnames]
    exact (List.perm_insertionSort (· ≤ ·) markers.keys).length_eq.symm
  refine ⟨?_, fun name hmem => ?_⟩
  · have hlimit := Result.refuse_eq_ok.mp (Result.check_bind_eq_ok.mp hindexed).1
    have hkeys' : (disk.indexedStore markers).markers.keys.length = (markerNames disk).length :=
      hkeys
    omega
  · have hmarked : (disk.indexedStore markers).markers.lookup name ≠ none := by
      show markers.lookup name ≠ none
      rw [← Directory.mem_sorted_names, hnames]
      exact hmem
    obtain ⟨parsed, hparsed⟩ := read_active_journals_marked hindexed hmarked
    obtain ⟨events, hread⟩ := read_active_journals_mem hindexed hparsed
    obtain ⟨operationId, hoperation⟩ := hsteps name hmem
    refine ⟨parsed, hmem, ?_, ?_⟩
    · have hmarker : markers.lookup name = some parsed.operationId := hread.marker
      rw [hlookup, if_pos hmem, hoperation] at hmarker
      rw [hoperation, ← Option.some.inj hmarker]
    · have hjournal : disk.store.journals.lookup name = some events := hread.journal
      unfold readJournal
      rw [hjournal]
      exact hread.parse

/-! ## The next command -/

theorem run_raise_if {condition : Prop} [Decidable condition] (h : ¬ condition) (error : String)
    (disk : ReportDisk) :
    Program.run serveDisk (Program.raiseIf condition error : DiskProgram Unit) disk =
      (.ok (), disk) := by
  rw [Program.raiseIf, if_neg h]
  rfl

/-- A bootstrap leaves a directory with an index as it is. -/
theorem bootstrap_present (h : disk.text activeJournalIndexName = some activeIndexText) :
    bootstrapRun disk = (.ok (), disk) := by
  have hlookup : (disk.active.lookup activeJournalIndexName).map (·.text) =
      some activeIndexText := h
  have hread : Program.run serveDisk (Disk.readActive activeJournalIndexName) disk =
      (.ok (some activeIndexText), disk) := by
    rw [← hlookup]
    rfl
  have hpresent : Program.run serveDisk activeIndexPresent disk = (.ok true, disk) := by
    unfold activeIndexPresent
    rw [Program.run_bind_ok hread]
    exact Program.run_bind_ok (run_raise_if (not_not.mpr rfl) _ disk)
  unfold bootstrapRun bootstrapDisk
  rw [Program.run_bind_ok hpresent]
  rfl

/-- Releasing reserves changes nothing of the directory but its reserves. -/
theorem run_release_reserves (names : List String)
    (hnames : ∀ name ∈ names, isJournalFileName name = true) (disk : ReportDisk) :
    ∃ found reserves released, Program.run serveDisk (releaseActiveReserves names) disk =
      (.ok found, { disk with reserves, released }) := by
  induction names generalizing disk with
  | nil => exact ⟨false, disk.reserves, disk.released, rfl⟩
  | cons name rest ih =>
      have hname := hnames name List.mem_cons_self
      simp only [isJournalFileName, Bool.and_eq_true] at hname
      obtain ⟨found, reserves, released, hunlink⟩ : ∃ found reserves released,
          Program.run serveDisk (Disk.unlinkReserve (emergencyReserveName (reportName name))) disk =
            (.ok found, { disk with reserves, released }) := by
        by_cases hthere : disk.reserves.contains (emergencyReserveName (reportName name)) = true
        · have hserve : serveDisk disk (.unlinkReserve (emergencyReserveName (reportName name))) =
              (true, { disk with
                reserves := disk.reserves.erase (emergencyReserveName (reportName name))
                released := emergencyReserveName (reportName name) :: disk.released }) :=
            if_pos hthere
          exact ⟨true, _, _, congrArg (fun answer => (Except.ok answer.1, answer.2)) hserve⟩
        · have hserve : serveDisk disk (.unlinkReserve (emergencyReserveName (reportName name))) =
              (false, disk) := if_neg hthere
          exact ⟨false, disk.reserves, disk.released,
            congrArg (fun answer => (Except.ok answer.1, answer.2)) hserve⟩
      obtain ⟨others, reserves', released', hrest⟩ :=
        ih (fun other hmem => hnames other (List.mem_cons_of_mem _ hmem))
          { disk with reserves, released }
      refine ⟨found || others, reserves', released', ?_⟩
      unfold releaseActiveReserves
      rw [Program.run_bind_ok (run_raise_if (by simp [hname.1]) _ disk),
        Program.run_bind_ok (run_raise_if (by simp [hname.2]) _ disk),
        Program.run_bind_ok hunlink, Program.run_bind_ok hrest]
      rfl

/-- Releasing stale reserves changes nothing of the directory but its reserves. -/
theorem run_release_stale (names : List String)
    (hnames : ∀ name ∈ names, isJournalFileName name = true) (disk : ReportDisk) :
    ∃ reserves released, Program.run serveDisk (releaseStaleReserves names) disk =
      (.ok (), { disk with reserves, released }) := by
  obtain ⟨found, reserves, released, hrun⟩ := run_release_reserves names hnames disk
  unfold releaseStaleReserves
  rw [Program.run_bind_ok hrun]
  cases found with
  | true => exact ⟨reserves, [], rfl⟩
  | false => exact ⟨reserves, released, rfl⟩

theorem length_active_le : (sortedNames disk.active).length ≤ (markerNames disk).length + 1 := by
  have hsplit := List.length_eq_length_filter_add (l := sortedNames disk.active)
    (· != activeJournalIndexName)
  have hindex : ((sortedNames disk.active).filter
      fun name => !(name != activeJournalIndexName)).length ≤ 1 := by
    simp only [bne, Bool.not_not]
    have hcount := List.nodup_iff_count_le_one.mp disk.active.sorted_names_nodup
      activeJournalIndexName
    rw [List.count, List.countP_eq_length_filter] at hcount
    exact hcount
  unfold markerNames
  omega

/-- The next command behind a readable directory. -/
theorem Readable.next (h : Readable disk)
    (hindex : disk.text activeJournalIndexName = some activeIndexText) :
    ∃ cleaned remaining, cleanupStaleReserves disk = .ok cleaned ∧
      nextOperations cleaned = .ok remaining ∧
      ∀ operation, operation ∈ remaining ↔ Remains disk operation := by
  obtain ⟨markers, -, hmarkers, -, -, -⟩ := h.indexed
  obtain ⟨remaining, hoperations, hremaining⟩ := h.lists
  have hvalid : ∀ name ∈ markerNames disk, isJournalFileName name = true := fun name hmem => by
    obtain ⟨parsed, hentry⟩ := h.entries name hmem
    have hsafe := (Result.check_bind_eq_ok.mp hentry.marker).1
    rwa [Result.refuse_eq_ok, Bool.not_eq_false] at hsafe
  have hnames : activeRecoveryJournalNames disk = .ok (markerNames disk) := by
    have hbounded := h.bounded
    have hlength := @length_active_le disk
    refine Result.check_bind_eq_ok.mpr ⟨Result.refuse_eq_ok.mpr (by omega), ?_⟩
    exact Result.bind_eq_ok.mpr ⟨markers, hmarkers, rfl⟩
  obtain ⟨reserves, released, hrelease⟩ := run_release_stale (markerNames disk) hvalid disk
  refine ⟨{ disk with reserves, released }, remaining, ?_, ?_, hremaining⟩
  · unfold cleanupStaleReserves
    rw [bootstrap_present hindex]
    refine Result.bind_eq_ok.mpr ⟨(), rfl, Result.bind_eq_ok.mpr ⟨_, hnames, ?_⟩⟩
    rw [hrelease]
    rfl
  · unfold nextOperations
    rw [bootstrap_present (show ReportDisk.text { disk with reserves, released } _ = _ from hindex)]
    exact Result.bind_eq_ok.mpr ⟨(), rfl, hoperations⟩

/-! ## What a crash leaves -/

/-- What a crash leaves of a reservation: a marker stands beside its whole journal. -/
structure Sound (request : ReservationRequest) (start : ReportDisk)
    (left : Reservation) : Prop where
  disk : left.disk = start
  fresh : ∀ file, left.files file ≠ none → Fresh start request file
  marked : ∀ marker, left.files .marker = some marker →
    marker.text <+: request.text .marker ∧ HasRoom start ∧
      ∃ journal, left.files .journal = some journal ∧ journal.text = request.started.line

variable {state left : Reservation}

theorem Sane.crash (h : Sane request start state) (hcrash : Crash state left) :
    Sound request start left := by
  cases hcrash with
  | killed =>
      refine ⟨h.disk, h.fresh, fun marker hmarker => ?_⟩
      obtain ⟨htextPrefix, hjournal, hroom⟩ := h.marked marker hmarker
      exact ⟨htextPrefix, hroom, _, hjournal, rfl⟩
  | powerLoss _ hdisk habsent hfiles =>
      have hthere : ∀ file, left.files file ≠ none → state.files file ≠ none :=
        fun file hfile hnone => hfile (habsent file hnone)
      refine ⟨hdisk.trans h.disk, fun file hfile => h.fresh file (hthere file hfile),
        fun marker hmarker => ?_⟩
      obtain ⟨before, hbefore⟩ := Option.ne_none_iff_exists'.mp
        (hthere .marker (by simp [hmarker]))
      obtain ⟨htextPrefix, hjournal, hroom⟩ := h.marked before hbefore
      have hsurvives := hfiles .marker before hbefore
      rw [hmarker] at hsurvives
      refine ⟨hsurvives.2.2.1.trans htextPrefix, hroom, ?_⟩
      have hdurable := hfiles .journal _ hjournal
      -- The journal and its name were flushed before the marker was created.
      cases hleft : left.files .journal with
      | none =>
          rw [hleft] at hdurable
          cases hdurable
      | some journal =>
          rw [hleft] at hdurable
          exact ⟨journal, rfl, hdurable.2.2.2 rfl⟩

theorem journal_is_file_name (hname : isReportName request.name = true) :
    isJournalFileName request.journal = true := by
  have hsuffix : journalSuffix.toList.isSuffixOf request.journal.toList = true := by
    rw [List.isSuffixOf_iff_suffix, ReservationRequest.journal, journalName, String.toList_append]
    exact List.suffix_append _ _
  rw [isJournalFileName, hsuffix, Bool.true_and, ReservationRequest.journal,
    report_name_journal_name]
  exact hname

theorem journal_ne_index (hname : isReportName request.name = true) :
    request.journal ≠ activeJournalIndexName := by
  intro heq
  have hjournal := journal_is_file_name hname
  rw [heq, index_not_journal] at hjournal
  cases hjournal

theorem directory_active (hname : left.files .marker ≠ none → name ≠ request.journal) :
    (left.directory request).active.lookup name = left.disk.active.lookup name := by
  unfold Reservation.directory
  cases hmarker : left.files .marker with
  | none => rfl
  | some marker => exact AList.lookup_insert_ne (hname (by simp [hmarker]))

theorem directory_journal (hname : left.files .journal ≠ none → name ≠ request.journal) :
    (left.directory request).journals.lookup name = left.disk.journals.lookup name := by
  unfold Reservation.directory
  cases hjournal : left.files .journal with
  | none => rfl
  | some journal => exact AList.lookup_insert_ne (hname (by simp [hjournal]))

/-- The markers are the files of the active directory other than the index. -/
theorem mem_marker_names : name ∈ markerNames disk ↔
    disk.active.lookup name ≠ none ∧ name ≠ activeJournalIndexName := by
  rw [markerNames, List.mem_filter, Directory.mem_sorted_names, bne_iff_ne]

/-- A marker without its line feed names the operation, too. -/
theorem parse_written_marker (hid : isJournalOperation request.operationId = true)
    {text : List Char} (htextPrefix : text <+: request.text .marker)
    (hlength : (request.text .marker).length ≤ text.length + 1) :
    parseActiveMarker request.journal text = .ok request.operationId := by
  have hplain : Json.Plain (activeMarkerValue request.journal request.operationId) := by
    simp [activeMarkerValue, Json.Plain, Json.PlainFields]
  have hpayload : request.text .marker =
      (Json.dumps none (activeMarkerValue request.journal request.operationId)).toList ++
        [Char.ofNat 10] := by
    rw [ReservationRequest.text, activeMarkerPayload, String.toList_append]
    rfl
  rw [hpayload, List.length_append, List.length_singleton] at hlength
  rw [hpayload] at htextPrefix
  rcases List.prefix_concat_iff.mp htextPrefix with heq | hshort
  · have hwhole : parseActiveMarker request.journal
        (activeMarkerPayload request.journal request.operationId) = .ok request.operationId :=
      parse_marker_payload hid
    rw [show activeMarkerPayload request.journal request.operationId =
      request.text .marker from rfl,
      hpayload, ← heq] at hwhole
    exact hwhole
  · rw [hshort.eq_of_length_le (by omega), parseActiveMarker, String.ofList_toList,
      Json.loads_dumps hplain]
    show markerOperation request.journal
      (activeMarkerValue request.journal request.operationId) = _
    unfold markerOperation activeMarkerValue
    simp [List.lookup, hid, Result.refuse]

/-- The journal of a reservation holds nothing to recover. -/
theorem parse_started (hrequest : request.WellFormed) :
    ∃ parsed, parseJournal request.journal [request.started] = .ok parsed ∧
      parsed.operationId = request.operationId ∧ parsed.operation = none ∧
      parsed.completion = none := by
  obtain ⟨hid, hstarted⟩ := hrequest
  have hstream : validateEventStream request.journal [request.started] =
      .ok request.operationId := by
    refine Result.check_bind_eq_ok.mpr ⟨Result.refuse_eq_ok.mpr (by simp [hid]), ?_⟩
    exact Result.check_bind_eq_ok.mpr ⟨Result.refuse_eq_ok.mpr hstarted, rfl⟩
  refine ⟨{ operationId := request.operationId, operation := none, completion := none,
            persistenceFailed := false, recoveryOperationId := none,
            privateSnapshotArtifactsPossible := false, snapshotBindingPresent := false },
    ?_, rfl, rfl, rfl⟩
  refine Result.check_bind_eq_ok.mpr ⟨Result.refuse_eq_ok.mpr (by simp), ?_⟩
  refine Result.check_bind_eq_ok.mpr ⟨Result.refuse_eq_ok.mpr (by simp [maxJournalEvents]), ?_⟩
  refine Result.bind_eq_ok.mpr ⟨request.operationId, hstream, ?_⟩
  refine Result.check_bind_eq_ok.mpr ⟨Result.refuse_eq_ok.mpr ?_, rfl⟩
  show ¬ 1 < ([] : List SnapshotBinding).dedup.length
  simp

/-- The entries of the directory are still there. -/
theorem Sound.kept (h : Sound request start left) (hentry : Entry start name parsed) :
    Entry (left.directory request) name parsed := by
  have hlisted := mem_marker_names.mp hentry.listed
  have hmarker : left.files .marker ≠ none → name ≠ request.journal := by
    rintro hthere rfl
    exact hlisted.1 (h.fresh _ hthere)
  have hjournal : left.files .journal ≠ none → name ≠ request.journal := by
    rintro hthere rfl
    have hfound := hentry.journal
    have habsent : start.journals.lookup request.journal = none := h.fresh _ hthere
    unfold readJournal at hfound
    rw [ReportDisk.store, Directory.lookup_map_values, habsent] at hfound
    cases hfound
  have hactive := (directory_active hmarker).trans (by rw [h.disk])
  refine ⟨mem_marker_names.mpr ⟨hactive ▸ hlisted.1, hlisted.2⟩, ?_, ?_⟩
  · have hread := hentry.marker
    unfold readActiveMarker at hread ⊢
    rw [hactive]
    exact hread
  · have hread := hentry.journal
    unfold readJournal at hread ⊢
    simp only [ReportDisk.store, Directory.lookup_map_values] at hread ⊢
    rw [directory_journal hjournal, h.disk]
    exact hread

/-- The new marker and its journal are an entry of the directory. -/
theorem Sound.own (h : Sound request start left) (hname : isReportName request.name = true)
    (hrequest : request.WellFormed) (hwritten : MarkerWritten request left) {marker : ActiveFile}
    (hmarker : left.files .marker = some marker) :
    ∃ parsed, Entry (left.directory request) request.journal parsed ∧
      parsed.operation = none ∧ parsed.completion = none := by
  obtain ⟨htextPrefix, -, journal, hjournal, htext⟩ := h.marked marker hmarker
  obtain ⟨parsed, hparsed, hid, hoperation, hcompletion⟩ := parse_started hrequest
  have hactive : (left.directory request).active.lookup request.journal = some marker := by
    unfold Reservation.directory
    rw [hmarker]
    exact AList.lookup_insert _
  have hfile : (left.directory request).journals.lookup request.journal =
      some { events := [request.started], size := journal.text.length } := by
    unfold Reservation.directory
    rw [hjournal]
    show AList.lookup _ (AList.insert _ _ _) = _
    rw [AList.lookup_insert, startedJournal, if_pos htext]
  refine ⟨parsed, ⟨mem_marker_names.mpr ⟨by simp [hactive], journal_ne_index hname⟩, ?_, ?_⟩,
    hoperation, hcompletion⟩
  · unfold readActiveMarker
    rw [Result.refuse_of_not (by simp [journal_is_file_name hname]), hactive, hid]
    exact parse_written_marker hrequest.1 htextPrefix (hwritten marker hmarker)
  · unfold readJournal
    rw [ReportDisk.store, Directory.lookup_map_values, hfile]
    exact hparsed

/-- Every marker is one of those before, or the reservation's own. -/
theorem Sound.listed (h : Sound request start left)
    (hlisted : name ∈ markerNames (left.directory request)) :
    name ∈ markerNames start ∨ name = request.journal ∧ left.files .marker ≠ none := by
  rw [mem_marker_names] at hlisted ⊢
  by_cases hown : left.files .marker ≠ none ∧ name = request.journal
  · exact .inr ⟨hown.2, hown.1⟩
  · rw [directory_active fun hthere heq => hown ⟨hthere, heq⟩, h.disk] at hlisted
    exact .inl hlisted

/-- The directory behind the reservation has no more markers than a scan reads. -/
theorem Sound.bounded (h : Sound request start left) (hreadable : Readable start) :
    (markerNames (left.directory request)).length ≤ maxRecoveryJournals := by
  have hkeys : ∀ disk : ReportDisk, (markerNames disk).length =
      (disk.active.keys.filter (· != activeJournalIndexName)).length := fun disk =>
    ((List.perm_insertionSort (· ≤ ·) disk.active.keys).filter _).length_eq
  have hbounded := hreadable.bounded
  cases hmarker : left.files .marker with
  | none =>
      have hactive : (left.directory request).active = start.active := by
        unfold Reservation.directory
        rw [hmarker, h.disk]
      unfold markerNames at hbounded ⊢
      rw [hactive]
      exact hbounded
  | some marker =>
      obtain ⟨-, hroom, -⟩ := h.marked marker hmarker
      have hfresh : start.active.lookup request.journal = none :=
        h.fresh .marker (by simp [hmarker])
      have hactive : (left.directory request).active.keys =
          request.journal :: start.active.keys := by
        unfold Reservation.directory
        rw [hmarker]
        show (AList.insert request.journal marker left.disk.active).keys = _
        rw [AList.keys_insert, h.disk, List.erase_of_not_mem]
        rwa [← AList.mem_keys, ← AList.lookup_eq_none]
      have hfilter := List.length_filter_le (· != activeJournalIndexName) [request.journal]
      rw [hkeys, hactive, ← List.singleton_append, List.filter_append, List.length_append]
      unfold HasRoom maxActiveJournalMarkers at hroom
      unfold maxRecoveryJournals
      rw [List.length_singleton] at hfilter
      omega

/-- The directory behind a crash is readable, and lists the same operations. -/
theorem Sound.readable (h : Sound request start left) (hreadable : Readable start)
    (hown : left.files .marker ≠ none → ∃ parsed,
      Entry (left.directory request) request.journal parsed) :
    Readable (left.directory request) where
  bounded := h.bounded hreadable
  entries name hlisted := by
    rcases h.listed hlisted with hbefore | ⟨rfl, hthere⟩
    · obtain ⟨parsed, hentry⟩ := hreadable.entries name hbefore
      exact ⟨parsed, h.kept hentry⟩
    · exact hown hthere

theorem Entry.unique {parsed' : ParsedJournal} (h : Entry disk name parsed)
    (h' : Entry disk name parsed') : parsed' = parsed :=
  Except.ok.inj (h'.journal.symm.trans h.journal)

/-- Entries that were not listed before do not change what remains. -/
theorem remains_congr {before after : ReportDisk} (hreports : after.reports = before.reports)
    (hkept : ∀ name parsed, Entry before name parsed → Entry after name parsed)
    (hadded : ∀ name parsed, Entry after name parsed →
      Entry before name parsed ∨ parsed.operation = none ∧ parsed.completion = none)
    (operation : UnresolvedOperation) : Remains after operation ↔ Remains before operation := by
  have hfinal : ∀ name parsed, completionHasFinalReport after.store name parsed =
      completionHasFinalReport before.store name parsed := fun name parsed => by
    simp only [completionHasFinalReport, hasFinalReport, ReportDisk.store, hreports]
  have hcompleted : ∀ operationId, Completed after operationId ↔ Completed before operationId := by
    intro operationId
    constructor
    · rintro ⟨name, parsed, hentry, hcomplete, hid⟩
      rcases hadded name parsed hentry with hbefore | ⟨-, hnone⟩
      · exact ⟨name, parsed, hbefore, hfinal name parsed ▸ hcomplete, hid⟩
      · simp [completionHasFinalReport, hasFinalReport, hnone] at hcomplete
    · rintro ⟨name, parsed, hentry, hcomplete, hid⟩
      exact ⟨name, parsed, hkept name parsed hentry, (hfinal name parsed).trans hcomplete, hid⟩
  simp only [Remains, hcompleted]
  constructor
  · rintro ⟨name, parsed, hentry, hopen, hrecovered, hresolution, hoperation⟩
    rcases hadded name parsed hentry with hbefore | ⟨hnone, -⟩
    · exact ⟨name, parsed, hbefore, hopen, hrecovered, hresolution, hoperation⟩
    · rw [hnone] at hoperation
      cases hoperation
  · rintro ⟨name, parsed, hentry, hrest⟩
    exact ⟨name, parsed, hkept name parsed hentry, hrest⟩

/-! ## Atomic reservation -/

/-- The directory that admitted the caller is readable, and the scan returned what remains in it. -/
theorem Admitted.readable (h : Admitted start operations) :
    Readable start ∧ ∀ operation, operation ∈ operations ↔ Remains start operation := by
  have hnext := h.operations
  unfold nextOperations at hnext
  rw [bootstrap_present h.index] at hnext
  obtain ⟨-, -, hoperations⟩ := Result.bind_eq_ok.mp hnext
  have hreadable := readable_of_operations hoperations
  obtain ⟨remaining, hremaining, hmem⟩ := hreadable.lists
  obtain rfl : operations = remaining := Except.ok.inj (hoperations.symm.trans hremaining)
  exact ⟨hreadable, hmem⟩

/-- A sound reservation does not block the next operation: the directory stays readable. -/
theorem Sound.unblocked (h : Sound request start left) (hadmitted : Admitted start operations)
    (hname : left.files .marker ≠ none → isReportName request.name = true)
    (hrequest : request.WellFormed) (hwritten : MarkerWritten request left) :
    Unblocked (left.directory request) operations := by
  obtain ⟨hreadable, hoperations⟩ := hadmitted.readable
  have hown : left.files .marker ≠ none → ∃ parsed,
      Entry (left.directory request) request.journal parsed ∧
        parsed.operation = none ∧ parsed.completion = none := fun hthere => by
    obtain ⟨marker, hmarker⟩ := Option.ne_none_iff_exists'.mp hthere
    exact h.own (hname hthere) hrequest hwritten hmarker
  have hbehind := h.readable hreadable fun hthere => (hown hthere).imp fun _ => And.left
  have hindex : (left.directory request).text activeJournalIndexName = some activeIndexText := by
    unfold ReportDisk.text
    rw [directory_active fun hthere => (journal_ne_index (hname hthere)).symm, h.disk]
    exact hadmitted.index
  obtain ⟨cleaned, remaining, hcleaned, hremaining, hlists⟩ := hbehind.next hindex
  refine ⟨cleaned, remaining, hcleaned, hremaining, fun operation => ?_⟩
  rw [hlists, hoperations]
  have hreports : (left.directory request).reports = start.reports := by
    show left.disk.reports = _
    rw [h.disk]
  refine remains_congr hreports (fun _ _ => h.kept) ?_ operation
  intro name parsed hentry
  rcases h.listed hentry.listed with hbefore | ⟨rfl, hthere⟩
  · obtain ⟨parsed', hentry'⟩ := hreadable.entries name hbefore
    obtain rfl := hentry.unique (h.kept hentry')
    exact .inl hentry'
  · obtain ⟨parsed', hentry', hnone⟩ := hown hthere
    obtain rfl := hentry.unique hentry'
    exact .inr hnone

/-- The operations that were listed have journals of their own. -/
theorem Sane.unlisted (h : Sane request start state) (hadmitted : Admitted start operations)
    (hjournal : state.files .journal ≠ none) :
    ∀ operation ∈ operations, operation.name ≠ request.journal := by
  rintro operation hoperation hsame
  obtain ⟨name, parsed, hentry, -, -, -, hparsed⟩ := (hadmitted.readable.2 operation).mp hoperation
  have hread := hentry.journal
  unfold readJournal at hread
  split at hread
  · next events hevents =>
      have haccepted := (parse_journal_ok hread).operation
      rw [hparsed] at haccepted
      split at haccepted
      · obtain rfl : operation.name = name := by rw [Option.some.inj haccepted]
        have habsent : start.journals.lookup request.journal = none := h.fresh _ hjournal
        rw [hsame, ReportDisk.store, Directory.lookup_map_values, habsent] at hevents
        cases hevents
      · cases haccepted
  · cases hread

/-- A reservation of an unsafe name ends before its first call. -/
theorem ensures_unsafe_name (hname : isReportName request.name = false) :
    Program.Ensures (Dependable request)
      (Program.ending (· = { disk := start }) (fun _ => (· = { disk := start })) fun _ _ => False)
      (reserveAppliedReport request) { disk := start } := by
  unfold reserveAppliedReport
  refine Program.ensures_bind.mpr (Program.ensures_of_except.mpr ⟨rfl, fun _ hvalid => ?_,
    fun _ _ => rfl⟩)
  have hunsafe := (Result.check_bind_eq_ok.mp hvalid).2
  rw [Result.refuse_eq_ok] at hunsafe
  exact absurd hname hunsafe

/-- A reservation under a lock that was admitted leaves nothing when it raises and everything when
it returns, and a crash does not block the next applied command unless it cuts the marker off
before its closing brace. -/
theorem applied_report_reservation_atomic (hadmitted : Admitted start operations)
    (hrequest : request.WellFormed) {outcome : Outcome String Unit} {final : Reservation}
    (hrun : Runs (Dependable request) (reserveAppliedReport request) { disk := start } outcome
      final) :
    Atomic request operations (MarkerWritten request) outcome final := by
  have hends := (ensures_reservation request start).runs hrun
  have hsane : Sane request start final := by
    cases outcome with
    | interrupted => exact hends
    | raised error => exact hends.sane
    | returned value => exact hends.sane
  have hname : final.files .marker ≠ none → isReportName request.name = true := by
    intro hthere
    by_contra hunsafe
    have hnothing := (ensures_unsafe_name (Bool.eq_false_of_not_eq_true hunsafe)).runs hrun
    cases outcome with
    | interrupted => exact hthere (by rw [show final = _ from hnothing])
    | raised error => exact hthere (by rw [show final = _ from hnothing])
    | returned value => exact hnothing
  refine ⟨?_, ?_, hsane.unlisted hadmitted, fun left hcrash hwritten => ?_⟩
  · rintro error rfl file
    by_contra hthere
    exact absurd (hends.there file hthere) List.not_mem_nil
  · rintro rfl
    have hfiles : ∀ file, final.files file = some (request.durable file) := fun file => by
      rw [hends.files, standingFile, if_pos (by cases file <;> simp)]
    exact ⟨by rw [hends.reserved, hfiles, if_neg (by simp)], hfiles⟩
  · refine (hsane.crash hcrash).unblocked hadmitted (fun hthere => ?_) hrequest hwritten
    refine hname fun habsent => hthere ?_
    cases hcrash with
    | killed => exact habsent
    | powerLoss _ _ hnone _ => exact hnone _ habsent

/-! ## A host where every call succeeds -/

/-- The replies of a healthy host, on which every call succeeds. -/
def serveReserve (request : ReservationRequest) (state : Reservation) :
    (op : ReserveOp) → op.Reply × Reservation
  | .create file =>
      if state.files file = none ∧ Fresh state.disk request file then
        (.ok (), state.succeed (.create file) ())
      else (.error "File exists", state)
  | .write file payload => (.ok payload.length, state.succeed (.write file payload) payload.length)
  | .allocate size => (.ok .allocated, state.succeed (.allocate size) .allocated)
  | .scanActive => (.ok (state.activeNames request), state)
  | .measureState _ => (.ok ⟨1, 4096, 4096, 1048576, 65536⟩, state)
  | .openReports => (.ok (), state)
  | .openActive => (.ok (), state)
  | .inspect _ => (.ok (), state)
  | .validate _ => (.ok (), state)
  | .truncateReserve => (.ok (), state.succeed .truncateReserve ())
  | .rewindReserve => (.ok (), state)
  | .writeRandom count => (.ok (), state.succeed (.writeRandom count) ())
  | .sync file => (.ok (), state.succeed (.sync file) ())
  | .bind _ => (.ok (), state)
  | .stat _ => (.ok (), state)
  | .close _ => (.ok (), state)
  | .unlink file => (.ok (), state.succeed (.unlink file) ())
  | .syncReports => (.ok (), state.succeed .syncReports ())
  | .syncActive => (.ok (), state.succeed .syncActive ())
  | .verifyReports => (.ok (), state)
  | .verifyActive => (.ok (), state)
  | .openState _ => (.ok (), state)
  | .closeState _ => (.ok (), state)
  | .closeActive => (.ok (), state)
  | .closeReports => (.ok (), state)

theorem serve_dependable (request : ReservationRequest) (state : Reservation) (op : ReserveOp) :
    Dependable request state op (serveReserve request state op).1
      (serveReserve request state op).2 := by
  cases op with
  | create file =>
      by_cases hfree : state.files file = none ∧ Fresh state.disk request file
      · rw [serveReserve, if_pos hfree]
        exact ⟨⟨hfree, rfl⟩, fun _ h => nomatch h⟩
      · rw [serveReserve, if_neg hfree]
        exact ⟨rfl, fun _ h => nomatch h⟩
  | write file payload => exact ⟨⟨le_refl _, rfl⟩, fun _ h => nomatch h⟩
  | scanActive => exact ⟨⟨List.Perm.refl _, rfl⟩, fun _ h => nomatch h⟩
  | allocate size => exact ⟨⟨trivial, rfl⟩, fun _ h => nomatch h⟩
  | _ => exact ⟨⟨trivial, rfl⟩, fun _ _ _ => rfl⟩

/-- The report directory of a crashed install, with its index and the marker of that install. -/
def indexedDirectory : ReportDisk :=
  { crashedDirectory with
    active :=
      ((∅ : Directory ActiveFile).insert activeJournalIndexName
        { text := activeIndexText, written := true, linked := true }).insert
          (journalName "install.json")
        { text := activeMarkerPayload (journalName "install.json") (operationOf 'a')
          written := true, linked := true } }

/-- The operation of the install that was interrupted. -/
def interruptedInstall : UnresolvedOperation where
  name := journalName "install.json"
  operationId := operationOf 'a'
  binding := some installSnapshot
  launcherReleaseTarget := none

/-- The reservation of the rollback to the snapshot of that install. -/
def rollbackReservation : ReservationRequest where
  directory := reportDir
  name := "rollback.json"
  operationId := operationOf 'b'
  startedAt := "2026-01-01T00:00:00+00:00"
  reportText := "provisional".toList
  capacityPaths := ["/var/lib/nvidia-converge/snapshots"]

/-- The rollback finds the index and the operation of the install. -/
theorem indexed_directory_admitted : Admitted indexedDirectory [interruptedInstall] := by
  have hindex : indexedDirectory.text activeJournalIndexName = some activeIndexText := by
    unfold ReportDisk.text indexedDirectory
    rw [AList.lookup_insert_ne (by decide), AList.lookup_insert]
    rfl
  refine ⟨hindex, ?_⟩
  unfold nextOperations
  rw [bootstrap_present hindex]
  decide +kernel

/-- The run of the whole reservation of the rollback on a healthy host. -/
def rollbackReserved : Except String Unit × Reservation :=
  Program.run (serveReserve rollbackReservation) (reserveAppliedReport rollbackReservation)
    { disk := indexedDirectory }

theorem rollback_reserved_returns : rollbackReserved.1 = .ok () := by
  decide +kernel

/-- The reservation of the rollback returns, with all its files, and the operation of the install
stays listed, whatever a crash leaves of them. -/
theorem applied_report_reservation_atomic_rollback :
    Atomic rollbackReservation [interruptedInstall] (MarkerWritten rollbackReservation)
      (.returned ()) rollbackReserved.2 := by
  refine applied_report_reservation_atomic indexed_directory_admitted ⟨by decide, by decide⟩ ?_
  have hrun := Program.runs_run (serveReserve rollbackReservation)
    (reserveAppliedReport rollbackReservation) { disk := indexedDirectory }
  rw [show Program.run _ _ _ = rollbackReserved from rfl, rollback_reserved_returns] at hrun
  refine hrun.mono fun state op reply following hanswer => ?_
  have hserve := serve_dependable rollbackReservation state op
  rwa [show serveReserve rollbackReservation state op = (reply, following) from hanswer] at hserve

/-- The process is killed between the exclusive create of the marker and its first byte. -/
def tornReservation : Reservation :=
  Program.stopAfter (serveReserve rollbackReservation) 22
    (reserveAppliedReport rollbackReservation) { disk := indexedDirectory }

example : (tornReservation.files .marker = some {}) ∧
    (cleanupStaleReserves (tornReservation.directory rollbackReservation)).isOk = false := by
  decide +kernel

end NvidiaConverge.Reserve
