import NvidiaConverge.Recovery.ReserveFiles

/-!
# Points of the reservation

What holds between two calls of `reserveAppliedReport`: `Sane` at every point, a marker only beside
its durable journal, and `Standing` where some of the files are created and some are durable. The
checks against the limits of the report directory keep both.
-/

namespace NvidiaConverge.Reserve

open Program (Ensures Outcome Triple ending onError)

variable {request : ReservationRequest} {start : ReportDisk} {file : ReservedFile}
  {before state after : Reservation} {op : ReserveOp}

/-! ## Points of the reservation -/

/-- Whether there is room for one more marker. -/
def HasRoom (disk : ReportDisk) : Prop :=
  (disk.active.keys.filter (· != activeJournalIndexName)).length < maxActiveJournalMarkers

/-- What holds at every point: a marker stands beside its durable journal. -/
structure Sane (request : ReservationRequest) (start : ReportDisk)
    (state : Reservation) : Prop where
  disk : state.disk = start
  fresh : ∀ file, state.files file ≠ none → Fresh start request file
  marked : ∀ marker, state.files .marker = some marker →
    marker.text <+: request.text .marker ∧
      state.files .journal = some (request.durable .journal) ∧ HasRoom start

/-- A file of a reservation that goes well: linked, created, or not there. -/
def standingFile (request : ReservationRequest) (created linked : List ReservedFile)
    (file : ReservedFile) : Option ActiveFile :=
  if file ∈ linked then some (request.durable file)
  else if file ∈ created then some { text := request.text file, written := true }
  else none

/-- A reservation that goes well: the files whose names are not yet flushed, and those whose names
are. -/
structure Standing (request : ReservationRequest) (start : ReportDisk)
    (created linked : List ReservedFile) (state : Reservation) : Prop where
  disk : state.disk = start
  files : ∀ file, state.files file = standingFile request created linked file
  fresh : ∀ file, state.files file ≠ none → Fresh start request file
  reserved : state.reserved = if state.files .reserve = none then 0 else emergencyReserveBytes
  marked : state.files .marker ≠ none → ReservedFile.journal ∈ linked ∧ HasRoom start

variable {created linked : List ReservedFile}

theorem standing_file_text {content : ActiveFile}
    (h : standingFile request created linked file = some content) :
    content.text = request.text file := by
  unfold standingFile at h
  split at h
  · rw [← Option.some.inj h]
    rfl
  · split at h
    · rw [← Option.some.inj h]
    · cases h

theorem Standing.journal (h : Standing request start created linked state)
    (hlinked : ReservedFile.journal ∈ linked) :
    state.files .journal = some (request.durable .journal) := by
  rw [h.files, standingFile, if_pos hlinked]

theorem Standing.sane (h : Standing request start created linked state) :
    Sane request start state where
  disk := h.disk
  fresh := h.fresh
  marked marker hmarker := by
    obtain ⟨hlinked, hroom⟩ := h.marked (by simp [hmarker])
    rw [h.files] at hmarker
    refine ⟨?_, h.journal hlinked, hroom⟩
    rw [standing_file_text hmarker]

/-- A file may be created next: it is not there yet, and a marker has its journal and its room. -/
structure Next (start : ReportDisk) (created linked : List ReservedFile) (file : ReservedFile) :
    Prop where
  notCreated : file ∉ created
  notLinked : file ∉ linked
  room : file = .marker → ReservedFile.journal ∈ linked ∧ HasRoom start

theorem Standing.absent (h : Standing request start created linked before)
    (hnext : Next start created linked file) : before.files file = none := by
  rw [h.files, standingFile, if_neg hnext.notLinked, if_neg hnext.notCreated]

theorem Standing.begun (h : Standing request start created linked before)
    (hnext : Next start created linked file) (hbegun : Begun request file before after) :
    Sane request start after := by
  have hframe : Framed file before after := hbegun.elim And.left Holding.frame
  refine ⟨hframe.disk.trans h.disk, fun other hother => ?_, fun marker hmarker => ?_⟩
  · by_cases heq : other = file
    · subst heq
      rcases hbegun with hmissing | hpartial
      · exact absurd hmissing.2 hother
      · exact h.disk ▸ hpartial.fresh
    · exact h.fresh other (by rwa [← hframe.others other heq])
  · have hnamed : marker.text <+: request.text .marker ∧
        ReservedFile.journal ∈ linked ∧ HasRoom start := by
      by_cases heq : ReservedFile.marker = file
      · subst heq
        rcases hbegun with hmissing | hpartial
        · rw [hmissing.2] at hmarker
          cases hmarker
        · obtain ⟨part, hpart, htextPrefix⟩ := hpartial.content
          rw [hpart] at hmarker
          rw [← Option.some.inj hmarker]
          exact ⟨htextPrefix, hnext.room rfl⟩
      · rw [hframe.others _ heq] at hmarker
        refine ⟨?_, h.marked (by simp [hmarker])⟩
        rw [h.files] at hmarker
        rw [standing_file_text hmarker]
    have hother : ReservedFile.journal ≠ file := fun heq => hnext.notLinked (heq ▸ hnamed.2.1)
    exact ⟨hnamed.1, (hframe.others _ hother).trans (h.journal hnamed.2.1), hnamed.2.2⟩

/-- When the next file is filled, the files stand with this one added to those created. -/
theorem Standing.filled (h : Standing request start created linked before)
    (hnext : Next start created linked file) (hfilled : Filled request file true before after) :
    Standing request start (file :: created) linked after := by
  have hframe := hfilled.1.frame
  have hsane := h.begun hnext (.inr hfilled.incomplete)
  obtain ⟨part, hpart, hcontent⟩ := hfilled.1.content
  have hfiles : ∀ other,
      after.files other = standingFile request (file :: created) linked other := by
    intro other
    by_cases heq : other = file
    · subst heq
      rw [hpart, hcontent, standingFile, if_neg hnext.notLinked, if_pos List.mem_cons_self]
    · rw [hframe.others other heq, h.files]
      simp [standingFile, heq]
  refine ⟨hsane.disk, hfiles, hsane.fresh, ?_, fun hmarker => ?_⟩
  · by_cases heq : file = .reserve
    · subst heq
      rw [hfilled.2 rfl, hpart, if_neg (by simp)]
    · rw [hframe.reserved heq, h.reserved, hframe.others _ (Ne.symm heq)]
  · by_cases heq : ReservedFile.marker = file
    · exact hnext.room heq.symm
    · exact h.marked (by rwa [← hframe.others _ heq])

/-- The names of some directories are flushed. -/
theorem Standing.synced (h : Standing request start created linked state)
    (flushed : ReservedFile → Prop) [DecidablePred flushed]
    (hcreated : ∀ file ∈ created, flushed file)
    (hdisk : after.disk = state.disk) (hreserved : after.reserved = state.reserved)
    (hfiles : ∀ file, after.files file = if flushed file then
      (state.files file).map fun content => { content with linked := true } else state.files file) :
    Standing request start [] (created ++ linked) after := by
  have hstanding : ∀ file, after.files file = standingFile request [] (created ++ linked) file := by
    intro file
    rw [hfiles, h.files]
    by_cases hlinked : file ∈ linked
    · simp [standingFile, hlinked, ReservationRequest.durable]
    · by_cases hmem : file ∈ created
      · simp [standingFile, hlinked, hmem, hcreated file hmem, ReservationRequest.durable]
      · simp [standingFile, hlinked, hmem]
  have hnone : ∀ file, after.files file = none ↔ state.files file = none := by
    intro file
    rw [hfiles]
    split <;> simp
  refine ⟨hdisk.trans h.disk, hstanding, fun file hfile => ?_, ?_, fun hmarker => ?_⟩
  · exact h.fresh file fun habsent => hfile ((hnone file).mpr habsent)
  · simp only [hreserved, h.reserved, hnone]
  · have hmarked := h.marked fun habsent => hmarker ((hnone _).mpr habsent)
    exact ⟨List.mem_append_right _ hmarked.1, hmarked.2⟩

/-- Flushing the report directory makes the names of the created files durable. -/
theorem triple_sync_reports (hmarker : ReservedFile.marker ∉ created) :
    Triple (Dependable request) (Standing request start created linked) (call .syncReports)
      (fun _ => Standing request start [] (created ++ linked))
      (Standing request start created linked) (Sane request start) := by
  refine Program.triple_call ReserveOp.syncReports ?_ ?_ (fun _ h => h.sane) (fun _ _ h => h.sane)
    fun _ h => h.sane
  · rintro state value after hstanding ⟨⟨-, rfl⟩, -⟩
    refine hstanding.synced (· ≠ .marker) ?_ rfl rfl fun file => ?_
    · exact fun file hmem heq => hmarker (heq ▸ hmem)
    · cases file <;>
        simp [Reservation.succeed, Reservation.syncReports, Reservation.update, files_put]
  · rintro state error after hstanding ⟨hfails, -⟩
    cases hfails
    exact hstanding

theorem triple_sync_active :
    Triple (Dependable request) (Standing request start [.marker] linked) (call .syncActive)
      (fun _ => Standing request start [] (.marker :: linked))
      (Standing request start [.marker] linked) (Sane request start) := by
  refine Program.triple_call ReserveOp.syncActive ?_ ?_ (fun _ h => h.sane) (fun _ _ h => h.sane)
    fun _ h => h.sane
  · rintro state value after hstanding ⟨⟨-, rfl⟩, -⟩
    refine hstanding.synced (· = .marker) (by simp) rfl rfl fun file => ?_
    cases file <;> simp [Reservation.succeed, Reservation.update, files_put]
  · rintro state error after hstanding ⟨hfails, -⟩
    cases hfails
    exact hstanding

theorem triple_standing_quiet (hquiet : op.quiet = true) :
    Triple (Dependable request) (Standing request start created linked) (call op)
      (fun _ => Standing request start created linked) (Standing request start created linked)
      (Sane request start) :=
  (triple_quiet hquiet).mono (fun _ h => h) (fun _ _ h => h) (fun _ h => h) fun _ h => h.sane

/-! ## The limits -/

theorem count_markers_ok {names : List String} {entries markers found : Nat}
    (h : countMarkers entries markers names = .ok found) :
    found = markers + (names.filter (· != activeJournalIndexName)).length := by
  induction names generalizing entries markers with
  | nil => exact (Result.pure_eq_ok.mp h).symm
  | cons name rest ih =>
      obtain ⟨-, h⟩ := Result.check_bind_eq_ok.mp h
      split at h
      · next hindex =>
          rw [ih h, List.filter_cons, if_neg (by simp [hindex])]
      · next hother =>
          obtain ⟨-, h⟩ := Result.check_bind_eq_ok.mp h
          rw [ih h, List.filter_cons, if_pos (by simpa using hother), List.length_cons]
          omega

/-- The check of the capacity changes nothing, and behind it the directory has room for the
marker. -/
theorem triple_marker_capacity (hmarker : ReservedFile.marker ∉ created ++ linked) :
    Triple (Dependable request) (Standing request start created linked) requireMarkerCapacity
      (fun _ state => Standing request start created linked state ∧ HasRoom start)
      (Standing request start created linked) (Sane request start) := by
  have hscan : Triple (Dependable request) (Standing request start created linked)
      (call .scanActive) (fun names state => Standing request start created linked state ∧
        List.Perm names start.active.keys)
      (Standing request start created linked) (Sane request start) := by
    refine Program.triple_call ReserveOp.scanActive ?_ ?_ (fun _ h => h.sane)
      (fun _ _ h => h.1.sane) fun _ h => h.sane
    · rintro state names after hstanding ⟨⟨hnames, hsame⟩, -⟩
      have habsent : state.files .marker = none := by
        rw [hstanding.files]
        simp_all [standingFile]
      have hperm : List.Perm names (state.activeNames request) := hnames
      rw [Reservation.activeNames, habsent, hstanding.disk] at hperm
      exact ⟨hsame.symm ▸ hstanding, hperm⟩
    · rintro state error after hstanding ⟨hfails, -⟩
      cases hfails
      exact hstanding
  have hcount : Triple (Dependable request) (Standing request start created linked)
      (do
        let names : List String ← call .scanActive
        Program.ofExcept (countMarkers 0 0 names) : ReserveProgram Nat)
      (fun markers state => Standing request start created linked state ∧
        markers = (start.active.keys.filter (· != activeJournalIndexName)).length)
      (Standing request start created linked) (Sane request start) := by
    refine hscan.bind fun names => ?_
    refine Program.triple_of_except (fun state markers h hfound => ⟨h.1, ?_⟩) (fun _ h => h.1)
      fun _ h => h.1.sane
    rw [count_markers_ok hfound, Nat.zero_add]
    exact (h.2.filter _).length_eq
  refine (hcount.reraise fun _ h => h.sane).bind fun markers => ?_
  refine (Program.triple_raise_if (fun _ h => h.1) fun _ h => h.1.sane).mono (fun _ h => h) ?_
    (fun _ h => h) fun _ h => h
  rintro _ state ⟨⟨hstanding, hmarkers⟩, hroom⟩
  refine ⟨hstanding, ?_⟩
  unfold HasRoom
  omega

theorem triple_state_capacity (checked : List Nat) (paths : List String) :
    Triple (Dependable request) (Standing request start created linked)
      (requireStateCapacity checked paths) (fun _ => Standing request start created linked)
      (Standing request start created linked) (Sane request start) := by
  induction paths generalizing checked with
  | nil => exact Program.triple_pure (fun _ h => h) fun _ h => h.sane
  | cons path rest ih =>
      unfold requireStateCapacity
      refine ((triple_standing_quiet rfl).reraise fun _ h => h.sane).bind fun _ => ?_
      have hclose : Triple (Dependable request) (Standing request start created linked)
          (call (.closeState path)) (fun _ => Standing request start created linked)
          (Standing request start created linked) (Sane request start) := triple_standing_quiet rfl
      have hmeasure : Triple (Dependable request) (Standing request start created linked)
          (do
            let capacity : StateCapacity ← call (.measureState path)
            Program.ofExcept (checkStateCapacity checked path capacity))
          (fun _ => Standing request start created linked)
          (Standing request start created linked) (Sane request start) :=
        (triple_standing_quiet rfl).bind fun capacity =>
          Program.triple_of_except (fun _ _ h _ => h) (fun _ h => h) fun _ h => h.sane
      refine (hmeasure.on_error hclose (fun _ h => h) fun _ h => h.sane).bind fun checked => ?_
      exact hclose.bind fun _ => ih checked

end NvidiaConverge.Reserve
