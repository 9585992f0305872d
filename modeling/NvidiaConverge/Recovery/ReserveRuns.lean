import NvidiaConverge.Recovery.ReservePoints

/-!
# Runs of the reservation

What every run of `reserveAppliedReport` leaves when the calls behind which a file would stay do
not fail: nothing when it raises, four durable files when it returns, and at every point between
a marker only beside its durable journal. `ensures_reservation` is the main result.
-/

namespace NvidiaConverge.Reserve

open Program (Ensures Outcome Triple ending onError)

variable {request : ReservationRequest} {start : ReportDisk} {file : ReservedFile}
  {before state after : Reservation} {op : ReserveOp}

/-! ## The `try` block -/

variable {progress : ReserveProgress}

/-- What the handler is left with: it knows every file that is there. -/
structure Undoable (request : ReservationRequest) (start : ReportDisk) (progress : ReserveProgress)
    (state : Reservation) : Prop where
  sane : Sane request start state
  marked : state.files .marker ≠ none → progress.marked = true
  created : ∀ file, file ≠ .marker → state.files file ≠ none → file ∈ progress.created

/-- The handler knows these files: it has the marker noted, and the others in its list. -/
def Covers (progress : ReserveProgress) (files : List ReservedFile) : Prop :=
  ∀ file ∈ files, if file = .marker then progress.marked = true else file ∈ progress.created

/-- A file that is there is among those created or those with a durable name. -/
theorem Standing.there (h : Standing request start created linked state)
    (hfile : state.files file ≠ none) : file ∈ created ++ linked := by
  rw [h.files] at hfile
  by_contra hmem
  rw [List.mem_append, not_or] at hmem
  exact hfile (by rw [standingFile, if_neg hmem.2, if_neg hmem.1])

theorem undoable_of_covers {files : List ReservedFile} (hcovers : Covers progress files)
    (hsane : Sane request start state) (hthere : ∀ file, state.files file ≠ none → file ∈ files) :
    Undoable request start progress state where
  sane := hsane
  marked hmarker := by simpa using hcovers _ (hthere _ hmarker)
  created file hother hfile := by simpa [hother] using hcovers file (hthere file hfile)

/-- A point between two calls can be undone where the handler knows the files. -/
theorem Standing.undoable (h : Standing request start created linked state)
    (hcovers : Covers progress (created ++ linked)) : Undoable request start progress state :=
  undoable_of_covers hcovers h.sane fun _ => h.there

/-- The creation of the next file leads from a standing point to the next one, or to where it can be
undone. -/
theorem triple_next {program : ReserveProgram Unit} (hnext : Next start created linked file)
    (hcovers : Covers progress (created ++ linked))
    (hprogram : ∀ before : Reservation, before.files file = none →
      (file = .reserve → before.reserved = 0) →
      Triple (Dependable request) (· = before) program (fun _ => Filled request file true before)
        (Missing file before) (Begun request file before)) :
    Triple (Dependable request) (Standing request start created linked) program
      (fun _ => Standing request start (file :: created) linked)
      (Undoable request start progress) (Sane request start) := by
  intro state hstanding
  have habsent := hstanding.absent hnext
  have hreserved : file = .reserve → state.reserved = 0 := by
    rintro rfl
    rw [hstanding.reserved, if_pos habsent]
  refine (hprogram state habsent hreserved state rfl).mono fun outcome final hends => ?_
  cases outcome with
  | interrupted => exact hstanding.begun hnext hends
  | returned value => exact hstanding.filled hnext hends
  | raised error =>
      refine undoable_of_covers hcovers (hstanding.begun hnext (.inl hends)) fun other hother => ?_
      by_cases heq : other = file
      · subst heq
        exact absurd hends.2 hother
      · exact hstanding.there (by rwa [← hends.1.others other heq])

/-- All four files, their contents and their names flushed. -/
abbrev Finished (request : ReservationRequest) (start : ReportDisk) : Reservation → Prop :=
  Standing request start [] [.reserve, .marker, .journal, .report]

/-- How the `try` block ends: sane where it stops, undoable where it fails, finished where it
returns. -/
def tryEnds (request : ReservationRequest) (start : ReportDisk) :
    Outcome (ReserveProgress × String) Unit → Reservation → Prop :=
  ending (Sane request start) (fun failure => Undoable request start failure.1)
    fun _ => Finished request start

theorem ensures_during {α : Type} {program : ReserveProgram α} {pre : Reservation → Prop}
    {post : α → Reservation → Prop}
    (h : Triple (Dependable request) pre program post (Undoable request start progress)
      (Sane request start)) (hpre : pre state) :
    Ensures (Dependable request)
      (ending (Sane request start) (fun failure => Undoable request start failure.1) post)
      (during progress program) state :=
  (h state hpre).handle (fun _ hcrash => hcrash)
    (fun _ _ hends => Program.ensures_raise.mpr ⟨hends.sane, hends⟩) fun _ _ hpost => hpost

/-- One step of the `try` block before the others. -/
theorem ensures_during_bind {α : Type} {program : ReserveProgram α} {pre : Reservation → Prop}
    {post : α → Reservation → Prop}
    {rest : α → Program ReserveOp ReserveOp.Reply (ReserveProgress × String) Unit}
    (h : Triple (Dependable request) pre program post (Undoable request start progress)
      (Sane request start)) (hpre : pre state)
    (hrest : ∀ value following, post value following →
      Ensures (Dependable request) (tryEnds request start) (rest value) following) :
    Ensures (Dependable request) (tryEnds request start) (during progress program >>= rest) state :=
  (ensures_during h hpre).bind (fun _ hcrash => hcrash) (fun _ _ hfail => hfail) hrest

/-- A step that only fails from where it stands. -/
theorem triple_covered {α : Type} {program : ReserveProgram α} {pre : Reservation → Prop}
    {post : α → Reservation → Prop}
    (h : Triple (Dependable request) pre program post (Standing request start created linked)
      (Sane request start)) (hcovers : Covers progress (created ++ linked)) :
    Triple (Dependable request) pre program post (Undoable request start progress)
      (Sane request start) :=
  h.mono (fun _ h => h) (fun _ _ h => h) (fun _ h => h.undoable hcovers) fun _ h => h

theorem standing_start (request : ReservationRequest) (start : ReportDisk) :
    Standing request start [] [] { disk := start } where
  disk := rfl
  files _ := rfl
  fresh _ hfile := absurd rfl hfile
  reserved := rfl
  marked hfile := absurd rfl hfile

/-- The journal and the report are linked before the marker is created. -/
theorem triple_place_marker :
    Triple (Dependable request) (Standing request start [.journal, .report] [])
      (do
        call .syncReports
        call .verifyReports
        requireMarkerCapacity
        createPrivateFile .marker (request.text .marker))
      (fun _ => Standing request start [.marker] [.journal, .report])
      (Undoable request start { opened := true, created := [.report, .journal] })
      (Sane request start) := by
  refine (triple_covered (triple_sync_reports (by simp)) (by simp [Covers])).bind fun _ => ?_
  refine (triple_covered (triple_standing_quiet rfl) (by simp [Covers])).bind fun _ => ?_
  refine (triple_covered (triple_marker_capacity (by simp)) (by simp [Covers])).bind fun _ => ?_
  rintro state ⟨hstanding, hroom⟩
  exact triple_next ⟨by simp, by simp, fun _ => ⟨by simp, hroom⟩⟩ (by simp [Covers])
    (fun before habsent _ => triple_private_file (by simp) habsent) state hstanding

theorem triple_place_reserve :
    Triple (Dependable request) (Standing request start [.marker] [.journal, .report])
      (do
        call .syncActive
        call .verifyActive
        createEmergencyReserve)
      (fun _ => Standing request start [.reserve] [.marker, .journal, .report])
      (Undoable request start { opened := true, created := [.report, .journal], marked := true })
      (Sane request start) := by
  refine (triple_covered triple_sync_active (by simp [Covers])).bind fun _ => ?_
  refine (triple_covered (triple_standing_quiet rfl) (by simp [Covers])).bind fun _ => ?_
  exact triple_next ⟨by simp, by simp, by simp⟩ (by simp [Covers])
    fun before habsent hreserved => triple_emergency_reserve (hreserved rfl) habsent

/-- The last calls of the `try` block make every name durable and check the storage again. -/
theorem triple_confirm :
    Triple (Dependable request) (Standing request start [.reserve] [.marker, .journal, .report])
      (do
        call .syncReports
        call .verifyReports
        requireStateCapacity [] (reportDir :: request.capacityPaths)
        call .verifyReports)
      (fun _ => Finished request start)
      (Undoable request start
        { opened := true, created := [.report, .journal, .reserve], marked := true })
      (Sane request start) := by
  refine (triple_covered (triple_sync_reports (by simp)) (by simp [Covers])).bind fun _ => ?_
  refine (triple_covered (triple_standing_quiet rfl) (by simp [Covers])).bind fun _ => ?_
  refine (triple_covered (triple_state_capacity [] _) (by simp [Covers])).bind fun _ => ?_
  exact triple_covered (triple_standing_quiet rfl) (by simp [Covers])

theorem ensures_reserve_files :
    Ensures (Dependable request) (tryEnds request start) (reserveFiles request)
      { disk := start } := by
  unfold reserveFiles
  refine ensures_during_bind (triple_covered (triple_standing_quiet rfl) (by simp [Covers]))
    (standing_start request start) fun _ state hopened => ?_
  refine ensures_during_bind (triple_next ⟨by simp, by simp, by simp⟩ (by simp [Covers])
    fun before habsent _ => triple_private_file (by simp) habsent) hopened
    fun _ state hreport => ?_
  refine ensures_during_bind (triple_next ⟨by simp, by simp, by simp⟩ (by simp [Covers])
    fun before habsent _ => triple_private_file (by simp) habsent) hreport
    fun _ state hjournal => ?_
  refine ensures_during_bind triple_place_marker hjournal fun _ state hmarker => ?_
  refine ensures_during_bind triple_place_reserve hmarker fun _ state hreserve => ?_
  exact ensures_during triple_confirm hreserve

/-! ## The handler -/

/-- The reservation, with some files gone. -/
theorem Sane.unlink (h : Sane request start state) (hmarker : file ≠ .marker →
    state.files .marker = none) :
    Sane request start { state.put file none with removed := true } where
  disk := h.disk
  fresh other hother := by
    refine h.fresh other fun habsent => hother ?_
    show (state.put file none).files other = none
    rw [files_put, habsent, ite_self]
  marked marker hthere := by
    exfalso
    have hput : (state.put file none).files .marker = some marker := hthere
    rw [files_put] at hput
    split at hput
    · cases hput
    · next hne =>
        rw [hmarker (Ne.symm hne)] at hput
        cases hput

/-- A file that is unlinked in the handler. -/
theorem triple_undo {pre : Reservation → Prop}
    (hsane : ∀ state, pre state → Sane request start state)
    (hmarker : ∀ state, pre state → file ≠ .marker → state.files .marker = none) :
    Triple (Dependable request) pre (call (.unlink file))
      (fun _ after => Sane request start after ∧ after.files file = none ∧
        ∃ before, pre before ∧ ∀ other, after.files other ≠ none → before.files other ≠ none)
      (fun after => pre after ∧ after.files file = none) (Sane request start) := by
  refine Program.triple_call (ReserveOp.unlink file) ?_ ?_ hsane (fun _ _ h => h.1)
    fun _ h => hsane _ h.1
  · rintro state value after hpre ⟨⟨-, rfl⟩, -⟩
    refine ⟨(hsane state hpre).unlink (hmarker state hpre), ?_, state, hpre, fun other hother => ?_⟩
    · show (state.put file none).files file = none
      rw [files_put, if_pos rfl]
    · have hput : (state.put file none).files other ≠ none := hother
      rw [files_put] at hput
      split at hput
      · exact absurd rfl hput
      · exact hput
  · rintro state error after hpre ⟨hfails, hdependable⟩
    cases hfails
    refine ⟨hpre, ?_⟩
    by_contra hthere
    exact Bool.noConfusion (hdependable file rfl hthere)

/-- What is left to unlink once the marker is gone. -/
structure Left (request : ReservationRequest) (start : ReportDisk) (files : List ReservedFile)
    (state : Reservation) : Prop where
  sane : Sane request start state
  marker : state.files .marker = none
  there : ∀ file, state.files file ≠ none → file ∈ files

variable {files : List ReservedFile}

theorem Left.congr (h : Left request start files state) (hdisk : after.disk = state.disk)
    (hfiles : ∀ file, after.files file = state.files file) : Left request start files after where
  sane :=
    { disk := hdisk.trans h.sane.disk
      fresh := fun file hfile => h.sane.fresh file (by rwa [← hfiles])
      marked := fun marker hmarker => by
        rw [hfiles, h.marker] at hmarker
        cases hmarker }
  marker := (hfiles _).trans h.marker
  there file hfile := h.there file (by rwa [← hfiles])

/-- A flush where there is nothing to flush. -/
theorem triple_left_sync (hop : op = .syncActive ∨ op = .syncReports ∧ files = []) :
    Triple (Dependable request) (Left request start files) (call op)
      (fun _ => Left request start files) (Left request start files) (Sane request start) := by
  refine Program.triple_call op ?_ ?_ (fun _ h => h.sane) (fun _ _ h => h.sane) fun _ h => h.sane
  · rintro state value after hleft ⟨⟨-, hafter⟩, -⟩
    rcases hop with rfl | ⟨rfl, rfl⟩
    · refine hleft.congr (hafter ▸ rfl) fun file => ?_
      rw [hafter]
      show (state.update .marker _).files file = state.files file
      rw [Reservation.update, files_put, hleft.marker]
      split
      · next heq => rw [heq, hleft.marker, Option.map_none]
      · rfl
    · refine hleft.congr (hafter ▸ rfl) fun file => ?_
      have hnone : ∀ file, state.files file = none := fun file => by
        by_contra hthere
        exact absurd (hleft.there file hthere) List.not_mem_nil
      rw [hafter, hnone]
      cases file <;>
        simp [Reservation.succeed, Reservation.syncReports, Reservation.update, files_put, hnone]
  · rintro state error after hleft ⟨hfails, -⟩
    rcases hop with rfl | ⟨rfl, -⟩ <;>
    · cases hfails
      exact hleft

theorem triple_unlink_created (files : List ReservedFile) :
    Triple (Dependable request) (Left request start files) (unlinkCreated files)
      (fun _ => Left request start []) (fun _ => False) (Sane request start) := by
  induction files with
  | nil => exact Program.triple_pure (fun _ h => h) fun _ h => h.sane
  | cons file rest ih =>
      have hundo : Triple (Dependable request) (Left request start (file :: rest))
          (ignoring (call (.unlink file))) (fun _ => Left request start rest) (fun _ => False)
          (Sane request start) := by
        refine (triple_ignoring (triple_undo (fun _ h => h.sane) fun _ h _ => h.marker)
          fun _ h => h.1.sane).mono (fun _ h => h) ?_ (fun _ h => h) fun _ h => h
        rintro _ state (⟨hsane, hgone, before, hbefore, hthere⟩ | ⟨hleft, hgone⟩)
        · refine ⟨hsane, ?_, fun other hother => ?_⟩
          · by_contra hmarker
            exact hthere _ hmarker hbefore.marker
          · refine (List.mem_cons.mp (hbefore.there other (hthere other hother))).resolve_left ?_
            rintro rfl
            exact hother hgone
        · refine ⟨hleft.sane, hleft.marker, fun other hother => ?_⟩
          refine (List.mem_cons.mp (hleft.there other hother)).resolve_left ?_
          rintro rfl
          exact hother hgone
      exact hundo.bind fun _ => ih

/-- The handler removes the marker first, and makes that durable. -/
theorem triple_undo_marker :
    Triple (Dependable request) (Undoable request start progress)
      (do
        call (.unlink .marker)
        call .syncActive : ReserveProgram Unit)
      (fun _ => Left request start progress.created.reverse)
      (Left request start progress.created.reverse) (Sane request start) := by
  refine Triple.bind ((triple_undo (fun _ h => h.sane) fun _ _ hne => absurd rfl hne).mono
    (fun _ h => h) ?_ ?_ fun _ h => h) fun _ => triple_left_sync (.inl rfl)
  · rintro _ state ⟨hsane, hgone, before, hbefore, hthere⟩
    refine ⟨hsane, hgone, fun other hother => List.mem_reverse.mpr ?_⟩
    refine hbefore.created other ?_ (hthere other hother)
    rintro rfl
    exact hother hgone
  · rintro state ⟨hundoable, hgone⟩
    refine ⟨hundoable.sane, hgone, fun other hother => List.mem_reverse.mpr ?_⟩
    refine hundoable.created other ?_ hother
    rintro rfl
    exact hother hgone

theorem triple_undo_reservation :
    Triple (Dependable request) (Undoable request start progress) (undoReservation progress)
      (fun _ => Left request start []) (Left request start []) (Sane request start) := by
  have hfiles : Triple (Dependable request) (Left request start progress.created.reverse)
      (do
        unlinkCreated progress.created.reverse
        ignoring (call .syncReports))
      (fun _ => Left request start []) (Left request start []) (Sane request start) := by
    refine Triple.bind ((triple_unlink_created _).mono (fun _ h => h) (fun _ _ h => h)
      (fun _ => False.elim) fun _ h => h) fun _ => ?_
    exact (triple_ignoring (triple_left_sync (.inr ⟨rfl, rfl⟩)) fun _ h => h.sane).mono
      (fun _ h => h) (fun _ _ h => h.elim id id) (fun _ => False.elim) fun _ h => h
  unfold undoReservation
  split
  · refine Triple.bind ((triple_ignoring triple_undo_marker fun _ h => h.sane).mono (fun _ h => h)
      (fun _ _ h => h.elim id id) (fun _ => False.elim) fun _ h => h) fun _ => hfiles
  · next hunmarked =>
      refine hfiles.mono (fun state h => ⟨h.sane, ?_, fun file hfile => ?_⟩) (fun _ _ h => h)
        (fun _ h => h) fun _ h => h
      · by_contra hmarker
        exact hunmarked (h.marked hmarker)
      · refine List.mem_reverse.mpr (h.created file ?_ hfile)
        rintro rfl
        exact hunmarked (h.marked hfile)

/-! ## The whole run -/

theorem triple_close_left (opened : Bool) :
    Triple (Dependable request) (Left request start []) (closeDirectories opened)
      (fun _ => Left request start []) (Left request start []) (Sane request start) := by
  have hclose : ∀ op, op.quiet = true → Triple (Dependable request) (Left request start [])
      (call op) (fun _ => Left request start []) (Left request start []) (Sane request start) :=
    fun op hop => (triple_quiet hop).mono (fun _ h => h) (fun _ _ h => h) (fun _ h => h)
      fun _ h => h.sane
  cases opened with
  | true => exact (hclose .closeActive rfl).bind fun _ => hclose .closeReports rfl
  | false => exact hclose .closeReports rfl

theorem Standing.report_there (h : Finished request start state) : state.files .report ≠ none := by
  rw [h.files]
  simp [standingFile]

/-- Closing the directories behind a finished reservation changes no file. -/
theorem triple_close_finished :
    Triple (Dependable request) (Finished request start) (closeDirectories true)
      (fun _ => Finished request start) (fun _ => False) (Sane request start) := by
  have hclose : ∀ op : ReserveOp, op.quiet = true → op.leaves = some .report →
      Triple (Dependable request) (Finished request start) (call op)
        (fun _ => Finished request start) (fun _ => False) (Sane request start) :=
    fun op hop hleaves => (triple_dependable hop hleaves fun _ h => h.report_there).mono
      (fun _ h => h) (fun _ _ h => h) (fun _ h => h) fun _ h => h.sane
  exact (hclose .closeActive rfl rfl).bind fun _ => hclose .closeReports rfl rfl

/-- A reservation ends finished where it returns, with no file left where it raises, and sane where
it stops. -/
theorem ensures_reservation (request : ReservationRequest) (start : ReportDisk) :
    Ensures (Dependable request)
      (ending (Sane request start) (fun _ => Left request start [])
        fun _ => Finished request start) (reserveAppliedReport request) { disk := start } := by
  have hstart := standing_start request start
  have hleft : Left request start [] { disk := start } :=
    ⟨hstart.sane, rfl, fun _ hfile => absurd rfl hfile⟩
  unfold reserveAppliedReport
  refine Program.ensures_bind.mpr (Program.ensures_of_except.mpr
    ⟨hstart.sane, fun _ _ => ?_, fun _ _ => hleft⟩)
  refine Ensures.bind ((triple_quiet rfl : Triple _ (· = { disk := start }) (call .openReports)
    _ _ _) _ rfl) ?_ ?_ ?_
  · rintro _ rfl
    exact hstart.sane
  · rintro _ _ rfl
    exact hleft
  rintro _ _ rfl
  have hclosed : Triple (Dependable request) (Finished request start) (closeDirectories true)
      (fun _ => Finished request start) (Left request start []) (Sane request start) :=
    triple_close_finished.mono (fun _ h => h) (fun _ _ h => h) (fun _ => False.elim) fun _ h => h
  refine Ensures.bind (Ensures.handle ensures_reserve_files (fun _ h => h) ?_ fun _ _ h => h)
    (fun _ h => h) (fun _ _ h => h) fun _ final hfinished => hclosed final hfinished
  rintro ⟨progress, error⟩ final hundoable
  refine (triple_undo_reservation.bind fun _ => (triple_close_left progress.opened).bind fun _ =>
    Program.triple_raise (fun _ h => h) fun _ h => h.sane) final hundoable

end NvidiaConverge.Reserve
