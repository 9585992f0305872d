import NvidiaConverge.Rollback.MigRestore

/-!
# When MIG is restored

Every run of the MIG phase, with arbitrary results and observations. `Stands` says where a run is
behind a stable observation; `ensures_command` carries it over one command with its refresh, and
the parts of the phase follow from the last to the first. `ensures_doomed` ends the runs in which
a step was issued that the last observation does not permit.
-/

namespace NvidiaConverge

namespace MigPhase

open Program

variable {phase : MigPhase} {trace : List Event} {current : MigRefresh} {gpuUuid : String}

/-- The view of a trace with one more event is the view changed by that event. -/
theorem view_snoc (phase : MigPhase) (trace : List Event) (event : Event) :
    phase.view (trace ++ [event]) = phase.after (phase.view trace) event := by
  rw [view, List.foldl_append]
  rfl

/-- A stable observation is the latest one, and its mode and geometry are known from it. -/
theorem after_stable (view : View) {answers : MigAnswers}
    (h : (phase.observed answers).stable = true) :
    phase.after view ⟨.observe, answers⟩ =
      { latest := some (phase.observed answers)
        mode := (phase.observed answers).current
        geometry := (phase.observed answers).geometry
        obeyed := view.obeyed && phase.shows view.command (phase.observed answers).current
          (phase.observed answers).geometry } :=
  if_pos h

/-- An observation that is not stable is the latest one, and shows nothing more. -/
theorem after_unstable (view : View) {answers : MigAnswers}
    (h : (phase.observed answers).stable = false) :
    phase.after view ⟨.observe, answers⟩ =
      { view with latest := some (phase.observed answers), command := none } :=
  if_neg (by rw [h]; exact Bool.false_ne_true)

/-- An observation that does not show what its command was for is never made good. -/
theorem disobeyed_snoc (h : (phase.view trace).obeyed = false) (event : Event) :
    (phase.view (trace ++ [event])).obeyed = false := by
  rw [view_snoc]
  match event with
  | ⟨.run command, result⟩ => exact h
  | ⟨.observe, answers⟩ =>
      show (if _ then _ else _ : View).obeyed = false
      split
      · show ((phase.view trace).obeyed && _) = false
        rw [h, Bool.false_and]
      · exact h

/-! ## The refresh -/

/-- A stable observation is what the phase goes on with; any other leaves a failure or the
marker. -/
theorem refresh_cases (snapshot : RollbackSnapshot) (stage : String) (observation : MigObservation)
    (results : List CommandResult) :
    (observation.stable = true ∧ refreshRollbackMigState snapshot stage observation results =
      ⟨.stable, observation.current, observation.geometry, results ++ observation.results⟩) ∨
    (observation.stable = false ∧
      (refreshRollbackMigState snapshot stage observation results).status ≠ .stable ∧
      ((∃ result ∈ (refreshRollbackMigState snapshot stage observation results).results,
          result.failed = true) ∨
        (observation.current ≠ observation.pending ∧ observation.pending = snapshot.migMode ∧
          migRebootMarker observation.current observation.pending ∈
            (refreshRollbackMigState snapshot stage observation results).results))) := by
  have hfailed : ∀ (status : MigRefreshStatus) mode geometry (before : List CommandResult) detail
      stderr, ∃ result ∈ (MigRefresh.mk status mode geometry
        (before ++ [migPrecondition detail stderr])).results, result.failed = true :=
    fun _ _ _ before detail stderr =>
      ⟨migPrecondition detail stderr, List.mem_append_right _ (List.mem_singleton.mpr rfl), rfl⟩
  unfold refreshRollbackMigState MigObservation.stable
  dsimp only
  split
  · next hunread =>
      refine .inr ⟨?_, fun h => MigRefreshStatus.noConfusion h, .inl (hfailed _ _ _ _ _ _)⟩
      rcases hunread with hunread | hunread <;> rw [hunread]
      · rfl
      · cases observation.current <;> rfl
  · next hread =>
      push Not at hread
      split
      · next hpending =>
          have hunstable : (observation.current.isSome &&
              observation.current == observation.pending && observation.complete) = false := by
            rw [beq_eq_false_iff_ne.mpr hpending, Bool.and_false, Bool.false_and]
          split
          · next htarget =>
              exact .inr ⟨hunstable,
                fun h => MigRefreshStatus.noConfusion h, .inr ⟨hpending, htarget,
                List.mem_append_right _ (List.mem_singleton.mpr rfl)⟩⟩
          · exact .inr ⟨hunstable, fun h => MigRefreshStatus.noConfusion h,
              .inl (hfailed _ _ _ _ _ _)⟩
      · next hsame =>
          split
          · next hincomplete =>
              refine .inr ⟨?_, fun h => MigRefreshStatus.noConfusion h, .inl (hfailed _ _ _ _ _ _)⟩
              rw [hincomplete, Bool.and_false]
          · next hcomplete =>
              refine .inl ⟨?_, rfl⟩
              rw [Bool.and_eq_true_iff, Bool.and_eq_true_iff, beq_iff_eq]
              exact ⟨⟨Option.isSome_iff_ne_none.mpr hread.1, not_not.mp hsame⟩,
                Bool.eq_true_of_not_eq_false hcomplete⟩

/-! ## Where a run stands -/

/-- Every step so far was permitted, and the last observation is stable and shows this mode and
this geometry. -/
structure Stands (phase : MigPhase) (trace : List Event) (current : MigRefresh) : Prop where
  allowed : Allowed phase.allows trace
  latest : ∃ answers, (phase.view trace).latest = some (phase.observed answers) ∧
    (phase.observed answers).stable = true ∧ (phase.observed answers).current = current.mode ∧
    (phase.observed answers).geometry = current.geometry
  mode : (phase.view trace).mode = current.mode
  geometry : (phase.view trace).geometry = current.geometry
  clean : ∀ result ∈ current.results, result.failed = false

/-- A step that was not obeyed by the observation before it is not promised to be permitted. -/
def Safe (phase : MigPhase) (trace : List Event) : Prop :=
  Allowed (fun before op => (phase.view before).obeyed = true → phase.allows before op) trace

/-- What every run of the phase ends with: only what was permitted, and a verdict that is right. -/
def RestorePost (phase : MigPhase) : Outcome String MigRestored → List Event → Prop :=
  ending phase.Safe (fun _ _ => False) fun restored trace =>
    phase.Safe trace ∧ (phase.Restores restored trace ↔ (phase.view trace).obeyed = true)

theorem safe_of_allowed (h : Allowed phase.allows trace) : phase.Safe trace :=
  h.mono fun _ _ hallows _ => hallows

namespace Stands

/-- A run that stands on a state has MIG enabled, or has it disabled and no geometry. -/
theorem cases (h : Stands phase trace current) :
    (current.mode = some .disabled ∧ current.geometry = []) ∨ current.mode = some .enabled := by
  obtain ⟨answers, -, hstable, hmode, hgeometry⟩ := h.latest
  rw [← hmode, ← hgeometry]
  exact (stable_cases hstable).2

theorem enabled_of_geometry (h : Stands phase trace current) (hne : current.geometry ≠ []) :
    current.mode = some .enabled :=
  h.cases.resolve_left fun hdisabled => hne hdisabled.2

/-- The view says that MIG is enabled exactly when the current state does. -/
theorem enabled_iff (h : Stands phase trace current) :
    (phase.view trace).enabled ↔ current.mode = some .enabled := by
  obtain ⟨answers, hlatest, hstable, hmode, -⟩ := h.latest
  constructor
  · rintro ⟨observation, hother, -, hcurrent, -⟩
    obtain rfl : phase.observed answers = observation := Option.some.inj (hlatest.symm.trans hother)
    exact hmode.symm.trans hcurrent
  · intro henabled
    have hcurrent := hmode.trans henabled
    exact ⟨phase.observed answers, hlatest, hstable, hcurrent,
      (stable_cases hstable).1.symm.trans hcurrent⟩

/-- Without a failure the phase restores what it ends with on a stable observation. -/
theorem restores_iff (h : Stands phase trace current) :
    phase.Restores ⟨current.results, true⟩ trace ↔
      current.mode = phase.snapshot.migMode ∧ current.geometry = phase.snapshot.migGeometry := by
  have hexact : phase.Exact trace ↔
      current.mode = phase.snapshot.migMode ∧ current.geometry = phase.snapshot.migGeometry := by
    rw [Exact, h.mode, h.geometry]
  constructor
  · rintro ⟨-, -, hgoesOn⟩
    exact hexact.mp (hgoesOn rfl)
  · intro hsame
    exact ⟨h.allowed, .inl (hexact.mpr hsame), fun _ => hexact.mpr hsame⟩

end Stands

/-- An end with a failing result does not go on, and so restores as the phase should. -/
theorem restores_of_failed {results : List CommandResult} (h : Allowed phase.allows trace)
    (hfailed : ∃ result ∈ results, result.failed = true) :
    phase.Restores ⟨results, false⟩ trace :=
  ⟨h, .inr (.inl hfailed), fun hgoesOn => Bool.noConfusion hgoesOn⟩

/-- The program returns wherever it ends, and never raises. -/
def Returns : Outcome String MigRestored → List Event → Prop :=
  ending (fun _ => True) (fun _ _ => False) fun _ _ => True

/-- A run that issued a step behind an observation that does not permit it. -/
theorem ensures_doomed {program : MigRestoreProgram MigRestored}
    (hreturns : Ensures anyReply Returns program trace)
    (hsafe : phase.Safe trace) (hdisobeyed : (phase.view trace).obeyed = false)
    (hnot : ¬ Allowed phase.allows trace) :
    Ensures anyReply phase.RestorePost program trace := by
  have hclosed : Ensures anyReply (fun outcome final => Returns outcome final ∧ phase.Safe final ∧
      (phase.view final).obeyed = false ∧ ¬ Allowed phase.allows final) program trace := by
    refine hreturns.closed ⟨hsafe, hdisobeyed, hnot⟩ fun trace event hinv => ?_
    exact ⟨hinv.1.snoc (fun hobeyed => absurd (hinv.2.1.symm.trans hobeyed) Bool.false_ne_true) _,
      disobeyed_snoc hinv.2.1 event, fun hallowed => hinv.2.2 hallowed.init⟩
  refine hclosed.mono fun outcome final hpost => ?_
  obtain ⟨hends, hfinal, hobeyed, hnone⟩ := hpost
  cases outcome with
  | interrupted => exact hfinal
  | raised error => exact hends
  | returned restored =>
      refine ⟨hfinal, ?_⟩
      rw [hobeyed]
      exact ⟨fun hrestores => absurd hrestores.1 hnone, fun h => Bool.noConfusion h⟩

/-! ## One command -/

theorem returns_command {stage : String} {command : List String} {results : List CommandResult}
    {rest : MigRefresh → MigRestoreProgram MigRestored}
    (hrest : ∀ refreshed following, Ensures anyReply Returns (rest refreshed) following) :
    Ensures anyReply Returns (phase.commandThenRefresh stage command results rest) trace := by
  refine ensures_any_reply trivial fun result => ?_
  show Ensures _ _ (if _ then _ else _) _
  split
  · exact ensures_pure.mpr ⟨trivial, trivial⟩
  · refine ensures_any_reply trivial fun answers => ?_
    show Ensures _ _ (if _ then _ else _) _
    split
    · exact ensures_pure.mpr ⟨trivial, trivial⟩
    · exact hrest _ _

/-- A step that the last observation does not permit, once an observation was not obeyed. -/
theorem ensures_forbidden {stage : String} {command : List String} {results : List CommandResult}
    {rest : MigRefresh → MigRestoreProgram MigRestored} {step : MigStep}
    (hstands : phase.Stands trace current) (hdisobeyed : (phase.view trace).obeyed = false)
    (hstep : migStep? command = some (gpuUuid, step))
    (hforbidden : ¬ Permits (phase.view trace) step)
    (hrest : ∀ refreshed following, Ensures anyReply Returns (rest refreshed) following) :
    Ensures anyReply phase.RestorePost (phase.commandThenRefresh stage command results rest)
      trace := by
  have hsafe := safe_of_allowed hstands.allowed
  refine ensures_any_reply hsafe fun result => ?_
  have hran : phase.Safe (trace ++ [⟨.run command, result⟩]) :=
    hsafe.snoc (fun hobeyed => absurd (hdisobeyed.symm.trans hobeyed) Bool.false_ne_true) result
  refine ensures_doomed ?_ hran (disobeyed_snoc hdisobeyed _) fun hallowed =>
    hforbidden (hallowed trace _ [] rfl command gpuUuid step rfl hstep)
  show Ensures _ _ (if _ then _ else _) _
  split
  · exact ensures_pure.mpr ⟨trivial, trivial⟩
  · refine ensures_any_reply trivial fun answers => ?_
    show Ensures _ _ (if _ then _ else _) _
    split
    · exact ensures_pure.mpr ⟨trivial, trivial⟩
    · exact hrest _ _

/-- One permitted command with its refresh: the phase stops visibly, or goes on behind a stable
observation, which shows what the command was for or does not. -/
theorem ensures_command {stage : String} {command : List String}
    {rest : MigRefresh → MigRestoreProgram MigRestored} {step : MigStep}
    (hstands : phase.Stands trace current) (hobeyed : (phase.view trace).obeyed = true)
    (hstep : migStep? command = some (gpuUuid, step)) (hpermits : Permits (phase.view trace) step)
    (hrest : ∀ refreshed following, phase.Stands following refreshed →
      (phase.view following).obeyed =
        phase.shows (some step) refreshed.mode refreshed.geometry →
      Ensures anyReply phase.RestorePost (rest refreshed) following) :
    Ensures anyReply phase.RestorePost
      (phase.commandThenRefresh stage command current.results rest) trace := by
  refine ensures_any_reply (safe_of_allowed hstands.allowed) fun result => ?_
  have hran : Allowed phase.allows (trace ++ [⟨.run command, result⟩]) := by
    refine hstands.allowed.snoc (fun other gpu otherStep hother hotherStep => ?_) result
    cases hother
    cases hstep.symm.trans hotherStep
    exact hpermits
  have hviewRun := view_snoc phase trace ⟨.run command, result⟩
  show Ensures _ _ (if _ then _ else _) _
  split
  · next hfailed =>
      refine ensures_pure.mpr ⟨safe_of_allowed hran, safe_of_allowed hran, ?_⟩
      rw [hviewRun]
      exact iff_of_true (restores_of_failed hran
        ⟨result, List.mem_append_right _ (List.mem_singleton.mpr rfl), hfailed⟩) hobeyed
  · next hsucceeded =>
      refine ensures_any_reply (safe_of_allowed hran) fun answers => ?_
      have hseen : Allowed phase.allows
          (trace ++ [⟨.run command, result⟩] ++ [⟨.observe, answers⟩]) :=
        hran.snoc (fun other gpu otherStep hother => by cases hother) answers
      have hview := view_snoc phase (trace ++ [⟨.run command, result⟩]) ⟨.observe, answers⟩
      have hobserved : (phase.after (phase.view trace) ⟨.run command, result⟩).command =
          some step := by
        show (migStep? command).map (·.2) = some step
        rw [hstep]
        rfl
      rw [hviewRun] at hview
      rcases refresh_cases phase.snapshot stage (phase.observed answers)
          (current.results ++ [result]) with ⟨hstable, hrefreshed⟩ | ⟨hunstable, hstatus, hvisible⟩
      · -- a stable observation behind the command
        rw [after_stable _ hstable, hobserved] at hview
        show Ensures _ _ (if _ then _ else _) _
        rw [hrefreshed, if_neg (not_not.mpr rfl)]
        refine hrest _ _ ⟨hseen, ⟨answers, ?_, hstable, rfl, rfl⟩, ?_, ?_, ?_⟩ ?_
        · rw [hview]
        · rw [hview]
        · rw [hview]
        · intro other hother
          rcases List.mem_append.mp hother with hother | hother
          · rcases List.mem_append.mp hother with hother | hother
            · exact hstands.clean other hother
            · rw [List.mem_singleton.mp hother]
              exact Bool.eq_false_of_not_eq_true hsucceeded
          · exact stable_results hstable other hother
        · rw [hview]
          show ((phase.view trace).obeyed && _) = _
          rw [hobeyed, Bool.true_and]
      · -- any other observation ends the phase
        rw [after_unstable _ hunstable] at hview
        show Ensures _ _ (if _ then _ else _) _
        rw [if_pos hstatus]
        refine ensures_pure.mpr ⟨safe_of_allowed hseen, safe_of_allowed hseen, ?_⟩
        refine iff_of_true ?_ (by rw [hview]; exact hobeyed)
        rcases hvisible with hfailed | ⟨hpending, htarget, hmarker⟩
        · exact restores_of_failed hseen hfailed
        · refine ⟨hseen, .inr (.inr ?_), fun hgoesOn => Bool.noConfusion hgoesOn⟩
          rw [hview]
          exact decide_eq_true ⟨hpending, htarget, hmarker⟩

/-! ## The parts of the phase, from the last to the first -/

/-- The creation command of the snapshot, which it has unless its geometry is empty. -/
theorem Qualified.create_command (h : phase.Qualified)
    (hgpu : phase.snapshot.gpuUuids = [gpuUuid]) :
    (phase.snapshot.migGeometry = [] ∧
      migGeometryCreateCommand gpuUuid phase.snapshot.migGeometry = some none) ∨
    (phase.snapshot.migGeometry ≠ [] ∧ ∃ command placement,
      migGeometryCreateCommand gpuUuid phase.snapshot.migGeometry = some (some command) ∧
        migStep? command = some (gpuUuid, .create placement)) := by
  have hrestorable := h.restorable
  rw [hgpu] at hrestorable
  cases hgeometry : phase.snapshot.migGeometry with
  | nil => exact .inl ⟨rfl, rfl⟩
  | cons gpuInstance rest =>
      rw [hgeometry] at hrestorable
      exact .inr ⟨List.cons_ne_nil _ _, _, _, if_pos hrestorable, rfl⟩

theorem returns_create (hqualified : phase.Qualified)
    (hgpu : phase.snapshot.gpuUuids = [gpuUuid]) (current : MigRefresh) (trace : List Event) :
    Ensures anyReply Returns (phase.createGeometry gpuUuid current) trace := by
  unfold createGeometry
  split
  · rcases hqualified.create_command hgpu with ⟨-, hcommand⟩ | ⟨-, command, placement, hcommand, -⟩
    · rw [hcommand]
      exact ensures_pure.mpr ⟨trivial, trivial⟩
    · rw [hcommand]
      refine returns_command fun created following => ?_
      split
      · exact ensures_pure.mpr ⟨trivial, trivial⟩
      · exact ensures_pure.mpr ⟨trivial, trivial⟩
  · exact ensures_pure.mpr ⟨trivial, trivial⟩

theorem returns_mode (hqualified : phase.Qualified)
    (hgpu : phase.snapshot.gpuUuids = [gpuUuid]) (current : MigRefresh) (trace : List Event) :
    Ensures anyReply Returns (phase.changeMode gpuUuid current) trace := by
  unfold changeMode
  split
  · exact returns_command fun refreshed following =>
      returns_create hqualified hgpu refreshed following
  · exact returns_create hqualified hgpu current trace

/-- What the observation behind a command for the mode has to show. -/
theorem shows_mode {value : String} {mode : Option MigMode} {geometry : List MigGpuInstance} :
    phase.shows (some (.mode value)) mode geometry = true ↔
      mode = phase.snapshot.migMode ∧ (phase.snapshot.migGeometry = [] → geometry = []) :=
  decide_eq_true_iff

/-- The creation. Where the mode is not enabled, or instances are left that the snapshot does not
have, the observation before it did not show what a mode command is for. -/
theorem ensures_create (hqualified : phase.Qualified)
    (hgpu : phase.snapshot.gpuUuids = [gpuUuid]) (value : String)
    (hstands : phase.Stands trace current)
    (hobeyed : (phase.view trace).obeyed =
      phase.shows (some (.mode value)) current.mode current.geometry) :
    Ensures anyReply phase.RestorePost (phase.createGeometry gpuUuid current) trace := by
  have hsafe := safe_of_allowed hstands.allowed
  unfold createGeometry
  split
  · next hneeded =>
      obtain ⟨henabled, hother⟩ := hneeded
      rcases hqualified.create_command hgpu with
        ⟨hempty, hcommand⟩ | ⟨hne, command, placement, hcommand, hstep⟩
      · -- nothing to create, and instances are left
        rw [hcommand]
        refine ensures_pure.mpr ⟨hsafe, hsafe, ?_⟩
        rw [hstands.restores_iff, hobeyed, shows_mode]
        refine iff_of_false (fun hsame => hother hsame.2) fun hshown => hother ?_
        rw [hshown.2 hempty, hempty]
      · rw [hcommand]
        by_cases hmode : current.mode = some .enabled
        · have hshown : (phase.view trace).obeyed = true := by
            rw [hobeyed, shows_mode, henabled]
            exact ⟨hmode, fun hempty => absurd hempty hne⟩
          refine ensures_command hstands hshown hstep (hstands.enabled_iff.mpr hmode)
            fun created following hcreated hseen => ?_
          have hfollowing := safe_of_allowed hcreated.allowed
          split
          · refine ensures_pure.mpr ⟨hfollowing, hfollowing, iff_of_true ?_ hseen⟩
            exact restores_of_failed hcreated.allowed
              ⟨geometryMismatch, List.mem_append_right _ (List.mem_singleton.mpr rfl), rfl⟩
          · next hsame =>
              have hsame := not_not.mp hsame
              refine ensures_pure.mpr ⟨hfollowing, hfollowing, iff_of_true ?_ hseen⟩
              refine hcreated.restores_iff.mpr ⟨?_, hsame⟩
              rw [henabled]
              exact hcreated.enabled_of_geometry (by rw [hsame]; exact hne)
        -- The code issues the creation all the same, on a mode that is not the one it needs.
        · refine ensures_forbidden hstands ?_ hstep
            (fun hpermitted => hmode (hstands.enabled_iff.mp hpermitted))
            fun created following => ?_
          · rw [hobeyed, ← Bool.not_eq_true, shows_mode, henabled]
            exact fun hshown => hmode hshown.1
          · split
            · exact ensures_pure.mpr ⟨trivial, trivial⟩
            · exact ensures_pure.mpr ⟨trivial, trivial⟩
  · next hneeded =>
      refine ensures_pure.mpr ⟨hsafe, hsafe, ?_⟩
      rw [hstands.restores_iff, hobeyed, shows_mode]
      refine and_congr_right fun hmode => ?_
      rcases hqualified.mode with henabled | ⟨hdisabled, hempty⟩
      · have hsame := not_not.mp fun hother => hneeded ⟨henabled, hother⟩
        exact iff_of_true hsame fun hempty => hsame.trans hempty
      · rw [hempty]
        exact ⟨fun hsame _ => hsame, fun hshown => hshown rfl⟩

/-- The mode command and what follows. A run that needs none stands where one would have led. -/
theorem ensures_mode (hqualified : phase.Qualified)
    (hgpu : phase.snapshot.gpuUuids = [gpuUuid]) (hstands : phase.Stands trace current)
    (hneeded : (phase.moduleResetExpected = true ∨ current.mode ≠ phase.snapshot.migMode) →
      (phase.view trace).obeyed = true)
    (hsettled : current.mode = phase.snapshot.migMode → phase.moduleResetExpected = false →
      (phase.view trace).obeyed =
        phase.shows (some (.mode "")) current.mode current.geometry) :
    Ensures anyReply phase.RestorePost (phase.changeMode gpuUuid current) trace := by
  unfold changeMode
  split
  · next hchange =>
      exact ensures_command hstands (hneeded hchange) rfl trivial
        fun refreshed following hrefreshed hseen =>
          ensures_create hqualified hgpu _ hrefreshed hseen
  · next hchange =>
      push Not at hchange
      exact ensures_create hqualified hgpu "" hstands
        (hsettled hchange.2 (Bool.eq_false_of_not_eq_true hchange.1))

theorem Qualified.mode_recorded (h : phase.Qualified) : phase.snapshot.migMode ≠ none := by
  rcases h.mode with henabled | ⟨hdisabled, -⟩
  · rw [henabled]
    exact Option.some_ne_none _
  · rw [hdisabled]
    exact Option.some_ne_none _

/-- The restoration, from the observation behind the modules on. -/
theorem ensures_restore (hqualified : phase.Qualified) (hstands : phase.Stands trace current)
    (hobeyed : (phase.view trace).obeyed = true) :
    Ensures anyReply phase.RestorePost (phase.restore current) trace := by
  obtain ⟨gpuUuid, hgpu⟩ := hqualified.single
  rw [restore, if_neg hqualified.mode_recorded, hgpu]
  show Ensures _ _ (if _ then _ else _) _
  split
  · next hdestroy =>
      obtain ⟨hreset, henabled, -, -⟩ := hdestroy
      refine ensures_command hstands hobeyed rfl (hstands.enabled_iff.mpr henabled)
        fun emptied following hemptied hseen => ?_
      by_cases hstill : emptied.mode = some .enabled
      · refine ensures_command hemptied (hseen.trans (decide_eq_true hstill)) rfl
          (hemptied.enabled_iff.mpr hstill) fun destroyed final hdestroyed hgone => ?_
        -- left instances matter only where no mode command follows
        have hleft : ∀ hsame : destroyed.mode = phase.snapshot.migMode,
            phase.shows (some .destroyGpu) destroyed.mode destroyed.geometry =
              phase.shows (some (.mode "")) destroyed.mode destroyed.geometry := by
          intro hsame
          rw [Bool.eq_iff_iff, shows_mode]
          refine decide_eq_true_iff.trans ⟨fun hshown => ⟨hsame, fun hempty => ?_⟩,
            fun hshown _ => hshown.2⟩
          rcases hdestroyed.cases with ⟨-, hnone⟩ | hmode
          · exact hnone
          · exact hshown (hsame.symm.trans hmode) hempty
        refine ensures_mode hqualified hgpu hdestroyed (fun hneeded => ?_) fun hsame _ =>
          hgone.trans (hleft hsame)
        have hother : destroyed.mode ≠ phase.snapshot.migMode :=
          hneeded.resolve_left (by rw [hreset]; exact Bool.false_ne_true)
        refine hgone.trans (decide_eq_true fun hsnapshot _ => ?_)
        rcases hdestroyed.cases with ⟨-, hnone⟩ | hmode
        · exact hnone
        · exact absurd (hmode.trans hsnapshot.symm) hother
      · refine ensures_forbidden hemptied (hseen.trans (decide_eq_false hstill)) rfl
          (fun hpermitted => hstill (hemptied.enabled_iff.mp hpermitted)) fun destroyed final => ?_
        exact returns_mode hqualified hgpu destroyed final
  · next hkept =>
      refine ensures_mode hqualified hgpu hstands (fun _ => hobeyed) fun hsame hreset => ?_
      refine hobeyed.trans (shows_mode.mpr ⟨hsame, fun hempty => ?_⟩).symm
      by_contra hne
      have henabled := hstands.enabled_of_geometry hne
      exact hkept ⟨hreset, henabled, hne, .inr (by rw [hempty]; exact hne)⟩

/-- Without a required restoration the audit shows the snapshot. -/
theorem Qualified.audit_exact (h : phase.Qualified) (hnone : phase.migRestoreRequired = false) :
    phase.Exact [] := by
  have hmode : phase.snapshot.migMode = some .enabled ∨ phase.snapshot.migMode = some .disabled :=
    h.mode.imp_right And.left
  rw [migRestoreRequired, Bool.or_eq_false_iff, Bool.or_eq_false_iff] at hnone
  obtain ⟨⟨hunchanged, hgeometry⟩, -⟩ := hnone
  exact ⟨not_not.mp fun hne => of_decide_eq_false hunchanged ⟨hmode, hne⟩,
    not_not.mp fun hne => of_decide_eq_false hgeometry ⟨hmode, hne⟩⟩

/-- Every run of the phase under a qualified snapshot ends as it should. -/
theorem ensures_program (hqualified : phase.Qualified) :
    Ensures anyReply phase.RestorePost phase.program [] := by
  have hsafe : phase.Safe [] := allowed_nil
  unfold program
  split
  · refine ensures_any_reply hsafe fun answers => ?_
    have hseen : Allowed phase.allows [⟨.observe, answers⟩] :=
      allowed_nil.snoc (fun other gpu step hother => by cases hother) answers
    show Ensures _ _ (if _ then _ else _) _
    rcases refresh_cases phase.snapshot "post-package-module" (phase.observed answers) [] with
      ⟨hstable, hrefreshed⟩ | ⟨hunstable, hstatus, hvisible⟩
    · have hview : phase.view ([] ++ [⟨.observe, answers⟩]) = _ :=
        after_stable (phase.view []) hstable
      have hstands : phase.Stands [⟨.observe, answers⟩]
          (refreshRollbackMigState phase.snapshot "post-package-module" (phase.observed answers)
            []) := by
        rw [hrefreshed]
        refine ⟨hseen, ⟨answers, congrArg View.latest hview, hstable, rfl, rfl⟩,
          congrArg View.mode hview, congrArg View.geometry hview, stable_results hstable⟩
      have hobeyed : (phase.view [⟨.observe, answers⟩]).obeyed = true :=
        congrArg View.obeyed hview
      rw [if_neg (by rw [hrefreshed]; exact not_not.mpr rfl)]
      split
      · exact ensures_restore hqualified hstands hobeyed
      · next hsame =>
          push Not at hsame
          exact ensures_pure.mpr ⟨safe_of_allowed hseen, safe_of_allowed hseen,
            iff_of_true (hstands.restores_iff.mpr hsame) hobeyed⟩
    · have hview : phase.view ([] ++ [⟨.observe, answers⟩]) = _ :=
        after_unstable (phase.view []) hunstable
      rw [if_pos hstatus]
      refine ensures_pure.mpr ⟨safe_of_allowed hseen, safe_of_allowed hseen,
        iff_of_true ?_ (congrArg View.obeyed hview)⟩
      rcases hvisible with hfailed | ⟨hpending, htarget, hmarker⟩
      · exact restores_of_failed hseen hfailed
      · refine ⟨hseen, .inr (.inr ?_), fun hgoesOn => Bool.noConfusion hgoesOn⟩
        rw [congrArg View.latest hview]
        exact decide_eq_true ⟨hpending, htarget, hmarker⟩
  · next hidle =>
      have hexact := hqualified.audit_exact
        (Bool.eq_false_of_not_eq_true fun hrequired => hidle (.inl hrequired))
      exact ensures_pure.mpr ⟨hsafe, hsafe,
        iff_of_true ⟨allowed_nil, .inl hexact, fun _ => hexact⟩ rfl⟩

/-- Every run of the MIG phase, with arbitrary results and observations, on a snapshot that it is
qualified for: it raises nothing; as long as the stable observations show what the commands before
them were for, it creates and destroys under the enabled mode only; and it restores the snapshot
or fails visibly exactly when all of them did. -/
theorem mig_restoration_iff (hqualified : phase.Qualified) {outcome : Outcome String MigRestored}
    (hruns : Runs anyReply phase.program [] outcome trace) : phase.RestorePost outcome trace :=
  (ensures_program hqualified).runs hruns

/-! ## A GPU that keeps its mode -/

/-- A result without a failure, with this output. -/
def answered (stdout : String) : CommandResult where
  command := []
  returncode := some 0
  stdout := stdout

/-- The observations of one GPU with MIG disabled, by its pending mode. -/
def disabledAnswers (pending : Bool) : MigAnswers where
  modes := answered ("GPU-12345678-1234-1234-1234-123456789abc, Disabled, " ++
    if pending then "Enabled\n" else "Disabled\n")
  smiPresent := true
  gpuInstances := fun _ => answered ""
  computeInstances := fun _ => answered ""
  devices := answered ""

/-- A host whose GPU has MIG disabled and on which every command succeeds. The mode command takes
effect at the next reboot, or never. -/
def serveDisabled (staged pending : Bool) : (op : MigRestoreOp) → op.Reply × Bool
  | .run command => (answered "", pending || (staged && command.contains "-mig"))
  | .observe => (disabledAnswers pending, pending)

/-- A snapshot with MIG enabled and no instance, on a host that has disabled it since. -/
def disabledSince : MigPhase where
  snapshot :=
    { path := none
      packages := []
      kernel := "5.14.0-503.el9.x86_64"
      moduleVersion := none
      commands := []
      gpuUuids := ["GPU-12345678-1234-1234-1234-123456789abc"]
      migMode := some .enabled }
  currentAudit := { migHost with migMode := some .disabled, migModePending := some .disabled }
  commands := []
  moduleMatches := true
  moduleUnloadNeeded := false

theorem disabled_since_qualified : disabledSince.Qualified :=
  ⟨⟨_, rfl⟩, rfl, .inl rfl⟩

/-- The run on this host: it goes on unless the mode is staged. -/
theorem disabled_since_runs (staged : Bool) :
    ∃ restored, Runs anyReply disabledSince.program [] (.returned restored)
        (issued (serveDisabled staged) disabledSince.program false) ∧
      (restored.goesOn, restored.results.any CommandResult.failed) = (!staged, false) := by
  have hruns : Runs anyReply disabledSince.program [] _
      ([] ++ issued (serveDisabled staged) disabledSince.program false) :=
    runs_issued (serveDisabled staged) (fun _ _ _ => rfl) disabledSince.program false []
  have hends : (run (serveDisabled staged) disabledSince.program false).1.toOption.map
      (fun restored => (restored.goesOn, restored.results.any CommandResult.failed)) =
        some (!staged, false) := by
    cases staged <;> decide +kernel
  cases hrun : (run (serveDisabled staged) disabledSince.program false).1 with
  | error error =>
      rw [hrun] at hends
      cases hends
  | ok restored =>
      rw [hrun] at hends hruns
      exact ⟨restored, hruns, Option.some.inj hends⟩

/-- A GPU that changes its mode at the next reboot ends with the marker. -/
theorem mig_restoration_iff_staged :
    disabledSince.Qualified ∧ ∃ restored trace,
      Runs anyReply disabledSince.program [] (.returned restored) trace ∧
        restored.goesOn = false ∧ disabledSince.Restores restored trace := by
  obtain ⟨restored, hruns, hends⟩ := disabled_since_runs true
  refine ⟨disabled_since_qualified, restored, _, hruns, (Prod.mk.inj hends).1, ?_⟩
  exact (mig_restoration_iff disabled_since_qualified hruns).2.mpr (by decide +kernel)

/-- Where the mode command succeeds and the mode stays, the phase goes on without a failing result
and without the marker, and the last observation still shows MIG disabled. -/
theorem kept_mode_not_restored :
    disabledSince.Qualified ∧ ∃ restored trace,
      Runs anyReply disabledSince.program [] (.returned restored) trace ∧
        restored.goesOn = true ∧ (∀ result ∈ restored.results, result.failed = false) ∧
        (disabledSince.view trace).mode = some .disabled ∧
        ¬ disabledSince.Restores restored trace := by
  obtain ⟨restored, hruns, hends⟩ := disabled_since_runs false
  obtain ⟨hgoesOn, hclean⟩ := Prod.mk.inj hends
  have hmode : (disabledSince.view
      (issued (serveDisabled false) disabledSince.program false)).mode = some .disabled := by
    decide +kernel
  refine ⟨disabled_since_qualified, restored, _, hruns, hgoesOn, ?_, hmode, ?_⟩
  · exact fun result hresult =>
      Bool.eq_false_of_not_eq_true (List.any_eq_false.mp hclean result hresult)
  · rintro ⟨-, -, hexact⟩
    cases hmode.symm.trans (hexact hgoesOn).1

end MigPhase

end NvidiaConverge
