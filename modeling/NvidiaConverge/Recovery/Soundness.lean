import NvidiaConverge.Recovery.Scan
import NvidiaConverge.Recovery.Steps

/-!
# Sound worlds

The invariant of histories: the store is consistent, and the live process has the files that its
stage says it has. `Sound.step` is the step lemma, one case for each kind of step; `sound_history`
is the run lemma.
-/

namespace NvidiaConverge

open Directory (lookup_insert_eq_some lookup_erase_eq_some)

variable {w w' : World} {p : Process} {store : Store} {stage : Stage}
  {events : List JournalEvent}

/-! ## What a stage says -/

/-- The journal is of this operation, and nobody has recorded it as recovered. -/
structure Owned (journals : Directory (List JournalEvent)) (name operationId : String)
    (events : List JournalEvent) : Prop where
  journal : journals.lookup name = some events
  operation : journalOperation events = some operationId
  unrecovered : lastRecovery events = none

/-- The journal is of this operation, nobody has recorded it as recovered, and it has not
completed. -/
structure Journaled (journals : Directory (List JournalEvent)) (name operationId : String)
    (events : List JournalEvent) : Prop extends Owned journals name operationId events where
  uncompleted : lastCompletion events = none

/-- The marker of the process is there and names its operation. -/
def Marked (store : Store) (p : Process) : Prop :=
  store.markers.lookup p.journal = some p.operationId

/-- No journal is of this process's operation. -/
def Unused (store : Store) (p : Process) : Prop :=
  ∀ {name events}, store.journals.lookup name = some events →
    journalOperation events ≠ some p.operationId

/-- What the world holds at each stage of the live process. -/
def StageHolds (w : World) (p : Process) : Stage → Prop
  | .admitted => Unused w.store p
  | .reportReserved =>
      Unused w.store p ∧ w.store.journals.lookup p.journal = none ∧
        w.store.reports.lookup p.request.report ≠ none
  | .journalReserved =>
      (∃ events, Journaled w.store.journals p.journal p.operationId events ∧
        hostMutationPossible events = false) ∧
        w.store.markers.lookup p.journal = none
  | .reserved =>
      (∃ events, Journaled w.store.journals p.journal p.operationId events ∧
        hostMutationPossible events = false) ∧
        Marked w.store p
  | .working | .failing =>
      (∃ events, Journaled w.store.journals p.journal p.operationId events) ∧ Marked w.store p
  | .recording pending =>
      ((∃ events, Journaled w.store.journals p.journal p.operationId events) ∧
        Marked w.store p) ∧ pending ⊆ p.targets ∧
          ∃ snapshot, p.snapshot = some snapshot ∧ (p.operationId, snapshot) ∈ w.verified
  | .published completion =>
      ((∃ events, Journaled w.store.journals p.journal p.operationId events) ∧
        Marked w.store p) ∧ w.store.reports.lookup p.request.report = some (p.report completion)
  | .disputed _ | .retracted _ _ | .finished =>
      (∃ events, Owned w.store.journals p.journal p.operationId events) ∧ Marked w.store p

/-- The journal of an operation that the process may recover. -/
def Held (store : Store) (p : Process) (target : UnresolvedOperation) : Prop :=
  target.operationId ≠ p.operationId ∧
    ∃ events, store.journals.lookup target.name = some events ∧
      journalOperation events = some target.operationId ∧
      target.binding = (events.filterMap JournalEvent.binding?).head?

/-- The stages of `reserve_applied_report`, before the operation's own work begins. -/
def Stage.reserving : Stage → Bool
  | .admitted | .reportReserved | .journalReserved | .reserved => true
  | _ => false

/-- A stage at which a report may fail to be emitted comes behind the reservation. -/
theorem Stage.not_reserving (h : stage.mayFailToEmit = true) : stage.reserving = false := by
  cases stage <;> first | rfl | cases h

/-- The stages behind the event that records an outcome. -/
def Stage.concluded : Stage → Bool
  | .disputed _ | .retracted _ _ | .finished => true
  | _ => false

theorem Stage.concluded_reserving (h : stage.concluded = true) : stage.reserving = false := by
  cases stage <;> first | rfl | cases h

theorem Stage.recordsFailure_reserving (h : stage.recordsFailure = true) :
    stage.reserving = false := by
  cases stage <;> first | rfl | cases h

/-- What holds of the live process: its identity is drawn, its targets are held, and its stage fits
the store. -/
structure LiveHolds (w : World) (p : Process) : Prop where
  indexed : w.store.indexed = true
  drawn : p.operationId ∈ w.operationIds
  unverified : p.stage.reserving = true → ∀ entry ∈ w.verified, entry.1 ≠ p.operationId
  targets : ∀ target ∈ p.targets, Held w.store p target
  admitted : admits p.targets p.request = true
  loaded : p.stage.reserving = false → p.request.command = .rollback → p.snapshot ≠ none
  accepted : ∀ snapshot, p.snapshot = some snapshot →
    acceptsSnapshot p.targets snapshot = true ∧ Posix.pathComponents snapshot.path =
      some (abspath p.request.workingDirectory p.request.snapshot)
  stage : StageHolds w p p.stage

/-- The invariant of histories: the store is consistent, every recoverer was drawn, and the process
fits. -/
structure Sound (w : World) : Prop where
  consistent : Consistent w.store w.operationIds w.verified
  recoverers : ∀ entry ∈ w.verified, entry.1 ∈ w.operationIds
  live : ∀ p, w.live = some p → LiveHolds w p

/-! ## The frame of the live process -/

/-- A target's journal is not the process's own. -/
theorem Held.name_ne {target : UnresolvedOperation} (h : Held store p target)
    (hown : store.journals.lookup p.journal = none ∨
      ∃ events, store.journals.lookup p.journal = some events ∧
        journalOperation events = some p.operationId) : target.name ≠ p.journal := by
  obtain ⟨hne, events, hjournal, hoperation, -⟩ := h
  intro heq
  rw [heq] at hjournal
  rcases hown with hnone | ⟨own, hown, hid⟩
  · rw [hnone] at hjournal
    cases hjournal
  · obtain rfl : own = events := Option.some.inj (hown.symm.trans hjournal)
    exact hne (Option.some.inj (hoperation.symm.trans hid))

/-- A step that leaves the targets' journals alone keeps them held. -/
theorem Held.frame {store' : Store} {target : UnresolvedOperation} (h : Held store p target)
    (hkeep : store'.journals.lookup target.name = store.journals.lookup target.name) :
    Held store' p target := by
  obtain ⟨hne, events, hjournal, hrest⟩ := h
  exact ⟨hne, events, hkeep.trans hjournal, hrest⟩

/-- The live process moves on: the store is consistent, its targets are held, and the new stage
says so. -/
theorem Sound.advance (h : Sound w) (hlive : w.live = some p)
    (hconsistent : Consistent store w.operationIds w.verified)
    (hindexed : store.indexed = w.store.indexed)
    (htargets : ∀ target ∈ p.targets, Held store p target)
    (hphase : stage.reserving = p.stage.reserving ∨
      stage.reserving = false ∧ p.request.command ≠ .rollback)
    (hstage : StageHolds (w.advance p stage store) { p with stage } stage) :
    Sound (w.advance p stage store) where
  consistent := hconsistent
  recoverers := h.recoverers
  live := by
    rintro _ ⟨⟩
    have hp := h.live p hlive
    exact
      { indexed := hindexed.trans hp.indexed
        drawn := hp.drawn
        unverified := fun htrue => by
          refine hp.unverified (hphase.elim (fun heq => heq.symm.trans htrue) fun hwork => ?_)
          exact absurd (hwork.1.symm.trans htrue) Bool.false_ne_true
        targets := htargets
        admitted := hp.admitted
        loaded := fun hwork hcommand =>
          hphase.elim (fun heq => hp.loaded (heq.symm.trans hwork) hcommand) fun hother =>
            absurd hcommand hother.2
        accepted := hp.accepted
        stage := hstage }

/-- A stage whose process has a journal and a marker. -/
theorem StageHolds.own (h : StageHolds w p stage) (hstage : stage.reserving = false) :
    (∃ events, Owned w.store.journals p.journal p.operationId events) ∧ Marked w.store p := by
  cases stage with
  | admitted | reportReserved | journalReserved | reserved => cases hstage
  | working | failing =>
      obtain ⟨⟨events, hown⟩, hmarker⟩ := h
      exact ⟨⟨events, hown.toOwned⟩, hmarker⟩
  | recording pending =>
      obtain ⟨⟨⟨events, hown⟩, hmarker⟩, -⟩ := h
      exact ⟨⟨events, hown.toOwned⟩, hmarker⟩
  | published completion =>
      obtain ⟨⟨⟨events, hown⟩, hmarker⟩, -⟩ := h
      exact ⟨⟨events, hown.toOwned⟩, hmarker⟩
  | disputed | retracted | finished => exact h

/-- A concluded process keeps its journal and its marker. -/
theorem StageHolds.of_concluded (hstage : stage.concluded = true)
    (hown : ∃ events, Owned w.store.journals p.journal p.operationId events)
    (hmarker : Marked w.store p) : StageHolds w p stage := by
  cases stage with
  | disputed | retracted | finished => exact ⟨hown, hmarker⟩
  | _ => cases hstage

/-- From the first file on, the journal of the process's name is its own. -/
theorem StageHolds.own_journal (h : StageHolds w p stage) (hstage : stage ≠ .admitted)
    {events : List JournalEvent} (hjournal : w.store.journals.lookup p.journal = some events) :
    journalOperation events = some p.operationId ∧ lastRecovery events = none := by
  cases stage with
  | admitted => exact absurd rfl hstage
  | reportReserved => exact absurd (h.2.1.symm.trans hjournal) (by simp)
  | journalReserved | reserved =>
      obtain ⟨⟨own, hown, -⟩, -⟩ := h
      obtain rfl : own = events := Option.some.inj (hown.journal.symm.trans hjournal)
      exact ⟨hown.operation, hown.unrecovered⟩
  | working | failing | recording | published | disputed | retracted | finished =>
      obtain ⟨⟨own, hown⟩, -⟩ := h.own rfl
      obtain rfl : own = events := Option.some.inj (hown.journal.symm.trans hjournal)
      exact ⟨hown.operation, hown.unrecovered⟩

/-- At a stage before the completion the process has its journal and its marker. -/
theorem StageHolds.journaled (h : StageHolds w p stage)
    (hstage : stage.mayFailToEmit = true) :
    (∃ events, Journaled w.store.journals p.journal p.operationId events) ∧ Marked w.store p := by
  cases stage with
  | admitted | reportReserved | journalReserved | reserved | failing | finished | disputed
  | retracted => cases hstage
  | working => exact h
  | recording pending => exact h.1
  | published completion => exact h.1

/-! ## Own files -/

/-- The process appends to its own journal; the event is no recovery. -/
theorem Sound.appendOwn (h : Sound w) (hlive : w.live = some p) {events : List JournalEvent}
    {timestamp : String} {details : EventDetails}
    (hown : Owned w.store.journals p.journal p.operationId events) (hmarker : Marked w.store p)
    (hrecovery : ∀ recoveryId binding, details ≠ .operationRecovered recoveryId binding)
    (hstage : StageHolds
      (w.advance p stage
        { w.store with
          journals := w.store.journals.insert p.journal
            (events ++ [{ operationId := p.operationId, timestamp, details }]) })
      { p with stage } stage)
    (hphase : stage.reserving = p.stage.reserving) :
    Sound (w.advance p stage
      { w.store with
        journals := w.store.journals.insert p.journal
          (events ++ [{ operationId := p.operationId, timestamp, details }]) }) := by
  have hnone : lastRecovery (events ++ [{ operationId := p.operationId, timestamp, details }]) =
      none := by
    rw [last_recovery_append, hown.unrecovered]
    cases details <;> first | rfl | exact absurd rfl (hrecovery _ _)
  refine h.advance hlive (h.consistent.append hown.journal (.inl ?_) ?_) rfl ?_
    (.inl hphase) hstage
  · rw [hmarker]
    exact Option.some_ne_none _
  · intro recovery hrecovered
    rw [List.getLast?_eq_none_iff.mp hnone] at hrecovered
    cases hrecovered
  · intro target hmem
    have hheld := (h.live p hlive).targets target hmem
    exact hheld.frame (AList.lookup_insert_ne
      (hheld.name_ne (.inr ⟨events, hown.journal, hown.operation⟩)))

/-- The process replaces its own report while its marker is there. -/
theorem Sound.replaceReport (h : Sound w) (hlive : w.live = some p) (hmarker : Marked w.store p)
    {report : AppliedReport}
    (hstage : StageHolds
      (w.advance p stage
        { w.store with reports := w.store.reports.insert p.request.report report })
      { p with stage } stage)
    (hphase : stage.reserving = p.stage.reserving) :
    Sound (w.advance p stage
      { w.store with reports := w.store.reports.insert p.request.report report }) := by
  refine h.advance hlive (h.consistent.replaceReports ?_ ?_) rfl
    (h.live p hlive).targets
    (.inl hphase) hstage
  · intro name events hjournal hnone
    exact h.consistent.reported hjournal (AList.lookup_insert_eq_none.mp hnone).2
  · intro name found hjournal hunmarked hcomplete
    rwa [sealed_complete_congr]
    refine AList.lookup_insert_ne ?_
    intro heq
    -- The only journal beside this report is the process's own, which has a marker.
    have hname : name = p.journal := by
      rw [h.consistent.eq_journal_name hjournal, heq]
      rfl
    rw [hname, hmarker] at hunmarked
    cases hunmarked

/-- A step that undoes a part of the reservation keeps the history sound. -/
theorem Sound.release (h : Sound w) (hlive : w.live = some p)
    (hstore : Consistent store w.operationIds w.verified)
    (hindexed : store.indexed = w.store.indexed)
    (hjournals : ∀ {name}, name ≠ p.journal →
      store.journals.lookup name = w.store.journals.lookup name)
    (hown : w.store.journals.lookup p.journal = none ∨
      ∃ events, w.store.journals.lookup p.journal = some events ∧
        journalOperation events = some p.operationId)
    (hphase : stage.reserving = p.stage.reserving)
    (hstage : StageHolds (w.advance p stage store) { p with stage } stage) :
    Sound (w.advance p stage store) := by
  refine h.advance hlive hstore hindexed ?_ (.inl hphase) hstage
  intro target hmem
  have hheld := (h.live p hlive).targets target hmem
  exact hheld.frame (hjournals (hheld.name_ne hown))

/-! ## Steps -/

/-- The scan keeps the world sound, wherever it ends. -/
theorem Sound.scan (h : Sound w) (hlive : w.live = none)
    {indexed : List (String × ParsedJournal)}
    (hread : readActiveJournals w.store.bootstrapped = .ok indexed) {names : List String}
    (hsub : names ⊆ retirableMarkers w.store.bootstrapped indexed) :
    Sound { w with store := w.store.bootstrapped.retire names } where
  consistent := h.consistent.scan hread hsub
  recoverers := h.recoverers
  live := by
    intro p hp
    rw [hlive] at hp
    cases hp

/-- An operation that a scan returns has a journal, which is bound as the operation says. -/
theorem Consistent.remaining_journal {operationIds : List String}
    {verified : List (String × SnapshotBinding)} (h : Consistent store operationIds verified)
    {indexed : List (String × ParsedJournal)} (hread : readActiveJournals store = .ok indexed)
    {operation : UnresolvedOperation} (hmem : operation ∈ remainingOperations store indexed) :
    operation.operationId ∈ operationIds ∧
      ∃ events, store.journals.lookup operation.name = some events ∧
        journalOperation events = some operation.operationId ∧
        operation.binding = (events.filterMap JournalEvent.binding?).head? := by
  obtain ⟨name, parsed, hindexed, -, -, hoperation⟩ := mem_remaining_operations.mp hmem
  obtain ⟨events, hjournal⟩ := read_active_journals_mem hread hindexed
  have haccepted := hjournal.accepted
  rw [haccepted.operation] at hoperation
  split at hoperation
  · obtain rfl := Option.some.inj hoperation
    obtain ⟨operationId, hknown, hid⟩ := h.known hjournal.journal
    obtain rfl := Option.some.inj (hid.symm.trans haccepted.id)
    exact ⟨hknown, events, hjournal.journal, haccepted.id, rfl⟩
  · cases hoperation

theorem Sound.start (h : Sound w) {request : Request} {targets : List UnresolvedOperation}
    (hlive : w.live = none) (hscan : unresolvedOperations w.store = .ok (store, targets))
    (hfresh : request.operationId ∉ w.operationIds) (hadmits : admits targets request = true) :
    Sound
      { w with
        store
        live := some { request, targets }
        operationIds := request.operationId :: w.operationIds } := by
  obtain ⟨indexed, hread, rfl, rfl⟩ := h.consistent.unresolved_operations_ok hscan
  have hscanned := h.scan hlive hread (List.Subset.refl _)
  have hunused : ∀ {name events}, w.store.journals.lookup name = some events →
      journalOperation events ≠ some request.operationId := by
    intro name events hjournal hid
    obtain ⟨operationId, hknown, hoperation⟩ := h.consistent.known hjournal
    obtain rfl := Option.some.inj (hoperation.symm.trans hid)
    exact hfresh hknown
  refine
    { consistent := hscanned.consistent.grow (List.subset_cons_self _ _) (List.Subset.refl _)
      recoverers := fun entry hmem => List.mem_cons_of_mem _ (h.recoverers entry hmem)
      live := ?_ }
  rintro _ ⟨⟩
  refine
    { indexed := rfl
      drawn := List.mem_cons_self
      unverified := ?_
      targets := ?_
      admitted := hadmits
      loaded := fun hfalse => absurd hfalse.symm Bool.false_ne_true
      accepted := fun _ hsnapshot => (by cases hsnapshot)
      stage := hunused }
  · intro _ entry hmem heq
    exact hfresh (Eq.subst heq (h.recoverers entry hmem))
  · intro target hmem
    obtain ⟨hknown, hjournal⟩ := h.consistent.bootstrapped.remaining_journal hread hmem
    exact ⟨fun heq => hfresh (Eq.subst heq hknown), hjournal⟩

/-- Reserving the report keeps the history sound. -/
theorem Sound.reserveReport (h : Sound w) (hlive : w.live = some p)
    (hstage : p.stage = .admitted) (hnew : w.store.reports.lookup p.request.report = none)
    {report : AppliedReport} :
    Sound (w.advance p .reportReserved
      { w.store with reports := w.store.reports.insert p.request.report report }) := by
  have hholds := (h.live p hlive).stage
  rw [hstage] at hholds
  have hne : ∀ {name events}, w.store.journals.lookup name = some events →
      reportName name ≠ p.request.report := by
    intro name events hjournal heq
    exact h.consistent.reported hjournal (heq ▸ hnew)
  refine h.advance hlive (h.consistent.replaceReports ?_ ?_) rfl (h.live p hlive).targets
    (.inl (by rw [hstage]; rfl)) ⟨hholds, ?_, ?_⟩
  · intro name events hjournal
    rw [AList.lookup_insert_ne (hne hjournal)]
    exact h.consistent.reported hjournal
  · intro name events hjournal _ hcomplete
    rwa [sealed_complete_congr (AList.lookup_insert_ne (hne hjournal))]
  · show w.store.journals.lookup p.journal = none
    cases hjournal : w.store.journals.lookup p.journal with
    | none => rfl
    | some events => exact absurd (report_name_journal_name p.request.report) (hne hjournal)
  · show (w.store.reports.insert p.request.report report).lookup p.request.report ≠ none
    rw [AList.lookup_insert]
    exact Option.some_ne_none _

theorem Sound.reserveJournal (h : Sound w) (hlive : w.live = some p)
    (hstage : p.stage = .reportReserved)
    (hnew : w.store.journals.lookup p.journal = none) {timestamp : String} :
    Sound (w.advance p .journalReserved
      { w.store with
        journals := w.store.journals.insert p.journal
          [{ operationId := p.operationId, timestamp, details := .operationStarted }] }) := by
  have hp := h.live p hlive
  have hholds := hp.stage
  rw [hstage] at hholds
  obtain ⟨hunused, -, hreport⟩ := hholds
  refine h.release hlive
    (h.consistent.insertJournal hp.indexed hp.drawn hunused hreport hnew) rfl
    (fun hne => AList.lookup_insert_ne hne) (.inl hnew) (by rw [hstage]; rfl)
    ⟨⟨[{ operationId := p.operationId, timestamp, details := .operationStarted }], ?_, rfl⟩, ?_⟩
  · exact
      { journal := AList.lookup_insert _
        operation := rfl
        unrecovered := rfl
        uncompleted := rfl }
  · show w.store.markers.lookup p.journal = none
    cases hmarker : w.store.markers.lookup p.journal with
    | none => rfl
    | some operationId =>
        obtain ⟨events, hjournal, -⟩ := h.consistent.marked hmarker
        rw [hnew] at hjournal
        cases hjournal

theorem Sound.reserveMarker (h : Sound w) (hlive : w.live = some p)
    (hstage : p.stage = .journalReserved) :
    Sound (w.advance p .reserved
      { w.store with markers := w.store.markers.insert p.journal p.operationId }) := by
  have hholds := (h.live p hlive).stage
  rw [hstage] at hholds
  obtain ⟨⟨events, hown, hsafe⟩, -⟩ := hholds
  exact h.advance hlive (h.consistent.insertMarker hown.journal hown.operation) rfl
    (h.live p hlive).targets (.inl (by rw [hstage]; rfl))
    ⟨⟨events, hown, hsafe⟩, AList.lookup_insert _⟩

theorem Sound.releaseMarker (h : Sound w) (hlive : w.live = some p)
    (hstage : p.stage = .reserved) :
    Sound (w.advance p .journalReserved
      { w.store with markers := w.store.markers.erase p.journal }) := by
  have hholds := (h.live p hlive).stage
  rw [hstage] at hholds
  obtain ⟨⟨events, hown, hsafe⟩, -⟩ := hholds
  have hconsistent : Consistent (w.store.retire [p.journal]) w.operationIds w.verified := by
    refine h.consistent.retire ?_
    intro name hmem found hjournal
    obtain rfl := List.mem_singleton.mp hmem
    obtain rfl : events = found := Option.some.inj (hown.journal.symm.trans hjournal)
    exact .inl hsafe
  exact h.advance hlive hconsistent rfl (h.live p hlive).targets (.inl (by rw [hstage]; rfl))
    ⟨⟨events, hown, hsafe⟩, AList.lookup_erase _ _⟩

theorem Sound.releaseJournal (h : Sound w) (hlive : w.live = some p)
    (hstage : p.stage = .journalReserved) :
    Sound (w.advance p .reportReserved
      { w.store with journals := w.store.journals.erase p.journal }) := by
  have hholds := (h.live p hlive).stage
  rw [hstage] at hholds
  obtain ⟨⟨events, hown, -⟩, hmarker⟩ := hholds
  refine h.release hlive (h.consistent.eraseJournal hmarker) rfl
    (fun hne => AList.lookup_erase_ne hne) (.inr ⟨events, hown.journal, hown.operation⟩)
    (by rw [hstage]; rfl) ⟨?_, AList.lookup_erase _ _, ?_⟩
  · intro name found hfound hid
    obtain ⟨hne, hfound⟩ := lookup_erase_eq_some hfound
    exact hne (h.consistent.distinct hfound hown.journal (hid.trans hown.operation.symm))
  · have hreported := h.consistent.reported hown.journal
    rwa [Process.journal, report_name_journal_name] at hreported

theorem Sound.releaseReport (h : Sound w) (hlive : w.live = some p)
    (hstage : p.stage = .reportReserved) :
    Sound (w.advance p .admitted
      { w.store with reports := w.store.reports.erase p.request.report }) := by
  have hholds := (h.live p hlive).stage
  rw [hstage] at hholds
  obtain ⟨hunused, hnone, -⟩ := hholds
  have hne : ∀ {name events}, w.store.journals.lookup name = some events →
      reportName name ≠ p.request.report := by
    intro name events hjournal heq
    rw [h.consistent.eq_journal_name hjournal, heq] at hjournal
    exact Option.some_ne_none _ (hjournal.symm.trans hnone)
  refine h.advance hlive (h.consistent.replaceReports ?_ ?_) rfl (h.live p hlive).targets
    (.inl (by rw [hstage]; rfl)) hunused
  · intro name events hjournal
    rw [AList.lookup_erase_ne (hne hjournal)]
    exact h.consistent.reported hjournal
  · intro name events hjournal _ hcomplete
    rwa [sealed_complete_congr (AList.lookup_erase_ne (hne hjournal))]

theorem Sound.append (h : Sound w) (hlive : w.live = some p) (hstage : p.stage = .working)
    {timestamp : String} {details : EventDetails} (hwork : details.isWork = true)
    {events : List JournalEvent} (hjournal : w.store.journals.lookup p.journal = some events) :
    Sound (w.advance p .working
      { w.store with
        journals := w.store.journals.insert p.journal
          (events ++ [{ operationId := p.operationId, timestamp, details }]) }) := by
  have hholds := (h.live p hlive).stage
  rw [hstage] at hholds
  obtain ⟨⟨found, hown⟩, hmarker⟩ := hholds
  obtain rfl : found = events := Option.some.inj (hown.journal.symm.trans hjournal)
  have hcompletion : lastCompletion
      (found ++ [{ operationId := p.operationId, timestamp, details }]) = none := by
    rw [last_completion_append, hown.uncompleted]
    cases details <;> first | rfl | cases hwork
  have hrecovery : lastRecovery
      (found ++ [{ operationId := p.operationId, timestamp, details }]) = none := by
    rw [last_recovery_append, hown.unrecovered]
    cases details <;> first | rfl | cases hwork
  have hown' : Journaled
      (w.store.journals.insert p.journal
        (found ++ [{ operationId := p.operationId, timestamp, details }]))
      p.journal p.operationId
      (found ++ [{ operationId := p.operationId, timestamp, details }]) :=
    { journal := AList.lookup_insert _
      operation := journal_operation_append hown.operation
      unrecovered := hrecovery
      uncompleted := hcompletion }
  refine h.appendOwn hlive hown.toOwned hmarker ?_ ⟨⟨_, hown'⟩, hmarker⟩ (by rw [hstage])
  rintro recoveryId binding rfl
  cases hwork

/-- The rollback is verified before its operations are recorded as recovered. -/
theorem Sound.verify (h : Sound w) (hlive : w.live = some p) (hstage : p.stage = .working)
    {snapshot : SnapshotBinding} (hsnapshot : p.snapshot = some snapshot) :
    Sound
      { w with
        live := some { p with stage := .recording p.targets }
        verified := (p.operationId, snapshot) :: w.verified } := by
  have hp := h.live p hlive
  have hholds := hp.stage
  rw [hstage] at hholds
  refine
    { consistent := h.consistent.grow (List.Subset.refl _) (List.subset_cons_self _ _)
      recoverers := List.forall_mem_cons.mpr ⟨hp.drawn, h.recoverers⟩
      live := ?_ }
  rintro _ ⟨⟩
  exact
    { indexed := hp.indexed
      drawn := hp.drawn
      unverified := fun hfalse => absurd hfalse Bool.false_ne_true
      targets := hp.targets
      admitted := hp.admitted
      loaded := fun _ _ => by rw [hsnapshot]; exact Option.some_ne_none _
      accepted := hp.accepted
      stage := ⟨hholds, List.Subset.refl _, snapshot, hsnapshot, List.mem_cons_self⟩ }

/-- A recorded recovery is vouched for: the rollback was verified, and to the snapshot that the
recovered journal is bound to. -/
theorem Sound.record (h : Sound w) (hlive : w.live = some p) {target : UnresolvedOperation}
    {rest : List UnresolvedOperation} {snapshot : SnapshotBinding} {events : List JournalEvent}
    {event : JournalEvent} (hstage : p.stage = .recording (target :: rest))
    (hsnapshot : p.snapshot = some snapshot)
    (hjournal : w.store.journals.lookup target.name = some events)
    (hrecovery : event.recovery? = some (p.operationId, snapshot))
    (hbinding : event.binding? = none) :
    Sound (w.advance p (.recording rest)
      { w.store with
        journals := w.store.journals.insert target.name (events ++ [event]) }) := by
  have hp := h.live p hlive
  have hholds := hp.stage
  rw [hstage] at hholds
  obtain ⟨⟨⟨own, hown⟩, hmarker⟩, hpending, _, hloaded, hverified⟩ := hholds
  obtain rfl := Option.some.inj (hsnapshot.symm.trans hloaded)
  have htarget : target ∈ p.targets := hpending List.mem_cons_self
  have hheld := hp.targets target htarget
  have hne : target.name ≠ p.journal := hheld.name_ne (.inr ⟨own, hown.journal, hown.operation⟩)
  obtain ⟨-, found, hfound, hoperation, hbound⟩ := hheld
  obtain rfl : found = events := Option.some.inj (hfound.symm.trans hjournal)
  -- The gate admitted the rollback for exactly these targets: each is bound to the loaded snapshot.
  have haccepted : target.binding.map SnapshotBinding.contentKey = some snapshot.contentKey :=
    beq_iff_eq.mp (List.all_eq_true.mp (hp.accepted snapshot hsnapshot).1 target htarget)
  obtain ⟨bound, hsome, hkey⟩ := Option.map_eq_some_iff.mp haccepted
  have hbindings : ((found ++ [event]).filterMap JournalEvent.binding?).head? =
      target.binding := by
    rw [hbound, List.filterMap_append, List.filterMap_cons_none hbinding, List.filterMap_nil,
      List.append_nil]
  have hlast : lastRecovery (found ++ [event]) = some (p.operationId, snapshot) := by
    rw [last_recovery_append, hrecovery, Option.some_or]
  have hconsistent := h.consistent.append hfound (.inr (by rw [hlast]; exact Option.some_ne_none _))
    (fun recovery hrecovered => by
      rw [List.filterMap_append, List.mem_append] at hrecovered
      rcases hrecovered with hbefore | hnow
      · obtain ⟨hmem, bound', hbound', hkey'⟩ := h.consistent.vouched hfound hbefore
        exact ⟨hmem, bound', (hbindings.trans hbound).trans hbound', hkey'⟩
      · rw [List.filterMap_cons_some hrecovery, List.filterMap_nil, List.mem_singleton] at hnow
        subst hnow
        exact ⟨hverified, bound, hbindings.trans hsome, hkey⟩)
  refine h.advance hlive hconsistent rfl ?_ (.inl (by rw [hstage]; rfl))
    ⟨⟨⟨own, ?_⟩, hmarker⟩, fun _ hmem => hpending (List.mem_cons_of_mem _ hmem), snapshot,
      hsnapshot, hverified⟩
  · intro other hmem
    obtain ⟨hotherid, events, hother, hotheroperation, hotherbound⟩ := hp.targets other hmem
    -- The record goes to the journal of one target; the others of the process are as they were.
    by_cases heq : other.name = target.name
    · rw [heq] at hother
      obtain rfl : events = found := Option.some.inj (hother.symm.trans hfound)
      refine ⟨hotherid, events ++ [event], ?_, journal_operation_append hotheroperation, ?_⟩
      · rw [heq]
        exact AList.lookup_insert _
      · rw [hbindings, hbound, hotherbound]
    · exact ⟨hotherid, events, (AList.lookup_insert_ne heq).trans hother, hotheroperation,
        hotherbound⟩
  · exact { hown with journal := (AList.lookup_insert_ne hne.symm).trans hown.journal }

theorem Sound.publish (h : Sound w) (hlive : w.live = some p) (hstage : p.stage.emits = true)
    {completion : Completion} :
    Sound (w.advance p (.published completion)
      { w.store with
        reports := w.store.reports.insert p.request.report (p.report completion) }) := by
  have hmay : p.stage.mayFailToEmit = true := by
    cases hcase : p.stage with
    | published completion => rfl
    | _ => rw [hcase] at hstage; exact hstage
  obtain ⟨⟨events, hown⟩, hmarker⟩ := (h.live p hlive).stage.journaled hmay
  exact h.replaceReport hlive hmarker ⟨⟨⟨events, hown⟩, hmarker⟩, AList.lookup_insert _⟩
    (Stage.not_reserving hmay).symm

/-- `emit_report` appends an outcome: the completion, or the failure to persist the report. The
process keeps its journal and its marker. -/
theorem Sound.appendOutcome (h : Sound w) (hlive : w.live = some p) {timestamp : String}
    {details : EventDetails} (hreserved : p.stage.reserving = false)
    (hrecovery : ∀ recoveryId binding, details ≠ .operationRecovered recoveryId binding)
    (hconcluded : stage.concluded = true)
    (hjournal : w.store.journals.lookup p.journal = some events) :
    Sound (w.advance p stage
      { w.store with
        journals := w.store.journals.insert p.journal
          (events ++ [{ operationId := p.operationId, timestamp, details }]) }) := by
  obtain ⟨⟨found, hown⟩, hmarker⟩ := (h.live p hlive).stage.own hreserved
  obtain rfl : found = events := Option.some.inj (hown.journal.symm.trans hjournal)
  have hown' : Owned
      (w.store.journals.insert p.journal
        (found ++ [{ operationId := p.operationId, timestamp, details }]))
      p.journal p.operationId
      (found ++ [{ operationId := p.operationId, timestamp, details }]) :=
    { journal := AList.lookup_insert _
      operation := journal_operation_append hown.operation
      unrecovered := by
        rw [last_recovery_append, hown.unrecovered]
        cases details <;> first | rfl | exact absurd rfl (hrecovery _ _) }
  exact h.appendOwn hlive hown hmarker hrecovery
    (StageHolds.of_concluded hconcluded ⟨_, hown'⟩ hmarker)
    ((Stage.concluded_reserving hconcluded).trans hreserved.symm)

/-- Every step keeps the history sound, whatever the process does. -/
theorem Sound.step (h : Sound w) {action : Action} (hstep : Step w action w') : Sound w' := by
  cases hstep with
  | cutScan hlive hscan =>
      obtain ⟨indexed, hread, rfl⟩ := h.consistent.interrupted_scan_ok hscan
      exact h.scan hlive hread (List.take_subset _ _)
  | start hlive hscan hfresh hadmits => exact h.start hlive hscan hfresh hadmits
  | exit hlive => exact { h with live := fun _ hp => (by cases hp) }
  | reserveReport hlive hstage hnew => exact h.reserveReport hlive hstage hnew
  | reserveJournal hlive hstage hnew => exact h.reserveJournal hlive hstage hnew
  | reserveMarker hlive hstage _ => exact h.reserveMarker hlive hstage
  | releaseMarker hlive hstage => exact h.releaseMarker hlive hstage
  | releaseJournal hlive hstage => exact h.releaseJournal hlive hstage
  | releaseReport hlive hstage => exact h.releaseReport hlive hstage
  | begin hlive hstage hcommand =>
      have hp := h.live _ hlive
      have hholds := hp.stage
      rw [hstage] at hholds
      obtain ⟨⟨events, hown, -⟩, hmarker⟩ := hholds
      exact h.advance hlive h.consistent rfl hp.targets (.inr ⟨rfl, hcommand⟩)
        ⟨⟨events, hown⟩, hmarker⟩
  | load hlive hstage _ hpath haccepts =>
      have hp := h.live _ hlive
      have hholds := hp.stage
      rw [hstage] at hholds
      obtain ⟨⟨events, hown, -⟩, hmarker⟩ := hholds
      refine { h with live := ?_ }
      rintro _ ⟨⟩
      exact
        { hp with
          unverified := fun hfalse => absurd hfalse Bool.false_ne_true
          loaded := fun _ _ => Option.some_ne_none _
          accepted := by rintro _ ⟨⟩; exact ⟨haccepts, hpath⟩
          stage := ⟨⟨events, hown⟩, hmarker⟩ }
  | append hlive hstage hwork hjournal => exact h.append hlive hstage hwork hjournal
  | verify hlive hstage hsnapshot _ => exact h.verify hlive hstage hsnapshot
  | record hlive hstage hsnapshot hjournal =>
      exact h.record hlive hstage hsnapshot hjournal rfl rfl
  | publish hlive hstage => exact h.publish hlive hstage
  | complete hlive hstage hjournal | completeDisputed hlive hstage hjournal =>
      exact h.appendOutcome hlive (by rw [hstage]; rfl) (fun _ _ heq => by cases heq) rfl
        hjournal
  | retract hlive hstage =>
      have hholds := (h.live _ hlive).stage
      rw [hstage] at hholds
      exact h.replaceReport hlive hholds.2 hholds (by rw [hstage]; rfl)
  | retractLost hlive hstage =>
      have hholds := (h.live _ hlive).stage
      rw [hstage] at hholds
      exact h.advance hlive h.consistent rfl (h.live _ hlive).targets
        (.inl (by rw [hstage]; rfl)) hholds
  | publishFailed hlive hstage =>
      obtain ⟨⟨events, hown⟩, hmarker⟩ := (h.live _ hlive).stage.journaled hstage
      exact h.replaceReport hlive hmarker ⟨⟨events, hown⟩, hmarker⟩
        (Stage.not_reserving hstage).symm
  | publishLost hlive hstage =>
      exact h.advance hlive h.consistent rfl (h.live _ hlive).targets
        (.inl (Stage.not_reserving hstage).symm) ((h.live _ hlive).stage.journaled hstage)
  | failPersistence hlive hstage hjournal =>
      exact h.appendOutcome hlive (Stage.recordsFailure_reserving hstage)
        (fun _ _ heq => by cases heq) rfl hjournal

theorem sound_initial_world : Sound initialWorld where
  consistent :=
    { named := fun hjournal => (by cases hjournal)
      known := fun hjournal => (by cases hjournal)
      distinct := fun hjournal => (by cases hjournal)
      reported := fun hjournal => (by cases hjournal)
      marked := fun hmarker => (by cases hmarker)
      kept := fun hjournal => (by cases hjournal)
      vouched := fun hjournal => (by cases hjournal)
      indexed := fun _ => ⟨rfl, rfl⟩ }
  recoverers := fun _ hmem => (by cases hmem)
  live := fun _ hp => (by cases hp)

/-- Every state of a history is sound, under any condition on its steps. -/
theorem sound_history {allowed : World → Action → Prop}
    (hreach : Run.Reachable step? allowed initialWorld w) : Sound w :=
  hreach.invariant sound_initial_world fun h _ hstep => h.step (step_cases hstep)

end NvidiaConverge
