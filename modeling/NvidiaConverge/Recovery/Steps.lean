import NvidiaConverge.Recovery.History

/-!
# What a step can do

The enabled actions with their guards and their effects, one constructor each. `step_cases` reads
them off `step?`; the invariants of histories are proved from the constructors.
-/

namespace NvidiaConverge

/-- One step of a history with what enabled it, and the world that it leaves. -/
inductive Step : World → Action → World → Prop where
  | cutScan {w : World} {count : Nat} {store : Store} (hlive : w.live = none)
      (hscan : interruptedScan count w.store = .ok store) :
      Step w (.cutScan count) { w with store }
  | start {w : World} {request : Request} {store : Store} {targets : List UnresolvedOperation}
      (hlive : w.live = none) (hscan : unresolvedOperations w.store = .ok (store, targets))
      (hfresh : request.operationId ∉ w.operationIds) (hadmits : admits targets request = true) :
      Step w (.start request)
        { w with
          store
          live := some { request, targets }
          operationIds := request.operationId :: w.operationIds }
  | exit {w : World} {p : Process} (hlive : w.live = some p) :
      Step w .exit { w with live := none }
  | reserveReport {w : World} {p : Process} (hlive : w.live = some p)
      (hstage : p.stage = .admitted) (hnew : w.store.reports.lookup p.request.report = none) :
      Step w .reserveReport (w.advance p .reportReserved
        { w.store with
          reports := w.store.reports.insert p.request.report (p.report provisionalCompletion) })
  | reserveJournal {w : World} {p : Process} {timestamp : String} (hlive : w.live = some p)
      (hstage : p.stage = .reportReserved) (hnew : w.store.journals.lookup p.journal = none) :
      Step w (.reserveJournal timestamp) (w.advance p .journalReserved
        { w.store with
          journals := w.store.journals.insert p.journal
            [{ operationId := p.operationId, timestamp, details := .operationStarted }] })
  | reserveMarker {w : World} {p : Process} (hlive : w.live = some p)
      (hstage : p.stage = .journalReserved) (hnew : w.store.markers.lookup p.journal = none) :
      Step w .reserveMarker (w.advance p .reserved
        { w.store with markers := w.store.markers.insert p.journal p.operationId })
  | releaseMarker {w : World} {p : Process} (hlive : w.live = some p)
      (hstage : p.stage = .reserved) :
      Step w .release (w.advance p .journalReserved
        { w.store with markers := w.store.markers.erase p.journal })
  | releaseJournal {w : World} {p : Process} (hlive : w.live = some p)
      (hstage : p.stage = .journalReserved) :
      Step w .release (w.advance p .reportReserved
        { w.store with journals := w.store.journals.erase p.journal })
  | releaseReport {w : World} {p : Process} (hlive : w.live = some p)
      (hstage : p.stage = .reportReserved) :
      Step w .release (w.advance p .admitted
        { w.store with reports := w.store.reports.erase p.request.report })
  | begin {w : World} {p : Process} (hlive : w.live = some p) (hstage : p.stage = .reserved)
      (hcommand : p.request.command ≠ .rollback) :
      Step w .begin (w.advance p .working w.store)
  | load {w : World} {p : Process} {snapshot : SnapshotBinding} (hlive : w.live = some p)
      (hstage : p.stage = .reserved) (hcommand : p.request.command = .rollback)
      (hpath : Posix.pathComponents snapshot.path =
        some (abspath p.request.workingDirectory p.request.snapshot))
      (haccepts : acceptsSnapshot p.targets snapshot = true) :
      Step w (.load snapshot)
        { w with live := some { p with stage := .working, snapshot := some snapshot } }
  | append {w : World} {p : Process} {timestamp : String} {details : EventDetails}
      {events : List JournalEvent} (hlive : w.live = some p) (hstage : p.stage = .working)
      (hwork : details.isWork = true) (hjournal : w.store.journals.lookup p.journal = some events) :
      Step w (.append timestamp details) (w.advance p .working
        { w.store with
          journals := w.store.journals.insert p.journal
            (events ++ [{ operationId := p.operationId, timestamp, details }]) })
  | verify {w : World} {p : Process} {snapshot : SnapshotBinding}
      {conclusion : RollbackConclusion} (hlive : w.live = some p) (hstage : p.stage = .working)
      (hsnapshot : p.snapshot = some snapshot) (hverified : conclusion.fullyVerified = true) :
      Step w (.verify conclusion)
        { w with
          live := some { p with stage := .recording p.targets }
          verified := (p.operationId, snapshot) :: w.verified }
  | record {w : World} {p : Process} {timestamp : String} {target : UnresolvedOperation}
      {rest : List UnresolvedOperation} {snapshot : SnapshotBinding}
      {events : List JournalEvent} (hlive : w.live = some p)
      (hstage : p.stage = .recording (target :: rest)) (hsnapshot : p.snapshot = some snapshot)
      (hjournal : w.store.journals.lookup target.name = some events) :
      Step w (.record timestamp) (w.advance p (.recording rest)
        { w.store with
          journals := w.store.journals.insert target.name
            (events ++
              [{ operationId := target.operationId, timestamp
                 details := .operationRecovered p.operationId snapshot }]) })
  | publish {w : World} {p : Process} {exitCode : Int} {mutationsStarted : Bool}
      (hlive : w.live = some p) (hstage : p.stage.emits = true) :
      Step w (.publish exitCode mutationsStarted)
        (w.advance p (.published (finalCompletion exitCode mutationsStarted))
          { w.store with
            reports := w.store.reports.insert p.request.report
              (p.report (finalCompletion exitCode mutationsStarted)) })
  | complete {w : World} {p : Process} {timestamp : String} {completion : Completion}
      {events : List JournalEvent} (hlive : w.live = some p)
      (hstage : p.stage = .published completion)
      (hjournal : w.store.journals.lookup p.journal = some events) :
      Step w (.complete timestamp) (w.advance p .finished
        { w.store with
          journals := w.store.journals.insert p.journal
            (events ++
              [{ operationId := p.operationId, timestamp
                 details := .operationCompleted completion.exitCode completion.incomplete
                   completion.outcome }]) })
  | completeDisputed {w : World} {p : Process} {timestamp : String} {completion : Completion}
      {uncertain : Bool} {events : List JournalEvent} (hlive : w.live = some p)
      (hstage : p.stage = .published completion)
      (hjournal : w.store.journals.lookup p.journal = some events) :
      Step w (.completeDisputed timestamp uncertain) (w.advance p (.disputed uncertain)
        { w.store with
          journals := w.store.journals.insert p.journal
            (events ++
              [{ operationId := p.operationId, timestamp
                 details := .operationCompleted completion.exitCode completion.incomplete
                   completion.outcome }]) })
  | retract {w : World} {p : Process} {uncertain : Bool} (hlive : w.live = some p)
      (hstage : p.stage = .disputed uncertain) :
      Step w (.retract true) (w.advance p (.retracted true uncertain)
        { w.store with
          reports := w.store.reports.insert p.request.report (p.report retractedCompletion) })
  | retractLost {w : World} {p : Process} {uncertain : Bool} (hlive : w.live = some p)
      (hstage : p.stage = .disputed uncertain) :
      Step w (.retract false) (w.advance p (.retracted false uncertain) w.store)
  | publishFailed {w : World} {p : Process} {completion : Completion} (hlive : w.live = some p)
      (hstage : p.stage.mayFailToEmit = true) :
      Step w (.publishFailed (some completion)) (w.advance p .failing
        { w.store with
          reports := w.store.reports.insert p.request.report (p.report completion) })
  | publishLost {w : World} {p : Process} (hlive : w.live = some p)
      (hstage : p.stage.mayFailToEmit = true) :
      Step w (.publishFailed none) (w.advance p .failing w.store)
  | failPersistence {w : World} {p : Process} {timestamp error : String}
      {events : List JournalEvent} (hlive : w.live = some p)
      (hstage : p.stage.recordsFailure = true)
      (hjournal : w.store.journals.lookup p.journal = some events) :
      Step w (.failPersistence timestamp error) (w.advance p .finished
        { w.store with
          journals := w.store.journals.insert p.journal
            (events ++
              [{ operationId := p.operationId, timestamp
                 details := .reportPersistenceFailed error }]) })

variable {w w' : World} {p : Process} {action : Action}

/-- An event that the process appends is the last line of its own journal. -/
theorem append_own_eq_some {stage : Stage} {timestamp : String} {details : EventDetails}
    (h : w.appendOwn p stage timestamp details = some w') :
    ∃ events, w.store.journals.lookup p.journal = some events ∧
      w' = w.advance p stage
        { w.store with
          journals := w.store.journals.insert p.journal
            (events ++ [{ operationId := p.operationId, timestamp, details }]) } := by
  obtain ⟨store, happend, heq⟩ := Option.bind_eq_some_iff.mp h
  unfold Store.append at happend
  split at happend
  · next events hjournal =>
      obtain rfl := Option.some.inj happend
      exact ⟨events, hjournal, (Option.some.inj heq).symm⟩
  · cases happend

theorem reserve_cases (hlive : w.live = some p) (h : w.reserve p action = some w') :
    Step w action w' := by
  unfold World.reserve at h
  split at h
  · next hstage =>
      obtain ⟨reports, hcreate, heq⟩ := Option.bind_eq_some_iff.mp h
      obtain ⟨hnew, rfl⟩ := Directory.create_eq_some hcreate
      obtain rfl := Option.some.inj heq
      exact .reserveReport hlive hstage hnew
  · next hstage =>
      obtain ⟨journals, hcreate, heq⟩ := Option.bind_eq_some_iff.mp h
      obtain ⟨hnew, rfl⟩ := Directory.create_eq_some hcreate
      obtain rfl := Option.some.inj heq
      exact .reserveJournal hlive hstage hnew
  · next hstage =>
      split at h
      · cases h
      · obtain ⟨markers, hcreate, heq⟩ := Option.bind_eq_some_iff.mp h
        obtain ⟨hnew, rfl⟩ := Directory.create_eq_some hcreate
        obtain rfl := Option.some.inj heq
        exact .reserveMarker hlive hstage hnew
  · next hstage =>
      obtain rfl := Option.some.inj h
      exact .releaseMarker hlive hstage
  · next hstage =>
      obtain rfl := Option.some.inj h
      exact .releaseJournal hlive hstage
  · next hstage =>
      obtain rfl := Option.some.inj h
      exact .releaseReport hlive hstage
  · cases h

theorem execute_cases (hlive : w.live = some p) (h : w.execute p action = some w') :
    Step w action w' := by
  unfold World.execute at h
  split at h
  · next hstage =>
      split at h
      · cases h
      · next hcommand =>
          obtain rfl := Option.some.inj h
          exact .begin hlive hstage hcommand
  · next hstage =>
      split at h
      · next hguard =>
          obtain rfl := Option.some.inj h
          exact .load hlive hstage hguard.1 hguard.2.1 hguard.2.2
      · cases h
  · next hstage =>
      split at h
      · next hwork =>
          obtain ⟨events, hjournal, rfl⟩ := append_own_eq_some h
          exact .append hlive hstage hwork hjournal
      · cases h
  · next hstage =>
      split at h
      · next hsnapshot =>
          split at h
          · next hverified =>
              obtain rfl := Option.some.inj h
              exact .verify hlive hstage hsnapshot hverified
          · cases h
      · cases h
  · next hstage =>
      split at h
      · next hsnapshot =>
          obtain ⟨store, happend, heq⟩ := Option.bind_eq_some_iff.mp h
          unfold Store.append at happend
          split at happend
          · next events hjournal =>
              obtain rfl := Option.some.inj happend
              obtain rfl := Option.some.inj heq
              exact .record hlive hstage hsnapshot hjournal
          · cases happend
      · cases h
  · cases h

theorem emit_cases (hlive : w.live = some p) (h : w.emit p action = some w') :
    Step w action w' := by
  unfold World.emit at h
  split at h
  · dsimp only at h
    split at h
    · next hstage =>
        obtain rfl := Option.some.inj h
        exact .publish hlive hstage
    · cases h
  · split at h
    · next hstage =>
        obtain ⟨events, hjournal, rfl⟩ := append_own_eq_some h
        exact .complete hlive hstage hjournal
    · cases h
  · split at h
    · next hstage =>
        obtain ⟨events, hjournal, rfl⟩ := append_own_eq_some h
        exact .completeDisputed hlive hstage hjournal
    · cases h
  · next written =>
      split at h
      · next hstage =>
          obtain rfl := Option.some.inj h
          cases written with
          | false => exact .retractLost hlive hstage
          | true => exact .retract hlive hstage
      · cases h
  · next written =>
      split at h
      · next hstage =>
          obtain rfl := Option.some.inj h
          cases written with
          | none => exact .publishLost hlive hstage
          | some completion => exact .publishFailed hlive hstage
      · cases h
  · split at h
    · next hstage =>
        obtain ⟨events, hjournal, rfl⟩ := append_own_eq_some h
        exact .failPersistence hlive hstage hjournal
    · cases h
  · cases h

/-- Every action that the program takes is one of these steps, with what enabled it. -/
theorem step_cases (h : step? w action = some w') : Step w action w' := by
  unfold step? at h
  split at h
  · next hlive =>
      split at h
      · next hscan =>
          obtain rfl := Option.some.inj h
          exact .cutScan hlive hscan
      · cases h
  · next hlive =>
      unfold World.admit at h
      split at h
      · cases h
      · next hscan =>
          split at h
          · next hguard =>
              obtain rfl := Option.some.inj h
              exact .start hlive hscan hguard.2.2.1 hguard.2.2.2
          · cases h
  · cases h
  · next hlive =>
      obtain rfl := Option.some.inj h
      exact .exit hlive
  · next hlive _ =>
      rcases (Option.orElse_eq_some _ _ _).mp h with hreserve | ⟨-, h⟩
      · exact reserve_cases hlive hreserve
      · rcases (Option.orElse_eq_some _ _ _).mp h with hexecute | ⟨-, hemit⟩
        · exact execute_cases hlive hexecute
        · exact emit_cases hlive hemit

end NvidiaConverge
