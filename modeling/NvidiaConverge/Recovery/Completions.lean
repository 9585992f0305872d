import NvidiaConverge.Recovery.Soundness

/-!
# Completions that their reports confirm

A report is published before its completion is appended, so the report of a completed operation is
the final one. The exception is an append that raises with its whole line in the journal:
`emit_report` then rewrites the report as incomplete, and unless `report-persistence-failed`
follows, the scan finds a completion without its final report, which it neither returns nor
retires. `confirmsCompletion` excludes the exit of such a process. In histories without it every
completion is confirmed (`confirmed_history`).
-/

namespace NvidiaConverge

open Directory (lookup_erase_eq_some)

variable {w w' : World} {p : Process} {store store' : Store} {stage : Stage} {name : String}
  {events : List JournalEvent}

/-! ## Steps that confirm completions -/

/-- The report was rewritten as incomplete behind a completion line that the failed append left. -/
def Stage.contradicts : Stage → Bool
  | .retracted true _ => true
  | _ => false

/-- No process ends with its report rewritten as incomplete behind the clean completion of an
operation that may have changed the host. -/
def confirmsCompletion (w : World) (action : Action) : Bool :=
  match action, w.live with
  | .exit, some p =>
      !p.stage.contradicts ||
        (w.store.journals.lookup p.journal).all fun events =>
          !(hostMutationPossible events && completedCleanly events)
  | _, _ => true

/-- Every completion is confirmed, but for the one that the live process has contradicted. -/
def AllConfirmed (w : World) : Prop :=
  ∀ name, (∀ p, w.live = some p → p.stage.contradicts = true → name ≠ p.journal) →
    Confirmed w.store name

/-! ## The journal of one operation -/

/-- Whether a completion is confirmed depends on its journal and on its report only. -/
theorem Confirmed.frame (h : Confirmed store name)
    (hjournal : store'.journals.lookup name = store.journals.lookup name)
    (hreport : ∀ {events}, store.journals.lookup name = some events →
      store'.reports.lookup (reportName name) = store.reports.lookup (reportName name)) :
    Confirmed store' name := by
  intro events hevents hmutated hcompleted
  rw [hjournal] at hevents
  rw [sealed_complete_congr (hreport hevents)]
  exact h events hevents hmutated hcompleted

/-- An operation without a completion has nothing to confirm. -/
theorem confirmed_of_uncompleted
    (h : ∀ {events}, store.journals.lookup name = some events → lastCompletion events = none) :
    Confirmed store name := by
  intro events hevents _ hcompleted
  simp [completedCleanly, h hevents] at hcompleted

/-- Between its first file and its outcome, the process's own journal has no completion. -/
theorem StageHolds.uncompleted (h : StageHolds w p stage) (hadmitted : stage ≠ .admitted)
    (hopen : stage.concluded = false) (hjournal : w.store.journals.lookup p.journal = some events) :
    lastCompletion events = none := by
  have hone : ∀ {found}, Journaled w.store.journals p.journal p.operationId found →
      lastCompletion events = none := by
    intro found hown
    obtain rfl : found = events := Option.some.inj (hown.journal.symm.trans hjournal)
    exact hown.uncompleted
  cases stage with
  | admitted => exact absurd rfl hadmitted
  | reportReserved => exact absurd (h.2.1.symm.trans hjournal) (by simp)
  | journalReserved | reserved =>
      obtain ⟨⟨found, hown, -⟩, -⟩ := h
      exact hone hown
  | working | failing =>
      obtain ⟨⟨found, hown⟩, -⟩ := h
      exact hone hown
  | recording | published =>
      obtain ⟨⟨⟨found, hown⟩, -⟩, -⟩ := h
      exact hone hown
  | disputed | retracted | finished => cases hopen

/-- A completion that follows its published report is confirmed. -/
theorem Sound.confirmed_completion (h : Sound w) (hlive : w.live = some p) {timestamp : String}
    {completion : Completion} (hstage : p.stage = .published completion)
    (hjournal : w.store.journals.lookup p.journal = some events) :
    Confirmed
      { w.store with
        journals := w.store.journals.insert p.journal
          (events ++
            [{ operationId := p.operationId, timestamp
               details := .operationCompleted completion.exitCode completion.incomplete
                 completion.outcome }]) }
      p.journal := by
  have hholds := (h.live p hlive).stage
  rw [hstage] at hholds
  obtain ⟨⟨⟨own, hown⟩, -⟩, hreport⟩ := hholds
  obtain rfl : own = events := Option.some.inj (hown.journal.symm.trans hjournal)
  intro found hfound _ hcompleted
  obtain rfl := Option.some.inj ((AList.lookup_insert _).symm.trans hfound)
  simp only [completedCleanly, last_completion_append, persistence_failed_append,
    JournalEvent.completion?, Option.some_or, Option.any_some, Bool.and_eq_true] at hcompleted
  have hreported : w.store.reports.lookup (reportName p.journal) =
      some (p.report completion) := by
    rw [Process.journal, report_name_journal_name]
    exact hreport
  rw [sealedComplete, journal_operation_append hown.operation, last_completion_append,
    persistence_failed_append]
  simp only [hasFinalReport, JournalEvent.completion?, Option.some_or, Option.any_some,
    hreported, hcompleted]
  simp [Process.report, Process.journal, hcompleted.1]

/-- A recorded recovery leaves the completion of the recovered operation as it was. -/
theorem Confirmed.record (h : Confirmed store name) {event : JournalEvent} {operationId : String}
    (hjournal : store.journals.lookup name = some events)
    (hoperation : journalOperation events = some operationId)
    (hmutation : event.startsMutation = false) (hcompletion : event.completion? = none)
    (hpersistence : event.details.isPersistenceFailure = false) :
    Confirmed { store with journals := store.journals.insert name (events ++ [event]) } name := by
  intro found hfound hmutated hcompleted
  obtain rfl := Option.some.inj ((AList.lookup_insert _).symm.trans hfound)
  rw [completedCleanly, last_completion_append, hcompletion, Option.none_or,
    persistence_failed_append, hpersistence, Bool.or_false] at hcompleted
  rw [sealedComplete, journal_operation_append hoperation, last_completion_append, hcompletion,
    Option.none_or, persistence_failed_append, hpersistence, Bool.or_false]
  have hbefore : hostMutationPossible events = true := by
    rwa [hostMutationPossible, List.any_append, List.any_cons, List.any_nil, hmutation,
      Bool.or_false, Bool.or_false, last_completion_append, hcompletion, Option.none_or] at hmutated
  have hsealed := h events hjournal hbefore hcompleted
  rwa [sealedComplete, hoperation] at hsealed

/-! ## Steps keep completions confirmed -/

/-- A step of the live process changes the files of one journal. -/
theorem AllConfirmed.live_step (h : AllConfirmed w) (hlive : w.live = some p) (changed : String)
    (hbefore : p.stage.contradicts = true → changed = p.journal)
    (hjournals : ∀ {name}, name ≠ changed →
      w'.store.journals.lookup name = w.store.journals.lookup name)
    (hreports : ∀ {name events}, name ≠ changed → w.store.journals.lookup name = some events →
      w'.store.reports.lookup (reportName name) = w.store.reports.lookup (reportName name))
    (hchanged : (∀ p', w'.live = some p' → p'.stage.contradicts = true → changed ≠ p'.journal) →
      Confirmed w'.store changed) : AllConfirmed w' := by
  intro name hname
  by_cases heq : name = changed
  · subst heq
    exact hchanged hname
  · refine (h name ?_).frame (hjournals heq) (hreports heq)
    rintro q hq hcontradicts rfl
    obtain rfl : p = q := Option.some.inj (hlive.symm.trans hq)
    exact heq (hbefore hcontradicts).symm

/-- A step of the process keeps every completion confirmed where it touches no report and no journal
but the process's own. -/
theorem AllConfirmed.own_step (h : AllConfirmed w) (hsound : Sound w) (hlive : w.live = some p)
    (hjournals : ∀ {name}, name ≠ p.journal →
      w'.store.journals.lookup name = w.store.journals.lookup name)
    (hreports : ∀ {report}, report ≠ p.request.report →
      w'.store.reports.lookup report = w.store.reports.lookup report)
    (hchanged : (∀ p', w'.live = some p' → p'.stage.contradicts = true →
        p.journal ≠ p'.journal) → Confirmed w'.store p.journal) : AllConfirmed w' := by
  refine h.live_step hlive p.journal (fun _ => rfl) hjournals ?_ hchanged
  intro name events hne hjournal
  refine hreports fun heq => hne ?_
  rw [hsound.consistent.eq_journal_name hjournal, heq]
  rfl

/-- The same, for a process that has reserved its report and has no outcome yet. -/
theorem AllConfirmed.open_step (h : AllConfirmed w) (hsound : Sound w) (hsound' : Sound w')
    {p' : Process} (hlive : w.live = some p) (hlive' : w'.live = some p')
    (hrequest : p'.request = p.request) (hadmitted : p'.stage ≠ .admitted)
    (hopen : p'.stage.concluded = false)
    (hjournals : ∀ {name}, name ≠ p.journal →
      w'.store.journals.lookup name = w.store.journals.lookup name)
    (hreports : ∀ {report}, report ≠ p.request.report →
      w'.store.reports.lookup report = w.store.reports.lookup report) : AllConfirmed w' := by
  refine h.own_step hsound hlive hjournals hreports fun _ => confirmed_of_uncompleted ?_
  intro events hjournal
  have hname : p'.journal = p.journal :=
    congrArg (fun request : Request => journalName request.report) hrequest
  exact (hsound'.live p' hlive').stage.uncompleted hadmitted hopen (hname ▸ hjournal)

/-- A scan changes neither journals nor reports, and no process is live before it. -/
theorem AllConfirmed.scan (h : AllConfirmed w) (hlive : w.live = none) {names : List String}
    {live : Option Process} {operationIds : List String} :
    AllConfirmed
      { w with store := w.store.bootstrapped.retire names, live, operationIds } := by
  intro name _
  refine (h name ?_).frame rfl fun _ => rfl
  intro p hp
  rw [hlive] at hp
  cases hp

/-- A process that ends has not contradicted its completion. -/
theorem AllConfirmed.exit (h : AllConfirmed w) (hlive : w.live = some p)
    (hallowed : confirmsCompletion w .exit = true) : AllConfirmed { w with live := none } := by
  intro name _
  by_cases hcontradicts : p.stage.contradicts = true ∧ name = p.journal
  · obtain ⟨hcontradicts, rfl⟩ := hcontradicts
    intro events hjournal hmutated hcompleted
    simp only [confirmsCompletion, hlive, hcontradicts, hjournal, Option.all_some, hmutated,
      hcompleted] at hallowed
    cases hallowed
  · refine h name ?_
    rintro q hq hq' rfl
    obtain rfl : p = q := Option.some.inj (hlive.symm.trans hq)
    exact hcontradicts ⟨hq', rfl⟩

/-- Every step that the condition allows keeps every completion confirmed by its final report. -/
theorem AllConfirmed.step (h : AllConfirmed w) (hsound : Sound w) {action : Action}
    (hallowed : confirmsCompletion w action = true) (hstep : Step w action w') :
    AllConfirmed w' := by
  have hsound' := hsound.step hstep
  -- A completion is written behind its report, so that only a rewritten report can contradict it.
  -- The process that rewrites it is exempt until it exits.
  cases hstep with
  | cutScan hlive hscan =>
      obtain ⟨indexed, -, rfl⟩ := hsound.consistent.interrupted_scan_ok hscan
      exact h.scan hlive
  | start hlive hscan _ _ =>
      obtain ⟨indexed, -, rfl, -⟩ := hsound.consistent.unresolved_operations_ok hscan
      exact h.scan hlive
  | exit hlive => exact h.exit hlive hallowed
  | releaseReport hlive hstage =>
      have hholds := (hsound.live _ hlive).stage
      rw [hstage] at hholds
      refine h.own_step hsound hlive (fun _ => rfl) (fun hne => AList.lookup_erase_ne hne)
        fun _ => confirmed_of_uncompleted ?_
      intro events hjournal
      exact absurd (hholds.2.1.symm.trans hjournal) (by simp)
  | reserveReport hlive _ _ | publish hlive _ | publishFailed hlive _ =>
      exact h.open_step hsound hsound' hlive rfl rfl (by simp) rfl (fun _ => rfl)
        (fun hne => AList.lookup_insert_ne hne)
  | reserveJournal hlive _ _ | append hlive _ _ _ =>
      exact h.open_step hsound hsound' hlive rfl rfl (by simp) rfl
        (fun hne => AList.lookup_insert_ne hne) (fun _ => rfl)
  | releaseJournal hlive _ =>
      exact h.open_step hsound hsound' hlive rfl rfl (by simp) rfl
        (fun hne => AList.lookup_erase_ne hne) (fun _ => rfl)
  | reserveMarker hlive _ _ | releaseMarker hlive _ | begin hlive _ _ | load hlive _ _ _ _
  | verify hlive _ _ _ | publishLost hlive _ =>
      exact h.open_step hsound hsound' hlive rfl rfl (by simp) rfl (fun _ => rfl) (fun _ => rfl)
  | record hlive hstage _ hjournal =>
      have hp := hsound.live _ hlive
      have hholds := hp.stage
      rw [hstage] at hholds
      obtain ⟨-, found, hfound, hoperation, -⟩ := hp.targets _ (hholds.2.1 List.mem_cons_self)
      obtain rfl := Option.some.inj (hfound.symm.trans hjournal)
      refine h.live_step hlive _ (fun hcontradicts => ?_) (fun hne => AList.lookup_insert_ne hne)
        (fun _ _ => rfl) fun _ => (h _ ?_).record hfound hoperation rfl rfl rfl
      · rw [hstage] at hcontradicts
        cases hcontradicts
      · intro q hq hcontradicts
        obtain rfl := Option.some.inj (hlive.symm.trans hq)
        rw [hstage] at hcontradicts
        cases hcontradicts
  | complete hlive hstage hjournal | completeDisputed hlive hstage hjournal =>
      exact h.own_step hsound hlive (fun hne => AList.lookup_insert_ne hne) (fun _ => rfl)
        fun _ => hsound.confirmed_completion hlive hstage hjournal
  | @retract p uncertain hlive hstage =>
      exact h.own_step hsound hlive (fun _ => rfl) (fun hne => AList.lookup_insert_ne hne)
        fun hexempt =>
          absurd rfl (hexempt { p with stage := .retracted true uncertain } rfl rfl)
  | retractLost hlive hstage =>
      refine h.own_step hsound hlive (fun _ => rfl) (fun _ => rfl) fun _ => h _ ?_
      intro q hq hcontradicts
      obtain rfl := Option.some.inj (hlive.symm.trans hq)
      rw [hstage] at hcontradicts
      cases hcontradicts
  | failPersistence hlive _ hjournal =>
      refine h.own_step hsound hlive (fun hne => AList.lookup_insert_ne hne) (fun _ => rfl)
        fun _ found hfound _ hcompleted => ?_
      obtain rfl := Option.some.inj ((AList.lookup_insert _).symm.trans hfound)
      simp [completedCleanly, EventDetails.isPersistenceFailure] at hcompleted

/-- In a history whose steps confirm their completions, every completion is confirmed. -/
theorem confirmed_history {allowed : World → Action → Prop}
    (hallowed : ∀ {w action}, allowed w action → confirmsCompletion w action = true)
    (hreach : Run.Reachable step? allowed initialWorld w) : AllConfirmed w := by
  induction hreach with
  | start =>
      intro name _ events hjournal
      cases hjournal
  | next hbefore hstepped hstep ih =>
      exact ih.step (sound_history hbefore) (hallowed hstepped) (step_cases hstep)

/-- Between two processes every completion of every journal is confirmed, without exception. -/
theorem AllConfirmed.of_idle (h : AllConfirmed w) (hlive : w.live = none) (name : String) :
    Confirmed w.store name := by
  refine h name ?_
  intro p hp
  rw [hlive] at hp
  cases hp

end NvidiaConverge
