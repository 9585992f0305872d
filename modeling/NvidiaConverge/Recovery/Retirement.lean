import NvidiaConverge.Recovery.Completions

/-!
# The retirement of markers

The marker of a recovered operation is unlinked only by a scan that still finds the marker of its
recoverer, with a completed journal. A recoverer that dies before it completes, is recovered in its
turn, or loses its marker first leaves the marker of what it recovered behind for ever, and so does
an operation whose report contradicts its completion. `retiresTogether` excludes these steps. In
histories without them every recorded recovery stands (`tracked_history`), and a scan that finds
nothing to recover leaves no marker at all.
-/

namespace NvidiaConverge

variable {w w' : World} {p : Process} {store store' : Store} {name recoverer : String}
  {events : List JournalEvent} {indexed : List (String × ParsedJournal)}

/-! ## Steps that retire together -/

/-- A journal with a marker is recorded as recovered by this operation. -/
def recoversMarked (store : Store) (recoverer : String) : Bool :=
  store.markers.keys.any fun name =>
    (store.journals.lookup name).any fun events =>
      (lastRecovery events).any fun recovery => recovery.1 == recoverer

/-- The step does not separate a recoverer from the markers of what it recovered: it records no
recovery of a recoverer, a recoverer does not exit unsealed with a host that it left alone, and a
scan does not end between the unlinks of the two markers. -/
def keepsTogether (w : World) (action : Action) : Bool :=
  match action, w.live with
  | .record _, some p =>
      match p.stage with
      | .recording (target :: _) => !recoversMarked w.store target.operationId
      | _ => true
  | .exit, some p =>
      !recoversMarked w.store p.operationId ||
        (w.store.journals.lookup p.journal).any fun events =>
          sealedComplete w.store p.journal events || hostMutationPossible events
  | .cutScan count, none =>
      match readActiveJournals w.store.bootstrapped with
      | .ok indexed =>
          let cut := (retirableMarkers w.store.bootstrapped indexed).take count
          cut.all fun name =>
            (w.store.markers.lookup name).all fun operationId =>
              !recoversMarked (w.store.retire cut) operationId
      | .error _ => true
  | _, _ => true

/-- The step confirms the completion of its process, and keeps a recoverer together with what it
recovered. -/
def retiresTogether (w : World) (action : Action) : Bool :=
  confirmsCompletion w action && keepsTogether w action

/-- A recoverer is counted where the journal of some marker names it in its last recovery. -/
theorem recovers_marked_iff :
    recoversMarked store recoverer = true ↔
      ∃ name events recovery, store.markers.lookup name ≠ none ∧
        store.journals.lookup name = some events ∧ lastRecovery events = some recovery ∧
        recovery.1 = recoverer := by
  simp only [recoversMarked, List.any_eq_true, Option.any_eq_true, beq_iff_eq]
  constructor
  · rintro ⟨name, hkey, events, hjournal, recovery, hrecovery, heq⟩
    refine ⟨name, events, recovery, ?_, hjournal, hrecovery, heq⟩
    rwa [Ne, AList.lookup_eq_none, not_not, AList.mem_keys]
  · rintro ⟨name, events, recovery, hmarker, hjournal, hrecovery, heq⟩
    rw [Ne, AList.lookup_eq_none, not_not, AList.mem_keys] at hmarker
    exact ⟨name, hmarker, events, hjournal, recovery, hrecovery, heq⟩

/-! ## Recoveries that stand -/

/-- The recoverer's marker is there, and its operation is sealed complete or still unresolved. -/
def Standing (store : Store) (recoverer : String) : Prop :=
  ∃ name events, store.markers.lookup name = some recoverer ∧
    store.journals.lookup name = some events ∧
    (sealedComplete store name events = true ∨
      hostMutationPossible events = true ∧ lastRecovery events = none)

/-- Every recoverer of a marked operation is the live process or stands. -/
def Tracked (w : World) : Prop :=
  ∀ recoverer, recoversMarked w.store recoverer = true →
    (∃ p, w.live = some p ∧ p.operationId = recoverer) ∨ Standing w.store recoverer

/-- A recoverer that stands is completed, in a scan that finds nothing to recover. -/
theorem Consistent.completed_of_standing {operationIds : List String}
    {verified : List (String × SnapshotBinding)} (h : Consistent store operationIds verified)
    (hread : readActiveJournals store = .ok indexed)
    (hnothing : remainingOperations store indexed = [])
    (hconfirmed : ∀ name, Confirmed store name) (hstanding : Standing store recoverer) :
    recoverer ∈ completedOperations store indexed := by
  obtain ⟨name, events, hmarker, hevents, hstands⟩ := hstanding
  obtain ⟨parsed, hmem⟩ :=
    read_active_journals_marked hread (by rw [hmarker]; exact Option.some_ne_none _)
  obtain ⟨found, hjournal⟩ := read_active_journals_mem hread hmem
  obtain rfl : found = events := Option.some.inj (hjournal.journal.symm.trans hevents)
  obtain rfl : parsed.operationId = recoverer :=
    Option.some.inj (hjournal.marker.symm.trans hmarker)
  rw [h.completed_iff hread hmem hjournal]
  rcases hstands with hcomplete | ⟨hmutated, hunrecovered⟩
  · exact hcomplete
  · by_contra hunsealed
    obtain ⟨operation, hremaining, -⟩ := h.remaining_of_read hread hmem hjournal hmutated
      (by simpa using hunsealed) hunrecovered (hconfirmed name)
    rw [hnothing] at hremaining
    cases hremaining

/-- A recoverer that stands keeps its marker beside those that a scan leaves. -/
theorem Consistent.standing_retire {operationIds : List String}
    {verified : List (String × SnapshotBinding)} (h : Consistent store operationIds verified)
    (hread : readActiveJournals store = .ok indexed) (hstanding : Standing store recoverer)
    (hrecovers :
      recoversMarked (store.retire (retirableMarkers store indexed)) recoverer = true) :
    Standing (store.retire (retirableMarkers store indexed)) recoverer := by
  obtain ⟨name, events, hmarker, hevents, hstands⟩ := hstanding
  refine ⟨name, events, ?_, hevents, hstands⟩
  rw [Store.retire, Directory.lookup_unlink_all, if_neg, hmarker]
  intro hretired
  obtain ⟨parsed, hmem, hterminal⟩ := mem_retirable_markers.mp hretired
  obtain ⟨found, hjournal⟩ := read_active_journals_mem hread hmem
  obtain rfl : found = events := Option.some.inj (hjournal.journal.symm.trans hevents)
  obtain rfl : parsed.operationId = recoverer :=
    Option.some.inj (hjournal.marker.symm.trans hmarker)
  -- The recoverer is terminal because it is sealed complete.
  have hcompleted : parsed.operationId ∈ completedOperations store indexed := by
    rw [h.completed_iff hread hmem hjournal]
    rcases hstands with hcomplete | ⟨hmutated, hunrecovered⟩
    · exact hcomplete
    · rcases (h.terminal_iff hread hmem hjournal).mp hterminal with hsafe | hcomplete | hrecovered
      · exact absurd (hsafe.symm.trans hmutated) Bool.false_ne_true
      · exact hcomplete
      · obtain ⟨recovery, hrecovery, -⟩ := hrecovered
        rw [hunrecovered] at hrecovery
        cases hrecovery
  -- So is what it recovered, whose marker the same scan unlinks.
  obtain ⟨other, found', recovery, hother, hfound', hrecovery, hsame⟩ :=
    recovers_marked_iff.mp hrecovers
  rw [Store.retire, Directory.lookup_unlink_all] at hother
  split at hother
  · exact hother rfl
  · next hkept =>
      obtain ⟨parsed', hmem'⟩ := read_active_journals_marked hread hother
      obtain ⟨found, hjournal'⟩ := read_active_journals_mem hread hmem'
      obtain rfl : found = found' := Option.some.inj (hjournal'.journal.symm.trans hfound')
      refine hkept (mem_retirable_markers.mpr ⟨parsed', hmem', ?_⟩)
      exact (h.terminal_iff hread hmem' hjournal').mpr
        (.inr (.inr ⟨recovery, hrecovery, hsame ▸ hcompleted⟩))

/-! ## Steps keep recoveries standing -/

/-- A step of the live process changes the files of one journal; no other journal is recorded as
recovered by another operation. -/
theorem Tracked.live_step (h : Tracked w) (hlive : w.live = some p)
    (hlive' : ∃ p', w'.live = some p' ∧ p'.operationId = p.operationId) (changed : String)
    (hjournals : ∀ {name}, name ≠ changed →
      w'.store.journals.lookup name = w.store.journals.lookup name)
    (hmarkers : ∀ {name}, name ≠ changed →
      w'.store.markers.lookup name = w.store.markers.lookup name)
    (hreports : ∀ {name events}, name ≠ changed → w.store.journals.lookup name = some events →
      w'.store.reports.lookup (reportName name) = w.store.reports.lookup (reportName name))
    (hchanged : ∀ {events recovery}, w'.store.markers.lookup changed ≠ none →
      w'.store.journals.lookup changed = some events → lastRecovery events = some recovery →
      recovery.1 = p.operationId)
    (hsafe : ∀ {recoverer}, recoverer ≠ p.operationId →
      recoversMarked w.store recoverer = true →
      w.store.markers.lookup changed ≠ some recoverer) : Tracked w' := by
  intro recoverer hrecovers
  obtain ⟨p', hp', hid⟩ := hlive'
  by_cases hown : recoverer = p.operationId
  · exact .inl ⟨p', hp', hid.trans hown.symm⟩
  obtain ⟨name, events, recovery, hmarker, hevents, hrecovery, hsame⟩ :=
    recovers_marked_iff.mp hrecovers
  have hne : name ≠ changed := by
    rintro rfl
    exact hown (hsame.symm.trans (hchanged hmarker hevents hrecovery))
  have hbefore : recoversMarked w.store recoverer = true :=
    recovers_marked_iff.mpr ⟨name, events, recovery, by rwa [← hmarkers hne],
      (hjournals hne).symm.trans hevents, hrecovery, hsame⟩
  rcases h _ hbefore with ⟨q, hq, hqid⟩ | ⟨other, found, hother, hfound, hstands⟩
  · obtain rfl : p = q := Option.some.inj (hlive.symm.trans hq)
    exact absurd hqid.symm hown
  · have hother' : other ≠ changed := by
      rintro rfl
      exact hsafe hown hbefore hother
    refine .inr ⟨other, found, (hmarkers hother').trans hother, (hjournals hother').trans hfound,
      hstands.imp_left fun hcomplete => ?_⟩
    rwa [sealed_complete_congr (hreports hother' hfound)]

/-- A step that changes only the process's own journal keeps its targets tracked. -/
theorem Tracked.own_step (h : Tracked w) (hsound : Sound w) (hlive : w.live = some p)
    (hlive' : ∃ p', w'.live = some p' ∧ p'.operationId = p.operationId)
    (hown : ∀ {events}, w.store.journals.lookup p.journal = some events →
      journalOperation events = some p.operationId)
    (hjournals : ∀ {name}, name ≠ p.journal →
      w'.store.journals.lookup name = w.store.journals.lookup name)
    (hmarkers : ∀ {name}, name ≠ p.journal →
      w'.store.markers.lookup name = w.store.markers.lookup name)
    (hreports : ∀ {report}, report ≠ p.request.report →
      w'.store.reports.lookup report = w.store.reports.lookup report)
    (hunrecovered : ∀ {events}, w'.store.journals.lookup p.journal = some events →
      lastRecovery events = none) : Tracked w' := by
  refine h.live_step hlive hlive' p.journal hjournals hmarkers ?_ ?_ ?_
  · intro name events hne hjournal
    refine hreports fun heq => hne ?_
    rw [hsound.consistent.eq_journal_name hjournal, heq]
    rfl
  · intro events recovery _ hevents hrecovery
    rw [hunrecovered hevents] at hrecovery
    cases hrecovery
  · intro recoverer hne _ hmarker
    obtain ⟨events, hjournal, hoperation⟩ := hsound.consistent.marked hmarker
    exact hne (Option.some.inj (hoperation.symm.trans (hown hjournal)))

/-- A step from one stage to another keeps the targets tracked. -/
theorem Tracked.stage_step (h : Tracked w) (hsound : Sound w) (hsound' : Sound w') {p' : Process}
    (hlive : w.live = some p) (hlive' : w'.live = some p') (hrequest : p'.request = p.request)
    (hbefore : p.stage ≠ .admitted) (hafter : p'.stage ≠ .admitted)
    (hjournals : ∀ {name}, name ≠ p.journal →
      w'.store.journals.lookup name = w.store.journals.lookup name)
    (hmarkers : ∀ {name}, name ≠ p.journal →
      w'.store.markers.lookup name = w.store.markers.lookup name)
    (hreports : ∀ {report}, report ≠ p.request.report →
      w'.store.reports.lookup report = w.store.reports.lookup report) : Tracked w' := by
  refine h.own_step hsound hlive ⟨p', hlive', congrArg Request.operationId hrequest⟩
    (fun hjournal => ((hsound.live p hlive).stage.own_journal hbefore hjournal).1)
    hjournals hmarkers hreports fun {events} hjournal => ?_
  have hname : p'.journal = p.journal :=
    congrArg (fun request : Request => journalName request.report) hrequest
  exact ((hsound'.live p' hlive').stage.own_journal hafter (hname ▸ hjournal)).2

/-- A scan that ends between two unlinks has not separated a recoverer from what it recovered. -/
theorem Tracked.cut_scan (h : Tracked w) (hsound : Sound w) (hlive : w.live = none) {count : Nat}
    (hscan : interruptedScan count w.store = .ok store)
    (hallowed : keepsTogether w (.cutScan count) = true) : Tracked { w with store } := by
  obtain ⟨indexed, hread, rfl⟩ := hsound.consistent.interrupted_scan_ok hscan
  simp only [keepsTogether, hlive, hread, List.all_eq_true] at hallowed
  intro recoverer hrecovers
  obtain ⟨name, events, recovery, hmarker, hevents, hrecovery, hsame⟩ :=
    recovers_marked_iff.mp hrecovers
  have hbefore : recoversMarked w.store recoverer = true := by
    refine recovers_marked_iff.mpr ⟨name, events, recovery, ?_, hevents, hrecovery, hsame⟩
    intro hnone
    rw [Store.retire, Directory.lookup_unlink_all] at hmarker
    split at hmarker
    · exact hmarker rfl
    · exact hmarker hnone
  rcases h _ hbefore with ⟨p, hp, -⟩ | ⟨other, found, hother, hfound, hstands⟩
  · rw [hlive] at hp
    cases hp
  · refine .inr ⟨other, found, ?_, hfound, hstands⟩
    rw [Store.retire, Directory.lookup_unlink_all, if_neg]
    · exact hother
    · intro hcut
      have hseparated := hallowed other hcut
      rw [hother, Option.all_some] at hseparated
      have hrecovers' : recoversMarked (w.store.retire
          ((retirableMarkers w.store.bootstrapped indexed).take count)) recoverer = true :=
        hrecovers
      rw [hrecovers'] at hseparated
      cases hseparated

theorem Tracked.start (h : Tracked w) (hsound : Sound w) {request : Request}
    {targets : List UnresolvedOperation} {operationIds : List String} (hlive : w.live = none)
    (hscan : unresolvedOperations w.store = .ok (store, targets)) :
    Tracked { w with store, live := some { request, targets }, operationIds } := by
  obtain ⟨indexed, hread, rfl, rfl⟩ := hsound.consistent.unresolved_operations_ok hscan
  intro recoverer hrecovers
  obtain ⟨name, events, recovery, hmarker, hevents, hrecovery, hsame⟩ :=
    recovers_marked_iff.mp hrecovers
  have hbefore : recoversMarked w.store recoverer = true := by
    refine recovers_marked_iff.mpr ⟨name, events, recovery, ?_, hevents, hrecovery, hsame⟩
    intro hnone
    rw [Store.retire, Directory.lookup_unlink_all] at hmarker
    split at hmarker
    · exact hmarker rfl
    · exact hmarker hnone
  rcases h _ hbefore with ⟨p, hp, -⟩ | hstanding
  · rw [hlive] at hp
    cases hp
  · exact .inr (hsound.consistent.bootstrapped.standing_retire hread hstanding hrecovers)

/-- A recoverer that exits leaves its marker, and a journal that is sealed complete or still
needs recovery. -/
theorem Tracked.exit (h : Tracked w) (hsound : Sound w) (hlive : w.live = some p)
    (hallowed : keepsTogether w .exit = true) : Tracked { w with live := none } := by
  intro recoverer hrecovers
  rcases h _ hrecovers with ⟨q, hq, hid⟩ | hstanding
  · obtain rfl : p = q := Option.some.inj (hlive.symm.trans hq)
    have hp := hsound.live p hlive
    obtain ⟨name, events, recovery, -, hevents, hrecovery, hsame⟩ :=
      recovers_marked_iff.mp hrecovers
    have hverified := (hsound.consistent.vouched hevents (List.mem_of_getLast? hrecovery)).1
    have hstage : p.stage.reserving = false := by
      rw [← Bool.not_eq_true]
      intro hreserving
      exact hp.unverified hreserving recovery hverified (hsame.trans hid.symm)
    obtain ⟨⟨own, hown⟩, hmarker⟩ := hp.stage.own hstage
    refine .inr ⟨p.journal, own, hid ▸ hmarker, hown.journal, ?_⟩
    have hrecovers' : recoversMarked w.store p.operationId = true := hid ▸ hrecovers
    simp only [keepsTogether, hlive, hrecovers', hown.journal, Bool.not_true, Bool.false_or,
      Option.any_some, Bool.or_eq_true] at hallowed
    exact hallowed.imp_right fun hmutated => ⟨hmutated, hown.unrecovered⟩
  · exact .inr hstanding

/-- The recovery of an operation that had recovered nothing with a marker. -/
theorem Tracked.record (h : Tracked w) (hsound : Sound w) (hlive : w.live = some p)
    {target : UnresolvedOperation} {rest : List UnresolvedOperation} {snapshot : SnapshotBinding}
    {event : JournalEvent} (hstage : p.stage = .recording (target :: rest))
    (hjournal : w.store.journals.lookup target.name = some events)
    (hrecovery : event.recovery? = some (p.operationId, snapshot))
    (hallowed : recoversMarked w.store target.operationId = false) :
    Tracked (w.advance p (.recording rest)
      { w.store with
        journals := w.store.journals.insert target.name (events ++ [event]) }) := by
  have hp := hsound.live p hlive
  have hholds := hp.stage
  rw [hstage] at hholds
  obtain ⟨-, found, hfound, hoperation, -⟩ :=
    hp.targets target (hholds.2.1 List.mem_cons_self)
  obtain rfl : found = events := Option.some.inj (hfound.symm.trans hjournal)
  refine h.live_step hlive ⟨_, rfl, rfl⟩ target.name (fun hne => AList.lookup_insert_ne hne)
    (fun _ => rfl) (fun _ _ => rfl) ?_ ?_
  · intro events recovery _ hevents hrecovered
    obtain rfl : events = found ++ [event] :=
      (Option.some.inj ((AList.lookup_insert _).symm.trans hevents)).symm
    rw [last_recovery_append, hrecovery] at hrecovered
    obtain rfl := Option.some.inj hrecovered
    rfl
  · intro recoverer _ hrecovers hmarker
    obtain ⟨events, hevents, hid⟩ := hsound.consistent.marked hmarker
    obtain rfl : events = found := Option.some.inj (hevents.symm.trans hfound)
    obtain rfl := Option.some.inj (hoperation.symm.trans hid)
    exact Bool.false_ne_true (hallowed.symm.trans hrecovers)

/-- Every step that the condition allows keeps the targets tracked. -/
theorem Tracked.step (h : Tracked w) (hsound : Sound w) {action : Action}
    (hallowed : keepsTogether w action = true) (hstep : Step w action w') : Tracked w' := by
  have hsound' := hsound.step hstep
  -- Only a scan, an exit and a recovery record can part a recoverer from what it recovered. The
  -- other steps change files of the live process, or no file at all.
  cases hstep with
  | cutScan hlive hscan => exact h.cut_scan hsound hlive hscan hallowed
  | start hlive hscan _ _ => exact h.start hsound hlive hscan
  | exit hlive => exact h.exit hsound hlive hallowed
  | reserveReport hlive hstage hnew =>
      refine h.own_step hsound hlive ⟨_, rfl, rfl⟩ (fun hjournal => ?_) (fun _ => rfl)
        (fun _ => rfl) (fun hne => AList.lookup_insert_ne hne)
        (fun hjournal => ?_)
      all_goals
        exact absurd hnew (by
          have hreported := hsound.consistent.reported hjournal
          rwa [Process.journal, report_name_journal_name] at hreported)
  | releaseReport hlive hstage =>
      have hholds := (hsound.live _ hlive).stage
      rw [hstage] at hholds
      refine h.own_step hsound hlive ⟨_, rfl, rfl⟩ (fun hjournal => ?_) (fun _ => rfl)
        (fun _ => rfl) (fun hne => AList.lookup_erase_ne hne) (fun hjournal => ?_)
      all_goals exact absurd (hholds.2.1.symm.trans hjournal) (by simp)
  | record hlive hstage _ hjournal =>
      simp only [keepsTogether, hlive, hstage, Bool.not_eq_true'] at hallowed
      exact h.record hsound hlive hstage hjournal rfl hallowed
  | reserveJournal hlive hstage _ =>
      exact h.stage_step hsound hsound' hlive rfl rfl (by rw [hstage]; simp) (by simp)
        (fun hne => AList.lookup_insert_ne hne) (fun _ => rfl) (fun _ => rfl)
  | reserveMarker hlive hstage _ =>
      exact h.stage_step hsound hsound' hlive rfl rfl (by rw [hstage]; simp) (by simp)
        (fun _ => rfl) (fun hne => AList.lookup_insert_ne hne) (fun _ => rfl)
  | releaseMarker hlive hstage =>
      exact h.stage_step hsound hsound' hlive rfl rfl (by rw [hstage]; simp) (by simp)
        (fun _ => rfl) (fun hne => AList.lookup_erase_ne hne) (fun _ => rfl)
  | releaseJournal hlive hstage =>
      exact h.stage_step hsound hsound' hlive rfl rfl (by rw [hstage]; simp) (by simp)
        (fun hne => AList.lookup_erase_ne hne) (fun _ => rfl) (fun _ => rfl)
  | begin hlive hstage _ | load hlive hstage _ _ _ | verify hlive hstage _ _ =>
      exact h.stage_step hsound hsound' hlive rfl rfl (by rw [hstage]; simp) (by simp)
        (fun _ => rfl) (fun _ => rfl) (fun _ => rfl)
  | append hlive hstage _ _ | complete hlive hstage _ | completeDisputed hlive hstage _ =>
      exact h.stage_step hsound hsound' hlive rfl rfl (by rw [hstage]; simp) (by simp)
        (fun hne => AList.lookup_insert_ne hne) (fun _ => rfl) (fun _ => rfl)
  | retract hlive hstage =>
      exact h.stage_step hsound hsound' hlive rfl rfl (by rw [hstage]; simp) (by simp)
        (fun _ => rfl) (fun _ => rfl) (fun hne => AList.lookup_insert_ne hne)
  | retractLost hlive hstage =>
      exact h.stage_step hsound hsound' hlive rfl rfl (by rw [hstage]; simp) (by simp)
        (fun _ => rfl) (fun _ => rfl) (fun _ => rfl)
  | failPersistence hlive hstage _ =>
      refine h.stage_step hsound hsound' hlive rfl rfl ?_ (by simp)
        (fun hne => AList.lookup_insert_ne hne) (fun _ => rfl) (fun _ => rfl)
      intro hadmitted
      rw [hadmitted] at hstage
      cases hstage
  | publish hlive hstage =>
      refine h.stage_step hsound hsound' hlive rfl rfl ?_ (by simp) (fun _ => rfl) (fun _ => rfl)
        (fun hne => AList.lookup_insert_ne hne)
      intro hadmitted
      rw [hadmitted] at hstage
      cases hstage
  | publishFailed hlive hstage =>
      refine h.stage_step hsound hsound' hlive rfl rfl ?_ (by simp) (fun _ => rfl) (fun _ => rfl)
        (fun hne => AList.lookup_insert_ne hne)
      intro hadmitted
      rw [hadmitted] at hstage
      cases hstage
  | publishLost hlive hstage =>
      refine h.stage_step hsound hsound' hlive rfl rfl ?_ (by simp) (fun _ => rfl) (fun _ => rfl)
        (fun _ => rfl)
      intro hadmitted
      rw [hadmitted] at hstage
      cases hstage

/-- In a history whose steps retire together, every recovery stands. -/
theorem tracked_history
    (hreach : Run.Reachable step? (fun w action => retiresTogether w action = true) initialWorld
      w) : Tracked w := by
  induction hreach with
  | start =>
      intro recoverer hrecovers
      cases hrecovers
  | next hbefore hallowed hstep ih =>
      exact ih.step (sound_history hbefore) ((Bool.and_eq_true _ _).mp hallowed).2
        (step_cases hstep)

/-! ## No marker stays behind -/

/-- A scan that finds nothing to recover leaves no marker of a resolved operation, and a later
reservation finds room. -/
def LeavesNoMarker (w : World) : Prop :=
  ∀ store, unresolvedOperations w.store = .ok (store, []) →
    (∀ {name events}, store.journals.lookup name = some events →
      store.markers.lookup name ≠ none → ¬ Resolved store name events) ∧
    requireActiveMarkerCapacity store = .ok ()

/-- When all recoveries stand, a scan that finds nothing to recover unlinks every marker. -/
theorem Tracked.no_marker (h : Tracked w) (hsound : Sound w) (hlive : w.live = none)
    (hconfirmed : ∀ name, Confirmed w.store name)
    (hscan : unresolvedOperations w.store = .ok (store, [])) (name : String) :
    store.markers.lookup name = none := by
  obtain ⟨indexed, hread, rfl, hnothing⟩ := hsound.consistent.unresolved_operations_ok hscan
  have hconsistent := hsound.consistent.bootstrapped
  rw [Store.retire, Directory.lookup_unlink_all]
  split
  · rfl
  · next hkept =>
      by_contra hmarker
      obtain ⟨parsed, hmem⟩ := read_active_journals_marked hread hmarker
      obtain ⟨events, hjournal⟩ := read_active_journals_mem hread hmem
      refine hkept (mem_retirable_markers.mpr ⟨parsed, hmem, ?_⟩)
      refine (hconsistent.terminal_iff hread hmem hjournal).mpr ?_
      by_contra hopen
      rw [not_or, not_or, Bool.not_eq_false, Bool.not_eq_true] at hopen
      obtain ⟨hmutated, hunsealed, hunfinished⟩ := hopen
      cases hrecovery : lastRecovery events with
      | none =>
          obtain ⟨operation, hremaining, -⟩ :=
            hconsistent.remaining_of_read hread hmem hjournal hmutated hunsealed hrecovery
              (hconfirmed name)
          rw [← hnothing] at hremaining
          cases hremaining
      | some recovery =>
          -- The recoverer stands, so the scan has it completed.
          have hrecovers : recoversMarked w.store recovery.1 = true :=
            recovers_marked_iff.mpr ⟨name, events, recovery, hmarker, hjournal.journal,
              hrecovery, rfl⟩
          rcases h _ hrecovers with ⟨p, hp, -⟩ | hstanding
          · rw [hlive] at hp
            cases hp
          · exact hunfinished ⟨recovery, hrecovery,
              hconsistent.completed_of_standing hread hnothing.symm hconfirmed hstanding⟩

theorem capacity_of_no_marker (h : ∀ name, store.markers.lookup name = none) :
    requireActiveMarkerCapacity store = .ok () := by
  have hkeys : store.markers.keys = [] := by
    refine List.eq_nil_iff_forall_not_mem.mpr fun name hmem => ?_
    exact (AList.lookup_eq_none.mp (h name)) (AList.mem_keys.mpr hmem)
  unfold requireActiveMarkerCapacity
  rw [hkeys]
  cases store.indexed <;> rfl

/-- In every history whose steps retire together, a scan that finds nothing to recover leaves no
marker of a resolved operation. -/
theorem retired_operations_leave_no_marker
    (hreach : Run.Reachable step? (fun w action => retiresTogether w action = true) initialWorld w)
    (hlive : w.live = none) : LeavesNoMarker w := by
  have hconfirmed := confirmed_history (fun h => ((Bool.and_eq_true _ _).mp h).1) hreach
  intro store hscan
  have hnone := (tracked_history hreach).no_marker (sound_history hreach) hlive
    (hconfirmed.of_idle hlive) hscan
  exact ⟨fun {name} _ _ hmarker => absurd (hnone name) hmarker, capacity_of_no_marker hnone⟩

/-- A recovery that completed: both markers are unlinked by the next scan. -/
theorem retired_operations_leave_no_marker_recovered :
    ∃ w, Run.exec (Run.checked retiresTogether step?) initialWorld
        (crashedInstall ++ recoverOne "rollback.json" 'b' ++ reportSuccess) = some w ∧
      w.live = none ∧ LeavesNoMarker w := by
  obtain ⟨w, hw, hnone⟩ := (Option.any_eq_true _ _).mp
    (show (Run.exec (Run.checked retiresTogether step?) initialWorld
      (crashedInstall ++ recoverOne "rollback.json" 'b' ++ reportSuccess)).any
        (fun w => w.live.isNone) = true by decide +kernel)
  have hlive := Option.isNone_iff_eq_none.mp hnone
  exact ⟨w, hw, hlive,
    retired_operations_leave_no_marker (Run.Reachable.start.exec_checked hw) hlive⟩

/-- The next scan returns nothing, and leaves the marker of this operation although it is recorded
as recovered. -/
def leavesRecoveredMarker (name : String) (w : World) : Bool :=
  w.live.isNone &&
    match unresolvedOperations w.store with
    | .ok (store, []) =>
        (store.markers.lookup name).isSome &&
          (store.journals.lookup name).any fun events => (lastRecovery events).isSome
    | _ => false

theorem not_leaves_no_marker (h : leavesRecoveredMarker name w = true) : ¬ LeavesNoMarker w := by
  intro hleaves
  obtain ⟨-, h⟩ := (Bool.and_eq_true _ _).mp h
  split at h
  · next store hscan =>
      obtain ⟨hmarker, hrecovered⟩ := (Bool.and_eq_true _ _).mp h
      obtain ⟨events, hjournal, hrecovery⟩ := (Option.any_eq_true _ _).mp hrecovered
      exact (hleaves store hscan).1 hjournal (Option.isSome_iff_ne_none.mp hmarker)
        (.inr (.inr (Option.isSome_iff_ne_none.mp hrecovery)))
  · cases h

/-- A rollback records the crashed install as recovered and dies before it completes; a second
rollback recovers the first and completes. The install's marker stays behind. -/
def abandonedRecovery : List Action :=
  crashedInstall ++ recoverOne "first-rollback.json" 'b' ++ [.exit] ++
    recoverOne "second-rollback.json" 'c' ++ reportSuccess

theorem abandoned_recovery_leaves_marker :
    ¬ ∀ w, Run.Reachable step? (fun _ _ => True) initialWorld w → w.live = none →
      LeavesNoMarker w := by
  intro hall
  obtain ⟨w, hw, hleft⟩ := (Option.any_eq_true _ _).mp
    (show (Run.exec step? initialWorld abandonedRecovery).any
      (leavesRecoveredMarker (journalName "install.json")) = true by decide +kernel)
  have hlive := Option.isNone_iff_eq_none.mp ((Bool.and_eq_true _ _).mp hleft).1
  exact not_leaves_no_marker hleft (hall w (Run.Reachable.start.exec hw) hlive)

end NvidiaConverge
