import NvidiaConverge.Recovery.Index

/-!
# Consistent stores

What every reachable store keeps: one journal an operation, a report beside every journal, a
marker beside every journal that may still need recovery, and a verified rollback behind every
recorded recovery. There is one lemma for each way in which a step changes the store.
-/

namespace NvidiaConverge

open Directory (unlinkAll lookup_insert_eq_some lookup_erase_eq_some)

/-- The last completion is not incomplete and its report was persisted. -/
def completedCleanly (events : List JournalEvent) : Bool :=
  (lastCompletion events).any (!·.incomplete) && !persistenceFailed events

/-- The operation needs no recovery: it never changed the host, is sealed complete, or is
recorded as recovered. -/
def Resolved (store : Store) (name : String) (events : List JournalEvent) : Prop :=
  hostMutationPossible events = false ∨ sealedComplete store name events = true ∨
    lastRecovery events ≠ none

/-- The report of an operation that may have changed the host confirms the clean completion in its
journal. -/
def Confirmed (store : Store) (name : String) : Prop :=
  ∀ events, store.journals.lookup name = some events → hostMutationPossible events = true →
    completedCleanly events = true → sealedComplete store name events = true

/-- The recoverer has verified the snapshot that it recorded, and this is the snapshot that the
journal is bound to. -/
def Vouched (verified : List (String × SnapshotBinding)) (events : List JournalEvent)
    (recovery : String × SnapshotBinding) : Prop :=
  recovery ∈ verified ∧ ∃ bound, (events.filterMap JournalEvent.binding?).head? = some bound ∧
    bound.contentKey = recovery.2.contentKey

/-- The invariant of every reachable store: whose journal each file is, and which operation has a
marker. -/
structure Consistent (store : Store) (operationIds : List String)
    (verified : List (String × SnapshotBinding)) : Prop where
  named : ∀ {name events}, store.journals.lookup name = some events →
    ∃ report, name = journalName report
  known : ∀ {name events}, store.journals.lookup name = some events →
    ∃ operationId ∈ operationIds, journalOperation events = some operationId
  distinct : ∀ {name name' events events'}, store.journals.lookup name = some events →
    store.journals.lookup name' = some events' →
    journalOperation events = journalOperation events' → name = name'
  reported : ∀ {name events}, store.journals.lookup name = some events →
    store.reports.lookup (reportName name) ≠ none
  marked : ∀ {name operationId}, store.markers.lookup name = some operationId →
    ∃ events, store.journals.lookup name = some events ∧
      journalOperation events = some operationId
  kept : ∀ {name events}, store.journals.lookup name = some events →
    store.markers.lookup name = none → Resolved store name events
  vouched : ∀ {name events recovery}, store.journals.lookup name = some events →
    recovery ∈ events.filterMap JournalEvent.recovery? → Vouched verified events recovery
  indexed : store.indexed = false → store.journals = ∅ ∧ store.markers = ∅

variable {store store' : Store} {operationIds : List String}
  {verified : List (String × SnapshotBinding)} {name operationId : String}
  {events : List JournalEvent} {event : JournalEvent}

/-- The report that a journal's name belongs to is the one it was named after. -/
@[simp] theorem report_name_journal_name (report : String) :
    reportName (journalName report) = report := by
  simp [reportName, journalName]

theorem journal_operation_append (h : journalOperation events = some operationId) :
    journalOperation (events ++ [event]) = some operationId := by
  cases events with
  | nil => cases h
  | cons first rest => exact h

/-- Whether an operation is sealed depends on the report of its journal only. -/
theorem sealed_complete_congr
    (h : store'.reports.lookup (reportName name) = store.reports.lookup (reportName name)) :
    sealedComplete store' name events = sealedComplete store name events := by
  simp only [sealedComplete, hasFinalReport, h]

namespace Consistent

/-- The journal of an operation carries its name. -/
theorem eq_journal_name (h : Consistent store operationIds verified)
    (hjournal : store.journals.lookup name = some events) :
    name = journalName (reportName name) := by
  obtain ⟨report, rfl⟩ := h.named hjournal
  simp

/-- More operations drawn and more rollbacks verified. -/
theorem grow (h : Consistent store operationIds verified) {operationIds' : List String}
    {verified' : List (String × SnapshotBinding)} (hids : operationIds ⊆ operationIds')
    (hverified : verified ⊆ verified') : Consistent store operationIds' verified' :=
  { h with
    known := fun hjournal => by
      obtain ⟨operationId, hmem, hoperation⟩ := h.known hjournal
      exact ⟨operationId, hids hmem, hoperation⟩
    vouched := fun hjournal hrecovery => by
      obtain ⟨hmem, hbound⟩ := h.vouched hjournal hrecovery
      exact ⟨hverified hmem, hbound⟩ }

/-- A journal that gets one more event keeps the store consistent, if it has a marker or a
recovery. -/
theorem append (h : Consistent store operationIds verified)
    (hjournal : store.journals.lookup name = some events)
    (hkept : store.markers.lookup name ≠ none ∨ lastRecovery (events ++ [event]) ≠ none)
    (hvouched : ∀ recovery ∈ (events ++ [event]).filterMap JournalEvent.recovery?,
      Vouched verified (events ++ [event]) recovery) :
    Consistent { store with journals := store.journals.insert name (events ++ [event]) }
      operationIds verified := by
  obtain ⟨operationId, hknown, hoperation⟩ := h.known hjournal
  have hoperation' : journalOperation (events ++ [event]) = some operationId :=
    journal_operation_append hoperation
  exact
    { named := fun hfound => by
        rcases lookup_insert_eq_some hfound with ⟨rfl, -⟩ | ⟨-, hfound⟩
        · exact h.named hjournal
        · exact h.named hfound
      known := fun hfound => by
        rcases lookup_insert_eq_some hfound with ⟨-, rfl⟩ | ⟨-, hfound⟩
        · exact ⟨operationId, hknown, hoperation'⟩
        · exact h.known hfound
      -- The event is another one of the same operation: no two journals come to share an operation.
      distinct := fun hfound hfound' heq => by
        rcases lookup_insert_eq_some hfound with ⟨rfl, rfl⟩ | ⟨-, hother⟩ <;>
          rcases lookup_insert_eq_some hfound' with ⟨rfl, rfl⟩ | ⟨-, hother'⟩
        · rfl
        · exact h.distinct hjournal hother' (hoperation.trans (hoperation'.symm.trans heq))
        · exact h.distinct hother hjournal (heq.trans (hoperation'.trans hoperation.symm))
        · exact h.distinct hother hother' heq
      reported := fun hfound => by
        rcases lookup_insert_eq_some hfound with ⟨rfl, -⟩ | ⟨-, hfound⟩
        · exact h.reported hjournal
        · exact h.reported hfound
      marked := fun {other} {marker} hmarker => by
        obtain ⟨found, hfound, hmarked⟩ := h.marked hmarker
        by_cases heq : other = name
        · subst heq
          obtain rfl : found = events := Option.some.inj (hfound.symm.trans hjournal)
          exact ⟨_, AList.lookup_insert _, journal_operation_append hmarked⟩
        · exact ⟨found, (AList.lookup_insert_ne heq).trans hfound, hmarked⟩
      kept := fun hfound hmarker => by
        rcases lookup_insert_eq_some hfound with ⟨rfl, rfl⟩ | ⟨-, hfound⟩
        · exact .inr (.inr (hkept.resolve_left fun hne => hne hmarker))
        · exact h.kept hfound hmarker
      vouched := fun hfound hrecovery => by
        rcases lookup_insert_eq_some hfound with ⟨-, rfl⟩ | ⟨-, hfound⟩
        · exact hvouched _ hrecovery
        · exact h.vouched hfound hrecovery
      indexed := fun hindexed => by
        rw [(h.indexed hindexed).1, AList.lookup_empty] at hjournal
        cases hjournal }

/-- A new journal, of an operation that has none. -/
theorem insertJournal (h : Consistent store operationIds verified) {report : String}
    (hindexed : store.indexed = true) (hid : operationId ∈ operationIds)
    (hunused : ∀ {name events}, store.journals.lookup name = some events →
      journalOperation events ≠ some operationId)
    (hreport : store.reports.lookup report ≠ none)
    (hnew : store.journals.lookup (journalName report) = none) {timestamp : String} :
    Consistent
      { store with
        journals := store.journals.insert (journalName report)
          [{ operationId, timestamp, details := .operationStarted }] }
      operationIds verified := by
  exact
    { named := fun hfound => by
        rcases lookup_insert_eq_some hfound with ⟨rfl, -⟩ | ⟨-, hfound⟩
        · exact ⟨report, rfl⟩
        · exact h.named hfound
      known := fun hfound => by
        rcases lookup_insert_eq_some hfound with ⟨-, rfl⟩ | ⟨-, hfound⟩
        · exact ⟨operationId, hid, rfl⟩
        · exact h.known hfound
      distinct := fun hfound hfound' heq => by
        rcases lookup_insert_eq_some hfound with ⟨rfl, rfl⟩ | ⟨-, hother⟩ <;>
          rcases lookup_insert_eq_some hfound' with ⟨rfl, rfl⟩ | ⟨-, hother'⟩
        · rfl
        · exact absurd heq.symm (hunused hother')
        · exact absurd heq (hunused hother)
        · exact h.distinct hother hother' heq
      reported := fun hfound => by
        rcases lookup_insert_eq_some hfound with ⟨rfl, -⟩ | ⟨-, hfound⟩
        · rwa [report_name_journal_name]
        · exact h.reported hfound
      marked := fun {other} {marker} hmarker => by
        obtain ⟨found, hfound, hmarked⟩ := h.marked hmarker
        have hne : other ≠ journalName report := by
          rintro rfl
          rw [hnew] at hfound
          cases hfound
        exact ⟨found, (AList.lookup_insert_ne hne).trans hfound, hmarked⟩
      kept := fun hfound hmarker => by
        rcases lookup_insert_eq_some hfound with ⟨-, rfl⟩ | ⟨-, hfound⟩
        · exact .inl rfl
        · exact h.kept hfound hmarker
      vouched := fun hfound hrecovery => by
        rcases lookup_insert_eq_some hfound with ⟨-, rfl⟩ | ⟨-, hfound⟩
        · cases hrecovery
        · exact h.vouched hfound hrecovery
      indexed := fun hfalse => absurd (hindexed.symm.trans hfalse) (by simp) }

/-- Removing a journal that has no marker keeps the store consistent. -/
theorem eraseJournal (h : Consistent store operationIds verified)
    (hmarker : store.markers.lookup name = none) :
    Consistent { store with journals := store.journals.erase name } operationIds verified := by
  exact
    { named := fun hfound => h.named (lookup_erase_eq_some hfound).2
      known := fun hfound => h.known (lookup_erase_eq_some hfound).2
      distinct := fun hfound hfound' =>
        h.distinct (lookup_erase_eq_some hfound).2 (lookup_erase_eq_some hfound').2
      reported := fun hfound => h.reported (lookup_erase_eq_some hfound).2
      marked := fun {other} {marker} hother => by
        obtain ⟨found, hfound, hmarked⟩ := h.marked hother
        have hne : other ≠ name := by
          rintro rfl
          rw [hmarker] at hother
          cases hother
        exact ⟨found, (AList.lookup_erase_ne hne).trans hfound, hmarked⟩
      kept := fun hfound => h.kept (lookup_erase_eq_some hfound).2
      vouched := fun hfound => h.vouched (lookup_erase_eq_some hfound).2
      indexed := fun hindexed => by
        obtain ⟨hjournals, hmarkers⟩ := h.indexed hindexed
        refine ⟨?_, hmarkers⟩
        show store.journals.erase name = ∅
        rw [hjournals]
        rfl }

/-- A new marker that names the operation of a journal keeps the store consistent. -/
theorem insertMarker (h : Consistent store operationIds verified)
    (hjournal : store.journals.lookup name = some events)
    (hoperation : journalOperation events = some operationId) :
    Consistent { store with markers := store.markers.insert name operationId }
      operationIds verified :=
  { h with
    marked := fun {other} {marker} hother => by
      by_cases heq : other = name
      · subst heq
        rw [AList.lookup_insert] at hother
        exact ⟨events, hjournal, hoperation.trans hother⟩
      · rw [AList.lookup_insert_ne heq] at hother
        exact h.marked hother
    kept := fun {other} {found} hfound hother =>
      h.kept hfound (AList.lookup_insert_eq_none.mp hother).2
    indexed := fun hindexed => by
      rw [(h.indexed hindexed).1, AList.lookup_empty] at hjournal
      cases hjournal }

/-- Markers of resolved operations are unlinked. -/
theorem retire (h : Consistent store operationIds verified) {names : List String}
    (hresolved : ∀ name ∈ names, ∀ events, store.journals.lookup name = some events →
      Resolved store name events) :
    Consistent (store.retire names) operationIds verified :=
  { h with
    marked := fun {other} {marker} hother => by
      rw [Store.retire, Directory.lookup_unlink_all] at hother
      split at hother
      · cases hother
      · exact h.marked hother
    kept := fun {other} {found} hfound hother => by
      rw [Store.retire, Directory.lookup_unlink_all] at hother
      split at hother
      · next hmem => exact hresolved other hmem found hfound
      · exact h.kept hfound hother
    indexed := fun hindexed => by
      obtain ⟨hjournals, hmarkers⟩ := h.indexed hindexed
      refine ⟨hjournals, ?_⟩
      have hempty : ∀ names : List String, unlinkAll names (∅ : Directory String) = ∅ := by
        intro names
        induction names with
        | nil => rfl
        | cons name names ih => exact ih
      show unlinkAll names store.markers = ∅
      rw [hmarkers, hempty] }

/-- Other reports, beside every journal and as final for the sealed operations whose markers are
gone. -/
theorem replaceReports (h : Consistent store operationIds verified)
    {reports : Directory AppliedReport}
    (hreported : ∀ {name events}, store.journals.lookup name = some events →
      reports.lookup (reportName name) ≠ none)
    (hsealed : ∀ {name events}, store.journals.lookup name = some events →
      store.markers.lookup name = none → sealedComplete store name events = true →
      sealedComplete { store with reports } name events = true) :
    Consistent { store with reports } operationIds verified :=
  { h with
    reported := hreported
    kept := fun hfound hmarker => by
      rcases h.kept hfound hmarker with hsafe | hcomplete | hrecovered
      · exact .inl hsafe
      · exact .inr (.inl (hsealed hfound hmarker hcomplete))
      · exact .inr (.inr hrecovered) }

end Consistent

end NvidiaConverge
