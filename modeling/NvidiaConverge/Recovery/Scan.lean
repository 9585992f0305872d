import NvidiaConverge.Recovery.Consistency

/-!
# The scan of a consistent store

A scan unlinks the markers of resolved operations only, and returns every marked operation that
is not resolved (`Consistent.unresolved_returned`). The converse, that it unlinks the marker of
every resolved operation, needs that a recorded recovery stands: the recoverer's marker is still
there, and the recoverer is sealed complete or is itself unresolved. On a store where all do, a
scan leaves the markers of the operations that it returns and no others
(`Consistent.marker_of_remaining`).
-/

namespace NvidiaConverge

variable {store store' : Store} {operationIds : List String}
  {verified : List (String × SnapshotBinding)} {name operationId : String}
  {events : List JournalEvent} {parsed : ParsedJournal} {indexed : List (String × ParsedJournal)}
  {operations : List UnresolvedOperation}

/-- The store behind the bootstrap of its index. -/
def Store.bootstrapped (store : Store) : Store :=
  { store with indexed := true }

/-- Bootstrapping a consistent store creates the index and nothing else. -/
theorem Consistent.bootstrap (h : Consistent store operationIds verified)
    (hboot : bootstrapActiveIndex store = .ok store') : store' = store.bootstrapped := by
  unfold bootstrapActiveIndex at hboot
  split at hboot
  · next hindexed =>
      rw [← Result.pure_eq_ok.mp hboot, Store.bootstrapped, ← hindexed]
  · next hindexed =>
      obtain ⟨hjournals, hmarkers⟩ := h.indexed (by simpa using hindexed)
      obtain ⟨-, hboot⟩ := Result.check_bind_eq_ok.mp hboot
      obtain ⟨journals, hread, hboot⟩ := Result.bind_eq_ok.mp hboot
      have hempty : journals = [] := by
        have hnames : Directory.sortedNames store.journals = [] := by rw [hjournals]; rfl
        rw [hnames] at hread
        exact (Result.pure_eq_ok.mp hread).symm
      subst hempty
      obtain ⟨-, hboot⟩ := Result.check_bind_eq_ok.mp hboot
      obtain ⟨markers, hfold, hboot⟩ := Result.bind_eq_ok.mp hboot
      rw [← Result.pure_eq_ok.mp hboot, ← Result.pure_eq_ok.mp hfold]
      rfl

theorem Consistent.bootstrapped (h : Consistent store operationIds verified) :
    Consistent store.bootstrapped operationIds verified :=
  { h with indexed := fun hfalse => absurd hfalse (by simp [Store.bootstrapped]) }

/-- An operation counts as completed when its own journal is sealed complete. -/
theorem Consistent.completed_iff (h : Consistent store operationIds verified)
    (hread : readActiveJournals store = .ok indexed) (hmem : (name, parsed) ∈ indexed)
    (hjournal : ReadJournal store name events parsed) :
    parsed.operationId ∈ completedOperations store indexed ↔
      sealedComplete store name events = true := by
  rw [mem_completed_operations]
  constructor
  · rintro ⟨other, parsed', hmem', hcomplete, hsame⟩
    obtain ⟨events', hjournal'⟩ := read_active_journals_mem hread hmem'
    have hname : other = name :=
      h.distinct hjournal'.journal hjournal.journal
        (hjournal'.accepted.id.trans (hsame ▸ hjournal.accepted.id.symm))
    subst hname
    obtain ⟨rfl, rfl⟩ := hjournal.unique hjournal'
    rwa [hjournal.accepted.complete] at hcomplete
  · intro hcomplete
    exact ⟨name, parsed, hmem, hjournal.accepted.complete.trans hcomplete, rfl⟩

/-- A scan unlinks a marker exactly when its journal cannot have changed the host, is complete, or
was recovered by an operation that completed. -/
theorem Consistent.terminal_iff (h : Consistent store operationIds verified)
    (hread : readActiveJournals store = .ok indexed) (hmem : (name, parsed) ∈ indexed)
    (hjournal : ReadJournal store name events parsed) :
    isTerminal (completedOperations store indexed) parsed = true ↔
      hostMutationPossible events = false ∨ sealedComplete store name events = true ∨
        ∃ recovery, lastRecovery events = some recovery ∧
          recovery.1 ∈ completedOperations store indexed := by
  have hcompleted := h.completed_iff hread hmem hjournal
  rw [isTerminal, Bool.or_eq_true, Bool.or_eq_true, Option.isNone_iff_eq_none,
    hjournal.accepted.operation_none_iff, List.contains_iff_mem, hcompleted,
    hjournal.accepted.recovery, or_assoc]
  simp [Option.any_eq_true]

/-- A scan unlinks the markers of resolved operations only. -/
theorem Consistent.retirable_resolved (h : Consistent store operationIds verified)
    (hread : readActiveJournals store = .ok indexed)
    (hmem : name ∈ retirableMarkers store indexed)
    (hevents : store.journals.lookup name = some events) : Resolved store name events := by
  obtain ⟨parsed, hmem, hterminal⟩ := mem_retirable_markers.mp hmem
  obtain ⟨found, hjournal⟩ := read_active_journals_mem hread hmem
  obtain rfl : found = events := Option.some.inj (hjournal.journal.symm.trans hevents)
  rcases (h.terminal_iff hread hmem hjournal).mp hterminal with hsafe | hcomplete | hrecovered
  · exact .inl hsafe
  · exact .inr (.inl hcomplete)
  · obtain ⟨recovery, hrecovery, -⟩ := hrecovered
    exact .inr (.inr (by rw [hrecovery]; exact Option.some_ne_none recovery))

/-- What a scan that returned has read, left and returned. -/
theorem Consistent.unresolved_operations_ok (h : Consistent store operationIds verified)
    (hscan : unresolvedOperations store = .ok (store', operations)) :
    ∃ indexed, readActiveJournals store.bootstrapped = .ok indexed ∧
      store' = store.bootstrapped.retire (retirableMarkers store.bootstrapped indexed) ∧
      operations = remainingOperations store.bootstrapped indexed := by
  obtain ⟨booted, hboot, hscan⟩ := Result.bind_eq_ok.mp hscan
  obtain rfl := h.bootstrap hboot
  obtain ⟨indexed, hread, hscan⟩ := Result.bind_eq_ok.mp hscan
  obtain ⟨-, hscan⟩ := Result.check_bind_eq_ok.mp hscan
  obtain ⟨rfl, rfl⟩ := Prod.mk.inj (Result.pure_eq_ok.mp hscan)
  exact ⟨indexed, hread, rfl, rfl⟩

/-- What a scan that was cut short has read, and which of the markers it has unlinked. -/
theorem Consistent.interrupted_scan_ok (h : Consistent store operationIds verified) {count : Nat}
    (hscan : interruptedScan count store = .ok store') :
    ∃ indexed, readActiveJournals store.bootstrapped = .ok indexed ∧
      store' =
        store.bootstrapped.retire ((retirableMarkers store.bootstrapped indexed).take count) := by
  obtain ⟨booted, hboot, hscan⟩ := Result.bind_eq_ok.mp hscan
  obtain rfl := h.bootstrap hboot
  obtain ⟨indexed, hread, hscan⟩ := Result.bind_eq_ok.mp hscan
  exact ⟨indexed, hread, (Result.pure_eq_ok.mp hscan).symm⟩

/-- A scan keeps the store consistent, wherever it ends. -/
theorem Consistent.scan (h : Consistent store operationIds verified)
    (hread : readActiveJournals store.bootstrapped = .ok indexed) {names : List String}
    (hsub : names ⊆ retirableMarkers store.bootstrapped indexed) :
    Consistent (store.bootstrapped.retire names) operationIds verified :=
  h.bootstrapped.retire fun _ hmem _ hevents =>
    h.bootstrapped.retirable_resolved hread (hsub hmem) hevents

/-- A journal is unresolved exactly when it has no recovery and did not complete cleanly. -/
theorem AcceptedJournal.unresolved_iff (h : AcceptedJournal name events parsed) :
    journalHasTerminalResolution parsed = false ↔
      lastRecovery events = none ∧ completedCleanly events = false := by
  rw [journalHasTerminalResolution, h.recovery, h.completion, h.persistence, Bool.or_eq_false_iff,
    completedCleanly]
  refine and_congr (by simp) ?_
  cases lastCompletion events <;> simp

/-- A marked operation that is not resolved is returned, unless its report contradicts its
completion. -/
theorem Consistent.remaining_of_read (h : Consistent store operationIds verified)
    (hread : readActiveJournals store = .ok indexed) (hmem : (name, parsed) ∈ indexed)
    (hjournal : ReadJournal store name events parsed)
    (hmutated : hostMutationPossible events = true)
    (hunsealed : sealedComplete store name events = false)
    (hunrecovered : lastRecovery events = none) (hconfirmed : Confirmed store name) :
    ∃ operation ∈ remainingOperations store indexed, operation.name = name ∧
      operation.operationId = parsed.operationId ∧
      operation.binding = (events.filterMap JournalEvent.binding?).head? := by
  have hoperation := hjournal.accepted.operation
  rw [if_pos hmutated] at hoperation
  refine ⟨_, mem_remaining_operations.mpr ⟨name, parsed, hmem, ?_, ?_, hoperation⟩, rfl, rfl, rfl⟩
  · rw [← Bool.not_eq_true, h.terminal_iff hread hmem hjournal]
    simp [hmutated, hunsealed, hunrecovered]
  · refine hjournal.accepted.unresolved_iff.mpr ⟨hunrecovered, ?_⟩
    rw [← Bool.not_eq_true]
    intro hcompleted
    exact Bool.false_ne_true (hunsealed.symm.trans
      (hconfirmed events hjournal.journal hmutated hcompleted))

/-- A scan that returns loses no operation that may have changed the host and is neither sealed
complete nor recorded as recovered, when its report does not contradict its completion. -/
theorem Consistent.unresolved_returned (h : Consistent store operationIds verified)
    (hscan : unresolvedOperations store = .ok (store', operations))
    (hevents : store.journals.lookup name = some events)
    (hmutated : hostMutationPossible events = true)
    (hunsealed : sealedComplete store name events = false)
    (hunrecovered : lastRecovery events = none) (hconfirmed : Confirmed store name) :
    ∃ operation ∈ operations, operation.name = name ∧
      journalOperation events = some operation.operationId ∧
      operation.binding = (events.filterMap JournalEvent.binding?).head? := by
  obtain ⟨indexed, hread, rfl, rfl⟩ := h.unresolved_operations_ok hscan
  have hmarker : store.bootstrapped.markers.lookup name ≠ none := by
    intro hnone
    rcases h.kept hevents hnone with hsafe | hcomplete | hrecovered
    · exact Bool.false_ne_true (hsafe.symm.trans hmutated)
    · exact Bool.false_ne_true (hunsealed.symm.trans hcomplete)
    · exact hrecovered hunrecovered
  obtain ⟨parsed, hmem⟩ := read_active_journals_marked hread hmarker
  obtain ⟨found, hjournal⟩ := read_active_journals_mem hread hmem
  obtain rfl : found = events := Option.some.inj (hjournal.journal.symm.trans hevents)
  obtain ⟨operation, hreturned, hname, hid, hbinding⟩ :=
    h.bootstrapped.remaining_of_read hread hmem hjournal hmutated hunsealed hunrecovered
      hconfirmed
  exact ⟨operation, hreturned, hname, hid ▸ hjournal.accepted.id, hbinding⟩

end NvidiaConverge
