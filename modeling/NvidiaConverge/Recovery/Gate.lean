import NvidiaConverge.Recovery.Completions

/-!
# The gate on interrupted operations

A history whose steps confirm their completions loses no operation that may have left the host
half changed: the next scan raises or returns it, a recorded recovery was verified before it was
recorded, and the only process that gets past its reservation beside such operations is a rollback
to the snapshot that all of them are bound to. An operation whose report contradicts its
completion is lost (`contradicted_install_lost`).
-/

namespace NvidiaConverge

/-- The operation journaled a command that changes the host, and is neither sealed complete nor
recorded as recovered. -/
structure NeedsRecovery (store : Store) (name : String) (events : List JournalEvent) : Prop where
  journal : store.journals.lookup name = some events
  mutated : events.any JournalEvent.startsMutation = true
  unsealed : sealedComplete store name events = false
  unrecovered : events.filterMap JournalEvent.recovery? = []

/-- The process is a rollback to the snapshot that every one of its targets is bound to: it
was loaded from their path and has their integrity, creator and host. -/
def RecoversTargets (p : Process) : Prop :=
  p.request.command = .rollback ∧
    ∃ snapshot, p.snapshot = some snapshot ∧
      Posix.pathComponents snapshot.path =
        some (abspath p.request.workingDirectory p.request.snapshot) ∧
      ∀ target ∈ p.targets, ∃ bound, target.binding = some bound ∧
        purePath p.request.snapshot = purePath bound.path ∧
        snapshot.contentKey = bound.contentKey

/-- What the gate promises in a world: a scan returns every operation that needs recovery, every
recovery is vouched for, and a new process was admitted by a scan and recovers its targets. -/
structure GateHolds (w : World) : Prop where
  returned : w.live = none → ∀ {store operations},
    unresolvedOperations w.store = .ok (store, operations) →
    ∀ {name events}, NeedsRecovery w.store name events →
      ∃ operation ∈ operations, operation.name = name ∧
        journalOperation events = some operation.operationId
  vouched : ∀ {action w'}, step? w action = some w' →
    ∀ {name events}, w'.store.journals.lookup name = some events →
      ∀ recovery ∈ events.filterMap JournalEvent.recovery?, Vouched w.verified events recovery
  admitted : ∀ {request w'}, step? w (.start request) = some w' →
    ∃ operations, unresolvedOperations w.store = .ok (w'.store, operations) ∧
      w'.live = some { request, targets := operations }
  recovering : ∀ p, w.live = some p → p.stage.reserving = false → p.targets ≠ [] →
    RecoversTargets p

variable {w w' : World} {p : Process} {operations : List UnresolvedOperation}

/-- The scan's operations all bind the required path. -/
theorem recovery_snapshot_path_some {required : String}
    (h : recoverySnapshotPath operations = .ok (some required)) :
    ∀ operation ∈ operations, ∃ bound, operation.binding = some bound ∧
      purePath bound.path = purePath required := by
  obtain ⟨hmissing, h⟩ := Result.check_bind_eq_ok.mp h
  obtain ⟨hone, h⟩ := Result.check_bind_eq_ok.mp h
  have hpath := Result.pure_eq_ok.mp h
  rw [Result.refuse_eq_ok, not_not, List.map_eq_nil_iff, List.filter_eq_nil_iff] at hmissing
  rw [Result.refuse_eq_ok, not_and_not_right] at hone
  obtain ⟨first, hfirst, rfl⟩ := Option.map_eq_some_iff.mp hpath
  intro operation hmem
  cases hbinding : operation.binding with
  | none => exact absurd (by simp [hbinding]) (hmissing operation hmem)
  | some bound =>
      refine ⟨bound, rfl, ?_⟩
      obtain ⟨key, hkey⟩ := List.length_eq_one_iff.mp (hone (List.ne_nil_of_mem hmem))
      -- All bindings have the one key.
      have hall : ∀ binding ∈ operations.filterMap (·.binding),
          SnapshotBinding.exactKey binding = key := by
        intro binding hbound
        rw [← List.mem_singleton, ← hkey, List.mem_dedup]
        exact List.mem_map_of_mem hbound
      have hsame := (hall bound (List.mem_filterMap.mpr ⟨operation, hmem, hbinding⟩)).trans
        (hall first (List.mem_of_head? hfirst)).symm
      exact congrArg Prod.fst hsame

/-- Without a required path there is nothing to recover. -/
theorem recovery_snapshot_path_none (h : recoverySnapshotPath operations = .ok none) :
    operations = [] := by
  obtain ⟨hmissing, h⟩ := Result.check_bind_eq_ok.mp h
  obtain ⟨-, h⟩ := Result.check_bind_eq_ok.mp h
  have hpath := Result.pure_eq_ok.mp h
  rw [Result.refuse_eq_ok, not_not, List.map_eq_nil_iff, List.filter_eq_nil_iff] at hmissing
  rw [Option.map_eq_none_iff, List.head?_eq_none_iff, List.filterMap_eq_nil_iff] at hpath
  refine List.eq_nil_iff_forall_not_mem.mpr fun operation hmem => ?_
  exact hmissing operation hmem (by simp [hpath operation hmem])

/-- The process that the gate admits beside interrupted operations recovers them. -/
theorem LiveHolds.recovers (h : LiveHolds w p) (hstage : p.stage.reserving = false)
    (htargets : p.targets ≠ []) : RecoversTargets p := by
  have hadmits := h.admitted
  unfold admits at hadmits
  split at hadmits
  · cases hadmits
  · next hnone => exact absurd (recovery_snapshot_path_none hnone) htargets
  · next required hsome =>
      obtain ⟨hcommand, hpath⟩ := (Bool.and_eq_true _ _).mp hadmits
      obtain ⟨snapshot, hsnapshot⟩ :=
        Option.ne_none_iff_exists'.mp (h.loaded hstage (beq_iff_eq.mp hcommand))
      obtain ⟨haccepts, hloaded⟩ := h.accepted snapshot hsnapshot
      refine ⟨beq_iff_eq.mp hcommand, snapshot, hsnapshot, hloaded, ?_⟩
      intro target hmem
      obtain ⟨bound, hbound, hsame⟩ := recovery_snapshot_path_some hsome target hmem
      have hkey := beq_iff_eq.mp (List.all_eq_true.mp haccepts target hmem)
      rw [hbound] at hkey
      exact ⟨bound, hbound, (beq_iff_eq.mp hpath).trans hsame.symm, (Option.some.inj hkey).symm⟩

/-- A recovery that a step leaves in a journal was verified before the step. -/
theorem Sound.vouched_before (h : Sound w) {action : Action} (hstep : Step w action w')
    {name : String} {events : List JournalEvent}
    (hjournal : w'.store.journals.lookup name = some events) :
    ∀ recovery ∈ events.filterMap JournalEvent.recovery?, Vouched w.verified events recovery := by
  have hafter := (h.step hstep).consistent
  cases hstep with
  | verify _ _ _ _ => exact fun recovery hmem => h.consistent.vouched hjournal hmem
  | _ => exact fun recovery hmem => hafter.vouched hjournal hmem

/-- A process that starts has scanned the store, and what the scan returned decides its targets. -/
theorem admit_cases {request : Request} (h : step? w (.start request) = some w') :
    ∃ operations, unresolvedOperations w.store = .ok (w'.store, operations) ∧
      w'.live = some { request, targets := operations } := by
  cases step_cases h with
  | start _ hscan _ _ => exact ⟨_, hscan, rfl⟩

/-- In every history of applied commands whose steps confirm their completions, each cut off at any
durable step, the gate loses no mutated host. -/
theorem interrupted_gate_holds
    (hreach : Run.Reachable step? (fun w action => confirmsCompletion w action = true)
      initialWorld w) : GateHolds w := by
  have hsound := sound_history hreach
  refine
    { returned := ?_
      vouched := fun hstep => hsound.vouched_before (step_cases hstep)
      admitted := admit_cases
      recovering := fun p hlive => (hsound.live p hlive).recovers }
  intro hidle store operations hscan name events hneeds
  have hmutated : hostMutationPossible events = true := by
    rw [hostMutationPossible, hneeds.mutated, Bool.true_or]
  have hunrecovered : lastRecovery events = none := by
    rw [lastRecovery, hneeds.unrecovered, List.getLast?_nil]
  have hconfirmed : Confirmed w.store name := (confirmed_history id hreach).of_idle hidle name
  obtain ⟨operation, hmem, hname, hid, -⟩ :=
    hsound.consistent.unresolved_returned hscan hneeds.journal hmutated hneeds.unsealed
      hunrecovered hconfirmed
  exact ⟨operation, hmem, hname, hid⟩

/-- An install changes the host and publishes its report. -/
def publishedInstall : List Action :=
  mutateHost { report := "install.json", operationId := operationOf 'a', command := .install }
    .begin ++
  [.append "2026-01-01T00:00:03+00:00"
      (.commandFinished ["systemctl", "stop", "docker.service"] true (some 0) false none),
    .publish 0 true]

/-- The install that died while it changed the host is what the next scan returns. So is an install
whose completion is disputed, when it records that its report could not be persisted. -/
theorem interrupted_gate_holds_crashed_install :
    (∃ w, Run.exec (Run.checked confirmsCompletion step?) initialWorld crashedInstall = some w ∧
      GateHolds w) ∧
    ∃ w, Run.exec (Run.checked confirmsCompletion step?) initialWorld
        (publishedInstall ++
          [.completeDisputed "2026-01-01T00:00:04+00:00" false, .retract true,
            .failPersistence "2026-01-01T00:00:05+00:00" "cannot append", .exit]) = some w ∧
      GateHolds w := by
  constructor
  · obtain ⟨w, hw⟩ := Option.isSome_iff_exists.mp
      (show (Run.exec (Run.checked confirmsCompletion step?) initialWorld crashedInstall).isSome =
        true by decide +kernel)
    exact ⟨w, hw, interrupted_gate_holds (Run.Reachable.start.exec_checked hw)⟩
  · obtain ⟨w, hw⟩ := Option.isSome_iff_exists.mp
      (show (Run.exec (Run.checked confirmsCompletion step?) initialWorld
        (publishedInstall ++
          [.completeDisputed "2026-01-01T00:00:04+00:00" false, .retract true,
            .failPersistence "2026-01-01T00:00:05+00:00" "cannot append", .exit])).isSome =
        true by decide +kernel)
    exact ⟨w, hw, interrupted_gate_holds (Run.Reachable.start.exec_checked hw)⟩

/-- The next scan returns nothing, although this operation changed the host and is neither sealed
complete nor recorded as recovered. -/
def losesInterrupted (name : String) (w : World) : Bool :=
  w.live.isNone &&
    match unresolvedOperations w.store with
    | .ok (_, []) =>
        (w.store.journals.lookup name).any fun events =>
          events.any JournalEvent.startsMutation && !sealedComplete w.store name events &&
            (events.filterMap JournalEvent.recovery?).isEmpty
    | _ => false

/-- A world in which the scan loses an interrupted operation is one in which the gate does not
hold. -/
theorem not_gate_holds {name : String} (h : losesInterrupted name w = true) : ¬ GateHolds w := by
  intro hgate
  obtain ⟨hidle, h⟩ := (Bool.and_eq_true _ _).mp h
  split at h
  · next store hscan =>
      obtain ⟨events, hjournal, h⟩ := (Option.any_eq_true _ _).mp h
      obtain ⟨h, hunrecovered⟩ := (Bool.and_eq_true _ _).mp h
      obtain ⟨hmutated, hunsealed⟩ := (Bool.and_eq_true _ _).mp h
      have hneeds : NeedsRecovery w.store name events :=
        { journal := hjournal
          mutated := hmutated
          unsealed := (Bool.not_eq_true' _).mp hunsealed
          unrecovered := List.isEmpty_iff.mp hunrecovered }
      obtain ⟨operation, hmem, -⟩ :=
        hgate.returned (Option.isNone_iff_eq_none.mp hidle) hscan hneeds
      cases hmem
  · cases h

/-- The append of the install's completion leaves the whole line and raises, and the install exits
after it has rewritten its report as incomplete: no later scan returns it. -/
theorem contradicted_install_lost :
    ¬ ∀ w, Run.Reachable step? (fun _ _ => True) initialWorld w → GateHolds w := by
  intro hall
  obtain ⟨w, hw, hlost⟩ := (Option.any_eq_true _ _).mp
    (show (Run.exec step? initialWorld
      (publishedInstall ++
        [.completeDisputed "2026-01-01T00:00:04+00:00" true, .retract true, .exit])).any
      (losesInterrupted (journalName "install.json")) = true by decide +kernel)
  exact not_gate_holds hlost (hall w (Run.Reachable.start.exec hw))

end NvidiaConverge
