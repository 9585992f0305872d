import NvidiaConverge.Library.Monitor
import NvidiaConverge.Rollback.ApplyRuns

/-!
# A rollback on a host

The same rollback among the answers of a host whose launchers may be started by package scripts and
changed files, but not by anything else that the rollback does. `gpu_changes_at_rest`: whenever a
kernel module or MIG is changed, all four launchers are at rest at that moment.
-/

namespace NvidiaConverge

open Program (Runs)

/-- What a rollback issued, each operation with the world in which it was. -/
abbrev RollbackHistory (World : Type) :=
  Program.History RollbackOp RollbackOp.Reply World

/-- Behind this operation a launcher may have been started: its own command, or one that runs
scripts. -/
def RollbackOp.disturbs (unit : Launcher) : RollbackOp → Bool
  | .launcher (.systemctl _ changed) => changed = unit
  | .package _ | .writeFile _ _ | .unlinkFile _ => true
  | _ => false

/-- The operation changes the kernel modules or the MIG configuration. -/
def RollbackOp.changesGpu : RollbackOp → Bool
  | .modprobe _ | .mig (.run _) => true
  | _ => false

/-- A host: how it answers, and which launchers are at rest, inactive and masked. -/
structure RollbackHost (World : Type) where
  env : World → (op : RollbackOp) → op.Reply → World → Prop
  rests : Launcher → World → Prop
  /-- An observation is right. -/
  truthful : ∀ {world unit after} {observation : Observation},
    env world (.launcher (.observe unit)) observation after → observation.quarantined = true →
      rests unit after
  /-- A launcher at rest stays so behind everything that may not start it. -/
  kept : ∀ {world op reply after unit}, env world op reply after → op.disturbs unit = false →
    rests unit world → rests unit after

/-- A launcher is undisturbed behind an event that observed it quarantined, or where it was so
before and the event does not disturb it. -/
theorem undisturbed_after {snapshot : RollbackSnapshot} {p : RollbackProgress}
    {event : RollbackEvent} {unit : Launcher}
    (h : (p.after snapshot event).undisturbed unit = true) :
    (∃ observation : Observation, event = ⟨.launcher (.observe unit), observation⟩ ∧
      observation.quarantined = true) ∨
    (event.op.disturbs unit = false ∧ p.undisturbed unit = true) := by
  match event with
  | ⟨.launcher (.observe shown), observation⟩ =>
      have hshown : Function.update p.undisturbed shown (Observation.quarantined observation) unit =
          true := h
      by_cases heq : unit = shown
      · subst heq
        rw [Function.update_self] at hshown
        exact .inl ⟨observation, rfl, hshown⟩
      · rw [Function.update_of_ne heq] at hshown
        exact .inr ⟨rfl, hshown⟩
  | ⟨.launcher (.systemctl verb changed), result⟩ =>
      have hchanged : Function.update p.undisturbed changed false unit = true := h
      by_cases heq : unit = changed
      · rw [heq, Function.update_self] at hchanged
        cases hchanged
      · rw [Function.update_of_ne heq] at hchanged
        exact .inr ⟨decide_eq_false fun h => heq h.symm, hchanged⟩
  | ⟨.launcher (.validateSocket _), _⟩ | ⟨.launcher (.validateService _ _), _⟩
  | ⟨.launcher (.validateStart _), _⟩ | ⟨.launcher (.validateActive _ _), _⟩
  | ⟨.launcher (.revalidateSocket _), _⟩ | ⟨.launcher (.revalidateProcess _ _), _⟩
  | ⟨.launcher (.observeTrusted _), _⟩ | ⟨.launcher (.record _ _), _⟩ | ⟨.launcher .audit, _⟩
  | ⟨.launcher (.probe _), _⟩ | ⟨.validateSnapshot, _⟩ | ⟨.preflight, _⟩ | ⟨.fileMatches _, _⟩
  | ⟨.targetMetadata _, _⟩ | ⟨.moduleOrder, _⟩ | ⟨.validatePayloads, _⟩ | ⟨.modprobe _, _⟩
  | ⟨.mig (.run _), _⟩ | ⟨.mig .observe, _⟩ => exact .inr ⟨rfl, h⟩
  | ⟨.package _, _⟩ | ⟨.writeFile _ _, _⟩ | ⟨.unlinkFile _, _⟩ => exact absurd h Bool.false_ne_true

/-- The monitor of an applied rollback, which follows the progress of its run. -/
def RollbackRequest.monitor (request : RollbackRequest) :
    Program.Monitor RollbackOp RollbackOp.Reply RollbackProgress where
  start := {}
  after := fun p event => p.after request.snapshot event
  allows := request.Allows

/-- On a host, the launchers that a run leaves undisturbed are at rest. -/
theorem RollbackHost.sound {World : Type} (host : RollbackHost World) (request : RollbackRequest) :
    request.monitor.Sound host.env fun p world =>
      ∀ unit, p.undisturbed unit = true → host.rests unit world := by
  intro p world op reply following hrests _ henv unit hunit
  rcases undisturbed_after hunit with ⟨observation, hevent, hquarantined⟩ | ⟨hquiet, hbefore⟩
  · obtain ⟨rfl, hreply⟩ := Program.Event.mk.inj hevent
    obtain rfl := eq_of_heq hreply
    exact host.truthful henv hquarantined
  · exact host.kept henv hquiet (hrests unit hbefore)

/-- On a host whose observations are right and whose launchers stay at rest unless a package
command, a file change or a command on themselves may start them: whenever a rollback changes a
kernel module or MIG, whatever else happened in the run, all four launchers are at rest. -/
theorem gpu_changes_at_rest {World : Type} {host : RollbackHost World} {request : RollbackRequest}
    {world final : World} {history : RollbackHistory World}
    {outcome : Program.Outcome String (List CommandResult)}
    (hruns : Runs (Program.History.step host.env) (applyRollback request) ([], world) outcome
      (history, final)) :
    ∀ before current event after, history = before ++ (current, event) :: after →
      event.op.changesGpu = true → ∀ unit, host.rests unit current := by
  intro before current event after hsplit hchanges unit
  have hsafe : request.monitor.Safe (Program.History.events history) :=
    apply_safe (Program.History.recorded hruns)
  have hstart : ∀ unit, request.monitor.start.undisturbed unit = true → host.rests unit world :=
    fun unit hunit => Bool.noConfusion hunit
  obtain ⟨hrests, hallowed⟩ := (host.sound request).at_event hstart hruns hsafe hsplit
  refine hrests unit ?_
  obtain ⟨op, reply⟩ := event
  cases op with
  | modprobe arguments =>
      obtain ⟨_, -, -, hundisturbed, -⟩ := hallowed rfl
      exact hundisturbed unit
  | mig op =>
      cases op with
      | run command =>
          obtain ⟨_, -, -, hundisturbed, -⟩ := hallowed rfl
          exact hundisturbed unit
      | observe => cases hchanges
  | _ => cases hchanges

/-! ## The sample host -/

/-- A unit whose observation is that of a quarantine is at rest. -/
theorem rests_of_observed {state : SystemdUnit}
    (h : state.observed.active = some false ∧ state.observed.unitFileState = some .masked) :
    state.masked = true ∧ state.active = false := by
  obtain ⟨hactive, hfile⟩ := h
  refine ⟨?_, Option.some.inj hactive⟩
  by_contra hmasked
  rw [SystemdUnit.observed, SystemdUnit.fileState, if_neg hmasked] at hfile
  cases hfragment : state.fragment <;> simp [hfragment] at hfile
  split at hfile <;> cases hfile

/-- Only its commands change a unit of an ideal systemd. -/
theorem units_kept {base : HostAudit} {states : Launcher → SystemdUnit} {op : HostOp}
    {unit : Launcher} (h : ∀ verb, op ≠ .systemctl verb unit) :
    ((systemd base).serve states op).2 unit = states unit := by
  have hkept : ∀ other state, Function.update states other (states other) = state →
      state unit = states unit := by
    rintro other _ rfl
    rw [Function.update_eq_self]
  cases op with
  | systemctl verb changed =>
      have hne : unit ≠ changed := fun heq => h verb (heq ▸ rfl)
      exact Function.update_of_ne hne ..
  | audit => rfl
  | probe _ => rfl
  | _ => exact hkept _ _ rfl

/-- The host of `restartedRun`: its units are at rest when they are masked and inactive. -/
def restartedWorld : RollbackHost ((Launcher → SystemdUnit) × Bool) where
  env := Program.served serveRestarted
  rests unit world := (world.1 unit).masked = true ∧ (world.1 unit).active = false
  truthful := by
    intro world unit after observation hserved hquarantined
    obtain ⟨hanswer, hafter⟩ := Prod.mk.inj hserved
    have hunit : after.1 unit = world.1 unit := by
      rw [← hafter]
      refine @units_kept restartedHost _ (.observe unit) unit fun verb heq => ?_
      cases heq
    rw [hunit]
    refine rests_of_observed ?_
    rw [← hanswer] at hquarantined
    simp only [Observation.quarantined, Bool.and_eq_true, beq_iff_eq] at hquarantined
    exact ⟨hquarantined.1.2, hquarantined.2⟩
  kept := by
    intro world op reply after unit hserved hquiet hrests
    have hafter : (serveRestarted world op).2 = after := (Prod.mk.inj hserved).2
    suffices hunit : after.1 unit = world.1 unit by
      rw [hunit]
      exact hrests
    rw [← hafter]
    cases op with
    | launcher op =>
        refine units_kept fun verb heq => ?_
        subst heq
        exact absurd hquiet (by simp [RollbackOp.disturbs])
    | package _ => cases hquiet
    | writeFile _ _ => cases hquiet
    | unlinkFile _ => cases hquiet
    | mig op => cases op <;> rfl
    | _ => rfl

/-- What the sample rollback issues, with the worlds. -/
def restartedHistory : RollbackHistory ((Launcher → SystemdUnit) × Bool) :=
  (Program.run (Program.History.serve serveRestarted) (applyRollback restartedRollback)
    ([], fun _ => runningUnit, false)).2.1

/-- On the sample host, which runs all four launchers at first, the module is changed at rest. -/
theorem gpu_changes_at_rest_restarted :
    restartedHistory.any (fun entry => entry.2.op.changesGpu) = true ∧
      ∀ before current event after, restartedHistory = before ++ (current, event) :: after →
        event.op.changesGpu = true → ∀ unit, restartedWorld.rests unit current := by
  refine ⟨by decide +kernel, ?_⟩
  have hruns := Program.History.runs_serve serveRestarted (applyRollback restartedRollback)
    (fun _ => runningUnit, false)
  exact @gpu_changes_at_rest _ restartedWorld _ _ _ _ _ hruns

end NvidiaConverge
