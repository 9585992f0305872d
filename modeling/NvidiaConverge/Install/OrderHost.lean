import NvidiaConverge.Install.OrderRuns
import NvidiaConverge.Rollback.ApplyHost

/-!
# An install on a host

The same install among the answers of a host whose launchers may be started by package commands, by
their release and by a rollback, but not by anything else that the install does.
`install_changes_at_rest`: whenever the target is changed otherwise, or its release is authorized,
all four launchers are at rest at that moment.
-/

namespace NvidiaConverge

/-- Behind this operation a launcher may have been started. -/
def InstallOp.disturbs : InstallOp → Bool
  | .launcher (.systemctl verb _) => verb != .mask && verb != .stop
  | .action .packages _ | .commitLaunchers _ _ _ => true
  | .rollback op => op.changes
  | _ => false

/-- The operation is a package command of the plan. -/
def InstallOp.isPackage : InstallOp → Bool
  | .action .packages _ => true
  | _ => false

/-- The operation needs the launchers at rest: a change of the GPU or of Docker's configuration, and
the authorization of the target's release. -/
def InstallOp.needsRest : InstallOp → Bool
  | .action .teardown _ | .action .docker _ | .modprobe _ | .mig (.run _)
  | .authorizeRelease .installTarget => true
  | _ => false

/-- The audit that a reply brings, if it brings one. -/
def InstallOp.audited : (op : InstallOp) → op.Reply → Option HostAudit
  | .launcher .audit, some audit => some audit
  | .mig .auditHost, some audit => some audit
  | _, _ => none

/-- A host: how it answers, and which launchers are at rest, inactive and masked. -/
structure InstallWorld (World : Type) where
  env : World → (op : InstallOp) → op.Reply → World → Prop
  rests : Launcher → World → Prop
  /-- An audit is right. -/
  truthful : ∀ {world op reply after audit}, env world op reply after →
    op.audited reply = some audit → audit.launchersQuarantined = true → ∀ unit, rests unit after
  /-- A launcher at rest stays so behind everything that may not start it. -/
  kept : ∀ {world op reply after unit}, env world op reply after → op.disturbs = false →
    rests unit world → rests unit after

/-- What was shown says that the launchers are at rest. -/
def InstallProgress.AtRest (p : InstallProgress) : Prop :=
  p.quiet = true ∨ ∃ audit, p.last = some audit ∧ audit.launchersQuarantined = true

theorem at_rest_lost (p : InstallProgress) : ¬ p.lost.AtRest := by
  rintro (hquiet | ⟨audit, hlast, -⟩)
  · cases hquiet
  · cases hlast

theorem at_rest_disturbed {p : InstallProgress} (h : p.disturbed.AtRest) : p.AtRest := by
  rcases h with hquiet | ⟨audit, hlast, -⟩
  · exact .inl hquiet
  · cases hlast

/-- A run is at rest behind an audit that shows the launchers quarantined, or was so before. -/
theorem at_rest_audited {p : InstallProgress} {audit : HostAudit} (h : (p.audited audit).AtRest) :
    audit.launchersQuarantined = true ∨ p.AtRest := by
  rcases h with hquiet | ⟨shown, hlast, hquarantined⟩
  · rcases Bool.or_eq_true_iff.mp hquiet with hquiet | hquarantined
    · exact .inr (.inl hquiet)
    · exact .inl hquarantined
  · cases hlast
    exact .inl hquarantined

/-- A run is at rest behind an audit that shows it, or behind an operation that does not disturb
it. -/
theorem at_rest_after {p : InstallProgress} {op : InstallOp} {reply : op.Reply}
    (hverb : ∀ verb unit, op = .launcher (.systemctl verb unit) → verb = .mask ∨ verb = .stop)
    (h : (p.after ⟨op, reply⟩).AtRest) :
    (∃ audit, op.audited reply = some audit ∧ audit.launchersQuarantined = true) ∨
      (op.disturbs = false ∧ p.AtRest) := by
  -- Only an audit shows the launchers at rest. A lost reply takes that back, and so does every
  -- operation that may start one of them.
  cases op with
  | launcher op =>
      cases op with
      | audit =>
          cases reply with
          | none => exact absurd h (at_rest_lost p)
          | some audit =>
              exact (at_rest_audited h).imp (fun hquarantined => ⟨audit, rfl, hquarantined⟩)
                fun hrest => ⟨rfl, hrest⟩
      | systemctl verb unit =>
          cases reply with
          | none => exact absurd h (at_rest_lost p)
          | some result =>
              refine .inr ⟨?_, at_rest_disturbed h⟩
              rcases hverb verb unit rfl with rfl | rfl <;> rfl
      | _ =>
          cases reply with
          | none => exact absurd h (at_rest_lost p)
          | some answer => exact .inr ⟨rfl, h⟩
  | mig op =>
      cases reply with
      | none => cases op <;> exact absurd h (at_rest_lost p)
      | some answer =>
          cases op with
          | run command => exact .inr ⟨rfl, at_rest_disturbed h⟩
          | auditHost =>
              exact (at_rest_audited h).imp (fun hquarantined => ⟨answer, rfl, hquarantined⟩)
                fun hrest => ⟨rfl, hrest⟩
  | action phase command =>
      cases reply with
      | none => exact absurd h (at_rest_lost p)
      | some result =>
          cases phase with
          | packages =>
              rcases h with hquiet | ⟨audit, hlast, -⟩
              · cases hquiet
              · cases hlast
          | _ => exact .inr ⟨rfl, at_rest_disturbed h⟩
  | modprobe arguments =>
      cases reply with
      | none => exact absurd h (at_rest_lost p)
      | some result => exact .inr ⟨rfl, at_rest_disturbed h⟩
  | commitLaunchers target audit guard =>
      cases reply with
      | none => exact absurd h (at_rest_lost p)
      | some commit =>
          rcases h with hquiet | ⟨shown, hlast, -⟩
          · cases hquiet
          · cases hlast
  | rollback op =>
      cases reply with
      | none => exact absurd h (at_rest_lost p)
      | some answer =>
          have hafter : InstallProgress.AtRest
              (if op.changes then { p.disturbed with quiet := false } else p) := h
          split at hafter
          · rcases hafter with hquiet | ⟨shown, hlast, -⟩
            · cases hquiet
            · cases hlast
          · next hkeeps => exact .inr ⟨Bool.eq_false_of_not_eq_true hkeeps, hafter⟩
  | createSnapshot audit forward | preflightStaged audit plan | preflightRestore
  | preflightRollback audit =>
      cases reply with
      | none => exact absurd h (at_rest_lost p)
      | some verdict => cases verdict <;> exact .inr ⟨rfl, h⟩
  | verifyRollback audit services =>
      cases reply with
      | none => exact absurd h (at_rest_lost p)
      | some checks => cases services <;> exact .inr ⟨rfl, h⟩
  | verifyStack audit docker fabricManager =>
      cases reply with
      | none => exact absurd h (at_rest_lost p)
      | some checks => cases docker <;> cases fabricManager <;> exact .inr ⟨rfl, h⟩
  | _ =>
      cases reply with
      | none => exact absurd h (at_rest_lost p)
      | some answer => exact .inr ⟨rfl, h⟩

variable {World : Type} {host : InstallWorld World} {request : InstallRequest}

/-- On a host, the launchers rest where the run has shown it. -/
theorem InstallWorld.sound (host : InstallWorld World) (request : InstallRequest) :
    request.monitor.Sound host.env fun p world => p.AtRest → ∀ unit, host.rests unit world := by
  intro p world op reply following hrests hallowed henv hafter unit
  have hverb : ∀ verb unit,
      op = .launcher (.systemctl verb unit) → verb = .mask ∨ verb = .stop := by
    rintro verb unit rfl
    exact hallowed.2
  rcases at_rest_after hverb hafter with ⟨audit, haudit, hquarantined⟩ | ⟨hquiet, hbefore⟩
  · exact host.truthful henv haudit hquarantined unit
  · exact host.kept henv hquiet (hrests hbefore unit)

theorem packages_after (p : InstallProgress) {event : InstallEvent}
    (h : event.op.isPackage = false) : (p.after event).packages = p.packages := by
  unfold InstallProgress.after
  split <;> first
    | rfl
    | split <;> rfl
    | cases h

/-- Without a package command the run has counted none. -/
theorem packages_nil {trace : List InstallEvent}
    (h : ∀ event ∈ trace, event.op.isPackage = false) :
    (request.monitor.progress trace).packages = [] := by
  induction trace using List.reverseRecOn with
  | nil => rfl
  | append_singleton trace event ih =>
      have hevent := h event (List.mem_append_right _ (List.mem_singleton_self event))
      rw [Program.Monitor.progress_snoc]
      exact (packages_after _ hevent).trans
        (ih fun other hmem => h other (List.mem_append_left _ hmem))

/-- What an install issued, each operation with the world in which it was. -/
abbrev InstallHistory (World : Type) :=
  Program.History InstallOp InstallOp.Reply World

/-- On a host whose audits are right and whose launchers stay at rest unless a package command,
their release or a rollback may start them: whenever an applied install starts its package commands,
issues another change of its target, or authorizes the release of its launchers, all four are at
rest. -/
theorem install_changes_at_rest (hdocker : request.desired.containerRuntime = "docker")
    {world final : World} {history : InstallHistory World}
    {outcome : Program.Outcome Unit (InstallReport × Nat)}
    (hruns : Program.Runs (Program.History.step host.env) request.install ([], world) outcome
      (history, final)) :
    ∀ before current event after, history = before ++ (current, event) :: after →
      (event.op.needsRest = true ∨
        (event.op.isPackage = true ∧ ∀ entry ∈ before, entry.2.op.isPackage = false)) →
        ∀ unit, host.rests unit current := by
  intro before current event after hsplit hneeds unit
  have hsafe : request.monitor.Safe (Program.History.events history) :=
    ((stage_install hdocker).allowed untouched_start (Program.History.recorded hruns)).1
  have hstart : request.monitor.start.AtRest → ∀ unit, host.rests unit world := by
    rintro (hquiet | ⟨audit, hlast, -⟩)
    · cases hquiet
    · cases hlast
  obtain ⟨hrests, hallowed⟩ := (host.sound request).at_event hstart hruns hsafe hsplit
  -- what `Permits` asks of the operation says that the launchers are at rest
  refine hrests ?_ unit
  obtain ⟨op, reply⟩ := event
  rcases hneeds with hneeds | ⟨hpackage, hfirst⟩
  · cases op with
    | action phase command =>
        cases phase with
        | packages => cases hneeds
        | _ =>
            obtain ⟨-, -, hquiet⟩ := hallowed
            exact .inl hquiet
    | modprobe arguments =>
        obtain ⟨-, -, hquiet⟩ := hallowed
        exact .inl hquiet
    | mig op =>
        cases op with
        | run command =>
            obtain ⟨-, -, hquiet⟩ := hallowed
            exact .inl hquiet
        | auditHost => cases hneeds
    | authorizeRelease target =>
        cases target with
        | installTarget =>
            obtain ⟨snapshot, audit, -, hverified⟩ := hallowed
            exact .inr ⟨audit, hverified.last, hverified.quarantined⟩
        | rollbackBaseline => cases hneeds
    | _ => cases hneeds
  · cases op with
    | action phase command =>
        cases phase with
        | packages =>
            obtain ⟨snapshot, plan, -, -, hquiet, -⟩ := hallowed
            -- the first package command needs a quiet host, the others follow it
            refine .inl (hquiet (packages_nil fun event hmem => ?_))
            obtain ⟨entry, hentry, rfl⟩ := List.mem_map.mp hmem
            exact hfirst entry hentry
        | _ => cases hpackage
    | _ => cases hpackage

/-! ## The sample host -/

/-- What an audit of an ideal unit shows of a quarantine. -/
theorem rests_of_audited {state : SystemdUnit} (h : state.audited.isQuarantined = true) :
    state.masked = true ∧ state.active = false := by
  unfold SystemdUnit.audited at h
  split at h
  · cases h
  · simp only [UnitState.isQuarantined, Bool.and_eq_true, beq_iff_eq] at h
    exact rests_of_observed h

/-- A unit at rest is masked and inactive. -/
def SystemdUnit.resting (state : SystemdUnit) : Prop :=
  state.masked = true ∧ state.active = false

theorem resting_of_audit {base : HostAudit} {units : Launcher → SystemdUnit}
    (h : (auditUnits base units).launchersQuarantined = true) (unit : Launcher) :
    (units unit).resting := by
  have hunit := List.all_eq_true.mp h unit (mem_service_stop_order unit)
  refine rests_of_audited ?_
  cases unit <;> exact hunit

/-- A mask and a stop leave a unit at rest where it was so before. -/
theorem resting_command {verb : SystemctlVerb} (hverb : verb = .mask ∨ verb = .stop)
    {unit : Launcher} {state : SystemdUnit} (h : state.resting) :
    (state.command verb unit).2.resting := by
  rcases hverb with rfl | rfl
  · exact ⟨rfl, h.2⟩
  · show SystemdUnit.resting (if _ then _ else _)
    split
    · exact ⟨h.1, rfl⟩
    · exact h

/-- The host of `unloadedRun`, whose audits are truthful. -/
def unloadedWorld : InstallWorld InstallHost where
  env := Program.served InstallHost.serve
  rests unit host := (host.units unit).resting
  truthful := by
    intro host op reply following audit hserved haudit hquarantined unit
    obtain ⟨rfl, rfl⟩ := Prod.mk.inj hserved
    cases op with
    | launcher op =>
        cases op with
        | audit =>
            obtain rfl := Option.some.inj haudit
            exact resting_of_audit hquarantined unit
        | _ => cases haudit
    | mig op =>
        cases op with
        | auditHost =>
            obtain rfl := Option.some.inj haudit
            exact resting_of_audit hquarantined unit
        | run command => cases haudit
    | _ => cases haudit
  kept := by
    intro host op reply following unit hserved hquiet hrests
    obtain ⟨rfl, rfl⟩ := Prod.mk.inj hserved
    cases op with
    | launcher op =>
        -- only a command on this very unit changes it
        by_cases hcommand : ∃ verb, op = .systemctl verb unit
        · obtain ⟨verb, rfl⟩ := hcommand
          show (Function.update host.units unit _ unit).resting
          rw [Function.update_self]
          refine resting_command ?_ hrests
          have hverb : (verb != .mask && verb != .stop) = false := hquiet
          cases verb <;> simp at hverb ⊢
        · have hkept : ((systemd host.base).serve host.units op).2 unit = host.units unit :=
            units_kept fun verb hop => hcommand ⟨verb, hop⟩
          show (((systemd host.base).serve host.units op).2 unit).resting
          rw [hkept]
          exact hrests
    | commitLaunchers target audit guard => cases hquiet
    | mig op => cases op <;> exact hrests
    | _ => exact hrests

/-- What the sample install issues, with the worlds. -/
def unloadedHistory : InstallHistory InstallHost :=
  (Program.run (Program.History.serve InstallHost.serve) unloadedInstall.install
    ([], unloadedHost)).2.1

/-- On the sample host, which runs all four launchers at first, the headers are installed and the
module is loaded at rest. -/
theorem install_changes_at_rest_unloaded :
    unloadedHistory.any (fun entry => entry.2.op.isPackage) = true ∧
      unloadedHistory.any (fun entry => entry.2.op.needsRest) = true ∧
      ∀ before current event after, unloadedHistory = before ++ (current, event) :: after →
        (event.op.needsRest = true ∨
          (event.op.isPackage = true ∧ ∀ entry ∈ before, entry.2.op.isPackage = false)) →
          ∀ unit, (InstallHost.units current unit).resting := by
  refine ⟨by decide +kernel, by decide +kernel, ?_⟩
  have hruns := Program.History.runs_serve InstallHost.serve unloadedInstall.install unloadedHost
  exact @install_changes_at_rest _ unloadedWorld unloadedInstall rfl _ _ _ _ hruns

end NvidiaConverge
