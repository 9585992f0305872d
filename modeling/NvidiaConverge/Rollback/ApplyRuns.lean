import NvidiaConverge.Planning.Convergence
import NvidiaConverge.Rollback.ApplyMig
import NvidiaConverge.Rollback.ApplyRules

/-!
# The order of an applied rollback

What every run of `apply_rollback` keeps, with arbitrary answers and cut off anywhere: a change of
the host is issued only behind what `RollbackProgress.Permits` asks for. `ensures_apply` puts the
parts together; read `apply_rollback_staged` first.
-/

namespace NvidiaConverge

open Program (Allowed Ensures Outcome Triple anyReply ending)

variable {request : RollbackRequest} {results : List CommandResult}

/-! ## The whole rollback -/

namespace RollbackPlan

variable {plan : RollbackPlan}

theorem mutates_of_commands (h : plan.commands ≠ []) : plan.mutatesHost = true := by
  simp [mutatesHost, h]

theorem mutates_of_mismatch (h : plan.matching = false) : plan.mutatesHost = true := by
  simp [mutatesHost, h]

/-- Without anything to change the MIG phase does not even look. -/
theorem quiet_mig (h : plan.mutatesHost = false) (names : List String) :
    (plan.migPhase names).migRestoreRequired = false ∧
      (plan.migPhase names).migStateMayHaveChanged = false := by
  simp only [mutatesHost, Bool.or_eq_false_iff, Bool.not_eq_false', List.isEmpty_iff] at h
  obtain ⟨⟨⟨⟨hcommands, hmatching⟩, hmig⟩, -⟩, -⟩ := h
  have hchanged : (plan.migPhase names).migModeChanged = false ∧
      (plan.migPhase names).migGeometryChanged = false := by
    simp only [MigPhase.migRestoreRequired, Bool.or_eq_false_iff] at hmig
    exact hmig.1
  have hreset : (plan.migPhase names).moduleResetExpected = false := by
    simp [MigPhase.moduleResetExpected, migPhase, hmatching]
  refine ⟨?_, by simp [MigPhase.migStateMayHaveChanged, migPhase, hcommands, hmatching]⟩
  rw [MigPhase.migRestoreRequired, hchanged.1, hchanged.2, hreset]
  rfl

end RollbackPlan

/-- Where an applied rollback returns: safe, and with everything done where every result
succeeded. -/
def RollbackRequest.Ends (request : RollbackRequest) (results : List CommandResult)
    (trace : List RollbackEvent) : Prop :=
  request.Safe trace ∧ (commandsSucceeded results = true →
    ∃ audit, request.currentAudit = some audit ∧
      (rollbackProgress request.snapshot trace).Completed request.snapshot audit)

/-- The changes of a planned rollback are safe and end as an applied rollback may. -/
theorem stage_apply {plan : RollbackPlan} {restored : List FileSnapshot}
    (h : plan.Planned request restored) :
    request.Stage (request.At (plan.start restored)) (plan.apply results) request.Ends := by
  have hready : ∀ p : RollbackProgress, p.validated = true → p.solved = true →
      p.inspected = some plan.moduleNames → p.failed = false → p.waits = false → p.Ready :=
    fun p hvalidated hsolved hinspected hfine hsettled =>
      ⟨hvalidated, hsolved, by rw [hinspected, Option.isSome_some], hfine, hsettled⟩
  refine stage_check_services.bind fun _ => ?_
  refine (stage_quarantine h.audit (hready _ rfl rfl rfl rfl rfl) rfl rfl).bind fun _ => ?_
  rintro trace ⟨quarantined, undisturbed, hat, hheld⟩
  refine (?_ : request.Stage (request.At _) _ _) trace hat
  refine stage_check_payloads.bind fun _ => ?_
  rintro trace ⟨payloads, hat, hpayloads⟩
  refine (?_ : request.Stage (request.At _) _ _) trace hat
  refine (stage_run_packages h.audit h.commands plan.commands rfl fun hne => ?_).bind fun _ => ?_
  · exact ⟨hready _ rfl rfl rfl rfl rfl, hpayloads hne, rfl, rfl,
      fun unit => (hheld unit (plan.mutates_of_commands hne)).1⟩
  rintro trace ⟨found, order, fresh, hat, hfound⟩
  let q : RollbackProgress :=
    { plan.start restored with
      quarantined, payloads, packages := plan.commands, restored := found, order
      undisturbed := fresh }
  refine (?_ : request.Stage (request.At q) _ _) trace hat
  -- The files: without a quarantine they were all found as recorded before.
  have hrestores : request.Restores plan.audit q fun file => file ∈ found := by
    refine ⟨h.audit, hready q rfl rfl rfl rfl rfl, h.commands, rfl, ?_⟩
    cases hmutates : plan.mutatesHost with
    | true => exact .inl fun unit => (hheld unit hmutates).1
    | false =>
        simp only [RollbackPlan.mutatesHost, Bool.or_eq_false_iff, Bool.not_eq_false',
          List.isEmpty_iff] at hmutates
        obtain ⟨⟨⟨⟨hcommands, -⟩, -⟩, hunchanged⟩, -⟩ := hmutates
        refine .inr ⟨hcommands, fun file hfile => ?_⟩
        rw [hfound hcommands]
        exact h.files hunchanged file hfile
  have hfiles : request.Stage (request.At q) (restoreManagedFiles plan.snapshot.managedFiles)
      fun results => request.Restoring q
        (fun file => commandsSucceeded results = true ∧ file ∈ request.snapshot.managedFiles)
        (commandsSucceeded results = true) := by
    rw [h.snapshot]
    refine (stage_restore_files True _ (fun file => mem_restore_order.mp) hrestores).mono
      (fun trace hat => ⟨found, [], order, fresh, false, hat, fun _ hfile => hfile, fun _ => rfl⟩)
      (fun results trace hpost => hpost.mono (fun file hfile => .inr ?_) fun hall =>
        ⟨trivial, hall⟩)
      (fun _ hfail => hfail) fun _ hcrash => hcrash
    exact ⟨hfile.1, mem_restore_order.mpr hfile.2⟩
  refine hfiles.bind fun fileResults => ?_
  refine Triple.bind (stage_keep.mono (fun trace hpre => ⟨hpre.safe, fun hall => hpre.mono
    (fun file hfile => ⟨hall, hfile⟩) fun _ : True => hall⟩) (fun _ _ hpost => hpost)
    (fun _ hfail => hfail) fun _ hcrash => hcrash) fun _ => ?_
  rintro trace ⟨written, changed, order, fresh, fileFailed, hat, hwritten, hfine⟩
  obtain rfl : fileFailed = false := hfine trivial
  refine (?_ : request.Stage (request.At _) _ _) trace hat
  -- Package scripts may have started a launcher or loaded a module in between: the modules wait for
  -- a second quarantine and a second inspection.
  refine (stage_quarantine h.audit (hready _ rfl rfl rfl rfl rfl) rfl rfl).bind fun _ => ?_
  rintro trace ⟨quarantined, undisturbed, hat, hheld⟩
  refine (?_ : request.Stage (request.At _) _ _) trace hat
  refine stage_inspect_again.bind fun ⟨names, _⟩ => ?_
  let last : RollbackProgress :=
    { q with
      restored := written, changed, order := some names, fileFailed := false, quarantined
      undisturbed }
  refine (?_ : request.Stage (request.At last) _ request.Ends).mono (fun trace hat => hat rfl)
    (fun _ _ hpost => hpost) (fun _ hfail => hfail) fun _ hcrash => hcrash
  have hrestored : last.Restored request.snapshot plan.audit :=
    ⟨hready last rfl rfl rfl rfl rfl, rfl, h.commands, hwritten⟩
  have hreplaces : plan.mutatesHost = true →
      request.Replaces plan.audit last plan.moduleNames names :=
    fun hmutates => ⟨h.audit, hrestored, fun unit => (hheld unit hmutates).2, rfl, rfl⟩
  refine (stage_replace_modules rfl h.snapshot fun hmismatch =>
    hreplaces (plan.mutates_of_mismatch hmismatch)).bind fun _ => ?_
  refine (stage_restore_mig h.snapshot (fun hmutates => (hreplaces hmutates).of_modules _) rfl
    fun hquiet => plan.quiet_mig hquiet names).mono (fun _ hat => hat) ?_ (fun _ hfail => hfail)
    fun _ hcrash => hcrash
  rintro final trace ⟨hsafe, hdone⟩
  refine ⟨hsafe, fun hall => ⟨plan.audit, h.audit, ?_⟩⟩
  obtain ⟨waits, -, hprogress⟩ := hdone hall
  rw [hprogress]
  exact ⟨hrestored.of_modules _, plan.moduleNames, names, rfl, rfl, rfl⟩

/-- Every run keeps to what is permitted, and returns as `Ends` says. -/
theorem ensures_apply (request : RollbackRequest) :
    Ensures anyReply (ending request.Safe (fun _ => request.Safe) request.Ends)
      (applyRollback request) [] := by
  have hempty : request.At {} [] := ⟨Program.allowed_nil, rfl⟩
  unfold applyRollback
  refine Ensures.handle
    (?_ : Ensures anyReply (ending request.Safe (fun _ => request.Safe) request.Ends) _ [])
    (fun _ hsafe => hsafe) ?_ fun _ _ hpost => hpost
  · have hauthorized : request.Stage (request.At {}) (authorizeApply request) _ :=
      stage_authorize
    refine Triple.bind hauthorized ?_ [] hempty
    rintro ⟨audit, results⟩
    refine stage_of_fact fun haudit => (stage_plan haudit).bind fun plan => ?_
    refine stage_of_exists fun restored => ?_
    intro trace hplanned
    exact stage_apply hplanned.1 trace hplanned.2
  · intro exit final hsafe
    cases exit with
    | refused results hfailed =>
        refine Program.ensures_pure.mpr ⟨hsafe, hsafe, fun hall => ?_⟩
        rw [hfailed] at hall
        exact Bool.noConfusion hall
    | raised text => exact Program.ensures_raise.mpr ⟨hsafe, hsafe⟩

/-- An applied rollback has issued permitted changes only, wherever it is cut off. -/
theorem apply_safe {outcome : Outcome String (List CommandResult)} {trace : List RollbackEvent}
    (hruns : Program.Runs anyReply (applyRollback request) [] outcome trace) :
    request.Safe trace := by
  have hfinal := (ensures_apply request).runs hruns
  cases outcome with
  | interrupted => exact hfinal
  | raised error => exact hfinal
  | returned results => exact hfinal.1

/-- Every run of an applied rollback, whatever is answered and wherever it is cut off, issues a
change only behind what `RollbackProgress.Permits` asks for. So nothing is masked, stopped,
installed, written, loaded or set before the snapshot, the solver and the module graph were
accepted, and nothing but the change of another file follows a failure. A package command or a file
change needs all four launchers observed inactive and masked, and `modprobe` and MIG commands need
this again behind the last of them. Results without a failure say that the packages, the files and
the modules of the snapshot were restored. -/
theorem apply_rollback_staged {request : RollbackRequest}
    {outcome : Outcome String (List CommandResult)} {trace : List RollbackEvent}
    (hruns : Program.Runs anyReply (applyRollback request) [] outcome trace) :
    (∀ before event after, trace = before ++ event :: after → event.op.changes = true →
      ∃ audit, request.currentAudit = some audit ∧
        (rollbackProgress request.snapshot before).Permits request.snapshot audit event.op) ∧
    ∀ results, outcome = .returned results → commandsSucceeded results = true →
      ∃ audit, request.currentAudit = some audit ∧
        (rollbackProgress request.snapshot trace).Completed request.snapshot audit := by
  refine ⟨apply_safe hruns, ?_⟩
  rintro results rfl
  exact ((ensures_apply request).runs hruns).2

/-! ## A sample run -/

theorem older_driver_ne_empty : "570.133.20" ≠ "" := by
  decide

/-- A host with four running launchers and an installed package that the snapshot does not have. -/
def restartedHost : HostAudit :=
  { auditUnits (convergedHost (some true) (some true)) fun _ => runningUnit with
    packages :=
      [{ name := "nvidia-utils", version := some "580.95.05-1", manager := some "apt"
         installed := true, architecture := some "amd64" }] }

/-- Its rollback to an older driver without a Docker configuration. -/
def restartedRollback : RollbackRequest where
  snapshot :=
    { path := some "/var/lib/nvidia-converge/snapshots/a.json"
      packages := []
      kernel := "6.8.0-60-generic"
      moduleVersion := some ⟨"570.133.20", older_driver_ne_empty⟩
      commands := []
      packageManager := some .aptGet
      moduleLoaded := true
      moduleNames := ["nvidia"]
      migMode := some .disabled
      launchers := restartedHost.launchers
      managedFiles :=
        [{ path := dockerConfigPath, existed := false, contentBase64 := none, mode := none }]
      packagePayloads := some { directory := "a", packages := [], totalSizeBytes := 0 }
      gpuUuids := restartedHost.gpuUuids }
  currentAudit := some restartedHost

/-- The host's answers: the units of an ideal systemd, and whether the configuration is gone. -/
def serveRestarted (state : (Launcher → SystemdUnit) × Bool) :
    (op : RollbackOp) → op.Reply × ((Launcher → SystemdUnit) × Bool)
  | .validateSnapshot => (.ok (), state)
  | .preflight => (.ok [], state)
  | .fileMatches _ => (state.2, state)
  | .targetMetadata _ => (.ok (some { regular := true, links := 1 }), state)
  | .moduleOrder => (.ok ["nvidia"], state)
  | .launcher op =>
      let answer := (systemd restartedHost).serve state.1 op
      (answer.1, answer.2, state.2)
  | .validatePayloads => (.ok (), state)
  | .package command => ({ command, returncode := some 0 }, state)
  | .writeFile _ _ => (.ok (), state)
  | .unlinkFile _ => (.ok (), state.1, true)
  | .modprobe arguments => ({ command := "modprobe" :: arguments, returncode := some 0 }, state)
  | .mig (.run command) => ({ command, returncode := some 0 }, state)
  | .mig .observe => (MigPhase.disabledAnswers false, state)

/-- Everything that this rollback issues on this host. -/
def restartedRun : List RollbackEvent :=
  Program.issued serveRestarted (applyRollback restartedRollback) (fun _ => runningUnit, false)

/-- The rollback of this host ends without a failure, and has replaced the module. -/
theorem apply_rollback_staged_restarted :
    (∃ audit, restartedRollback.currentAudit = some audit ∧
      (rollbackProgress restartedRollback.snapshot restartedRun).Completed
        restartedRollback.snapshot audit) ∧
      (rollbackProgress restartedRollback.snapshot restartedRun).modules =
        [["-r", "nvidia"], ["nvidia"]] := by
  have hruns : Program.Runs anyReply (applyRollback restartedRollback) [] _ ([] ++ restartedRun) :=
    Program.runs_issued serveRestarted (fun _ _ _ => rfl) (applyRollback restartedRollback)
      (fun _ => runningUnit, false) []
  have hends : (Program.run serveRestarted (applyRollback restartedRollback)
      (fun _ => runningUnit, false)).1.toOption.map commandsSucceeded = some true := by
    decide +kernel
  refine ⟨?_, by decide +kernel⟩
  cases hrun : (Program.run serveRestarted (applyRollback restartedRollback)
      (fun _ => runningUnit, false)).1 with
  | error text =>
      rw [hrun] at hends
      cases hends
  | ok results =>
      rw [hrun] at hends hruns
      exact (apply_rollback_staged hruns).2 results rfl (Option.some.inj hends)

end NvidiaConverge
