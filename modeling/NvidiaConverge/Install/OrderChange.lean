import NvidiaConverge.Install.OrderQuarantine

/-!
# The order of an install: the changes

The stages of the phases that change the host, from the packages to the configuration of Docker. A
phase that succeeds hands on that nothing has failed so far.
-/

namespace NvidiaConverge

open Program.Monitor (stage_return stage_error stage_given)

variable {request : InstallRequest} {state : InstallState} {snapshot : RollbackSnapshot}
  {p : InstallProgress}

/-! ## The packages -/

theorem stage_immediate_preflight :
    request.Stage Restorable
      (fun p => state.Holds snapshot False p ∧
        CanInstall request snapshot state.phaseAudit state.report.plan p)
      (InstallRequest.immediatePreflight state) fun state p => state.Behind snapshot
        (CanInstall request snapshot state.phaseAudit state.report.plan) p := by
  unfold InstallRequest.immediatePreflight
  split
  · refine (stage_accept (Qualified request snapshot) _ _ _ _
      fun audit plan p known h => ?_).consequence
      (fun p hp => ⟨hp.1, hp.2.qualified⟩) fun state p hp => ⟨hp.1, fun hsucceeded => ?_⟩
    · exact
        { change := ⟨h.change.allowed, h.change.fine, h.change.rank⟩
          packages := h.packages, quiet := h.quiet, baseline := h.baseline
          rollbackable := h.rollbackable, quarantined := h.quarantined, gpus := h.gpus
          planned := h.planned }
    · obtain ⟨hqualified, haccepted⟩ := hp.2 hsucceeded
      exact ⟨hqualified, fun _ => haccepted⟩
  · exact stage_return fun p hp => ⟨hp.1, fun _ => hp.2⟩

theorem InstallRequest.MayInstall.changed {plan : List PlanAction}
    (h : request.MayInstall snapshot plan p) (command : List String) {result : CommandResult}
    (hsucceeded : result.succeeded = true) :
    request.MayInstall snapshot plan (p.after ⟨.action .packages command, some result⟩) where
  change :=
    have hchanged := h.change.changed hsucceeded
    ⟨hchanged.allowed, hchanged.fine, hchanged.rank⟩
  base := h.base

/-- The package commands, with those that are left and the results so far. -/
structure Installing (request : InstallRequest) (snapshot : RollbackSnapshot)
    (plan : List PlanAction) (rest : List (List String)) (results : List CommandResult)
    (p : InstallProgress) : Prop where
  recorded : ResultsKept snapshot results p
  may : request.MayInstall snapshot plan p
  quiet : p.packages = [] → p.quiet = true
  commands : p.packages ++ rest = preModuleCommands plan

/-- Behind a package command that succeeded the installation goes on with the rest. -/
theorem Installing.next {plan : List PlanAction} {command : List String}
    {rest : List (List String)} {results : List CommandResult} {result : CommandResult}
    (h : Installing request snapshot plan (command :: rest) results p)
    (hsucceeded : result.succeeded = true) :
    Installing request snapshot plan rest (results ++ [result])
      (p.after ⟨.action .packages command, some result⟩) where
  recorded :=
    have hchanged := h.recorded.changed 0 result
    ⟨hchanged.bound, hchanged.recorded⟩
  may := h.may.changed command hsucceeded
  quiet hnone := by simp [InstallProgress.after] at hnone
  commands := by
    show p.packages ++ [command] ++ rest = _
    rw [List.append_assoc]
    exact h.commands

/-- The package commands of the plan are issued in order, up to the first that fails. -/
theorem stage_package_commands (plan : List PlanAction) (before : List CommandResult) :
    request.Stage Restorable (Installing request snapshot plan (preModuleCommands plan) before)
      (InstallState.runCommands .packages (preModuleCommands plan)) fun results p =>
        if commandsSucceeded results then
          Installing request snapshot plan [] (before ++ results) p
        else ResultsKept snapshot (before ++ results) p := by
  refine stage_run_commands .packages (Installing request snapshot plan) (ResultsKept snapshot)
    ?_ ?_ ?_ ?_ _ _
  · exact fun _ _ p hp => ⟨snapshot, hp.recorded.bound⟩
  · intro command rest _ p hp
    refine ⟨snapshot, plan, hp.recorded.bound, hp.may, hp.quiet, rest, ?_⟩
    rw [List.append_assoc]
    exact hp.commands
  · exact fun command rest _ result p hp hsucceeded => hp.next hsucceeded
  · intro command rest _ result p hp
    have hchanged := hp.recorded.changed 0 result
    exact ⟨hchanged.bound, hchanged.recorded⟩

/-- The installation of packages is permitted, and what follows it may change the GPU. -/
theorem stage_install_packages :
    request.Stage Restorable
      (fun p => state.Holds snapshot False p ∧
        CanInstall request snapshot state.phaseAudit state.report.plan p)
      (InstallRequest.runPackages state) fun state p =>
        state.Behind snapshot (request.MayChange 0) p := by
  unfold InstallRequest.runPackages
  split
  · exact stage_return fun p hp => ⟨hp.1, fun _ => hp.2.qualified.change⟩
  · refine stage_given (fun p hp => hp.1.same) fun hsame => ?_
    have hcommands := @stage_package_commands request snapshot state.report.plan
      state.report.commandResults
    refine Program.Monitor.Stage.bind (hcommands.consequence (fun p hp => ?_) fun _ _ hp => hp)
      fun results => stage_return fun p hp => ?_
    · refine ⟨⟨hp.1.bound, hp.1.recorded⟩, hp.2.may_install, fun _ => hp.2.qualified.quiet, ?_⟩
      rw [hp.2.qualified.packages, List.nil_append]
    · split at hp
      · exact ⟨hp.recorded.holds hsame, fun _ => hp.may.change⟩
      · next hfailed =>
          exact ⟨hp.holds hsame, fun hsucceeded => absurd hsucceeded hfailed⟩

/-- The phases behind the packages, whose launchers stay quarantined. -/
theorem stage_going_boundary (rank : Nat) (name : BoundaryName) :
    request.Stage Restorable (fun p => state.Holds snapshot False p ∧ request.MayGoOn rank p)
      (state.boundary name) fun state p => state.Behind snapshot (request.MayGoOn rank) p := by
  refine (stage_boundary (fun _ => request.MayGoOn rank) name fun _ p known h => ?_).consequence
    (fun _ hp => hp) fun state p hp => ⟨hp.1, fun hsucceeded => (hp.2 hsucceeded).1⟩
  exact ⟨⟨h.change.allowed, h.change.fine, h.change.rank⟩, h.quiet⟩

theorem stage_going_audited (rank : Nat) :
    request.Stage Restorable (fun p => state.Holds snapshot False p ∧ request.MayGoOn rank p)
      state.audited fun state p => state.Holds snapshot False p ∧ request.MayGoOn rank p := by
  have haudit : request.Stage Restorable
      (fun p => state.Holds snapshot False p ∧ request.MayGoOn rank p) auditHost
      fun _ p => state.Holds snapshot False p ∧ request.MayGoOn rank p :=
    stage_stable_audit (fun p hp => hp.1.restorable)
      (InstallState.Holds.stable.and InstallRequest.MayGoOn.stable)
  exact haudit.bind fun audit => stage_return fun p hp => ⟨hp.1.vary rfl rfl, hp.2⟩

/-- The actions of a phase, and the fresh audit behind them. -/
theorem stage_actions_audited {rank : Nat} (phase : ActionPhase) (hphase : phase ≠ .packages)
    (hrank : rank ≤ phase.rank) (actions : List PlanAction) :
    request.Stage Restorable (fun p => state.Holds snapshot False p ∧ request.MayGoOn rank p)
      (state.runPlanActions phase actions >>= fun state =>
        state.whileSucceeding InstallState.audited)
      fun state p => state.Behind snapshot (request.MayGoOn phase.rank) p := by
  have hactions := @stage_later_actions request state snapshot phase hphase actions
  refine (hactions.consequence (fun p hp => ⟨hp.1, hp.2.mono hrank⟩) fun _ _ hp => hp).bind
    fun state => InstallState.stage_while_succeeding fun _ => ?_
  exact (stage_going_audited phase.rank).consequence (fun _ hp => hp) fun _ p hp =>
    ⟨hp.1, fun _ => hp.2⟩

/-- The second checkpoint, which every install goes through that is one of Docker's. -/
theorem stage_close_packages (hdocker : request.desired.containerRuntime = "docker") :
    request.Stage Restorable (fun p => state.Holds snapshot False p ∧ request.MayChange 0 p)
      (request.closePackages state) fun state p =>
        state.Behind snapshot (request.MayGoOn 0) p := by
  unfold InstallRequest.closePackages
  show request.Stage _ _ (if _ then _ else _) _
  rw [if_pos (Or.inr (Or.inr hdocker))]
  have hcheckpoint : request.Stage Restorable
      (fun p => state.Holds snapshot False p ∧ request.MayChange 0 p) (request.checkpoint state)
      fun state p => state.Behind snapshot (request.MayGoOn 0) p :=
    (stage_checkpoint state snapshot False InstallRequest.MayChange.stable).consequence
      (fun _ hp => hp) fun state p hp =>
        ⟨hp.1, fun hsucceeded => ⟨hp.2.1, (hp.2.2 hsucceeded).quiet⟩⟩
  exact hcheckpoint.bind fun state => InstallState.stage_while_succeeding fun _ =>
    stage_going_boundary 0 _

theorem stage_teardown_mig :
    request.Stage Restorable (state.Behind snapshot (request.MayGoOn 0))
      (InstallRequest.teardownMig state) fun state p =>
        state.Behind snapshot (request.MayGoOn 1) p := by
  unfold InstallRequest.teardownMig
  show request.Stage _ _ (if _ then _ else if _ then _ else _) _
  split
  · exact stage_return fun p hp => hp.1.refuse _
  · have hplan (p : InstallProgress) (hp : state.Behind snapshot (request.MayGoOn 0) p)
        (plan : List PlanAction) :
        ({ state with report := { state.report with plan } } : InstallState).Behind snapshot
          (request.MayGoOn 0) p :=
      ⟨⟨hp.1.same, hp.1.bound, hp.1.recorded, hp.1.blamed⟩, hp.2⟩
    split
    · refine stage_return fun p hp => ⟨(hplan p hp _).1, fun hsucceeded => ?_⟩
      exact (hp.2 hsucceeded).mono (Nat.zero_le 1)
    · refine Program.Monitor.Stage.consequence (InstallState.stage_while_succeeding fun _ =>
        stage_actions_audited .teardown (by decide) (Nat.zero_le 1) _) (fun p hp => hplan p hp _)
          fun _ _ hp => hp

/-! ## The module -/

theorem ResultsKept.more {results : List CommandResult} (h : ResultsKept snapshot results p)
    (more : List CommandResult) : ResultsKept snapshot (results ++ more) p :=
  ⟨h.bound, fun _ hmem => List.mem_append_left _ (h.recorded hmem)⟩

/-- The results of two parts are kept as those of both together. -/
theorem ResultsKept.assoc {before results more : List CommandResult}
    (h : ResultsKept snapshot (before ++ results ++ more) p) :
    ResultsKept snapshot (before ++ (results ++ more)) p := by
  rw [← List.append_assoc]
  exact h

/-- The results before a part are recorded, and so far nothing failed. -/
def Loading (request : InstallRequest) (snapshot : RollbackSnapshot) (before : List CommandResult)
    (p : InstallProgress) : Prop :=
  ResultsKept snapshot before p ∧ request.MayGoOn 2 p

/-- A `modprobe` is permitted while modules are loaded, and its result is kept. -/
theorem stage_run_modprobe (arguments : List String) (before : List CommandResult) :
    request.Stage Restorable (Loading request snapshot before) (runModprobe arguments)
      fun ran p => ResultsKept snapshot (before ++ ran.2) p ∧
        (ran.1.succeeded = true → request.MayGoOn 2 p) := by
  have havailable : request.Stage Restorable (Loading request snapshot before)
      (attempt (.available "modprobe")) fun _ => Loading request snapshot before :=
    stage_issue (fun p hp => ⟨snapshot, hp.1.bound⟩) (fun _ _ => trivial) fun _ _ hp => hp
  refine havailable.bind fun available => ?_
  show request.Stage _ _ (if available = true then _ else _) _
  split
  · have hmodprobe : request.Stage Restorable (Loading request snapshot before)
        (attempt (.modprobe arguments)) fun result p =>
          ResultsKept snapshot (before ++ [result]) p ∧
            (result.succeeded = true → request.MayGoOn 2 p) := by
      refine stage_issue (fun p hp => ⟨snapshot, hp.1.bound⟩)
        (fun p hp => ⟨⟨snapshot, hp.1.bound⟩, hp.2.change, hp.2.quiet⟩) fun p result hp => ?_
      exact ⟨hp.1.changed 2 result, fun hsucceeded => hp.2.changed hsucceeded⟩
    exact hmodprobe.bind fun result => stage_return fun p hp => hp
  · exact stage_return fun p hp => ⟨hp.1.more [], fun _ => hp.2⟩

/-- The last result of a load says whether every module was loaded. By induction on the modules. -/
theorem stage_load_stack (modules : List String) (before : List CommandResult) :
    request.Stage Restorable (Loading request snapshot before) (loadStack modules) fun loaded p =>
      ResultsKept snapshot (before ++ loaded.2) p ∧
        (loaded.1.any (fun result => result.returncode == some 0) = true →
          request.MayGoOn 2 p) := by
  induction modules generalizing before with
  | nil => exact stage_return fun p hp => ⟨hp.1.more [], fun h => by cases h⟩
  | cons module modules ih =>
      refine (stage_run_modprobe [module] before).bind ?_
      rintro ⟨result, results⟩
      show request.Stage _ _ (if _ then _ else _) _
      split
      · next hgoing =>
          refine Program.Monitor.Stage.bind ((ih (before ++ results)).consequence
            (fun p hp => ⟨hp.1, hp.2 hgoing.2⟩) fun _ _ hp => hp) ?_
          rintro ⟨last, more⟩
          exact stage_return fun p hp => ⟨hp.1.assoc, hp.2⟩
      -- the last module, or one that was not loaded
      · refine stage_return fun p hp => ⟨hp.1, fun hlast => hp.2 ?_⟩
        have hcode : (result.returncode == some 0) = true := hlast
        rw [CommandResult.succeeded, hcode, Bool.true_or]

/-- What the preparation of the module says of its check. -/
def Loaded (request : InstallRequest) (snapshot : RollbackSnapshot) (before : List CommandResult)
    (prepared : ReportedCheck × List CommandResult) (p : InstallProgress) : Prop :=
  ResultsKept snapshot (before ++ prepared.2) p ∧ (prepared.1.ok = true → request.MayGoOn 2 p)

theorem stage_reload_stack (order : List String) (before results : List CommandResult) :
    request.Stage Restorable (Loading request snapshot (before ++ results))
      (reloadStack order results) (Loaded request snapshot before) := by
  refine (stage_load_stack _ (before ++ results)).bind ?_
  rintro ⟨last, more⟩
  exact stage_return fun p hp => ⟨hp.1.assoc, hp.2⟩

theorem stage_prepare_stack (audit : HostAudit) (forceReload : Bool) (before : List CommandResult) :
    request.Stage Restorable (Loading request snapshot before) (prepareStack audit forceReload)
      (Loaded request snapshot before) := by
  unfold prepareStack
  split
  · have horder : request.Stage Restorable (Loading request snapshot before) (attempt .moduleOrder)
        fun _ => Loading request snapshot before :=
      stage_issue (fun p hp => ⟨snapshot, hp.1.bound⟩) (fun _ _ => trivial) fun _ _ hp => hp
    refine horder.bind ?_
    -- the order is refused, empty, or begins with a module
    rintro (reason | _ | ⟨module, modules⟩)
    · exact stage_return fun p hp => ⟨hp.1.more [], fun h => by cases h⟩
    · exact (stage_reload_stack [] before []).consequence (fun p hp => ⟨hp.1.more [], hp.2⟩)
        fun _ _ hp => hp
    · refine (stage_run_modprobe ("-r" :: module :: modules) before).bind ?_
      rintro ⟨unload, results⟩
      show request.Stage _ _ (if unload.succeeded = true then _ else _) _
      split
      · next hunloaded =>
          exact (stage_reload_stack (module :: modules) before results).consequence
            (fun p hp => ⟨hp.1, hp.2 hunloaded⟩) fun _ _ hp => hp
      · exact stage_return fun p hp => ⟨hp.1, fun h => by cases h⟩
  · split
    · exact stage_return fun p hp => ⟨hp.1.more [], fun _ => hp.2⟩
    · refine (stage_load_stack ["nvidia"] before).bind ?_
      rintro ⟨last, results⟩
      exact stage_return fun p hp => hp

/-- What the install goes on with behind the preparation of the module: a preparation that waits for
a reboot is not ready, and nothing failed behind one that does not wait. -/
structure Preparation.Sound (preparation : Preparation) (request : InstallRequest)
    (snapshot : RollbackSnapshot) (p : InstallProgress) : Prop where
  holds : preparation.state.Holds snapshot False p
  ready : preparation.ready = true → preparation.rebootPending = false
  fine : preparation.state.succeeded = true → preparation.rebootPending = false →
    request.MayGoOn 2 p

theorem stage_prepare_module :
    request.Stage Restorable (state.Behind snapshot (request.MayGoOn 1))
      (request.prepareModule state) fun preparation => preparation.Sound request snapshot := by
  unfold InstallRequest.prepareModule
  split
  · next hplanned =>
      refine stage_given (fun p hp => hp.1.same) fun hsame => ?_
      have hstack : request.Stage Restorable (state.Behind snapshot (request.MayGoOn 1))
          (prepareStack state.phaseAudit state.moduleResetPlanned)
          (Loaded request snapshot state.report.commandResults) := by
        refine (stage_prepare_stack _ _ _).consequence (fun p hp => ?_) fun _ _ hp => hp
        exact ⟨⟨hp.1.bound, hp.1.recorded⟩, (hp.2 hplanned.1).mono (Nat.le_succ 1)⟩
      refine hstack.bind ?_
      rintro ⟨check, results⟩
      have hholds (p : InstallProgress) (hp : Loaded request snapshot state.report.commandResults
          (check, results) p) : (state.add { results }).Holds snapshot False p :=
        hp.1.holds hsame
      show request.Stage _ _ (if check.ok = true then _ else _) _
      split
      · next hok =>
          exact stage_return fun p hp => ⟨hholds p hp, fun _ => rfl, fun _ _ => hp.2 hok⟩
      · next hbroken =>
          have haudit : request.Stage Restorable
              (Loaded request snapshot state.report.commandResults (check, results)) auditHost
              fun _ p => (state.add { results }).Holds snapshot False p :=
            stage_audit (fun p hp => (hholds p hp).restorable) fun p audit hp =>
              (InstallState.Holds.stable p (hholds p hp)).1 audit
          refine haudit.bind fun audit => stage_return fun p hp => ⟨hp.vary rfl rfl, ?_, ?_⟩
          · exact fun hready => absurd hready hbroken
          -- what goes on behind a check that failed waits for a reboot
          · intro hsucceeded hpending
            exact absurd (hsucceeded.symm.trans hpending) (by decide)
  · refine stage_return fun p hp => ⟨hp.1, fun _ => rfl, fun hsucceeded _ => ?_⟩
    exact (hp.2 hsucceeded).mono (Nat.le_succ 1)

/-! ## MIG -/

theorem succeeded_of_not_failed {result : CommandResult} (h : ¬ result.failed = true) :
    result.succeeded = true := by
  unfold CommandResult.failed at h
  unfold CommandResult.succeeded
  cases hcode : result.returncode with
  | none => rfl
  | some code =>
      rw [hcode] at h
      simpa using h

/-- The MIG commands behind these results: as long as none fails, the next one may be issued. -/
def Executing (request : InstallRequest) (snapshot : RollbackSnapshot)
    (results : List CommandResult)
    (p : InstallProgress) : Prop :=
  ResultsKept snapshot results p ∧ request.MayGoOn 3 p

/-- What the MIG commands end with: their results are kept, and success lets the install go on. -/
def Executed (request : InstallRequest) (snapshot : RollbackSnapshot) (before : List CommandResult)
    (outcome : MigOutcome) (p : InstallProgress) : Prop :=
  ResultsKept snapshot (before ++ outcome.results) p ∧
    (outcome.success = true → request.MayGoOn 3 p)

theorem Executing.more {results : List CommandResult}
    (h : Executing request snapshot results p) (more : List CommandResult) :
    Executing request snapshot (results ++ more) p :=
  ⟨h.1.more more, h.2⟩

theorem stage_mig_command (command : List String) (results : List CommandResult) :
    request.Stage Restorable (Executing request snapshot results)
      (attempt (.mig (.run command))) fun result p =>
        ResultsKept snapshot (results ++ [result]) p ∧
          (result.succeeded = true → request.MayGoOn 3 p) := by
  refine stage_issue (fun p hp => ⟨snapshot, hp.1.bound⟩)
    (fun p hp => ⟨⟨snapshot, hp.1.bound⟩, hp.2.change, hp.2.quiet⟩) fun p result hp => ?_
  exact ⟨hp.1.changed 3 result, fun hsucceeded => hp.2.changed hsucceeded⟩

theorem stage_mig_audit (results : List CommandResult) :
    request.Stage Restorable (Executing request snapshot results)
      (attempt (.mig .auditHost)) fun _ => Executing request snapshot results := by
  refine stage_issue (fun p hp => ⟨snapshot, hp.1.bound⟩) (fun _ _ => trivial)
    fun p audit hp => ⟨⟨hp.1.bound, hp.1.recorded⟩, ?_⟩
  exact (InstallRequest.MayGoOn.stable p hp.2).1 audit

/-- The loop over the MIG commands, behind the results so far: by induction on the commands that are
left. -/
theorem stage_mig_commands (desired : DesiredState) (expected : List String)
    (commands : List (List String)) (current : HostAudit) (before results : List CommandResult) :
    request.Stage Restorable (Executing request snapshot (before ++ results))
      (attempts InstallOp.mig (fun _ answer => answer)
        (executeMigCommands desired expected commands current results))
      (Executed request snapshot before) := by
  induction commands generalizing current results with
  | nil => exact stage_return fun p hp => ⟨hp.1, fun _ => hp.2⟩
  | cons command commands ih =>
      rw [executeMigCommands]
      split
      -- a geometry is not created before the mode is enabled
      · split
        · exact stage_return fun p hp => ⟨hp.1, fun _ => hp.2⟩
        · exact stage_return fun p hp => ⟨(hp.1.more _).assoc, fun h => by cases h⟩
      · show request.Stage _ _ (attempts _ _ (Program.issue (MigOp.run command) _)) _
        rw [attempts_issue]
        refine (stage_mig_command command (before ++ results)).bind fun result => ?_
        show request.Stage _ _ (attempts _ _ (if result.failed = true then _ else _)) _
        split
        · exact stage_return fun p hp => ⟨hp.1.assoc, fun h => by cases h⟩
        · next hran =>
            show request.Stage _ _ (attempts _ _ (Program.issue MigOp.auditHost _)) _
            rw [attempts_issue]
            have haudit : request.Stage Restorable (fun p =>
                ResultsKept snapshot (before ++ results ++ [result]) p ∧
                  (result.succeeded = true → request.MayGoOn 3 p)) (attempt (.mig .auditHost))
                fun _ => Executing request snapshot (before ++ (results ++ [result])) :=
              (stage_mig_audit _).consequence
                (fun p hp => ⟨hp.1.assoc, hp.2 (succeeded_of_not_failed hran)⟩) fun _ _ hp => hp
            refine haudit.bind fun fresh => ?_
            show request.Stage _ _ (attempts _ _ (if _ then _ else _)) _
            split
            -- the fresh audit is not complete, or shows other GPUs
            · exact stage_return fun p hp => ⟨(hp.1.more _).assoc, fun h => by cases h⟩
            · split
              -- behind a mode command: settled, staged for a reboot, or neither
              · split
                · exact ih fresh (results ++ [result])
                · split
                  · exact stage_return fun p hp => ⟨hp.1, fun _ => hp.2⟩
                  · exact stage_return fun p hp => ⟨(hp.1.more _).assoc, fun h => by cases h⟩
              · exact ih fresh (results ++ [result])

theorem stage_execute_mig (planned : InstallRequest.PlannedMig) :
    request.Stage Restorable (planned.state.Behind snapshot (request.MayGoOn 2))
      (request.executeMig planned) fun executed p =>
        executed.1.Behind snapshot (request.MayGoOn 3) p := by
  unfold InstallRequest.executeMig
  split
  · next hplanned =>
      refine stage_given (fun p hp => hp.1.same) fun hsame => ?_
      have hcommands : request.Stage Restorable (planned.state.Behind snapshot (request.MayGoOn 2))
          (attempts InstallOp.mig (fun _ answer => answer)
            (executeMigReconciliation request.desired planned.state.phaseAudit planned.actions))
          (Executed request snapshot planned.state.report.commandResults) := by
        refine (stage_mig_commands _ _ _ _ _ []).consequence (fun p hp => ?_) fun _ _ hp => hp
        rw [List.append_nil]
        exact ⟨⟨hp.1.bound, hp.1.recorded⟩, (hp.2 hplanned.1).mono (Nat.le_succ 2)⟩
      exact hcommands.bind fun outcome => stage_return fun p hp => ⟨hp.1.holds hsame, hp.2⟩
  · exact stage_return fun p hp => ⟨hp.1, fun hsucceeded => (hp.2 hsucceeded).mono (Nat.le_succ 2)⟩

theorem plan_mig_behind (h : state.Behind snapshot (request.MayGoOn 2) p) :
    (request.planMig state).state.Behind snapshot (request.MayGoOn 2) p := by
  unfold InstallRequest.planMig
  show InstallState.Behind (InstallRequest.PlannedMig.state (if _ then _ else _)) _ _ _
  split
  · refine ⟨⟨h.1.same, h.1.bound, fun _ hmem => ?_, False.elim⟩, fun hsucceeded => ?_⟩
    · exact List.mem_append_left _ (h.1.recorded hmem)
    · cases hsucceeded
  · exact ⟨⟨h.1.same, h.1.bound, h.1.recorded, False.elim⟩, h.2⟩

theorem stage_reconcile_mig (preparation : Preparation) :
    request.Stage Restorable (preparation.Sound request snapshot)
      (request.reconcileMig preparation) fun reconciled p =>
        reconciled.1.Holds snapshot False p ∧ (reconciled.1.succeeded = true →
          preparation.rebootPending = false → request.MayGoOn 3 p) := by
  unfold InstallRequest.reconcileMig
  split
  · next hready =>
      have haudit : request.Stage Restorable (preparation.Sound request snapshot)
          preparation.state.audited fun state p =>
            state.Holds snapshot False p ∧ request.MayGoOn 2 p :=
        (stage_going_audited 2).consequence
          (fun p hp => ⟨hp.holds, hp.fine hready.1 (hp.ready hready.2)⟩) fun _ _ hp => hp
      refine haudit.bind fun state => ?_
      refine (stage_going_boundary 2 .postModule).bind fun state => ?_
      split
      · exact (stage_execute_mig _).consequence (fun p hp => plan_mig_behind hp)
          fun executed p hp =>
          ⟨hp.1, fun hsucceeded _ => hp.2 hsucceeded⟩
      · exact stage_return fun p hp => ⟨hp.1, fun hsucceeded _ =>
          (hp.2 hsucceeded).mono (Nat.le_succ 2)⟩
  · exact stage_return fun p hp => ⟨hp.holds, fun hsucceeded hpending =>
      (hp.fine hsucceeded hpending).mono (Nat.le_succ 2)⟩

/-! ## Docker -/

theorem stage_configure_docker :
    request.Stage Restorable (fun p => state.Holds snapshot False p ∧ request.MayGoOn 3 p)
      (InstallRequest.configureDocker state) fun state p =>
        state.Behind snapshot (request.MayGoOn 4) p := by
  unfold InstallRequest.configureDocker
  show request.Stage _ _ (if _ then _ else _) _
  split
  · exact stage_return fun p hp => ⟨hp.1, fun _ => hp.2.mono (Nat.le_succ 3)⟩
  · have hactions := @stage_later_actions request state snapshot .docker (by decide)
      (dockerConfigurationActions state.report.plan)
    refine (hactions.consequence (fun p hp => ⟨hp.1, hp.2.mono (Nat.le_succ 3)⟩)
      fun _ _ hp => hp).bind fun state => ?_
    refine Program.Monitor.Stage.bind (InstallState.stage_while_succeeding fun _ =>
      (stage_going_audited 4).consequence (fun _ hp => hp) fun _ p hp => ⟨hp.1, fun _ => hp.2⟩)
        fun state => ?_
    exact InstallState.stage_while_succeeding fun _ => stage_going_boundary 4 .preServiceCommit

/-- Behind the changes: nothing has failed of a target that does not wait for a reboot. -/
def Changed (snapshot : RollbackSnapshot) (changed : InstallState × Bool) (p : InstallProgress) :
    Prop :=
  changed.1.Holds snapshot False p ∧
    (changed.1.succeeded = true → changed.2 = false → p.failed = false)

theorem stage_configure_ready (preparation : Preparation) (migPending : Bool) :
    request.Stage Restorable
      (fun p => state.Holds snapshot False p ∧ (state.succeeded = true →
        preparation.rebootPending = false → request.MayGoOn 3 p))
      (InstallRequest.configureReady preparation state migPending) fun state p =>
        Changed snapshot (state, preparation.rebootPending || migPending) p := by
  unfold InstallRequest.configureReady
  split
  · next hready =>
      refine Program.Monitor.Stage.consequence (InstallState.stage_while_succeeding fun _ =>
        stage_configure_docker) (fun p hp => ⟨hp.1, fun hsucceeded => hp.2 hsucceeded hready.2.1⟩)
          fun state p hp => ⟨hp.1, fun hsucceeded _ => (hp.2 hsucceeded).change.fine⟩
  · refine stage_return fun p hp => ⟨hp.1, fun hsucceeded hpending => ?_⟩
    exact (hp.2 hsucceeded (Bool.or_eq_false_iff.mp hpending).1).change.fine

/-! ## All changes -/

/-- The changes of an install are issued in their order, from the packages to Docker. -/
theorem stage_change (hdocker : request.desired.containerRuntime = "docker") :
    request.Stage Restorable
      (state.Behind snapshot (CanInstall request snapshot state.phaseAudit state.report.plan))
      (request.change state) (Changed snapshot) := by
  unfold InstallRequest.change
  refine (InstallState.stage_while_succeeding
    fun _ => stage_immediate_preflight).bind fun state => ?_
  refine (InstallState.stage_while_succeeding fun _ => stage_install_packages).bind fun state => ?_
  refine (InstallState.stage_while_succeeding fun _ => stage_close_packages hdocker).bind
    fun state => ?_
  refine stage_teardown_mig.bind fun state => ?_
  refine stage_prepare_module.bind fun preparation => ?_
  refine (stage_reconcile_mig preparation).bind ?_
  rintro ⟨state, migPending⟩
  refine (stage_configure_ready preparation migPending).bind fun state => ?_
  exact stage_return fun p hp => ⟨hp.1.add _, hp.2⟩

end NvidiaConverge
