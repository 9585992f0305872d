import NvidiaConverge.Install.OrderRules

/-!
# The order of an install: up to the first change

The stages of the phases from the plan to the quarantine, and of the commands of plan actions. Every
phase keeps the state of the install (`InstallState.Holds`), and hands on what the next one needs as
long as no phase has failed (`InstallState.Behind`).
-/

namespace NvidiaConverge

open Program.Monitor (stage_return stage_error stage_operation stage_given)

variable {request : InstallRequest} {α : Type} {fail F : InstallProgress → Prop}
  {state : InstallState} {snapshot : RollbackSnapshot} {blame : Prop} {p : InstallProgress}

/-! ## The state of an install -/

/-- The state of an install behind this snapshot: its report has the results of every change, and,
where there is something to blame, an error that stays. -/
structure InstallState.Holds (state : InstallState) (snapshot : RollbackSnapshot) (blame : Prop)
    (p : InstallProgress) : Prop where
  same : state.snapshot = snapshot
  bound : p.Bound snapshot
  recorded : p.results ⊆ state.report.commandResults
  blamed : blame → state.report.Condemned

namespace InstallState

/-- The state holds behind what was shown since, where the snapshot stays bound and nothing was
changed. -/
theorem Holds.carry (h : state.Holds snapshot blame p) {next : InstallProgress}
    (hbound : next.Bound snapshot) (hresults : next.results = p.results) :
    state.Holds snapshot blame next where
  same := h.same
  bound := hbound
  recorded := by
    rw [hresults]
    exact h.recorded
  blamed := h.blamed

theorem Holds.stable : Stable (state.Holds snapshot blame) := by
  intro p h
  exact ⟨fun audit => h.carry h.bound rfl, h.carry h.bound rfl⟩

theorem Holds.restorable (h : state.Holds snapshot blame p) : Restorable p :=
  ⟨snapshot, h.bound⟩

theorem Holds.blameless (h : state.Holds snapshot blame p) : state.Holds snapshot False p :=
  ⟨h.same, h.bound, h.recorded, False.elim⟩

theorem Holds.add (h : state.Holds snapshot blame p) (entries : ReportEntries) :
    (state.add entries).Holds snapshot blame p where
  same := h.same
  bound := h.bound
  recorded := fun _ hmem => List.mem_append_left _ (h.recorded hmem)
  blamed := fun hblame => (h.blamed hblame).add entries

/-- Variables that the report does not depend on leave what holds. -/
theorem Holds.vary (h : state.Holds snapshot blame p) {other : InstallState}
    (hsame : other.snapshot = state.snapshot) (hreport : other.report = state.report) :
    other.Holds snapshot blame p :=
  ⟨hsame.trans h.same, h.bound, hreport ▸ h.recorded, hreport ▸ h.blamed⟩

/-- Behind a phase that succeeded; nothing is to blame yet. -/
def Behind (state : InstallState) (snapshot : RollbackSnapshot) (facts : InstallProgress → Prop)
    (p : InstallProgress) : Prop :=
  state.Holds snapshot False p ∧ (state.succeeded = true → facts p)

theorem Holds.failing (h : state.Holds snapshot False p) {facts : InstallProgress → Prop}
    (hfailed : state.succeeded = false) : state.Behind snapshot facts p :=
  ⟨h, fun hsucceeded => by rw [hfailed] at hsucceeded; cases hsucceeded⟩

/-- A state that holds also holds behind a refusal, with nothing more to promise. -/
theorem Holds.refuse (h : state.Holds snapshot False p) (entries : ReportEntries)
    {facts : InstallProgress → Prop} : (state.fail entries).Behind snapshot facts p := by
  have hholds : (state.fail entries).Holds snapshot False p := (h.add entries).vary rfl rfl
  exact hholds.failing rfl

/-- A phase that needs the ones before is skipped behind a failure. -/
theorem stage_while_succeeding {phase : InstallState → InstallProgram InstallState}
    {facts : InstallProgress → Prop} {following : InstallState → InstallProgress → Prop}
    (h : state.succeeded = true → request.Stage fail
      (fun p => state.Holds snapshot False p ∧ facts p) (phase state)
      fun state p => state.Behind snapshot (following state) p) :
    request.Stage fail (state.Behind snapshot facts) (state.whileSucceeding phase)
      fun state p => state.Behind snapshot (following state) p := by
  unfold whileSucceeding
  split
  · next hsucceeded =>
      exact (h hsucceeded).consequence (fun p hp => ⟨hp.1, hp.2 hsucceeded⟩) fun _ _ hp => hp
  · next hfailed =>
      exact stage_return fun p hp => hp.1.failing (Bool.eq_false_of_not_eq_true hfailed)

end InstallState

/-! ## The commands of a phase -/

/-- The commands of a phase: what holds while they succeed, with the commands that are left and the
results so far, and what holds behind one that failed. By induction on the commands. -/
theorem stage_run_commands (phase : ActionPhase)
    (going : List (List String) → List CommandResult → InstallProgress → Prop)
    (broken : List CommandResult → InstallProgress → Prop)
    (hbound : ∀ rest results p, going rest results p → Restorable p)
    (hop : ∀ command rest results p, going (command :: rest) results p →
      request.Permits p (.action phase command))
    (hgood : ∀ command rest results result p, going (command :: rest) results p →
      result.succeeded = true →
        going rest (results ++ [result]) (p.after ⟨.action phase command, some result⟩))
    (hbad : ∀ command rest results result p, going (command :: rest) results p →
      broken (results ++ [result]) (p.after ⟨.action phase command, some result⟩))
    (commands : List (List String)) (before : List CommandResult) :
    request.Stage Restorable (going commands before) (InstallState.runCommands phase commands)
      fun results p => if commandsSucceeded results then going [] (before ++ results) p
        else broken (before ++ results) p := by
  induction commands generalizing before with
  | nil =>
      refine stage_return fun p hp => ?_
      rwa [commands_succeeded_nil, if_pos rfl, List.append_nil]
  | cons command rest ih =>
      have hone : request.Stage Restorable (going (command :: rest) before)
          (attempt (.action phase command)) fun result p =>
            if result.succeeded then going rest (before ++ [result]) p
            else broken (before ++ [result]) p := by
        refine stage_issue (hbound _ _) (hop command rest before) fun p result hp => ?_
        split
        · next hsucceeded => exact hgood command rest before result p hp hsucceeded
        · exact hbad command rest before result p hp
      refine hone.bind fun result => ?_
      -- the first command that fails ends the phase
      show request.Stage _ _ (if result.succeeded = true then _ else _) _
      split
      · next hsucceeded =>
          refine (ih (before ++ [result])).bind fun results => stage_return fun p hp => ?_
          rwa [commands_succeeded_cons, hsucceeded, Bool.true_and, List.append_cons]
      · next hfailed =>
          refine stage_return fun p hp => ?_
          rwa [commands_succeeded_cons, Bool.eq_false_of_not_eq_true hfailed, Bool.false_and,
            if_neg Bool.false_ne_true]

/-- The snapshot is bound and these results are all there are. -/
structure ResultsKept (snapshot : RollbackSnapshot) (results : List CommandResult)
    (p : InstallProgress) : Prop where
  bound : p.Bound snapshot
  recorded : p.results ⊆ results

theorem ResultsKept.holds (h : ResultsKept snapshot state.report.commandResults p)
    (hsame : state.snapshot = snapshot) : state.Holds snapshot False p :=
  ⟨hsame, h.bound, h.recorded, False.elim⟩

theorem ResultsKept.changed {results : List CommandResult} (h : ResultsKept snapshot results p)
    (rank : Nat) (result : CommandResult) :
    ResultsKept snapshot (results ++ [result]) (p.changed rank result) where
  bound := h.bound
  recorded := by
    show p.results ++ [result] ⊆ results ++ [result]
    exact List.append_subset.mpr ⟨List.Subset.trans h.recorded (List.subset_append_left _ _),
      List.subset_append_right _ _⟩

namespace InstallRequest

variable {rank rank' : Nat}

theorem MayChange.mono (h : request.MayChange rank p) (hrank : rank ≤ rank') :
    request.MayChange rank' p :=
  ⟨h.allowed, h.fine, h.rank.trans hrank⟩

/-- Behind a change that succeeded another one of the same rank is permitted. -/
theorem MayChange.changed (h : request.MayChange rank p) {result : CommandResult}
    (hsucceeded : result.succeeded = true) : request.MayChange rank (p.changed rank result) where
  allowed := h.allowed
  fine := by
    show (p.failed || !result.succeeded) = false
    rw [h.fine, hsucceeded]
    rfl
  rank := Nat.le_refl rank

theorem MayChange.stable : Stable (request.MayChange rank) :=
  fun _ h => ⟨fun _ => ⟨h.allowed, h.fine, h.rank⟩, ⟨h.allowed, h.fine, h.rank⟩⟩

/-- A change of the target behind the packages may be issued. -/
structure MayGoOn (request : InstallRequest) (rank : Nat) (p : InstallProgress) : Prop where
  change : request.MayChange rank p
  quiet : p.quiet = true

theorem MayGoOn.mono (h : request.MayGoOn rank p) (hrank : rank ≤ rank') :
    request.MayGoOn rank' p :=
  ⟨h.change.mono hrank, h.quiet⟩

theorem MayGoOn.changed (h : request.MayGoOn rank p) {result : CommandResult}
    (hsucceeded : result.succeeded = true) : request.MayGoOn rank (p.changed rank result) :=
  ⟨h.change.changed hsucceeded, h.quiet⟩

theorem MayGoOn.stable : Stable (request.MayGoOn rank) := by
  refine fun p h => ⟨fun audit => ⟨(MayChange.stable p h.change).1 audit, ?_⟩,
    ⟨(MayChange.stable p h.change).2, h.quiet⟩⟩
  show (p.quiet || audit.launchersQuarantined) = true
  rw [h.quiet, Bool.true_or]

end InstallRequest

/-- The actions of a phase behind the packages. -/
theorem stage_later_actions (phase : ActionPhase) (hphase : phase ≠ .packages)
    (actions : List PlanAction) :
    request.Stage Restorable
      (fun p => state.Holds snapshot False p ∧ request.MayGoOn phase.rank p)
      (state.runPlanActions phase actions) fun state p =>
        state.Behind snapshot (request.MayGoOn phase.rank) p := by
  have hafter (command : List String) (result : CommandResult) (p : InstallProgress) :
      p.after ⟨.action phase command, some result⟩ = p.changed phase.rank result := by
    cases phase with
    | packages => exact absurd rfl hphase
    | _ => rfl
  have hrun : request.Stage Restorable
      (fun p => ResultsKept snapshot state.report.commandResults p ∧ request.MayGoOn phase.rank p)
      (InstallState.runCommands phase (actions.flatMap (·.commands))) fun results p =>
        if commandsSucceeded results then
          ResultsKept snapshot (state.report.commandResults ++ results) p ∧
            request.MayGoOn phase.rank p
        else ResultsKept snapshot (state.report.commandResults ++ results) p := by
    refine stage_run_commands phase
      (fun _ results p => ResultsKept snapshot results p ∧ request.MayGoOn phase.rank p)
      (ResultsKept snapshot) ?_ ?_ ?_ ?_ _ _
    · exact fun _ _ p hp => ⟨snapshot, hp.1.bound⟩
    · intro command _ _ p hp
      cases phase with
      | packages => exact absurd rfl hphase
      | _ => exact ⟨⟨snapshot, hp.1.bound⟩, hp.2.change, hp.2.quiet⟩
    · intro command _ _ result p hp hsucceeded
      rw [hafter]
      exact ⟨hp.1.changed _ _, hp.2.changed hsucceeded⟩
    · intro command _ _ result p hp
      rw [hafter]
      exact hp.1.changed _ _
  refine stage_given (fun p hp => hp.1.same) fun hsame => ?_
  refine Program.Monitor.Stage.bind (hrun.consequence (fun p hp => ?_) fun _ _ hp => hp)
    fun results => stage_return fun p hp => ?_
  · exact ⟨⟨hp.1.bound, hp.1.recorded⟩, hp.2⟩
  · split at hp
    · exact ⟨hp.1.holds hsame, fun _ => hp.2⟩
    · next hfailed =>
        exact ⟨hp.holds hsame, fun hsucceeded => absurd hsucceeded hfailed⟩

/-! ## Before the quarantine -/

/-- Nothing of the target was changed so far. -/
structure Untouched (p : InstallProgress) : Prop where
  fine : p.failed = false
  rank : p.rank = 0
  results : p.results = []
  packages : p.packages = []

theorem Untouched.stable : Stable Untouched :=
  fun _ h =>
    ⟨fun _ => ⟨h.fine, h.rank, h.results, h.packages⟩, h.fine, h.rank, h.results, h.packages⟩

/-- An exception before the quarantine says nothing. -/
def Unknown (_ : InstallProgress) : Prop :=
  True

theorem stage_plan_fresh :
    request.Stage Unknown Untouched request.planFresh fun _ => Untouched := by
  refine (stage_stable_audit (fun _ _ => trivial) Untouched.stable).bind fun audit => ?_
  dsimp only
  split
  · exact stage_error fun _ _ => trivial
  · exact stage_return fun _ hp => hp

theorem stage_refuse_unsupported (report : InstallReport) (results : List CommandResult) :
    request.Stage Unknown F (InstallRequest.refuseUnsupported report results) fun _ => F := by
  unfold InstallRequest.refuseUnsupported
  split
  · exact stage_error fun _ _ => trivial
  · exact stage_return fun _ hp => hp

theorem stage_authorize_install :
    request.Stage Unknown Untouched request.authorizeInstall fun _ => Untouched := by
  have haudit : request.Stage Unknown Untouched auditHost fun _ => Untouched :=
    stage_stable_audit (fun _ _ => trivial) Untouched.stable
  refine haudit.bind fun _ => stage_plan_fresh.bind ?_
  rintro ⟨audit, report⟩
  refine (stage_refuse_unsupported report []).bind fun _ => ?_
  show request.Stage _ _ (if _ then _ else _) _
  split
  -- no action is disruptive, and the first plan is kept
  · exact stage_return fun _ hp => hp
  · have hgate : request.Stage Unknown Untouched
        (request.authorizationGate audit (disruptiveActions report.plan)) fun _ => Untouched := by
      refine (stage_probe audit fun _ _ => trivial).bind fun probe => ?_
      show request.Stage _ _ (if _ then _ else _) _
      split <;> exact stage_return fun _ hp => hp
    refine hgate.bind fun gate => ?_
    show request.Stage _ _ (if _ then _ else _) _
    split
    · exact stage_error fun _ _ => trivial
    · refine stage_plan_fresh.bind ?_
      rintro ⟨audit, report⟩
      exact (stage_refuse_unsupported report _).bind fun _ => stage_return fun _ hp => hp

theorem stage_preflight_packages (audit : HostAudit) (report : InstallReport)
    (maintenance : List CommandResult) :
    request.Stage Unknown Untouched (InstallRequest.preflightPackages audit report maintenance)
      fun _ => Untouched := by
  unfold InstallRequest.preflightPackages
  split
  · have hinstall : request.Stage Unknown Untouched (attempt (.preflightInstall audit))
        fun _ => Untouched :=
      stage_attempt (fun _ _ => trivial) (fun _ _ => trivial) fun _ _ hp => hp
    refine hinstall.bind fun verdict => ?_
    cases verdict with
    | error refusal => exact stage_error fun _ _ => trivial
    | ok results =>
        dsimp only
        split
        · exact stage_error fun _ _ => trivial
        · next manager _ =>
            have hforward : request.Stage Unknown Untouched
                (attempt (.forwardPackages manager results)) fun _ => Untouched :=
              stage_attempt (fun _ _ => trivial) (fun _ _ => trivial) fun _ _ hp => hp
            refine hforward.bind fun verdict => ?_
            cases verdict with
            | error refusal => exact stage_error fun _ _ => trivial
            | ok forward => exact stage_return fun _ hp => hp
  · exact stage_return fun _ hp => hp

/-- Persisting the snapshot changes nothing of the target, and binds the snapshot where it
returns. -/
theorem stage_persist_snapshot (audit : HostAudit) (report : InstallReport)
    (maintenance : List CommandResult) (forward : List PackageInfo) :
    request.Stage Unknown Untouched
      (InstallRequest.persistSnapshot audit report maintenance forward) fun persisted p =>
        Untouched p ∧ p.snapshot = some persisted.1 := by
  have hcreate : request.Stage Unknown Untouched (attempt (.createSnapshot audit forward))
      fun verdict p => Untouched p ∧ ∀ persisted, verdict = .ok persisted →
        p.snapshot = some persisted.1 := by
    refine stage_attempt (fun _ _ => trivial) (fun _ _ => trivial) fun p verdict hp => ?_
    cases verdict with
    | error text => exact ⟨hp, fun _ h => by cases h⟩
    | ok persisted =>
        refine ⟨⟨hp.fine, hp.rank, hp.results, hp.packages⟩, fun _ h => ?_⟩
        cases h
        rfl
  refine hcreate.bind fun verdict => ?_
  cases verdict with
  | error text => exact stage_error fun _ _ => trivial
  | ok persisted => exact stage_return fun p hp => ⟨hp.1, hp.2 persisted rfl⟩

theorem stage_preflight_retained (audit : HostAudit) (report : InstallReport)
    (results : List CommandResult) :
    request.Stage Unknown (fun p => Untouched p ∧ p.snapshot = some snapshot)
      (InstallRequest.preflightRetained audit snapshot report results) fun _ p =>
        Untouched p ∧ p.Bound snapshot := by
  unfold InstallRequest.preflightRetained
  split
  · exact stage_error fun _ _ => trivial
  · next plan _ =>
      have hstaged : request.Stage Unknown (fun p => Untouched p ∧ p.snapshot = some snapshot)
          (attempt (.preflightStaged audit plan)) fun _ p =>
            Untouched p ∧ p.snapshot = some snapshot := by
        refine stage_attempt (fun _ _ => trivial) (fun _ _ => trivial) fun p verdict hp => ?_
        cases verdict with
        | error refusal => exact hp
        | ok staged => exact ⟨⟨hp.1.fine, hp.1.rank, hp.1.results, hp.1.packages⟩, hp.2⟩
      refine hstaged.bind fun verdict => ?_
      cases verdict with
      | error refusal => exact stage_error fun _ _ => trivial
      | ok staged =>
          have hrestore : request.Stage Unknown (fun p => Untouched p ∧ p.snapshot = some snapshot)
              (attempt .preflightRestore) fun verdict p =>
                Untouched p ∧ ∀ restored, verdict = .ok restored → p.Bound snapshot := by
            refine stage_attempt (fun _ _ => trivial) (fun _ _ => trivial) fun p verdict hp => ?_
            cases verdict with
            | error refusal => exact ⟨hp.1, fun _ h => by cases h⟩
            | ok restored =>
                exact ⟨⟨hp.1.fine, hp.1.rank, hp.1.results, hp.1.packages⟩, fun _ _ => ⟨hp.2, rfl⟩⟩
          refine hrestore.bind fun verdict => ?_
          cases verdict with
          | error refusal => exact stage_error fun _ _ => trivial
          | ok restored => exact stage_return fun p hp => ⟨hp.1, hp.2 restored rfl⟩

/-! ## The quarantine -/

/-- The phase's audit is the last one, and shows every launcher inactive and masked. -/
structure Shown (audit : HostAudit) (p : InstallProgress) : Prop where
  last : p.last = some audit
  quarantined : audit.launchersQuarantined = true
  quiet : p.quiet = true

/-- The checkpoint changes nothing of the target, and shows the launchers at rest where it
passes. -/
theorem stage_checkpoint (state : InstallState) (snapshot : RollbackSnapshot) (blame : Prop)
    (hstable : Stable F) :
    request.Stage Restorable (fun p => state.Holds snapshot blame p ∧ F p)
      (request.checkpoint state) fun state p =>
        state.Holds snapshot blame p ∧ F p ∧
          (state.succeeded = true → Shown state.phaseAudit p) := by
  have hbound : ∀ p, state.Holds snapshot blame p ∧ F p → Restorable p :=
    fun p hp => hp.1.restorable
  refine (stage_pre_gpu_mutation_checkpoint state.report.findings state.guard hbound
    (InstallState.Holds.stable.and hstable)).bind fun checkpoint => stage_return fun p hp => ?_
  refine ⟨(hp.1.1.add checkpoint.entries).vary rfl rfl, hp.1.2, fun hok => ?_⟩
  obtain ⟨hlast, hquarantined, hquiet⟩ := hp.2 hok
  exact ⟨hlast, hquarantined, hquiet⟩

/-- A checkpoint keeps the state of an install. -/
theorem stage_held_checkpoint :
    request.Stage Restorable (state.Holds snapshot blame) (request.checkpoint state)
      fun held => held.Holds snapshot blame := by
  have htrue : Stable fun _ => True := fun _ _ => ⟨fun _ => trivial, trivial⟩
  exact (stage_checkpoint state snapshot blame htrue).consequence (fun _ hp => ⟨hp, trivial⟩)
    fun _ _ hp => hp.1

/-- What holds behind a checkpoint of an install that may still change the host. -/
structure Enclosed (request : InstallRequest) (audit : HostAudit) (p : InstallProgress) : Prop where
  allowed : request.allowDisruption = true
  untouched : Untouched p
  shown : Shown audit p

/-- The quarantine is entered with the snapshot bound and the target untouched. -/
theorem stage_enter_quarantine (audit : HostAudit) (report : InstallReport)
    (maintenance : List CommandResult) (persisted : CommandResult) :
    request.Stage Restorable (fun p => Untouched p ∧ p.Bound snapshot)
      (request.enterQuarantine audit snapshot report maintenance persisted) fun state p =>
        state.Behind snapshot (Enclosed request state.phaseAudit) p := by
  have hstable : Stable fun p => Untouched p ∧ p.Bound snapshot :=
    Untouched.stable.and fun p h => ⟨fun _ => h, h⟩
  have hbound : ∀ p, Untouched p ∧ p.Bound snapshot → Restorable p :=
    fun p hp => ⟨snapshot, hp.2⟩
  refine (stage_maintenance_gate audit (disruptiveActions report.plan) hbound hstable).bind
    fun gate => ?_
  -- nothing was changed, so every report has the results of the changes
  have hholds (p : InstallProgress) (hp : Untouched p ∧ p.Bound snapshot) (state : InstallState)
      (hsame : state.snapshot = snapshot) : state.Holds snapshot False p :=
    ⟨hsame, hp.2, by rw [hp.1.results]; exact List.nil_subset _, False.elim⟩
  show request.Stage _ _ (if _ then _ else if _ then _ else _) _
  split
  · exact stage_return fun p hp => (hholds p hp.1 _ rfl).failing rfl
  · next hguard =>
      split
      · have hquarantine : request.Stage Restorable (fun p => Untouched p ∧ p.Bound snapshot)
            (orEmergency (launchers quarantineFailedMaintenanceGate)) fun _ p =>
              Untouched p ∧ p.Bound snapshot :=
          stage_or_emergency (stage_quarantine_failed_gate hbound hstable)
        refine (hquarantine.consequence (fun p hp => hp.1) fun _ _ hp => hp).bind fun boundary => ?_
        exact stage_return fun p hp => (hholds p hp _ rfl).failing rfl
      · refine stage_given (fun p hp => hp.2 hguard) fun hallowed => ?_
        refine (stage_checkpoint _ snapshot False Untouched.stable).consequence (fun p hp => ?_)
          fun state p hp => ?_
        · exact ⟨hholds p hp.1 _ rfl, hp.1.1⟩
        · exact ⟨hp.1, fun hsucceeded => ⟨hallowed, hp.2.1, hp.2.2 hsucceeded⟩⟩

/-- A boundary that passes shows the audit of the phase to be safe. -/
theorem stage_boundary (facts : HostAudit → InstallProgress → Prop) (name : BoundaryName)
    (hbaseline : ∀ audit p known, facts audit p → facts audit { p with baseline := known }) :
    request.Stage Restorable
      (fun p => state.Holds snapshot False p ∧ facts state.phaseAudit p) (state.boundary name)
      fun state p => state.Behind snapshot (fun p =>
        facts state.phaseAudit p ∧ BoundarySafe snapshot state.phaseAudit name p) p := by
  refine stage_given (fun p hp => hp.1.same) fun hsame => ?_
  have hfresh : request.Stage Restorable
      (fun p => state.Holds snapshot False p ∧ facts state.phaseAudit p)
      (freshGpuBoundaryIsSafe state.snapshot state.phaseAudit name) fun verdict p =>
        (state.Holds snapshot False p ∧ facts state.phaseAudit p) ∧
          (verdict.1 = true → BoundarySafe state.snapshot state.phaseAudit name p) := by
    refine stage_fresh_boundary state.snapshot state.phaseAudit name
      (fun p hp => hp.1.restorable) fun p known hp => ⟨?_, hbaseline _ p known hp.2⟩
    exact hp.1.carry hp.1.bound rfl
  refine hfresh.bind ?_
  rintro ⟨safe, entries⟩
  refine stage_return fun p hp => ⟨(hp.1.1.add entries).vary rfl rfl, fun hsafe => ⟨hp.1.2, ?_⟩⟩
  rw [← hsame]
  exact hp.2 hsafe

/-- The quarantined host was found to be the snapshot's. -/
structure Examined (request : InstallRequest) (snapshot : RollbackSnapshot) (audit : HostAudit)
    (p : InstallProgress) : Prop where
  enclosed : Enclosed request audit p
  safe : BoundarySafe snapshot audit .prePackage p

theorem stage_fresh_plan :
    request.Stage Restorable
      (fun p => state.Holds snapshot False p ∧ Examined request snapshot state.phaseAudit p)
      (request.freshPlan state) fun state p => state.Behind snapshot (fun p =>
        Examined request snapshot state.phaseAudit p ∧
          request.PlanOf snapshot state.phaseAudit state.report.plan) p := by
  refine stage_given (fun p hp => hp.1.same) fun hsame => ?_
  unfold InstallRequest.freshPlan
  split
  · exact stage_error fun p hp => hp.1.restorable
  · next plan hplan =>
      split
      · exact stage_return fun p hp => hp.1.refuse _
      · next hsupported =>
          split
          · exact stage_return fun p hp => hp.1.refuse _
          · next bound hbind =>
              refine stage_return fun p hp => ⟨?_, fun _ => ⟨hp.2, plan, hplan, ?_, ?_⟩⟩
              · exact ⟨hp.1.same, hp.1.bound, hp.1.recorded, hp.1.blamed⟩
              · exact Bool.eq_false_of_not_eq_true hsupported
              · rw [← hsame]
                exact hbind

/-- What a preflight of a phase makes of its state. -/
theorem InstallState.Holds.preflighted (h : state.Holds snapshot blame p)
    (name accepted refused : String) (finding : String → Finding)
    (verdict : Except SolverRefusal (List CommandResult)) :
    (state.preflighted name accepted refused finding verdict).Holds snapshot blame p := by
  cases verdict with
  | error refusal => exact (h.add _).vary rfl rfl
  | ok results => exact h.add _

/-- The retained payloads carry the plan of the quarantined host. -/
theorem stage_accept (facts : HostAudit → List PlanAction → InstallProgress → Prop)
    (name accepted refused : String) (finding : String → Finding)
    (hfacts : ∀ audit plan p known,
      facts audit plan p → facts audit plan { p with accepted := known }) :
    request.Stage Restorable
      (fun p => state.Holds snapshot False p ∧ facts state.phaseAudit state.report.plan p)
      (attempt (.preflightStaged state.phaseAudit state.report.plan) >>= fun verdict =>
        pure (state.preflighted name accepted refused finding verdict))
      fun state p => state.Behind snapshot (fun p => facts state.phaseAudit state.report.plan p ∧
        p.accepted = some (state.phaseAudit, state.report.plan)) p := by
  have hstaged : request.Stage Restorable
      (fun p => state.Holds snapshot False p ∧ facts state.phaseAudit state.report.plan p)
      (attempt (.preflightStaged state.phaseAudit state.report.plan)) fun verdict p =>
        state.Holds snapshot False p ∧ ∀ results, verdict = .ok results →
          facts state.phaseAudit state.report.plan p ∧
            p.accepted = some (state.phaseAudit, state.report.plan) := by
    refine stage_issue (fun p hp => hp.1.restorable) (fun _ _ => trivial) fun p verdict hp => ?_
    cases verdict with
    | error refusal => exact ⟨hp.1, fun _ h => by cases h⟩
    | ok results =>
        exact ⟨hp.1.carry hp.1.bound rfl, fun _ _ => ⟨hfacts _ _ p _ hp.2, rfl⟩⟩
  refine hstaged.bind fun verdict => stage_return fun p hp => ?_
  have hholds := hp.1.preflighted name accepted refused finding verdict
  cases verdict with
  | error refusal => exact hholds.failing rfl
  | ok results => exact ⟨hholds, fun _ => hp.2 results rfl⟩

theorem Examined.accept {audit : HostAudit} (h : Examined request snapshot audit p)
    (known : Option (HostAudit × List PlanAction)) :
    Examined request snapshot audit { p with accepted := known } where
  enclosed :=
    { allowed := h.enclosed.allowed
      untouched :=
        ⟨h.enclosed.untouched.fine, h.enclosed.untouched.rank, h.enclosed.untouched.results,
          h.enclosed.untouched.packages⟩
      shown := ⟨h.enclosed.shown.last, h.enclosed.shown.quarantined, h.enclosed.shown.quiet⟩ }
  safe := ⟨h.safe.inventory, h.safe.gpus, h.safe.quarantined, h.safe.baseline⟩

/-- The quarantined host and its plan, which the retained payloads carry. -/
structure PlanPassed (request : InstallRequest) (snapshot : RollbackSnapshot) (audit : HostAudit)
    (plan : List PlanAction) (p : InstallProgress) : Prop where
  examined : Examined request snapshot audit p
  planned : request.PlanOf snapshot audit plan
  accepted : hasAction "install.packages" plan = true → p.accepted = some (audit, plan)

theorem stage_fresh_preflight :
    request.Stage Restorable
      (fun p => state.Holds snapshot False p ∧
        Examined request snapshot state.phaseAudit p ∧
          request.PlanOf snapshot state.phaseAudit state.report.plan)
      (InstallRequest.freshPreflight state) fun state p => state.Behind snapshot
        (PlanPassed request snapshot state.phaseAudit state.report.plan) p := by
  unfold InstallRequest.freshPreflight
  split
  · refine (stage_accept (fun audit plan p => Examined request snapshot audit p ∧
      request.PlanOf snapshot audit plan) _ _ _ _ fun audit plan p known h => ?_).consequence
      (fun p hp => hp) fun state p hp => ?_
    · exact ⟨h.1.accept known, h.2⟩
    · refine ⟨hp.1, fun hsucceeded => ?_⟩
      obtain ⟨hfacts, haccepted⟩ := hp.2 hsucceeded
      exact ⟨hfacts.1, hfacts.2, fun _ => haccepted⟩
  · next hnone =>
      exact stage_return fun p hp => ⟨hp.1, fun _ => ⟨hp.2.1, hp.2.2, fun h => absurd h hnone⟩⟩

/-- The quarantined host, from which the rollback resolves as well. -/
structure Qualified (request : InstallRequest) (snapshot : RollbackSnapshot) (audit : HostAudit)
    (plan : List PlanAction) (p : InstallProgress) : Prop where
  change : request.MayChange 0 p
  packages : p.packages = []
  quiet : p.quiet = true
  baseline : p.baseline = some audit
  rollbackable : p.rollbackable = some (audit, some audit)
  quarantined : audit.launchersQuarantined = true
  gpus : audit.gpuUuids = snapshot.gpuUuids
  planned : request.PlanOf snapshot audit plan

/-- The package commands of a plan may start. -/
structure CanInstall (request : InstallRequest) (snapshot : RollbackSnapshot) (audit : HostAudit)
    (plan : List PlanAction) (p : InstallProgress) : Prop where
  qualified : Qualified request snapshot audit plan p
  accepted : hasAction "install.packages" plan = true → p.accepted = some (audit, plan)

theorem CanInstall.may_install {audit : HostAudit} {plan : List PlanAction}
    (h : CanInstall request snapshot audit plan p) : request.MayInstall snapshot plan p where
  change := h.qualified.change
  base := ⟨audit, h.qualified.baseline, h.qualified.rollbackable, h.qualified.quarantined,
    h.qualified.gpus, h.qualified.planned, h.accepted⟩

/-- A fresh preflight of the rollback qualifies the plan for its package commands. -/
theorem stage_fresh_rollback_preflight :
    request.Stage Restorable
      (fun p => state.Holds snapshot False p ∧
        PlanPassed request snapshot state.phaseAudit state.report.plan p)
      (InstallRequest.freshRollbackPreflight state) fun state p => state.Behind snapshot
        (CanInstall request snapshot state.phaseAudit state.report.plan) p := by
  have hpreflight : request.Stage Restorable
      (fun p => state.Holds snapshot False p ∧
        PlanPassed request snapshot state.phaseAudit state.report.plan p)
      (attempt (.preflightRollback state.phaseAudit)) fun verdict p =>
        state.Holds snapshot False p ∧ ∀ results, verdict = .ok results →
          CanInstall request snapshot state.phaseAudit state.report.plan p := by
    refine stage_issue (fun p hp => hp.1.restorable) (fun _ _ => trivial) fun p verdict hp => ?_
    cases verdict with
    | error refusal => exact ⟨hp.1, fun _ h => by cases h⟩
    | ok results =>
        obtain ⟨hholds, ⟨henclosed, hsafe⟩, hplan, haccepted⟩ := hp
        -- nothing was issued since the audit, so the rollback resolves from the host as it is
        refine ⟨hholds.carry hholds.bound rfl, fun _ _ => ⟨?_, haccepted⟩⟩
        have hrollbackable : some (state.phaseAudit, p.last) =
            some (state.phaseAudit, some state.phaseAudit) := by rw [henclosed.shown.last]
        exact
          { change := ⟨henclosed.allowed, henclosed.untouched.fine, henclosed.untouched.rank.le⟩
            packages := henclosed.untouched.packages
            quiet := henclosed.shown.quiet
            baseline := hsafe.baseline rfl
            rollbackable := hrollbackable
            quarantined := hsafe.quarantined
            gpus := hsafe.gpus
            planned := hplan }
  refine hpreflight.bind fun verdict => stage_return fun p hp => ?_
  have hholds := hp.1.preflighted "rollback.post-quarantine-preflight"
    "The exact rollback delta remains resolvable from the fresh quarantined baseline."
    "The exact rollback delta is no longer safely resolvable." .freshRollbackPreflightFailed verdict
  cases verdict with
  | error refusal => exact hholds.failing rfl
  | ok results => exact ⟨hholds, fun _ => hp.2 results rfl⟩

/-- The quarantine of an install ends where the package commands may start, or has failed. -/
theorem stage_install_quarantine (audit : HostAudit) (report : InstallReport)
    (maintenance : List CommandResult) (persisted : CommandResult) :
    request.Stage Restorable (fun p => Untouched p ∧ p.Bound snapshot)
      (request.quarantine audit snapshot report maintenance persisted) fun state p =>
        state.Behind snapshot
          (CanInstall request snapshot state.phaseAudit state.report.plan) p := by
  refine (stage_enter_quarantine audit report maintenance persisted).bind fun state => ?_
  refine Program.Monitor.Stage.bind (InstallState.stage_while_succeeding fun _ =>
    stage_boundary (Enclosed request) .prePackage fun audit p known h => ?_) fun state => ?_
  · exact ⟨h.allowed, ⟨h.untouched.fine, h.untouched.rank, h.untouched.results,
      h.untouched.packages⟩, h.shown.last, h.shown.quarantined, h.shown.quiet⟩
  have hplan := InstallState.stage_while_succeeding fun _ =>
    @stage_fresh_plan request state snapshot
  refine Program.Monitor.Stage.bind (hplan.consequence (fun p hp => ⟨hp.1, fun hsucceeded => ?_⟩)
    fun _ _ hp => hp) fun state => ?_
  · obtain ⟨henclosed, hsafe⟩ := hp.2 hsucceeded
    exact ⟨henclosed, hsafe⟩
  refine (InstallState.stage_while_succeeding fun _ => stage_fresh_preflight).bind fun state => ?_
  refine (InstallState.stage_while_succeeding fun _ => stage_fresh_rollback_preflight).bind
    fun state => stage_return fun p hp => ⟨hp.1.vary rfl rfl, fun hsucceeded => ?_⟩
  exact hp.2 (Bool.and_eq_true_iff.mp hsucceeded).1

/-- The beginning of an install ends where the package commands may start, or has failed. -/
theorem stage_begin :
    request.Stage Unknown Untouched request.begin fun state p => state.Behind state.snapshot
      (CanInstall request state.snapshot state.phaseAudit state.report.plan) p := by
  refine stage_authorize_install.bind ?_
  rintro ⟨audit, report, maintenance⟩
  refine (stage_preflight_packages audit report maintenance).bind ?_
  rintro ⟨forward, report⟩
  refine (stage_persist_snapshot audit report maintenance forward).bind ?_
  rintro ⟨snapshot, persisted⟩
  refine (stage_preflight_retained audit _ _).bind fun report => ?_
  refine (stage_install_quarantine audit report maintenance persisted).mono
    (fun _ _ => trivial) (fun _ hp => hp) fun state p hp => ?_
  rw [hp.1.same]
  exact hp

end NvidiaConverge
