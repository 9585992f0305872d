import NvidiaConverge.Install.OrderChange

/-!
# The order of an install: whole runs

The stages of the release of the launchers and of the compensation, and `install_ordered`: what
every run of an applied install issues, and what it has done when it reports success.
-/

namespace NvidiaConverge

open InstallRequest (CoreVerified)
open Program.Monitor (stage_return stage_error stage_given)

variable {request : InstallRequest} {state : InstallState} {snapshot : RollbackSnapshot}
  {blame : Prop} {p : InstallProgress} {F : InstallProgress → Prop}

/-! ## The release of the target -/

/-- The launchers were released for this target. -/
def ReleasedTo (target : RollbackSnapshot) (p : InstallProgress) : Prop :=
  p.committed = some target

/-- A commit of the launchers leaves what holds, where it is permitted. -/
theorem stage_commit (target : RollbackSnapshot) (audit : HostAudit)
    (hop : ∀ p, F p → request.Permits p (.commitLaunchers target audit state.guard)) :
    request.Stage Restorable (fun p => state.Holds snapshot blame p ∧ F p)
      (state.commitLaunchers target audit) fun committed p =>
        committed.1.Holds snapshot blame p ∧ (committed.2 = true → ReleasedTo target p) := by
  have hcommit : request.Stage Restorable (fun p => state.Holds snapshot blame p ∧ F p)
      (attempt (.commitLaunchers target audit state.guard)) fun commit p =>
        state.Holds snapshot blame p ∧ (commit.released = true → ReleasedTo target p) := by
    refine stage_issue (fun p hp => hp.1.restorable) (fun p hp => hop p hp.2) fun p commit hp => ?_
    refine ⟨hp.1.carry hp.1.bound rfl, fun hreleased => ?_⟩
    show (if commit.released then some target else none) = some target
    rw [if_pos hreleased]
  refine hcommit.bind fun commit => stage_return fun p hp => ⟨?_, hp.2⟩
  exact (hp.1.add commit.entries).vary rfl rfl

/-- The check of the Fabric Manager leaves what holds, and the launchers as they were released. -/
theorem stage_verify_fabric_manager (target : RollbackSnapshot) :
    request.Stage Restorable (fun p => state.Holds snapshot False p ∧ ReleasedTo target p)
      (request.verifyFabricManager state) fun verified p =>
        verified.1.Holds snapshot False p ∧ ReleasedTo target p := by
  unfold InstallRequest.verifyFabricManager
  split
  · have hchecks : request.Stage Restorable
        (fun p => state.Holds snapshot False p ∧ ReleasedTo target p)
        (attempt (.verifyStack state.phaseAudit false true)) fun _ p =>
          state.Holds snapshot False p ∧ ReleasedTo target p :=
      stage_issue (fun p hp => hp.1.restorable) (fun _ _ => trivial) fun _ _ hp => hp
    exact hchecks.bind fun checks => stage_return fun p hp => ⟨hp.1.add _, hp.2⟩
  · exact stage_return fun p hp => hp

/-- The verification behind a release, which changes nothing. -/
theorem stage_verify_released (target : RollbackSnapshot) :
    request.Stage Restorable (fun p => state.Holds snapshot False p ∧ ReleasedTo target p)
      (request.verifyReleased state) fun released p =>
        released.1.Holds snapshot False p ∧ (released.2 = true → ReleasedTo target p) := by
  refine (stage_verify_fabric_manager target).bind ?_
  rintro ⟨state, verified⟩
  show request.Stage _ _ (if verified = true then _ else _) _
  split
  · have hchecks : request.Stage Restorable
        (fun p => state.Holds snapshot False p ∧ ReleasedTo target p)
        (attempt (.verifyStack state.phaseAudit true false)) fun _ p =>
          state.Holds snapshot False p ∧ ReleasedTo target p :=
      stage_issue (fun p hp => hp.1.restorable) (fun _ _ => trivial) fun _ _ hp => hp
    exact hchecks.bind fun checks => stage_return fun p hp => ⟨hp.1.add _, fun _ => hp.2⟩
  · exact stage_return fun p hp => ⟨hp.1, fun h => by cases h⟩

/-- The release behind the verified core is permitted, and leaves the launchers released to the
target. -/
theorem stage_release_target (core : HostAudit) :
    request.Stage Restorable
      (fun p => state.Holds snapshot False p ∧ CoreVerified snapshot core p)
      (request.releaseTarget state core) fun released p =>
        released.1.Holds snapshot False p ∧ (released.2 = true →
          ReleasedTo (installLauncherTargetSnapshot snapshot request.desired) p) := by
  refine stage_given (fun p hp => hp.1.same) fun hsame => ?_
  have hauthorize : request.Stage Restorable
      (fun p => state.Holds snapshot False p ∧ CoreVerified snapshot core p)
      (attempt (.authorizeRelease .installTarget)) fun _ p => state.Holds snapshot False p ∧
        p.Bound snapshot ∧ p.authorized = some .installTarget ∧ CoreVerified snapshot core p := by
    refine stage_issue (fun p hp => hp.1.restorable)
      (fun p hp => ⟨snapshot, core, hp.1.bound, hp.2⟩) fun p _ hp => ?_
    exact ⟨hp.1.carry hp.1.bound rfl, hp.1.bound, rfl, hp.2.fine, hp.2.verified, hp.2.last,
      hp.2.quarantined, hp.2.gpus⟩
  refine hauthorize.bind fun _ => ?_
  rw [hsame]
  refine Program.Monitor.Stage.bind (stage_commit _ core fun p hp =>
    ⟨snapshot, hp.1, .inl ⟨hp.2.1, hp.2.2, rfl⟩⟩) ?_
  rintro ⟨state, released⟩
  show request.Stage _ _ (if released = true then _ else _) _
  split
  · next hreleased =>
      exact (stage_verify_released _).consequence (fun p hp => ⟨hp.1, hp.2 hreleased⟩)
        fun _ _ hp => hp
  · exact stage_return fun p hp => ⟨hp.1, fun h => by cases h⟩

theorem stage_hold_for_reboot :
    request.Stage Restorable (state.Holds snapshot False) (request.holdForReboot state)
      fun held p => held.1.Holds snapshot False p ∧ held.2 = false := by
  refine stage_held_checkpoint.bind fun held => stage_return fun p hp => ⟨?_, rfl⟩
  show InstallState.Holds (if _ then _ else _) _ _ _
  split
  · exact hp.add _
  · exact hp

/-- What is known of the core that is to be verified. -/
def Probed (snapshot : RollbackSnapshot) (state : InstallState) (core : HostAudit) (waits : Bool)
    (p : InstallProgress) : Prop :=
  state.Holds snapshot False p ∧ p.last = some core ∧
    (waits = false → p.failed = false)

/-- The core is verified where its boundary is safe and its checks pass. -/
theorem stage_core_checks {core : HostAudit} {waits : Bool}
    (hsafe : state.succeeded = true →
      core.launchersQuarantined = true ∧ core.gpuUuids = snapshot.gpuUuids) :
    request.Stage Restorable (Probed snapshot state core waits)
      (InstallRequest.coreChecks state core) fun checks p => state.Holds snapshot False p ∧
        (state.succeeded = true → checksPass checks = true → waits = false →
          CoreVerified snapshot core p) := by
  unfold InstallRequest.coreChecks
  split
  · next hsucceeded =>
      refine stage_issue (fun p hp => hp.1.restorable) (fun _ _ => trivial) fun p checks hp => ?_
      refine ⟨hp.1.carry hp.1.bound rfl, fun _ hpass hwaits =>
        ⟨hp.2.2 hwaits, ?_, hp.2.1, (hsafe hsucceeded).1, (hsafe hsucceeded).2⟩⟩
      show (if checksPass checks then some (core, p.last) else none) = _
      rw [if_pos hpass, hp.2.1]
  · next hfailed => exact stage_return fun p hp => ⟨hp.1, fun h => absurd h hfailed⟩

/-- The launchers are released for the target where the install reaches its verification. -/
theorem stage_verify_core (waits : Bool) :
    request.Stage Restorable (Changed snapshot (state, waits)) (request.verifyCore state waits)
      fun reached p => reached.1.Holds snapshot False p ∧ (reached.2 = true →
        ReleasedTo (installLauncherTargetSnapshot snapshot request.desired) p) := by
  unfold InstallRequest.verifyCore
  split
  · next hsucceeded =>
      refine stage_given (fun p hp => hp.1.same) fun hsame => ?_
      have haudit : request.Stage Restorable (Changed snapshot (state, waits)) auditHost
          fun core => Probed snapshot state core waits := by
        refine stage_audit (fun p hp => hp.1.restorable) fun p core hp => ?_
        exact ⟨(InstallState.Holds.stable p hp.1).1 core, rfl, hp.2 hsucceeded⟩
      refine haudit.bind fun core => ?_
      have hfresh : request.Stage Restorable (Probed snapshot state core waits)
          (freshGpuBoundaryIsSafe state.snapshot core .preServiceCommit) fun verdict p =>
            Probed snapshot state core waits p ∧
              (verdict.1 = true → BoundarySafe state.snapshot core .preServiceCommit p) := by
        refine stage_fresh_boundary state.snapshot core .preServiceCommit
          (fun p hp => hp.1.restorable) fun p known hp => ⟨?_, hp.2⟩
        exact hp.1.carry hp.1.bound rfl
      refine hfresh.bind ?_
      rintro ⟨safe, entries⟩
      refine stage_given (fun p hp hsafe => ?_) fun (hsafe : safe = true →
        core.launchersQuarantined = true ∧ core.gpuUuids = snapshot.gpuUuids) => ?_
      · have hboundary := hp.2 hsafe
        exact ⟨hboundary.quarantined, hsame ▸ hboundary.gpus⟩
      have hchecks := @stage_core_checks request { state.add entries with succeeded := safe }
        snapshot core waits hsafe
      refine Program.Monitor.Stage.bind (hchecks.consequence (fun p hp => ?_) fun _ _ hp => hp)
        fun checks => ?_
      · exact ⟨(hp.1.1.add entries).vary rfl rfl, hp.1.2⟩
      show request.Stage _ _ (if waits = true then _ else if _ then _ else _) _
      split
      -- a target that waits for a reboot keeps its launchers quarantined
      · exact stage_hold_for_reboot.consequence (fun p hp => hp.1.add _) fun held p hp =>
          ⟨hp.1, fun h => by rw [hp.2] at h; cases h⟩
      · next hwaits =>
          rw [Bool.not_eq_true] at hwaits
          split
          · next hverified =>
              exact (stage_release_target core).consequence
                (fun p hp => ⟨hp.1.add _, hp.2 hverified.1 hverified.2 hwaits⟩) fun _ _ hp => hp
          · exact stage_return fun p hp => ⟨hp.1.add _, fun h => by cases h⟩
  · exact stage_return fun p hp => ⟨hp.1, fun h => by cases h⟩

/-! ## The compensation -/

theorem stage_record_quiesced :
    request.Stage Restorable (state.Holds snapshot blame)
      (recordIntentionallyQuiescedServices state) fun state => state.Holds snapshot blame := by
  unfold recordIntentionallyQuiescedServices
  split
  · exact stage_return fun _ hp => hp
  · next guard _ =>
      split
      · exact stage_return fun _ hp => hp
      · have hbound : ∀ p, state.Holds snapshot blame p → Restorable p :=
          fun p hp => hp.restorable
        refine (stage_guarded hbound InstallState.Holds.stable
          (attempts_hold_requiesce guard)).bind ?_
        rintro ⟨guard, quiesced⟩
        exact stage_return fun p hp => (hp.add _).vary rfl rfl

theorem stage_retry_cleanup (checks : List ReportedCheck) (dockerActive : Option Bool)
    (hbound : ∀ p, F p → Restorable p) :
    request.Stage Restorable F (retryFailedProbeContainerCleanup checks dockerActive)
      fun _ => F := by
  unfold retryFailedProbeContainerCleanup
  split
  · exact stage_return fun _ hp => hp
  · split
    · exact stage_return fun _ hp => hp
    · split
      · exact stage_return fun _ hp => hp
      · next name _ =>
          have hremove : request.Stage Restorable F (attempt (.removeProbe name)) fun _ => F :=
            stage_issue hbound hbound fun _ _ hp => hp
          have habsence : request.Stage Restorable F (attempt (.probeAbsence name)) fun _ => F :=
            stage_issue hbound (fun _ _ => trivial) fun _ _ hp => hp
          exact hremove.bind fun _ => habsence.bind fun _ => stage_return fun _ hp => hp

/-- The boundary that a compensation starts from. -/
def Drained (snapshot : RollbackSnapshot) (drained : InstallState × Option HostAudit)
    (p : InstallProgress) : Prop :=
  drained.1.Holds snapshot True p ∧ ∀ audit, drained.2 = some audit →
    p.last = some audit ∧ audit.launchersQuarantined = true

/-- The drain before the compensation leaves the launchers at rest where it goes on. -/
theorem stage_drain :
    request.Stage Restorable (state.Holds snapshot True) (request.drainForCompensation state)
      (Drained snapshot) := by
  have hbound : ∀ p, state.Holds snapshot True p → Restorable p :=
    fun p hp => hp.restorable
  have haudit : request.Stage Restorable (state.Holds snapshot True) (orEmergency auditHost)
      fun _ => state.Holds snapshot True :=
    stage_or_emergency (stage_stable_audit hbound InstallState.Holds.stable)
  refine haudit.bind fun audit => (stage_retry_cleanup _ _ hbound).bind ?_
  rintro ⟨clean, cleanup⟩
  refine (stage_probe audit hbound).bind ?_
  rintro ⟨probe, workloads⟩
  refine (stage_or_emergency (stage_defer audit hbound
    InstallState.Holds.stable)).bind fun boundary => ?_
  show request.Stage _ _ (if boundary.ok = true then _ else _) _
  split
  · next hok =>
      refine (stage_probe boundary.audit fun p hp => hbound p hp.1).bind ?_
      rintro ⟨reprobe, workloads⟩
      dsimp only
      split
      -- something blocks the compensation, which then has no boundary to start from
      · exact stage_return fun p hp => ⟨((hp.1.add _).add _).add _, fun _ h => by cases h⟩
      · refine stage_return fun p hp => ⟨(hp.1.add _).add _, fun audit h => ?_⟩
        cases h
        obtain ⟨hlast, hquarantined, -⟩ := hp.2 hok
        exact ⟨hlast, hquarantined⟩
  · exact stage_return fun p hp => ⟨hp.1.add _, fun _ h => by cases h⟩

/-- The preparation of the compensation leaves the launchers at rest where it goes on. -/
theorem stage_prepare_compensation :
    request.Stage Restorable (state.Holds snapshot True)
      (request.prepareInstallCompensation state) (Drained snapshot) := by
  have hbound : ∀ p, state.Holds snapshot True p → Restorable p :=
    fun p hp => hp.restorable
  refine (stage_requiesce _ _ hbound InstallState.Holds.stable).bind ?_
  rintro ⟨quiesced, entries, guard⟩
  show request.Stage _ _ (if quiesced = true then _ else _) _
  split
  · exact stage_drain.consequence (fun p hp => (hp.add entries).vary rfl rfl) fun _ _ hp => hp
  · refine (stage_or_emergency (stage_quarantine_failed_gate hbound
      InstallState.Holds.stable)).bind fun boundary => stage_return fun p hp => ?_
    have hholds : InstallState.Holds { state.add entries with guard } snapshot True p :=
      (hp.add entries).vary rfl rfl
    exact ⟨hholds.add _, fun _ h => by cases h⟩

/-- The rollback was found to resolve from this audit of a quarantined host. -/
def RollbackFound (snapshot : RollbackSnapshot) (state : InstallState) (audit : HostAudit)
    (p : InstallProgress) : Prop :=
  state.Holds snapshot True p ∧ p.current = true ∧ p.rollbackable = some (audit, some audit) ∧
    audit.launchersQuarantined = true

/-- The rollback of a compensation, behind the audit from which it was found to resolve. -/
theorem stage_attempt_compensation (audit : HostAudit) :
    request.Stage Restorable
      (fun p => state.Holds snapshot True p ∧ p.last = some audit ∧
        audit.launchersQuarantined = true)
      (attemptCompensation state audit) fun attempted => attempted.1.Holds snapshot True := by
  unfold attemptCompensation
  split
  · exact stage_return fun p hp => hp.1.add _
  · next hinventory =>
      rw [Bool.not_eq_false] at hinventory
      have hpreflight : request.Stage Restorable
          (fun p => state.Holds snapshot True p ∧ p.last = some audit ∧
            audit.launchersQuarantined = true)
          (attempt (.preflightRollback audit)) fun verdict p =>
            state.Holds snapshot True p ∧ ∀ results, verdict = .ok results →
              RollbackFound snapshot state audit p := by
        refine stage_issue (fun p hp => hp.1.restorable) (fun _ _ => trivial)
          fun p verdict hp => ?_
        have hholds : state.Holds snapshot True
            (p.after ⟨.preflightRollback audit, some verdict⟩) := by
          cases verdict <;> exact hp.1.carry hp.1.bound rfl
        refine ⟨hholds, fun results h => ?_⟩
        subst h
        refine ⟨hholds, rfl, ?_, hp.2.2⟩
        show some (audit, p.last) = _
        rw [hp.2.1]
      refine hpreflight.bind fun verdict => ?_
      cases verdict with
      | error refusal => exact stage_return fun p hp => (hp.1.add _)
      | ok results =>
          have hrollback : request.Stage Restorable (RollbackFound snapshot state audit)
              (attempts InstallOp.rollback (fun _ answer => answer)
                (applyRollback { snapshot := state.snapshot, currentAudit := some audit }))
              fun _ => RollbackFound snapshot state audit := by
            refine stage_attempts (Program.issues_any _) (fun p hp => hp.1.restorable) ?_ ?_
            · intro p op _ hp _
              exact ⟨snapshot, audit, hp.1.bound, hp.2.1, hp.2.2.1, hp.2.2.2, hinventory⟩
            · intro p op answer _ hp
              -- a change of the rollback leaves what was found for it
              show RollbackFound snapshot state audit (if op.changes then _ else _)
              split
              · exact ⟨hp.1.carry hp.1.bound rfl, hp.2⟩
              · exact hp
          refine Program.Monitor.Stage.bind (hrollback.consequence (fun p hp => hp.2 results rfl)
            fun _ _ hp => hp) fun rollback => ?_
          show request.Stage _ _ (if _ then _ else _) _
          split
          · exact stage_return fun p hp => (hp.1.add _).add _
          · exact stage_return fun p hp => ((hp.1.add _).add _).add _

theorem stage_attempt_prepared (prepared : InstallState × Option HostAudit) :
    request.Stage Restorable (Drained snapshot prepared) (attemptPrepared prepared)
      fun attempted => attempted.1.Holds snapshot True := by
  obtain ⟨state, prepared⟩ := prepared
  cases prepared with
  | none => exact stage_return fun p hp => hp.1
  | some audit =>
      exact (stage_attempt_compensation audit).consequence (fun p hp => ⟨hp.1, hp.2 audit rfl⟩)
        fun _ _ hp => hp

/-- A compensation blames the install, with an error that every later diagnosis keeps. -/
theorem stage_compensate {finding : Finding} (herror : finding.isError = true)
    (hid : Text.startsWith finding.id "install." = true) :
    request.Stage Restorable (state.Holds snapshot blame) (request.compensate state finding)
      fun compensated => compensated.1.Holds snapshot True := by
  have hblamed : request.Stage Restorable (state.Holds snapshot blame)
      (request.prepareInstallCompensation (state.add finding.entries)) (Drained snapshot) := by
    refine stage_prepare_compensation.consequence (fun p hp => ?_) fun _ _ hp => hp
    have hadded := hp.add finding.entries
    refine ⟨hadded.same, hadded.bound, hadded.recorded, fun _ => ?_⟩
    exact InstallReport.condemned_of_entries ⟨finding, List.mem_singleton_self _, herror, hid⟩
  refine hblamed.bind fun prepared => (stage_attempt_prepared prepared).bind ?_
  rintro ⟨state, applied⟩
  show request.Stage _ _ (if applied = true then _ else _) _
  split
  · exact stage_return fun _ hp => hp
  · exact stage_record_quiesced.bind fun state => stage_return fun _ hp => hp

/-- Behind the compensation of an install: it is to blame, or released and not compensated. -/
def InstallSettled (request : InstallRequest) (snapshot : RollbackSnapshot)
    (settled : InstallState × Bool) (p : InstallProgress) : Prop :=
  settled.1.Holds snapshot False p ∧ (settled.1.report.Condemned ∨ (settled.2 = false ∧
    ReleasedTo (installLauncherTargetSnapshot snapshot request.desired) p))

theorem settled_of_blamed {settled : InstallState × Bool} (h : settled.1.Holds snapshot True p) :
    InstallSettled request snapshot settled p :=
  ⟨h.blameless, .inl (h.blamed trivial)⟩

/-- The compensation of a failed change is permitted, and settles the install. -/
theorem stage_compensate_mutation (reached : InstallState × Bool) :
    request.Stage Restorable (fun p => reached.1.Holds snapshot False p ∧ (reached.2 = true →
        ReleasedTo (installLauncherTargetSnapshot snapshot request.desired) p))
      (request.compensateMutation reached) (InstallSettled request snapshot) := by
  unfold InstallRequest.compensateMutation
  split
  · next hreached => exact stage_return fun p hp => ⟨hp.1, .inr ⟨rfl, hp.2 hreached⟩⟩
  · have hid : Text.startsWith "install.mutation-failed" "install." = true := by decide
    exact (stage_compensate (by rfl) hid).consequence (fun p hp => hp.1)
      fun _ _ hp => settled_of_blamed hp

/-- The install is settled, and what follows is about a fresh audit. -/
def Reaudited (request : InstallRequest) (snapshot : RollbackSnapshot)
    (settled : InstallState × Bool)
    (p : InstallProgress) : Prop :=
  InstallSettled request snapshot settled p ∧ p.last = some settled.1.phaseAudit

theorem stage_reaudit (applied : Bool) :
    request.Stage Restorable (InstallSettled request snapshot (state, applied)) state.audited
      fun audited p => Reaudited request snapshot (audited, applied) p ∧
        audited.report = state.report := by
  have haudit : request.Stage Restorable
      (InstallSettled request snapshot (state, applied)) auditHost
      fun audit p => InstallSettled request snapshot (state, applied) p ∧ p.last = some audit :=
    stage_audit (fun p hp => hp.1.restorable) fun p audit hp =>
      ⟨⟨(InstallState.Holds.stable p hp.1).1 audit, hp.2⟩, rfl⟩
  exact haudit.bind fun audit => stage_return fun p hp =>
    ⟨⟨⟨hp.1.1.vary rfl rfl, hp.1.2⟩, hp.2⟩, rfl⟩

theorem stage_rediagnosed (applied : Bool) :
    request.Stage Restorable (InstallSettled request snapshot (state, applied))
      (rediagnosed request.desired state) fun state =>
        Reaudited request snapshot (state, applied) := by
  refine (stage_reaudit applied).bind fun audited => stage_return fun p hp => ⟨⟨?_, ?_⟩, hp.1.2⟩
  · exact ⟨hp.1.1.1.same, hp.1.1.1.bound, hp.1.1.1.recorded, False.elim⟩
  · exact hp.1.1.2.imp_left fun h => h.rediagnose request.desired audited.phaseAudit

/-- The compensation of a failed verification is permitted, and settles the install. -/
theorem stage_compensate_verification (reached : Bool) (attempted : InstallState × Bool) :
    request.Stage Restorable (Reaudited request snapshot attempted)
      (request.compensateVerification reached attempted) (Reaudited request snapshot) := by
  unfold InstallRequest.compensateVerification
  show request.Stage _ _ (if _ then _ else _) _
  split
  · have hid : Text.startsWith "install.verification-failed" "install." = true := by decide
    have hcompensate : request.Stage Restorable (Reaudited request snapshot attempted)
        (request.compensate attempted.1 (.verificationFailed attempted.1.report))
        (InstallSettled request snapshot) :=
      (stage_compensate (by rfl) hid).consequence (fun p hp => hp.1.1)
        fun _ _ hp => settled_of_blamed hp
    refine hcompensate.bind ?_
    rintro ⟨state, applied⟩
    exact (stage_reaudit applied).bind fun audited => stage_return fun p hp => hp.1
  · exact stage_return fun _ hp => hp

/-! ## The verification of a compensation -/

/-- The release of the launchers to the baseline is permitted behind a verified rollback. -/
theorem stage_release_baseline (core : List ReportedCheck) :
    request.Stage Restorable (fun p => state.Holds snapshot True p ∧
        p.baseline = some state.phaseAudit ∧ p.last = some state.phaseAudit)
      (InstallRequest.releaseBaseline state core) fun released =>
        released.1.Holds snapshot True := by
  refine stage_given (fun p hp => hp.1.same) fun hsame => ?_
  have hauthorize : request.Stage Restorable (fun p => state.Holds snapshot True p ∧
        p.baseline = some state.phaseAudit ∧ p.last = some state.phaseAudit)
      (attempt (.authorizeRelease .rollbackBaseline)) fun _ p => state.Holds snapshot True p ∧
        p.Bound snapshot ∧ p.authorized = some .rollbackBaseline ∧
          p.baseline = some state.phaseAudit ∧ p.last = some state.phaseAudit := by
    refine stage_issue (fun p hp => hp.1.restorable)
      (fun p hp => ⟨snapshot, state.phaseAudit, hp.1.bound, hp.2⟩) fun p _ hp => ?_
    exact ⟨hp.1.carry hp.1.bound rfl, hp.1.bound, rfl, hp.2⟩
  have hcommit : request.Stage Restorable (fun p => state.Holds snapshot True p ∧
        p.Bound snapshot ∧ p.authorized = some .rollbackBaseline ∧
          p.baseline = some state.phaseAudit ∧ p.last = some state.phaseAudit)
      (state.commitLaunchers state.snapshot state.phaseAudit) fun committed =>
        committed.1.Holds snapshot True := by
    refine (stage_commit _ _ fun p hp => ⟨snapshot, hp.1, .inr ?_⟩).consequence
      (fun _ hp => hp) fun _ _ hp => hp.1
    exact ⟨hp.2.1, hp.2.2.1, hp.2.2.2, hsame⟩
  refine hauthorize.bind fun _ => hcommit.bind ?_
  rintro ⟨state, released⟩
  show request.Stage _ _ (if released = true then _ else _) _
  split
  -- the services are compared only behind a release
  · have hchecks : request.Stage Restorable (state.Holds snapshot True)
        (attempt (.verifyRollback state.phaseAudit true)) fun _ => state.Holds snapshot True :=
      stage_issue (fun p hp => hp.restorable) (fun _ _ => trivial) fun _ _ hp => hp
    exact hchecks.bind fun checks => stage_return fun p hp => hp.add _
  · exact stage_return fun p hp => hp

theorem stage_hold_compensation (rebootPending : Bool) :
    request.Stage Restorable (state.Holds snapshot True)
      (request.holdCompensation state rebootPending) fun held => held.Holds snapshot True := by
  refine stage_held_checkpoint.bind fun held => ?_
  split
  · refine stage_return fun p hp => ?_
    show InstallState.Holds (if _ then _ else _) _ _ _
    split
    · exact hp.add _
    · exact hp
  · split
    · exact stage_return fun p hp => hp.vary rfl rfl
    · refine stage_record_quiesced.bind fun state => ?_
      have haudit : request.Stage Restorable (state.Holds snapshot True) auditHost
          fun _ => state.Holds snapshot True :=
        stage_stable_audit (fun p hp => hp.restorable) InstallState.Holds.stable
      exact haudit.bind fun audit => stage_return fun p hp => hp.vary rfl rfl

theorem InstallState.Holds.concluded (h : state.Holds snapshot blame p) (failed : List String)
    (verified rebootPending : Bool) :
    (InstallRequest.concludeCompensation state failed verified rebootPending).Holds snapshot blame
      p := by
  unfold InstallRequest.concludeCompensation
  split
  · exact h.add _
  · split
    · exact h
    · exact h.add _

/-- The verification of a compensation is permitted, and leaves the failure in the report. -/
theorem stage_verify_compensation :
    request.Stage Restorable
      (fun p => state.Holds snapshot True p ∧ p.last = some state.phaseAudit)
      (request.verifyCompensation state) fun state => state.Holds snapshot True := by
  have hchecks : request.Stage Restorable
      (fun p => state.Holds snapshot True p ∧ p.last = some state.phaseAudit)
      (attempt (.verifyRollback state.phaseAudit false)) fun checks p =>
        state.Holds snapshot True p ∧ p.last = some state.phaseAudit ∧
          (checks.all (·.ok) = true → p.baseline = some state.phaseAudit) := by
    refine stage_issue (fun p hp => hp.1.restorable) (fun _ _ => trivial) fun p checks hp => ?_
    refine ⟨hp.1.carry hp.1.bound rfl, hp.2, fun hall => ?_⟩
    show (if checks.all (·.ok) then some state.phaseAudit else none) = _
    rw [if_pos hall]
  refine hchecks.bind fun checks => ?_
  show request.Stage _ _ (if checks.all (·.ok) = true then _ else _) _
  split
  · next hall =>
      refine Program.Monitor.Stage.bind ((stage_release_baseline checks).consequence
        (fun p hp => ⟨hp.1.add _, hp.2.2 hall, hp.2.1⟩) fun _ _ hp => hp) ?_
      rintro ⟨state, released⟩
      exact stage_return fun p hp => hp.concluded _ _ _
  · refine Program.Monitor.Stage.bind ((stage_hold_compensation _).consequence
      (fun p hp => hp.1.add _) fun _ _ hp => hp) fun held => ?_
    exact stage_return fun p hp => hp.concluded _ _ _

/-! ## Whole runs -/

/-- What an install has done when it returns success: the launchers were released for the target of
its snapshot, with nothing changed since, and every change of the target succeeded. -/
def InstallRequest.Concluded (request : InstallRequest) (concluded : InstallReport × Nat)
    (p : InstallProgress) : Prop :=
  concluded.2 = 0 →
    (∃ snapshot, p.Bound snapshot ∧
      ReleasedTo (installLauncherTargetSnapshot snapshot request.desired) p) ∧
    ∀ result ∈ p.results, result.succeeded = true

/-- An install that reports success has no failure in its report, and every result in it
succeeded. -/
theorem conclude_succeeds (h : (request.conclude state).2 = 0) :
    ¬ state.report.Condemned ∧ commandsSucceeded state.report.commandResults = true := by
  refine ⟨fun hcondemned => ?_, ?_⟩
  · exact ((hcondemned.add _).rediagnose request.desired state.phaseAudit).status h
  -- a command that failed is in the report, whose status is then not zero
  · by_contra hfailed
    have hstatus : (request.conclude state).2 = 2 := by
      refine if_neg fun hall => hfailed (List.all_eq_true.mpr fun result hmem => ?_)
      exact List.all_eq_true.mp hall.1 result (List.mem_append_left _ hmem)
    omega

theorem concluded_of_settled {settled : InstallState × Bool}
    (h : InstallSettled request snapshot settled p) :
    request.Concluded (request.conclude settled.1) p := by
  intro hstatus
  obtain ⟨hgood, hsucceeded⟩ := conclude_succeeds hstatus
  refine ⟨⟨snapshot, h.1.bound, (h.2.resolve_left hgood).2⟩, fun result hmem => ?_⟩
  exact List.all_eq_true.mp hsucceeded result (h.1.recorded hmem)

theorem stage_finish (changed : InstallState × Bool) :
    request.Stage Restorable (Changed snapshot changed) (request.finish changed)
      request.Concluded := by
  obtain ⟨state, waits⟩ := changed
  refine (stage_verify_core waits).bind fun reached => ?_
  refine (stage_compensate_mutation reached).bind ?_
  rintro ⟨state, applied⟩
  refine (stage_rediagnosed applied).bind fun state => ?_
  refine (stage_compensate_verification reached.2 (state, applied)).bind ?_
  rintro ⟨state, applied⟩
  show request.Stage _ _ (if applied = true then _ else _) _
  split
  · next happlied =>
      -- only a compensation that is to blame was applied
      have hverify : request.Stage Restorable (Reaudited request snapshot (state, applied))
          (request.verifyCompensation state) fun state => state.Holds snapshot True := by
        refine stage_verify_compensation.consequence (fun p hp => ⟨?_, hp.2⟩) fun _ _ hp => hp
        rcases hp.1.2 with hcondemned | ⟨hnone, -⟩
        · exact ⟨hp.1.1.same, hp.1.1.bound, hp.1.1.recorded, fun _ => hcondemned⟩
        · exact absurd (happlied.symm.trans hnone) (by decide)
      refine hverify.bind fun verified => stage_return fun p hp => ?_
      have hsettled : InstallSettled request snapshot (verified, true) p := settled_of_blamed hp
      exact concluded_of_settled hsettled
  · exact stage_return fun p hp => concluded_of_settled hp.1

/-- A whole install is permitted at every step, and concluded where it returns. -/
theorem stage_install (hdocker : request.desired.containerRuntime = "docker") :
    request.monitor.Stage Unknown Untouched request.install request.Concluded := by
  have hchange (state : InstallState) : request.Stage Restorable
      (state.Behind state.snapshot
        (CanInstall request state.snapshot state.phaseAudit state.report.plan))
      (request.change state >>= request.finish) request.Concluded :=
    (stage_change hdocker).bind stage_finish
  refine Program.Monitor.Stage.handle (?_ : request.Stage Unknown Untouched _ request.Concluded)
    fun exit => ?_
  · exact stage_begin.bind fun state => (hchange state).mono (fun _ _ => trivial)
      (fun _ hp => hp) fun _ _ hp => hp
  · cases exit with
    -- a refusal returns its report with status 2
    | refused report => exact stage_return fun p _ hstatus => by cases hstatus
    | raised => exact stage_error fun _ hp => hp

theorem untouched_start : Untouched request.monitor.start :=
  ⟨rfl, rfl, rfl, rfl⟩

/-- The kernel headers that the install brings. -/
def missingHeaders : PackageInfo where
  name := "linux-headers-6.8.0-60-generic"
  version := some "6.8.0-60.63"
  manager := some "apt"
  installed := true
  architecture := some "amd64"

/-- The retained file of the headers package. -/
def retainedHeaders : PackagePayload where
  name := "linux-headers-6.8.0-60-generic"
  architecture := "amd64"
  epoch := none
  version := "6.8.0-60.63"
  format := "deb"
  filename := String.ofList (List.replicate 64 'a') ++ ".deb"
  sha256 := String.ofList (List.replicate 64 'a')
  sizeBytes := 1024
  verification := "apt-repository"
  roles := ["forward"]

/-- The units of a host, and whether its kernel headers are installed and its module is loaded. -/
structure InstallHost where
  units : Launcher → SystemdUnit
  headers : Bool
  loaded : Bool

namespace InstallHost

variable (host : InstallHost)

/-- The audit's view of everything but the units. -/
def base : HostAudit :=
  let converged := convergedHost (some true) (some true)
  { converged with
    kernel := { converged.kernel with headersInstalled := host.headers }
    module := { converged.module with loaded := host.loaded } }

/-- The audit that this host shows. -/
def audit : HostAudit :=
  auditUnits host.base host.units

/-- The snapshot of this host. -/
def baseline : RollbackSnapshot where
  path := some "/var/lib/nvidia-converge/snapshots/a.json"
  packages := []
  kernel := "6.8.0-60-generic"
  moduleVersion := none
  commands := []
  packageManager := some .aptGet
  moduleLoaded := host.loaded
  migMode := some .disabled
  launchers := host.audit.launchers
  packagePayloads := some
    { directory := "a.json.payloads", packages := [retainedHeaders], totalSizeBytes := 1024 }
  gpuUuids := host.audit.gpuUuids

/-- The host's answers: the units of an ideal systemd, and commands that succeed; the package
command installs the headers. -/
def serve (host : InstallHost) : (op : InstallOp) → op.Reply × InstallHost
  | .launcher op =>
      let answer := (systemd host.base).serve host.units op
      (some answer.1, { host with units := answer.2 })
  | .preflightInstall _ => (some (.ok []), host)
  | .forwardPackages _ _ => (some (.ok [missingHeaders]), host)
  | .createSnapshot _ _ =>
      (some (.ok (host.baseline, { command := ["create-snapshot"], returncode := some 0 })), host)
  | .preflightStaged _ _ => (some (.ok []), host)
  | .preflightRestore => (some (.ok []), host)
  | .preflightRollback _ => (some (.ok []), host)
  | .verifyRollback _ _ => (some [], host)
  | .action _ command =>
      (some { command, returncode := some 0 }, { host with headers := true })
  | .moduleOrder => (some (.ok []), host)
  | .available _ => (some true, host)
  | .modprobe arguments =>
      (some { command := "modprobe" :: arguments, returncode := some 0 },
        { host with loaded := true })
  | .mig (.run command) => (some { command, returncode := some 0 }, host)
  | .mig .auditHost => (some host.audit, host)
  | .verifyStack _ _ _ => (some [{ name := "driver", ok := true, detail := none }], host)
  | .authorizeRelease _ => (some (), host)
  | .commitLaunchers _ _ guard =>
      let host := { host with units := fun _ => runningUnit }
      (some { released := true, audit := host.audit, entries := {}, guard }, host)
  | .removeProbe name => (some { command := [name], returncode := some 0 }, host)
  | .probeAbsence name => (some { command := [name], returncode := some 0 }, host)
  | .rollback _ => (none, host)
  | .emergencyQuarantine => (some (), host)

end InstallHost

/-- A running host whose kernel headers are not installed and whose module is not loaded. -/
def unloadedHost : InstallHost where
  units _ := runningUnit
  headers := false
  loaded := false

/-- An install on this host in a maintenance window. -/
def unloadedInstall : InstallRequest where
  desired := unsignedDesired
  allowDisruption := true
  allowActiveWorkloads := false

end NvidiaConverge
