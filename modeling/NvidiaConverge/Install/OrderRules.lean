import NvidiaConverge.Install.Order
import NvidiaConverge.Launchers.QuarantineRuns

/-!
# The order of an install: the parts

The stages of the parts of an install: the launcher code and the guard, which only mask and stop,
the gate, the checkpoint, the boundary, and the commands of a phase.
-/

namespace NvidiaConverge

open Program (Attempts Issues)
open Program.Monitor (stage_return stage_error stage_operation stage_given)

/-- A part of an install that its monitor permits, with what it begins from and ends in. -/
abbrev InstallRequest.Stage {α : Type} (request : InstallRequest)
    (fail pre : InstallProgress → Prop)
    (program : InstallProgram α) (post : α → InstallProgress → Prop) : Prop :=
  request.monitor.Stage fail pre program post

variable {request : InstallRequest} {α β : Type} {fail F : InstallProgress → Prop}

/-! ## One operation -/

/-- The snapshot of the install is bound. -/
def Restorable (p : InstallProgress) : Prop :=
  ∃ snapshot, p.Bound snapshot

/-- An exception takes nothing from the snapshot. -/
theorem Restorable.missing {p : InstallProgress} (h : Restorable p) (op : InstallOp) :
    Restorable (p.after ⟨op, none⟩) := by
  cases op <;> exact h

/-- What is known behind a reply: of its answer, or where it was lost. -/
def Answered (fail : InstallProgress → Prop) {op : InstallOp}
    (answered : op.Answer → InstallProgress → Prop) (reply : op.Reply)
    (p : InstallProgress) : Prop :=
  reply.elim (fail p) fun answer => answered answer p

/-- The rule of one operation, which must be permitted and may be lost. -/
theorem stage_attempt {op : InstallOp} {G : op.Answer → InstallProgress → Prop}
    (hfail : ∀ p, F p → fail (p.after ⟨op, none⟩)) (hop : ∀ p, F p → request.Permits p op)
    (hafter : ∀ p answer, F p → G answer (p.after ⟨op, some answer⟩)) :
    request.Stage fail F (attempt op) G := by
  have hshown : ∀ p reply, F p → Answered fail G reply (request.monitor.after p ⟨op, reply⟩) := by
    intro p reply hp
    cases reply with
    | none => exact hfail p hp
    | some answer => exact hafter p answer hp
  -- an exception of the operation ends the part
  refine stage_operation hop hshown ?_
  rintro (_ | answer)
  · exact stage_error fun _ h => h
  · exact stage_return fun _ h => h

/-- The rule of one operation behind the bound snapshot. -/
theorem stage_issue {op : InstallOp} {G : op.Answer → InstallProgress → Prop}
    (hbound : ∀ p, F p → Restorable p) (hop : ∀ p, F p → request.Permits p op)
    (hafter : ∀ p answer, F p → G answer (p.after ⟨op, some answer⟩)) :
    request.Stage Restorable F (attempt op) G :=
  stage_attempt (fun p hp => (hbound p hp).missing op) hop hafter

section Attempts

variable {ω : Type} {ρ : ω → Type} {ε : Type} {whole : ω → InstallOp}
  {read : (op : ω) → (whole op).Answer → ρ op}

theorem attempts_issue (op : ω) (next : ρ op → Program ω ρ ε α) :
    attempts whole read (.issue op next) =
      attempt (whole op) >>= fun answer => attempts whole read (next (read op answer)) := by
  rw [attempts]
  refine congrArg (Program.issue (whole op)) (funext fun reply => ?_)
  cases reply <;> rfl

theorem attempts_bind (program : Program ω ρ ε α) (rest : α → Program ω ρ ε β) :
    attempts whole read (program >>= rest) =
      attempts whole read program >>= fun value => attempts whole read (rest value) := by
  show attempts whole read (program.bind rest) = (attempts whole read program).bind _
  induction program with
  | done value => rfl
  | raise error => rfl
  | issue op next ih =>
      rw [Program.bind, attempts, attempts, Program.bind]
      refine congrArg (Program.issue (whole op)) (funext fun reply => ?_)
      cases reply with
      | none => rfl
      | some answer => exact ih (read op answer)

/-- A program of a part, whose operations all keep a condition. -/
theorem stage_attempts {allowed : ω → Prop} {program : Program ω ρ ε α}
    (h : Issues allowed program) (hbound : ∀ p, F p → Restorable p)
    (hop : ∀ p op, allowed op → F p → request.Permits p (whole op))
    (hkeep : ∀ p op answer, allowed op → F p → F (p.after ⟨whole op, some answer⟩)) :
    request.Stage Restorable F (attempts whole read program) fun _ => F := by
  induction program with
  | done value => exact stage_return fun _ hp => hp
  | raise error => exact stage_error hbound
  | issue op next ih =>
      have hattempt : request.Stage Restorable F (attempt (whole op)) fun _ => F :=
        stage_issue hbound (fun p => hop p op h.1) fun p answer => hkeep p op answer h.1
      rw [attempts_issue]
      exact hattempt.bind fun answer => ih (read op answer) (h.2 _)

end Attempts

/-! ## The launcher code -/

/-- The operation does not start or release a launcher. -/
def HostOp.holds : HostOp → Prop
  | .systemctl verb _ => verb = .mask ∨ verb = .stop
  | _ => True

instance {γ : Type} : Nonempty (TrustReply γ) :=
  ⟨{ observations := [], validation := { command := [], returncode := some 1 }
     verdict := .error "", recorded := rfl }⟩

instance : Nonempty CommandResult :=
  ⟨{ command := [], returncode := none }⟩

deriving instance Inhabited for KernelInfo, ModuleInfo, RuntimeInfo

instance : Nonempty HostAudit :=
  ⟨{ osId := none, osVersion := none, packageManager := none, kernel := default, module := default
     runtime := default, packages := [], nvidiaSmi := Classical.ofNonempty
     nvml := Classical.ofNonempty, migMode := none }⟩

instance : Nonempty Observation :=
  ⟨{ result := Classical.ofNonempty, state := {} }⟩

instance (op : HostOp) : Nonempty op.Reply := by
  cases op <;> show Nonempty _ <;> infer_instance

theorem HostOp.quarantines.holds {op : HostOp} {unit : Launcher} (h : op.quarantines unit) :
    op.holds := by
  cases op with
  | systemctl verb other => exact h.2
  | _ => trivial

theorem issues_hold_quarantine {ε : Type} (unit : Launcher) :
    Issues HostOp.holds (quarantineServiceForRollback unit : HostProgram ε _) := by
  refine Program.issues_of_allowed
    ((ensures_concludes_quarantine unit).mono fun outcome trace h => ?_)
  have hsafe : QuarantineSafe unit trace := by
    cases outcome with
    -- also a run that is cut off has only masked and stopped
    | interrupted => exact h
    | raised error => exact False.elim h
    | returned results => exact h.1
  exact hsafe.mono fun _ _ hop => hop.1.holds

theorem issues_hold_validate {ε : Type} (units : List Launcher) :
    Issues HostOp.holds (validateLaunchers units : HostProgram ε _) := by
  induction units with
  | nil => exact Program.issues_pure _
  | cons unit units ih =>
      have hone : Issues HostOp.holds (validateLauncher unit : HostProgram ε _) := by
        unfold validateLauncher
        split
        · exact Program.issues_perform_bind trivial fun _ => Program.issues_pure _
        · exact Program.issues_perform_bind trivial fun _ => Program.issues_pure _
      refine hone.bind ?_
      rintro ⟨results, refused⟩
      cases refused with
      | some finding => exact Program.issues_pure _
      | none => exact ih.bind fun _ => Program.issues_pure _

theorem issues_hold_launchers {ε : Type} (units : List Launcher) :
    Issues HostOp.holds (quarantineLaunchers units : HostProgram ε _) := by
  induction units with
  | nil => exact Program.issues_pure _
  | cons unit units ih =>
      refine (issues_hold_quarantine unit).bind fun results => ?_
      -- the next launcher is quarantined only behind one that was
      show Issues _ (if commandsSucceeded results = true then _ else _)
      split
      · exact ih.bind fun _ => Program.issues_pure _
      · exact Program.issues_pure _

/-- A condition that neither an audit nor a disturbance changes, and so no launcher code does. -/
def Stable (F : InstallProgress → Prop) : Prop :=
  ∀ p, F p → (∀ audit, F (p.audited audit)) ∧ F p.disturbed

theorem Stable.launcher (h : Stable F) {p : InstallProgress} (hp : F p) (op : HostOp)
    (answer : op.Reply) : F (p.after ⟨.launcher op, some answer⟩) := by
  cases op with
  | audit => exact (h p hp).1 answer
  | systemctl verb unit => exact (h p hp).2
  | _ => exact hp

theorem Stable.and {G : InstallProgress → Prop} (h : Stable F) (hG : Stable G) :
    Stable fun p => F p ∧ G p :=
  fun p hp => ⟨fun audit => ⟨(h p hp.1).1 audit, (hG p hp.2).1 audit⟩, (h p hp.1).2, (hG p hp.2).2⟩

/-- Launcher code that holds the launchers is permitted and keeps every stable condition. -/
theorem stage_launchers {program : HostProgram Empty α} (hbound : ∀ p, F p → Restorable p)
    (hstable : Stable F) (h : Issues HostOp.holds program) :
    request.Stage Restorable F (launchers program) fun _ => F := by
  refine stage_attempts h hbound ?_ fun p op answer _ hp => hstable.launcher hp op answer
  intro p op hholds hp
  cases op with
  | systemctl verb unit => exact ⟨hbound p hp, hholds⟩
  | _ => trivial

/-- A launcher operation that changes nothing. -/
theorem stage_observe {op : HostOp} (hfail : ∀ p, F p → fail p.lost)
    (hop : ∀ verb unit, op ≠ .systemctl verb unit) {G : op.Reply → InstallProgress → Prop}
    (hafter : ∀ p answer, F p → G answer (p.after ⟨.launcher op, some answer⟩)) :
    request.Stage fail F (attempt (.launcher op)) G := by
  refine stage_attempt (fun p hp => ?_) (fun p hp => ?_) hafter
  · cases op with
    | systemctl verb unit => exact absurd rfl (hop verb unit)
    | _ => exact hfail p hp
  · cases op with
    | systemctl verb unit => exact absurd rfl (hop verb unit)
    | _ => trivial

theorem stage_audit {G : HostAudit → InstallProgress → Prop} (hfail : ∀ p, F p → fail p.lost)
    (hafter : ∀ p audit, F p → G audit (p.audited audit)) : request.Stage fail F auditHost G :=
  stage_observe hfail (fun _ _ h => by cases h) hafter

/-- An audit keeps what the launcher code keeps. -/
theorem stage_stable_audit (hfail : ∀ p, F p → fail p.lost) (hstable : Stable F) :
    request.Stage fail F auditHost fun _ => F :=
  stage_audit hfail fun p audit hp => (hstable p hp).1 audit

theorem stage_probe (audit : HostAudit) (hfail : ∀ p, F p → fail p.lost) :
    request.Stage fail F (probeWorkloads audit) fun _ => F :=
  stage_observe hfail (fun _ _ h => by cases h) fun _ _ hp => hp

/-- The rule of an audit inside the launcher code. -/
theorem stage_launcher_audit {G : HostAudit → InstallProgress → Prop}
    (hbound : ∀ p, F p → Restorable p) (hafter : ∀ p audit, F p → G audit (p.audited audit)) :
    request.Stage Restorable F (launchers (ask .audit : HostProgram Empty HostAudit)) G := by
  rw [launchers, ask, Program.perform, attempts_issue]
  exact (stage_audit hbound hafter).bind fun audit => stage_return fun _ h => h

/-- Behind a boundary that is good, the last audit shows every launcher inactive and masked. -/
def Boundary.Shown (boundary : Boundary) (p : InstallProgress) : Prop :=
  boundary.ok = true →
    p.last = some boundary.audit ∧ boundary.audit.launchersQuarantined = true ∧ p.quiet = true

theorem deferred_boundary_ok {audit : HostAudit} {validation quarantine : List CommandResult}
    (h : (deferredBoundary audit validation quarantine).ok = true) :
    audit.launchersQuarantined = true ∧
      (deferredBoundary audit validation quarantine).audit = audit := by
  simp only [deferredBoundary] at h ⊢
  split at h
  · cases h
  · next hgood =>
      rw [if_neg hgood]
      exact ⟨by simpa [HostAudit.launchersQuarantined] using (not_or.mp hgood).2, rfl⟩

/-- The deferral of the launchers is permitted and shows what its boundary says. -/
theorem stage_defer (audit : HostAudit) (hbound : ∀ p, F p → Restorable p) (hstable : Stable F) :
    request.Stage Restorable F (launchers (deferLauncherEnablement audit)) fun boundary p =>
      F p ∧ boundary.Shown p := by
  unfold launchers deferLauncherEnablement
  show request.Stage Restorable F (attempts _ _ (if _ then _ else _)) _
  split
  -- a launcher whose enablement is unknown: nothing is issued
  · exact stage_return fun _ hp => ⟨hp, fun h => by cases h⟩
  · rw [attempts_bind]
    refine (stage_launchers hbound hstable (issues_hold_validate _)).bind ?_
    rintro ⟨validation, refused⟩
    cases refused with
    | some finding => exact stage_return fun _ hp => ⟨hp, fun h => by cases h⟩
    | none =>
        show request.Stage Restorable F (attempts _ _ (_ >>= _)) _
        rw [attempts_bind]
        refine (stage_launchers hbound hstable (issues_hold_launchers _)).bind fun quarantine => ?_
        show request.Stage Restorable F (attempts _ _ (_ >>= _)) _
        rw [attempts_bind]
        -- the audit behind the commands, which is the one that the boundary returns
        have haudit : request.Stage Restorable F
            (launchers (ask .audit : HostProgram Empty HostAudit)) fun audit p =>
              F p ∧ p.last = some audit ∧ (audit.launchersQuarantined = true → p.quiet = true) := by
          refine stage_launcher_audit hbound fun p audit hp => ?_
          refine ⟨(hstable p hp).1 audit, rfl, fun h => ?_⟩
          simp [InstallProgress.audited, h]
        refine haudit.bind fun fresh => stage_return fun p hp => ⟨hp.1, fun hok => ?_⟩
        have hquarantined := deferred_boundary_ok hok
        rw [hquarantined.2]
        exact ⟨hp.2.1, hquarantined.1, hp.2.2 hquarantined.1⟩

/-! ## The guard -/

/-- An operation of the guard does not start or release a launcher. -/
def GuardOp.holds (operation : GuardOp) : Prop :=
  operation.op.holds

/-- A method of the guard that asks for an operation which holds the launchers does so itself. -/
theorem attempts_hold_ask (guard : Guard) {op : HostOp} (h : op.holds)
    {rest : op.Reply → GuardProgram α} (hrest : ∀ reply, Attempts GuardOp.holds (rest reply)) :
    Attempts GuardOp.holds (guard.ask op >>= rest) := by
  exact Attempts.bind ⟨h, ⟨guard, rfl⟩, fun reply => trivial⟩ hrest

theorem attempts_hold_observe (guard : Guard) (unit : Launcher)
    {rest : Guard × Except String Bool → GuardProgram α}
    (hrest : ∀ observed, Attempts GuardOp.holds (rest observed)) :
    Attempts GuardOp.holds (guard.observe unit >>= rest) := by
  have hholds : (HostOp.observeTrusted unit).holds := trivial
  exact Attempts.bind (attempts_hold_ask guard hholds fun _ => Program.attempts_pure _) hrest

theorem attempts_hold_stop (guard : Guard) (unit : Launcher)
    {rest : Guard × CommandResult → GuardProgram α}
    (hrest : ∀ stopped, Attempts GuardOp.holds (rest stopped)) :
    Attempts GuardOp.holds (guard.systemctl .stop unit >>= rest) := by
  have hholds : (HostOp.systemctl .stop unit).holds := Or.inr rfl
  exact Attempts.bind (attempts_hold_ask guard hholds fun _ => Program.attempts_pure _) hrest

theorem attempts_hold_requiesce_unit (guard : Guard) (unit : Launcher) :
    Attempts GuardOp.holds (guard.requiesceUnit unit) := by
  refine attempts_hold_observe guard unit ?_
  rintro ⟨guard, error | _ | _⟩
  · exact Program.attempts_pure _
  · exact Program.attempts_pure _
  · refine attempts_hold_stop guard unit ?_
    rintro ⟨guard, stopped⟩
    show Attempts _ (if stopped.succeeded = true then _ else _)
    split
    · exact attempts_hold_observe guard unit fun _ => Program.attempts_pure _
    · exact Program.attempts_pure _

theorem attempts_hold_requiesce (guard : Guard) : Attempts GuardOp.holds guard.requiesce := by
  have hunits (units : List Launcher) (guard : Guard) :
      Attempts GuardOp.holds (Guard.requiesceUnits units guard) := by
    induction units generalizing guard with
    | nil => exact Program.attempts_pure _
    | cons unit units ih => exact (attempts_hold_requiesce_unit guard unit).bind ih
  exact (hunits _ _).bind fun _ => Program.attempts_pure _

/-- The gate, which does not restore what it stopped. -/
theorem attempts_hold_quiesce (systemctl : Bool) (specs : List Launcher) :
    Attempts GuardOp.holds (Guard.quiesce systemctl specs false) := by
  have hunits (units : List Launcher) (guard : Guard) :
      Attempts GuardOp.holds (Guard.quiesceUnits false units guard) := by
    induction units generalizing guard with
    | nil => exact Program.attempts_pure _
    | cons unit units ih =>
        refine attempts_hold_observe guard unit ?_
        rintro ⟨guard, error | _ | _⟩
        · exact Program.attempts_pure _
        · exact ih guard
        · refine attempts_hold_stop _ unit ?_
          rintro ⟨guard, stopped⟩
          show Attempts _ (if stopped.succeeded = true then _ else _)
          split
          · refine attempts_hold_observe guard unit ?_
            rintro ⟨guard, error | _ | _⟩
            · exact Program.attempts_pure _
            · exact ih guard
            · exact Program.attempts_pure _
          · exact Program.attempts_pure _
  rw [Guard.quiesce]
  split
  · exact Program.attempts_pure _
  · show Attempts GuardOp.holds
      ((Guard.quiesceUnits false specs { specs }).handle fun guard => .raise (id guard))
    exact (hunits specs { specs }).handle

/-- A method of the guard that holds the launchers is permitted and keeps every stable condition. -/
theorem stage_guarded {program : GuardProgram α} (hbound : ∀ p, F p → Restorable p)
    (hstable : Stable F) (h : Attempts GuardOp.holds program) :
    request.Stage Restorable F (guarded program) fun _ => F := by
  refine Program.Monitor.Stage.handle (?_ : request.monitor.Stage Restorable F _ _)
    fun _ => stage_error fun _ hp => hp
  induction program with
  | done value => exact stage_return fun _ hp => hp
  | raise error => exact stage_error hbound
  | issue operation next ih =>
      -- which guard is issuing does not matter to the host
      obtain ⟨op, guard⟩ := operation
      obtain ⟨hholds, ⟨error, hmissing⟩, hnext⟩ := h
      have hshown : ∀ p reply, F p → Answered Restorable (fun _ => F) reply
          (request.monitor.after p ⟨.launcher op, reply⟩) := by
        intro p reply hp
        cases reply with
        | none => exact (hbound p hp).missing (.launcher op)
        | some answer => exact hstable.launcher hp op answer
      refine stage_operation (fun p hp => ?_) hshown fun reply => ?_
      · cases op with
        | systemctl verb unit => exact ⟨hbound p hp, hholds⟩
        | _ => trivial
      · cases reply with
        | none =>
            show request.monitor.Stage Restorable _ ((next none).embed _ _) _
            rw [hmissing]
            exact stage_error fun _ hp => hp
        | some answer => exact ih (some answer) (hnext answer)

/-! ## The gates and the checkpoint -/

/-- Behind an exception the emergency quarantine may be issued, whose snapshot is bound. -/
theorem stage_or_emergency {program : InstallProgram α} {G : α → InstallProgress → Prop}
    (h : request.Stage Restorable F program G) :
    request.Stage Restorable F (orEmergency program) G := by
  refine Program.Monitor.Stage.handle h fun error => ?_
  cases error with
  | refused report => exact stage_error fun _ hp => hp
  | raised =>
      have hquarantine : request.Stage Restorable Restorable (attempt .emergencyQuarantine)
          fun _ => Restorable :=
        stage_issue (fun _ hp => hp) (fun _ hp => hp) fun _ _ hp => hp
      exact hquarantine.bind fun _ => stage_error fun _ hp => hp

/-- Stopping the services again is permitted and keeps every stable condition. -/
theorem stage_requiesce (findings : List Finding) (guard : Option Guard)
    (hbound : ∀ p, F p → Restorable p) (hstable : Stable F) :
    request.Stage Restorable F (requiesceServices findings guard) fun _ => F := by
  cases guard with
  | none => exact stage_return fun _ hp => hp
  | some guard =>
      exact (stage_guarded hbound hstable (attempts_hold_requiesce guard)).bind fun _ =>
        stage_return fun _ hp => hp

/-- Behind a checkpoint that is good, its audit is the last one and shows every launcher inactive
and masked. -/
theorem stage_pre_gpu_mutation_checkpoint (findings : List Finding) (guard : Option Guard)
    (hbound : ∀ p, F p → Restorable p) (hstable : Stable F) :
    request.Stage Restorable F (request.preGpuMutationCheckpoint findings guard) fun checkpoint p =>
      F p ∧ (checkpoint.ok = true →
        p.last = some checkpoint.audit ∧ checkpoint.audit.launchersQuarantined = true ∧
          p.quiet = true) := by
  refine (stage_requiesce findings guard hbound hstable).bind ?_
  rintro ⟨quiesced, requiesced, guard⟩
  refine (stage_stable_audit hbound hstable).bind fun audit => ?_
  refine (stage_probe audit hbound).bind fun probe => ?_
  refine (stage_defer audit hbound hstable).bind fun boundary => ?_
  refine (stage_probe boundary.audit fun p hp => hbound p hp.1).bind fun reprobe => ?_
  refine stage_return fun p hp => ⟨hp.1, fun hok => hp.2 ?_⟩
  simp only [InstallRequest.concludeCheckpoint, Bool.and_eq_true] at hok
  exact hok.1.1.2

/-- A guard comes out of the gate only where disruption is allowed. -/
theorem stage_maintenance_gate (audit : HostAudit) (disruptive : List PlanAction)
    (hbound : ∀ p, F p → Restorable p) (hstable : Stable F) :
    request.Stage Restorable F (request.maintenanceGate audit disruptive) fun gate p =>
      F p ∧ (gate.guard ≠ none → request.allowDisruption = true) := by
  unfold InstallRequest.maintenanceGate
  split
  · next hallow =>
      have havailable : request.Stage Restorable F (attempt (.available "systemctl")) fun _ => F :=
        stage_issue hbound (fun _ _ => trivial) fun _ _ hp => hp
      have hquiesce : request.Stage Restorable F InstallRequest.quiesceServices fun _ => F :=
        havailable.bind fun systemctl =>
          stage_guarded hbound hstable (attempts_hold_quiesce systemctl _)
      refine (stage_or_emergency hquiesce).bind fun guard => ?_
      unfold InstallRequest.quiescedGate
      split
      · refine (stage_or_emergency (stage_probe audit hbound)).bind fun probe => ?_
        exact stage_return fun p hp => ⟨hp, fun _ => hallow⟩
      · exact stage_return fun p hp => ⟨hp, fun _ => hallow⟩
  · refine (stage_probe audit hbound).bind fun probe => ?_
    exact stage_return fun p hp => ⟨hp, fun hguard => absurd rfl hguard⟩

/-- The way back of a failed gate is permitted and keeps every stable condition. -/
theorem stage_quarantine_failed_gate (hbound : ∀ p, F p → Restorable p) (hstable : Stable F) :
    request.Stage Restorable F (launchers quarantineFailedMaintenanceGate) fun _ => F := by
  unfold launchers quarantineFailedMaintenanceGate
  rw [attempts_bind]
  have haudit : request.Stage Restorable F
      (launchers (ask .audit : HostProgram Empty HostAudit)) fun _ => F :=
    stage_launcher_audit hbound fun p audit hp => (hstable p hp).1 audit
  exact haudit.bind fun audit => (stage_defer audit hbound hstable).consequence (fun _ hp => hp)
    fun _ _ hp => hp.1

/-! ## The boundaries -/

/-- What a boundary that is safe has shown of its audit. -/
structure BoundarySafe (snapshot : RollbackSnapshot) (audit : HostAudit) (boundary : BoundaryName)
    (p : InstallProgress) : Prop where
  inventory : audit.packageInventoryComplete = true
  gpus : audit.gpuUuids = snapshot.gpuUuids
  quarantined : audit.launchersQuarantined = true
  baseline : boundary = .prePackage → p.baseline = some audit

/-- A boundary that passes shows the recorded GPUs and every launcher quarantined. -/
theorem boundary_verdict_safe {snapshot : RollbackSnapshot} {audit : HostAudit}
    {boundary : BoundaryName} (h : (boundaryVerdict snapshot audit boundary).1 = true) :
    audit.gpuUuids = snapshot.gpuUuids ∧ audit.launchersQuarantined = true := by
  unfold boundaryVerdict at h
  split at h
  · cases h
  · next hgpus =>
      split at h
      · next hquarantined => exact ⟨not_not.mp (not_or.mp hgpus).2, hquarantined⟩
      · cases h

/-- A baseline that passes has all of its checks passed, the recorded GPUs and every launcher
quarantined. -/
theorem baseline_verdict_safe {snapshot : RollbackSnapshot} {audit : HostAudit}
    {checks : List ReportedCheck} (h : (baselineVerdict snapshot audit checks).1 = true) :
    checks.all (·.ok) = true ∧ audit.gpuUuids = snapshot.gpuUuids ∧
      audit.launchersQuarantined = true := by
  simp only [baselineVerdict] at h
  split at h
  · next hnone =>
      refine ⟨List.all_eq_true.mpr fun check hcheck => ?_, boundary_verdict_safe h⟩
      -- a check that failed would be among the names
      by_contra hfailed
      have hmem : check ∈ checks.filter fun check => !check.ok :=
        List.mem_filter.mpr ⟨hcheck, by rw [Bool.eq_false_of_not_eq_true hfailed]; rfl⟩
      rw [List.map_eq_nil_iff.mp hnone] at hmem
      cases hmem
  · cases h

/-- The check of a boundary, which changes only what is known of the baseline. -/
theorem stage_fresh_boundary (snapshot : RollbackSnapshot) (audit : HostAudit)
    (boundary : BoundaryName) (hbound : ∀ p, F p → Restorable p)
    (hbaseline : ∀ p known, F p → F { p with baseline := known }) :
    request.Stage Restorable F (freshGpuBoundaryIsSafe snapshot audit boundary) fun verdict p =>
      F p ∧ (verdict.1 = true → BoundarySafe snapshot audit boundary p) := by
  unfold freshGpuBoundaryIsSafe
  split
  · exact stage_return fun p hp => ⟨hp, fun h => by cases h⟩
  · next hinventory =>
      rw [Bool.not_eq_false] at hinventory
      split
      · have hchecks : request.Stage Restorable F (attempt (.verifyRollback audit false))
            fun checks p => F p ∧ p.baseline = if checks.all (·.ok) then some audit else none :=
          stage_issue hbound (fun _ _ => trivial) fun p _ hp => ⟨hbaseline p _ hp, rfl⟩
        refine hchecks.bind fun checks => stage_return fun p hp => ⟨hp.1, fun hsafe => ?_⟩
        obtain ⟨hall, hgpus, hquarantined⟩ := baseline_verdict_safe hsafe
        exact ⟨hinventory, hgpus, hquarantined, fun _ => by rw [hp.2, if_pos hall]⟩
      · next hname =>
          refine stage_return fun p hp => ⟨hp, fun hsafe => ?_⟩
          obtain ⟨hgpus, hquarantined⟩ := boundary_verdict_safe hsafe
          exact ⟨hinventory, hgpus, hquarantined, fun h => absurd h hname⟩

end NvidiaConverge
