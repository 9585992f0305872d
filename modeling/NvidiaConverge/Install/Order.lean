import NvidiaConverge.Install.Release
import NvidiaConverge.Library.Monitor
import NvidiaConverge.Rollback.ApplyRuns

/-!
# The order of an install: what a run shows and allows

`InstallProgress` is what a run of the install has shown so far, and `InstallRequest.Permits` says
behind what each operation that changes the host, or releases it, may be issued.
-/

namespace NvidiaConverge

/-! ## What a run has shown -/

/-- An operation of an install with its reply. -/
abbrev InstallEvent := Program.Event InstallOp InstallOp.Reply

/-- Where a run of an applied install stands, as far as its own events show. -/
structure InstallProgress where
  /-- The snapshot, once it is durably bound to the operation. -/
  snapshot : Option RollbackSnapshot := none
  /-- Its baseline was found restorable. -/
  restorable : Bool := false
  /-- The last audit and plan that the retained payloads were found to carry. -/
  accepted : Option (HostAudit × List PlanAction) := none
  /-- The last audit that was compared with the snapshot, if it passed. -/
  baseline : Option HostAudit := none
  /-- The last audit from which the rollback was found to resolve, and the last audit then. -/
  rollbackable : Option (HostAudit × Option HostAudit) := none
  /-- No change of the target was issued since. -/
  current : Bool := false
  /-- The last audit, if nothing was changed since. -/
  last : Option HostAudit := none
  /-- An audit has shown every launcher inactive and masked since the last package command. -/
  quiet : Bool := false
  /-- The package commands so far. -/
  packages : List (List String) := []
  /-- The rank of the last change of the target. -/
  rank : Nat := 0
  /-- A change of the target failed. -/
  failed : Bool := false
  /-- The last audit whose core passed its checks, and the last audit then. -/
  verified : Option (HostAudit × Option HostAudit) := none
  /-- The last authorization of a release. -/
  authorized : Option ReleaseTarget := none
  /-- The target for which the launchers were released, if nothing was changed since. -/
  committed : Option RollbackSnapshot := none
  /-- The results of the changes of the target. -/
  results : List CommandResult := []

/-- The place of a phase in the order of the changes. -/
def ActionPhase.rank : ActionPhase → Nat
  | .packages => 0
  | .teardown => 1
  | .docker => 4

namespace InstallProgress

variable (p : InstallProgress)

/-- What a fresh audit shows of a run. -/
def audited (audit : HostAudit) : InstallProgress :=
  { p with last := some audit, quiet := p.quiet || audit.launchersQuarantined }

/-- A command on a launcher, or another change that is not one of the target's. -/
def disturbed : InstallProgress :=
  { p with last := none, verified := none, committed := none }

/-- What a change of the target shows of a run. -/
def changed (rank : Nat) (result : CommandResult) : InstallProgress :=
  { p.disturbed with
    current := false, rank, failed := p.failed || !result.succeeded,
    results := p.results ++ [result] }

/-- Behind an exception: nothing is known of the host any more. -/
def lost : InstallProgress :=
  { p.disturbed with current := false, quiet := false, failed := true, authorized := none }

/-- What one more event shows; an exception of any operation counts as a failure. -/
def after : InstallEvent → InstallProgress
  | ⟨_, none⟩ => p.lost
  | ⟨.launcher .audit, some audit⟩ => p.audited audit
  | ⟨.launcher (.systemctl _ _), some _⟩ => p.disturbed
  | ⟨.createSnapshot _ _, some (.ok persisted)⟩ => { p with snapshot := some persisted.1 }
  | ⟨.preflightRestore, some (.ok _)⟩ => { p with restorable := true }
  | ⟨.preflightStaged audit plan, some (.ok _)⟩ => { p with accepted := some (audit, plan) }
  -- The preflight counts until something is changed behind it.
  | ⟨.preflightRollback audit, some (.ok _)⟩ =>
      { p with rollbackable := some (audit, p.last), current := true }
  | ⟨.verifyRollback audit false, some checks⟩ =>
      { p with baseline := if checks.all (·.ok) then some audit else none }
  -- Package scripts may start a launcher.
  | ⟨.action .packages command, some result⟩ =>
      { p.changed 0 result with packages := p.packages ++ [command], quiet := false }
  | ⟨.action phase _, some result⟩ => p.changed phase.rank result
  | ⟨.modprobe _, some result⟩ => p.changed 2 result
  | ⟨.mig (.run _), some result⟩ => p.changed 3 result
  | ⟨.mig .auditHost, some audit⟩ => p.audited audit
  | ⟨.verifyStack audit false false, some checks⟩ =>
      { p with verified := if checksPass checks then some (audit, p.last) else none }
  | ⟨.authorizeRelease target, some _⟩ => { p with authorized := some target }
  | ⟨.commitLaunchers target _ _, some commit⟩ =>
      { p.disturbed with
        quiet := false, authorized := none
        committed := if commit.released then some target else none }
  | ⟨.rollback op, some _⟩ => if op.changes then { p.disturbed with quiet := false } else p
  | _ => p

/-- This snapshot is the operation's, and may be restored. -/
def Bound (snapshot : RollbackSnapshot) (p : InstallProgress) : Prop :=
  p.snapshot = some snapshot ∧ p.restorable = true

end InstallProgress

/-! ## What may be issued -/

namespace InstallRequest

variable (request : InstallRequest)

/-- The plan of this audit, bound to the payloads of the snapshot. -/
def PlanOf (snapshot : RollbackSnapshot) (audit : HostAudit) (plan : List PlanAction) : Prop :=
  ∃ built, buildPlan request.desired audit (diagnose request.desired audit) = .ok built ∧
    hasUnsupported built = false ∧ bindForwardPackagePayloads built snapshot audit = .ok plan

/-- The target may be changed: disruption was allowed, nothing failed, and this phase is not
over. -/
structure MayChange (rank : Nat) (p : InstallProgress) : Prop where
  allowed : request.allowDisruption = true
  fine : p.failed = false
  rank : p.rank ≤ rank

/-- The package commands may be issued: the host as it was audited in its quarantine is the
snapshot's, the rollback resolves from it, and its plan is what the retained payloads carry. -/
structure MayInstall (snapshot : RollbackSnapshot) (plan : List PlanAction) (p : InstallProgress) :
    Prop where
  change : request.MayChange 0 p
  base : ∃ audit, p.baseline = some audit ∧ p.rollbackable = some (audit, some audit) ∧
    audit.launchersQuarantined = true ∧ audit.gpuUuids = snapshot.gpuUuids ∧
    request.PlanOf snapshot audit plan ∧
    (hasAction "install.packages" plan = true → p.accepted = some (audit, plan))

/-- The core of the target was verified on this audit, which is the last one and shows every
launcher inactive and masked. -/
structure CoreVerified (snapshot : RollbackSnapshot) (audit : HostAudit) (p : InstallProgress) :
    Prop where
  fine : p.failed = false
  verified : p.verified = some (audit, some audit)
  last : p.last = some audit
  quarantined : audit.launchersQuarantined = true
  gpus : audit.gpuUuids = snapshot.gpuUuids

/-- The operation may be issued behind this progress. -/
def Permits (p : InstallProgress) : InstallOp → Prop
  | .launcher (.systemctl verb _) =>
      (∃ snapshot, p.Bound snapshot) ∧ (verb = .mask ∨ verb = .stop)
  | .emergencyQuarantine => ∃ snapshot, p.Bound snapshot
  | .removeProbe _ => ∃ snapshot, p.Bound snapshot
  | .action .packages command =>
      ∃ snapshot plan, p.Bound snapshot ∧ request.MayInstall snapshot plan p ∧
        (p.packages = [] → p.quiet = true) ∧ p.packages ++ [command] <+: preModuleCommands plan
  | .action phase _ =>
      (∃ snapshot, p.Bound snapshot) ∧ request.MayChange phase.rank p ∧ p.quiet = true
  | .modprobe _ => (∃ snapshot, p.Bound snapshot) ∧ request.MayChange 2 p ∧ p.quiet = true
  | .mig (.run _) => (∃ snapshot, p.Bound snapshot) ∧ request.MayChange 3 p ∧ p.quiet = true
  | .authorizeRelease .installTarget =>
      ∃ snapshot audit, p.Bound snapshot ∧ CoreVerified snapshot audit p
  | .authorizeRelease .rollbackBaseline =>
      ∃ snapshot audit, p.Bound snapshot ∧ p.baseline = some audit ∧ p.last = some audit
  | .commitLaunchers target audit _ =>
      ∃ snapshot, p.Bound snapshot ∧
        ((p.authorized = some .installTarget ∧ CoreVerified snapshot audit p ∧
            target = installLauncherTargetSnapshot snapshot request.desired) ∨
          (p.authorized = some .rollbackBaseline ∧ p.baseline = some audit ∧
            p.last = some audit ∧ target = snapshot))
  | .rollback op =>
      op.changes = true → ∃ snapshot audit, p.Bound snapshot ∧ p.current = true ∧
        p.rollbackable = some (audit, some audit) ∧ audit.launchersQuarantined = true ∧
        audit.packageInventoryComplete = true
  | _ => True

/-- The monitor of an install, which follows the progress of its run. -/
def monitor : Program.Monitor InstallOp InstallOp.Reply InstallProgress where
  start := {}
  after := InstallProgress.after
  allows := request.Permits

end InstallRequest

end NvidiaConverge
