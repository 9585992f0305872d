import NvidiaConverge.Preflight.ForwardChecks

/-!
# What a rollback can undo

The outcome of a forward transaction on a host, read from its transcript, and `RollbackTracked`:
what the transaction changes stays in what the audit lists, so the delta that a rollback derives
afterwards is its inverse. `tracked_of_listed` reduces that to the slots of the transaction.
-/

namespace NvidiaConverge

open Posix (AbsolutePath)
open SlotDelta (missing added displaced)

/-! ## Outcomes on a host -/

/-- The package states that a forward transaction brings, the ones that it removes, and the ones
that its installs replace. -/
structure ForwardOutcome where
  installs : Set PackageState
  removals : Set PackageState
  replaced : Set PackageState

/-- The states that a transaction takes away, by removal or by replacement. -/
def ForwardOutcome.gone (outcome : ForwardOutcome) : Set PackageState :=
  outcome.removals ∪ outcome.replaced

/-- The states of a host behind a transaction. -/
def ForwardOutcome.executed (outcome : ForwardOutcome) (host : Set PackageState) :
    Set PackageState :=
  host \ outcome.gone ∪ outcome.installs

/-- The states that the audit of a host lists. -/
def listedStates (manager : PackageManager) (kernel : String) : Set PackageState :=
  {state | auditListed manager kernel state.1 = true}

/-- The package state that an APT identity stands for. -/
def aptState (identity : AptIdentity) : PackageState :=
  (identity.1, some identity.2.1, none, some identity.2.2)

/-- The package that a line of an APT transcript installs. -/
def installedBy (line : List Char) : Option AptInstall :=
  if "Inst ".toList.isPrefixOf line then parseAptInstall line else none

/-- The package that a line of an APT transcript removes, under one of APT's words for it. -/
def removedBy (verb : String) (line : List Char) : Option AptRemoval :=
  if (verb.toList ++ [' ']).isPrefixOf line then readAptRemoval verb line else none

/-- The packages that an APT transcript installs. -/
def transcriptInstalls (result : CommandResult) : List AptInstall :=
  (Text.splitLines result.stdout.toList).filterMap installedBy

/-- The packages that an APT transcript removes under one word: `Remv`, or `Purg` where APT also
purges them. -/
def transcriptRemovals (verb : String) (result : CommandResult) : List AptRemoval :=
  (Text.splitLines result.stdout.toList).filterMap (removedBy verb)

/-- The identity that a removal takes away: the audited one that it names, and of a package that the
audit does not list the one of the native architecture, unless another is printed. -/
def removedIdentity (audit : HostAudit) (native : String) (removal : AptRemoval) : AptIdentity :=
  (resolveAptRemoval removal (currentAptIdentities audit native) native).getD
    (removal.name, removal.explicitArchitecture.getD native, removal.version)

/-- An APT transaction as its transcript prints it: an install replaces its slot, and a package is
removed by a `Remv` line as by a `Purg` line. -/
def aptOutcome (result : CommandResult) (audit : HostAudit) (native : String) : ForwardOutcome where
  installs := {state | ∃ install ∈ transcriptInstalls result, aptState install.identity = state}
  removals := {state | ∃ removal ∈
    transcriptRemovals "Remv" result ++ transcriptRemovals "Purg" result,
      aptState (removedIdentity audit native removal) = state}
  replaced := {state | ∃ install ∈ transcriptInstalls result,
    stateSlot (aptState install.identity) = stateSlot state}

/-- The package state that an RPM identity stands for. -/
def rpmState (identity : RpmIdentity) : PackageState :=
  (identity.1, some identity.2.1, identity.2.2.1, some identity.2.2.2)

/-- A DNF transaction: every removal is explicit. -/
def dnfOutcome (installs removals : List RpmIdentity) : ForwardOutcome where
  installs := {state | ∃ identity ∈ installs, rpmState identity = state}
  removals := {state | ∃ identity ∈ removals, rpmState identity = state}
  replaced := ∅

/-- `[0-9]+`: one digit or more. -/
def isAsciiDigits (text : List Char) : Bool :=
  !text.isEmpty && text.all Char.isDigit

/-- `_split_rpm_edition`, on an edition without blanks. -/
def splitRpmEdition (edition : String) : Option String × String :=
  match Text.splitFirst ':' edition.toList with
  | (epoch, some (c :: version)) =>
      if isAsciiDigits epoch then
        (if epoch = ['0'] then none else some (String.ofList epoch), String.ofList (c :: version))
      else (none, edition)
  | _ => (none, edition)

/-- The package state of an identity in a summary. -/
def zypperState (identity : ZypperIdentity) : PackageState :=
  (identity.1, some identity.2.2, (splitRpmEdition identity.2.1).1,
    some (splitRpmEdition identity.2.1).2)

/-- A Zypper transaction: removals are explicit, and upgrades, downgrades and reinstallations
replace their slot. -/
def zypperOutcome (actions : List (ZypperAction × ZypperIdentity)) : ForwardOutcome where
  installs := {state | ∃ entry ∈ actions, entry.1 ≠ .remove ∧ zypperState entry.2 = state}
  removals := {state | ∃ entry ∈ actions, entry.1 = .remove ∧ zypperState entry.2 = state}
  replaced := {state | ∃ entry ∈ actions, entry.1 ∈ [.reinstall, .upgrade, .downgrade] ∧
    stateSlot (zypperState entry.2) = stateSlot state}

/-- A transaction that a rollback can undo: everything that it installs or removes is listed,
every removal has an install in its slot, and after it changed a host whose audit was complete,
it has changed nothing else and the delta that the rollback derives from the next audit is its
inverse. -/
structure RollbackTracked (manager : PackageManager) (audit : HostAudit)
    (outcome : ForwardOutcome) : Prop where
  listed : ∀ state ∈ outcome.installs ∪ outcome.removals,
    auditListed manager audit.kernel.running state.1 = true
  inSlots : ∀ state ∈ outcome.removals, stateSlot state ∈ stateSlot '' outcome.installs
  inverse : ∀ (host : Set PackageState) (after : HostAudit) (snapshot : RollbackSnapshot)
    (path : AbsolutePath) (bundle : PackagePayloadBundle),
    audit.states = host ∩ listedStates manager audit.kernel.running →
    RetainedBaseline snapshot manager path bundle → snapshot.packages = audit.packages →
    Inventory manager after.packages →
    after.states = outcome.executed host ∩ listedStates manager audit.kernel.running →
    outcome.executed host \ listedStates manager audit.kernel.running =
        host \ listedStates manager audit.kernel.running ∧
      ∃ commands, rollbackPackageCommands snapshot (some after) = .ok commands ∧
        (commandTransaction manager snapshot after commands).installs =
          (audit.states ∩ outcome.gone) \ outcome.installs ∧
        (commandTransaction manager snapshot after commands).removals ∪
            displaced stateSlot snapshot.states after.states =
          outcome.installs \ audit.states

variable {manager : PackageManager} {audit : HostAudit} {outcome : ForwardOutcome}

/-- What the derived commands restore and what they remove or replace. -/
theorem derived_delta {snapshot : RollbackSnapshot} {path : AbsolutePath}
    {bundle : PackagePayloadBundle} {after : HostAudit}
    (h : RetainedBaseline snapshot manager path bundle)
    (hafter : Inventory manager after.packages) :
    ∃ commands, rollbackPackageCommands snapshot (some after) = .ok commands ∧
      (commandTransaction manager snapshot after commands).installs =
        missing snapshot.states after.states ∧
      (commandTransaction manager snapshot after commands).removals ∪
          displaced stateSlot snapshot.states after.states = after.states \ snapshot.states := by
  obtain ⟨commands, hcommands, hinstalls, hremovals, -⟩ := derived_transaction_eq h hafter
  refine ⟨commands, hcommands, hinstalls, ?_⟩
  rw [hremovals]
  split
  · exact Set.union_eq_left.mpr fun state hdisplaced => hdisplaced.1
  · exact SlotDelta.added_union_displaced

/-- A transaction on listed slots that fills what it empties is tracked. -/
theorem tracked_of_listed
    (hlisted : ∀ state ∈ outcome.installs ∪ outcome.removals,
      auditListed manager audit.kernel.running state.1 = true)
    (hslots : ∀ state ∈ outcome.removals, stateSlot state ∈ stateSlot '' outcome.installs)
    (hreplaced : ∀ state ∈ outcome.replaced, stateSlot state ∈ stateSlot '' outcome.installs) :
    RollbackTracked manager audit outcome where
  listed := hlisted
  inSlots := hslots
  inverse := by
    intro host after snapshot path bundle haudit hretained hpackages hafter hstates
    have hbrought : outcome.installs ⊆ listedStates manager audit.kernel.running :=
      fun state hstate => hlisted state (.inl hstate)
    have hgone : host ∩ outcome.gone ⊆ listedStates manager audit.kernel.running := by
      rintro state ⟨-, hstate⟩
      have hslot : stateSlot state ∈ stateSlot '' outcome.installs :=
        hstate.elim (hslots state) (hreplaced state)
      obtain ⟨installed, hinstalled, heq⟩ := hslot
      have hname : installed.1 = state.1 := congrArg (fun slot : PackageSlot => slot.1) heq
      show auditListed manager audit.kernel.running state.1 = true
      rw [← hname]
      exact hlisted installed (.inl hinstalled)
    have hbase : snapshot.states = audit.states := by
      rw [RollbackSnapshot.states, hpackages]
    have hnext : after.states = audit.states \ outcome.gone ∪ outcome.installs := by
      rw [hstates, haudit]
      exact SlotDelta.observed_after hbrought
    obtain ⟨commands, hcommands, hinstalls, hremovals⟩ := derived_delta hretained hafter
    refine ⟨SlotDelta.unobserved_after hbrought hgone, commands, hcommands, ?_, ?_⟩
    · rw [hinstalls, hbase, hnext, SlotDelta.missing_after]
    · rw [hremovals, hbase, hnext, SlotDelta.extra_after]

end NvidiaConverge
