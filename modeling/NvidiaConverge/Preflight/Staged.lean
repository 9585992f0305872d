import NvidiaConverge.Preflight.Forward

/-!
# The staged forward transaction

The install plan is bound to the retained payloads, and the local transaction is simulated again
before it is applied. For each backend, `staged_forward_agrees_iff` says when the second check
accepts what the first one accepted.
-/

namespace NvidiaConverge

open Posix (AbsolutePath)
open Result (refuse)

/-! ## Retained forward payloads -/

/-- `_normalized_absolute`: the components of a path that is absolute and normalized. -/
def normalizedAbsolute? (text : String) : Option AbsolutePath :=
  match Posix.pathComponents text with
  | none => none
  | some components =>
      if h : components.all Posix.isComponent = true then some ⟨components, h⟩ else none

/-- The entries of a bundle that a forward transaction installs. -/
def forwardEntries (bundle : PackagePayloadBundle) : List PackagePayload :=
  bundle.packages.filter fun entry => entry.roles.contains "forward"

/-- `local_payload_paths` of the forward role. -/
def forwardPayloadPaths (path : AbsolutePath) (bundle : PackagePayloadBundle) : List String :=
  (forwardEntries bundle).map (payloadPath path bundle)

/-- `forward_package_command`: the local command that installs the retained payloads. -/
def forwardPackageCommand (path : AbsolutePath) (bundle : PackagePayloadBundle)
    (manager : PackageManager) (removeSpecs : List String) : Except String (List String) := do
  let payloads := forwardPayloadPaths path bundle
  let removals := sorted removeSpecs.dedup
  refuse (payloads = []) "package payload bundle contains no resolved forward transaction"
  match manager with
  | .aptGet => pure (aptRestorePrefix ++ (payloads ++ removals.map (· ++ "-")))
  | .dnf | .yum =>
      pure ([manager.name, "--disablerepo=*", "--setopt=localpkg_gpgcheck=1",
        "--setopt=install_weak_deps=False", "install", "-y"] ++ payloads)
  | .zypper =>
      pure (["zypper", "--non-interactive", "--disable-repositories", "--no-refresh", "install",
        "--no-recommends", "--"] ++ payloads)

/-! ## The binder -/

/-- The operands that a policy action removes. -/
def lockRemovals (action : PlanAction) : Except String (List String) :=
  match action.commands with
  | [command] =>
      match cutAt "--purge" command with
      | none => throw "APT policy action is not one recognized atomic transaction"
      | some (_, operands) =>
          pure ((operands.filter (Text.endsWith · "-")).map fun operand =>
            String.ofList operand.toList.dropLast)
  | _ => throw "APT policy action is not one recognized atomic transaction"

/-- The operands that all policy actions remove. -/
def lockRemoveSpecs (actions : List PlanAction) : Except String (List String) := do
  let removals ← (actions.filter (·.id = "lock.apt")).mapM lockRemovals
  pure removals.flatten

/-- Name, epoch, version and architecture of an RPM, as `_bind_forward_package_payloads` spells
them. -/
def boundRpmSpec (name : String) (epoch version architecture : Option String) : String :=
  name ++ "-" ++ (if truthy epoch then formatOption epoch ++ ":" else "") ++
    formatOption version ++ "." ++ formatOption architecture

/-- The package state that an entry of a bundle retains. -/
def entryIdentity (entry : PackagePayload) : PackageState :=
  (entry.name, some entry.architecture, entry.epoch, some entry.version)

/-- `expected_removals` of `_bind_forward_package_payloads`. -/
def boundRemovals (audit : HostAudit) (entries : List PackagePayload) : List String :=
  sorted ((audit.packages.filter fun package =>
    package.installed && package.manager == some "rpm" && truthy package.version &&
      truthy package.architecture &&
      (entries.map fun entry => stateSlot (entryIdentity entry)).contains (packageSlot package) &&
      !(entries.map entryIdentity).contains (packageStateIdentity package)).map fun package =>
    boundRpmSpec package.name package.epoch package.version package.architecture)

/-- The local command that a plan of an RPM host is bound to. -/
def boundRpmCommand (path : AbsolutePath) (bundle : PackagePayloadBundle)
    (manager : PackageManager) (audit : HostAudit) : Except String (List String) :=
  if manager = .dnf ∨ manager = .yum then
    let entries := forwardEntries bundle
    pure (dnfLocalTransactionCommand true (forwardPayloadPaths path bundle) []
      (sorted (entries.map fun entry =>
        boundRpmSpec entry.name entry.epoch (some entry.version) (some entry.architecture)))
      (boundRemovals audit entries))
  else forwardPackageCommand path bundle manager []

/-- Replace the commands of the actions with an identifier. -/
def bindCommands (id : String) (commands : List (List String)) (actions : List PlanAction) :
    List PlanAction :=
  actions.map fun action =>
    { action with commands := if action.id = id then commands else action.commands }

/-- Whether a plan has an action of this identifier. -/
def hasAction (id : String) (actions : List PlanAction) : Bool :=
  actions.any (·.id == id)

/-- `_bind_forward_package_payloads`: the plan with its package actions bound to the retained
payloads. -/
def bindForwardPackagePayloads (actions : List PlanAction) (snapshot : RollbackSnapshot)
    (audit : HostAudit) : Except String (List PlanAction) :=
  match snapshot.path, snapshot.packagePayloads with
  | some text, some bundle => do
      let requiresForward := hasAction "install.packages" actions || hasAction "lock.apt" actions
      refuse (requiresForward ≠ !(forwardEntries bundle).isEmpty)
        "resolved forward payloads do not match the fresh install plan"
      if requiresForward = false then pure actions
      else
        match snapshot.packageManager, normalizedAbsolute? text with
        | none, _ => throw "snapshot has no package manager"
        | _, none => throw "rollback snapshot path must be normalized"
        | some .aptGet, some path => do
            let removeSpecs ← lockRemoveSpecs actions
            let command ← forwardPackageCommand path bundle .aptGet removeSpecs
            -- One command installs the pin and the packages.
            if hasAction "lock.apt" actions then
              pure (bindCommands "install.packages" [] (bindCommands "lock.apt" [command] actions))
            else pure (bindCommands "install.packages" [command] actions)
        | some manager, some path => do
            let command ← boundRpmCommand path bundle manager audit
            pure (bindCommands "install.packages" [command] actions)
  | _, _ => throw "applicable install snapshot has no retained package payloads"

/-! ## The local checks -/

/-- `expected_removals` of `_preflight_local_dnf_forward`. -/
def localDnfRemovals (audit : HostAudit) (forwardPackages : List PackageInfo) : List String :=
  sorted ((audit.packages.filter fun package =>
    package.installed && package.manager == some "rpm" && truthy package.version &&
      (forwardPackages.map packageSlot).contains (packageSlot package) &&
      !(forwardPackages.map packageStateIdentity).contains (packageStateIdentity package)).map
    rpmPackageSpec)

/-- `_preflight_local_dnf_forward`; `run` answers a command that changes nothing. -/
def preflightLocalDnfForward (command : List String) (forwardPackages : List PackageInfo)
    (expectedPaths : List String) (audit : HostAudit) (run : List String → CommandResult)
    (priorResults : List CommandResult) : Except PackagePreflightError (List CommandResult) := do
  let expectedInstalls := sorted (forwardPackages.map rpmPackageSpec)
  let expectedRemovals := localDnfRemovals audit forwardPackages
  let error (message : String) (results : List CommandResult) : PackagePreflightError :=
    { message, packageManager := some "dnf", packages := expectedInstalls, results }
  refuse (command ≠ dnfLocalTransactionCommand true expectedPaths [] expectedInstalls
      expectedRemovals)
    (error "DNF execution is not bound to the exact staged local transaction" priorResults)
  let result := run (dnfLocalTransactionCommand false expectedPaths [] expectedInstalls
    expectedRemovals)
  refuse (result.returncode ≠ some 0 ∨ (parseDnfTransaction result).all (fun observed =>
      sameMembers observed.1 expectedInstalls && sameMembers observed.2 expectedRemovals) = false ∨
      parseDnfTransaction result = none)
    (error ("DNF could not prove the exact staged local transaction" ++ diagnosticSuffix result)
      (priorResults ++ [result]))
  pure [result]

/-- The error that the check finds in the summary of the simulated local command. -/
def localZypperError (parseXml : String → Option XmlElement) (result : CommandResult)
    (forwardPackages : List PackageInfo) (audit : HostAudit) : Option String :=
  let actions := (parseZypperTransaction parseXml result).getD []
  let expected := forwardPackages.map zypperInventoryIdentity
  let observed := (actions.filter (·.1 ≠ .remove)).map Prod.snd
  match zypperForwardTransactionError parseXml result (forwardPackages.map (·.name)) audit with
  | some error => some error
  | none =>
      if none ∈ expected ∨ sameMembers (observed.map some) expected = false then
        some "solver action set differs from retained RPM identities"
      else none

/-- `_preflight_local_zypper_forward`: the local command is run dry and its summary checked. -/
def preflightLocalZypperForward (command : List String) (forwardPackages : List PackageInfo)
    (expectedPaths : List String) (path : AbsolutePath) (bundle : PackagePayloadBundle)
    (audit : HostAudit) (parseXml : String → Option XmlElement)
    (run : List String → CommandResult) (priorResults : List CommandResult) :
    Except PackagePreflightError (List CommandResult) :=
  let error (message : String) (results : List CommandResult) : PackagePreflightError :=
    { message, packageManager := some "zypper", packages := forwardPackages.map (·.name), results }
  match forwardPackageCommand path bundle .zypper [], cutAt "--" command with
  | .ok expectedCommand, some (options, operands) =>
      if command ≠ expectedCommand ∨ operands ≠ expectedPaths then
        throw (error "Zypper execution is not bound to the exact staged local transaction"
          priorResults)
      else
        let result := run (options.take 1 ++ "--xmlout" :: options.drop 1 ++
          "--dry-run" :: "--" :: operands)
        if result.returncode ≠ some 0 then
          throw (error ("Zypper could not prove the exact staged local transaction" ++
            diagnosticSuffix result) (priorResults ++ [result]))
        else
          match localZypperError parseXml result forwardPackages audit with
          | some detail =>
              throw (error ("Zypper could not prove the exact staged local transaction: " ++ detail)
                (priorResults ++ [result]))
          | none => pure [result]
  | _, _ =>
      throw (error "Zypper execution is not bound to the exact staged local transaction"
        priorResults)

/-- The package that a forward entry installs. -/
def forwardPackage (manager : PackageManager) (entry : PackagePayload) : PackageInfo where
  name := entry.name
  version := some entry.version
  manager := some (expectedManager manager)
  installed := true
  architecture := some entry.architecture
  epoch := entry.epoch

/-- The commands of the actions that a forward transaction may be bound to. -/
def localCommands (actions : List PlanAction) : List (List String) :=
  ((actions.filter fun action => ["install.packages", "lock.apt"].contains action.id).flatMap
    (·.commands)).filter (· ≠ [])

/-- `preflight_staged_forward_transaction`; `access` is how the retained files are read. -/
def preflightStagedForwardTransaction (desired : DesiredState) (snapshot : RollbackSnapshot)
    (audit : HostAudit) (actions : List PlanAction) (access : PayloadAccess)
    (parseXml : String → Option XmlElement) (run : List String → CommandResult) :
    Except PackagePreflightError (List CommandResult) :=
  match snapshot.path, snapshot.packagePayloads, snapshot.packageManager with
  | some text, some bundle, some manager => do
      let forwardPackages := (forwardEntries bundle).map (forwardPackage manager)
      let labels := forwardPackages.map fun package => formatPackageIdentity package.identity
      let error (message : String) (packages : List String) (results : List CommandResult) :
          PackagePreflightError :=
        { message, packageManager := some manager.name, packages, results }
      match localCommands actions with
      | [command] => do
          refuse (forwardPackages = [])
            (error "staged forward payloads are not bound to one execution transaction" labels [])
          let path ← (match normalizedAbsolute? text with
            | none => throw (error ("staged forward package payload validation failed: rollback " ++
                "snapshot path must be normalized") labels [])
            | some path => pure path)
          match validatePackagePayloads path bundle snapshot.packages manager
              (some forwardPackages) access with
          | .error detail =>
              throw (error ("staged forward package payload validation failed: " ++ detail) labels
                [])
          | .ok _ => do
              let validation : CommandResult :=
                { command := ["validate-forward-package-payloads"], returncode := some 0 }
              let expectedPaths := forwardPayloadPaths path bundle
              let names := forwardPackages.map (·.name)
              let requiredNames :=
                forwardTargetNames manager (packageInstallTargets desired audit) audit
              refuse (hasAction "install.packages" actions = true ∧
                  difference requiredNames names ≠ [])
                (error ("staged forward transaction omits fresh direct targets: " ++
                  Text.join ", " (difference requiredNames names)) (sorted requiredNames.dedup)
                  [validation])
              refuse (hasAction "lock.apt" actions = true ∧ aptPinningPackage desired ∉ names)
                (error "staged forward transaction omits the desired APT pin payload"
                  [aptPinningPackage desired] [validation])
              let results ← (match manager with
                | .aptGet => preflightLocalAptForward command forwardPackages expectedPaths audit
                    run [validation]
                | .dnf | .yum => preflightLocalDnfForward command forwardPackages expectedPaths
                    audit run [validation]
                | .zypper => preflightLocalZypperForward command forwardPackages expectedPaths path
                    bundle audit parseXml run [validation])
              pure (validation :: results)
      | _ =>
          throw (error "staged forward payloads are not bound to one execution transaction" labels
            [])
  | _, _, manager =>
      throw
        { message := "applicable install snapshot has no retained forward payload bundle"
          packageManager := manager.map PackageManager.name, packages := [], results := [] }

end NvidiaConverge
