import NvidiaConverge.Preflight.Apt

/-!
# APT transactions against the inventory

Packages as APT identifies them, the resolution of a printed removal, and two of the checks that
simulate with `--purge`: the policy transaction and the staged local forward transaction.
-/

namespace NvidiaConverge

/-- `package.architecture or native_architecture`. -/
def architectureOr (package : PackageInfo) (native : String) : String :=
  if truthy package.architecture then formatOption package.architecture else native

/-- `_apt_identity`: the identity of an installed APT package, if it is one. -/
def aptIdentity (package : PackageInfo) (native : String) : Option AptIdentity :=
  if package.installed && package.manager == some "apt" && truthy package.version then
    some (package.name, architectureOr package native, formatOption package.version)
  else none

/-- The slot that an APT identity fills. -/
def aptSlot (identity : AptIdentity) : String × String :=
  (identity.1, identity.2.1)

/-- The identities of the APT packages of an audit, each once. -/
def currentAptIdentities (audit : HostAudit) (native : String) : List AptIdentity :=
  (audit.packages.filterMap fun package => aptIdentity package native).dedup

/-- The current identity of a slot; a later one replaces an earlier one. -/
def currentAtSlot (current : List AptIdentity) (slot : String × String) : Option AptIdentity :=
  current.reverse.find? fun identity => aptSlot identity = slot

/-- The only element of a list, if it has exactly one. -/
def onlyElement {α : Type} : List α → Option α
  | [element] => some element
  | _ => none

/-- `_resolve_apt_removal`: the one installed identity that a removal means. -/
def resolveAptRemoval (removal : AptRemoval) (candidates : List AptIdentity) (native : String) :
    Option AptIdentity :=
  let found := candidates.filter fun (name, architecture, version) =>
    name = removal.name && version = removal.version &&
      removal.explicitArchitecture.all (architecture = ·)
  match onlyElement found with
  | some identity => some identity
  | none =>
      if removal.explicitArchitecture.isSome then none
      else onlyElement (found.filter fun identity => identity.2.1 = native)

/-- `_format_apt_identity`: the name, the architecture and the version as one text. -/
def formatAptIdentity (identity : AptIdentity) : String :=
  identity.1 ++ ":" ++ identity.2.1 ++ "=" ++ identity.2.2

/-- `", ".join(sorted(...))` of the identities of a list that are not in another. -/
def aptDifference (left right : List AptIdentity) : List String :=
  sorted ((left.dedup.filter fun identity => !right.contains identity).map formatAptIdentity)

/-! ## The policy transaction -/

/-- The first deviation of an `Inst` line from the desired pin. -/
def aptPinInstallError (current : List AptIdentity) (desiredPin : String)
    (install : AptInstall) : Option String :=
  if install.name ≠ desiredPin then
    some ("solver would install a package outside the desired pin transaction: " ++
      formatAptIdentity install.identity)
  else
    match currentAtSlot current install.slot with
    | none =>
        if install.old.isSome then some "solver reported an unobserved desired-pin replacement"
        else none
    | some identity =>
        if install.old ≠ some identity.2.2 then
          some "solver desired-pin replacement does not match exact inventory"
        else none

/-- The removals of a policy transaction against the conflicting pins. -/
def aptPinRemovalError (observedRemovals expectedRemovals : List AptIdentity) : Option String :=
  let unexpected := aptDifference observedRemovals expectedRemovals
  let missing := aptDifference expectedRemovals observedRemovals
  if unexpected ≠ [] then
    some ("solver would remove a package outside the conflicting pin set: " ++
      Text.join ", " unexpected)
  else if missing ≠ [] then
    some ("solver omitted an exact conflicting pin removal: " ++ Text.join ", " missing)
  else none

/-- `_apt_policy_transaction_error`. -/
def aptPolicyTransactionError (result : CommandResult) (audit : HostAudit) (desiredPin : String)
    (requireInstall : Bool) (expectedRemovalNames : List String) (native : String) :
    Option String :=
  match parseAptTransaction result with
  | none => some "transaction actions are malformed or truncated"
  | some (installs, rawRemovals) =>
      let current := currentAptIdentities audit native
      let expectedRemovals := current.filter fun identity =>
        expectedRemovalNames.contains identity.1
      if ¬ (current.map aptSlot).Nodup then
        some "the current APT inventory contains duplicate package slots"
      else if sameMembers (expectedRemovals.map Prod.fst) expectedRemovalNames = false then
        some "observed pin selectors are not bound to exact package inventory"
      else
        match installs.findSome? (aptPinInstallError current desiredPin) with
        | some error => some error
        | none =>
            match rawRemovals.mapM fun removal => resolveAptRemoval removal current native with
            | none => some "solver removal is not bound to one current exact pin identity"
            | some observedRemovals =>
                let observedInstalls := (installs.map AptInstall.identity).dedup
                if requireInstall ∧ observedInstalls.length ≠ 1 then
                  some "solver omitted the desired pin-package installation"
                else if ¬ requireInstall ∧ observedInstalls ≠ [] then
                  some "solver unexpectedly replaced the already-installed desired pin"
                else aptPinRemovalError observedRemovals expectedRemovals

/-! ## The staged local transaction -/

/-- The identity that a staged forward package will have. -/
def forwardAptIdentity (package : PackageInfo) (native : String) : AptIdentity :=
  (package.name, architectureOr package native, package.version.getD "")

/-- Whether an `Inst` line replaces what the audit shows in its slot. -/
def replacesCurrent (current : List AptIdentity) (install : AptInstall) : Bool :=
  match currentAtSlot current install.slot with
  | none => install.old.isNone
  | some identity => install.old = some identity.2.2

/-- The audited identity that a removal operand names. -/
def aptOperandIdentity (current : List AptIdentity) (native : String) (spec : String) :
    Except String AptIdentity :=
  match parseAptPackageToken spec.toList with
  | none => throw "local APT removal operand is invalid"
  | some (name, explicitArchitecture) =>
      let found := current.filter fun identity =>
        identity.1 = name && explicitArchitecture.all (identity.2.1 = ·)
      let found :=
        if explicitArchitecture.isNone ∧ 1 < found.length then
          found.filter fun identity => identity.2.1 = native
        else found
      match onlyElement found with
      | none => throw "local APT removal is not bound to one fresh package identity"
      | some identity => pure identity

/-- The comparison of a parsed local transaction with the staged one. -/
def localAptDeviation (installs : List AptInstall) (rawRemovals : List AptRemoval)
    (forwardPackages : List PackageInfo) (removeSpecs : List String) (audit : HostAudit)
    (native : String) : Except String Unit := do
  let current := currentAptIdentities audit native
  Result.refuse (sameMembers (installs.map AptInstall.identity)
      (forwardPackages.map (forwardAptIdentity · native)) = false)
    "solver install set does not exactly match staged DEB identities"
  Result.refuse (installs.all (replacesCurrent current) = false)
    "solver replacement is not bound to the fresh exact APT inventory"
  let expectedRemovals ← removeSpecs.mapM (aptOperandIdentity current native)
  match rawRemovals.mapM fun removal => resolveAptRemoval removal current native with
  | none => throw "solver removal is not bound to fresh exact APT inventory"
  | some observedRemovals =>
      Result.refuse (sameMembers observedRemovals expectedRemovals = false)
        "solver removal set does not exactly match local APT policy removals"

/-- The error of the simulated local transaction. -/
def localAptTransactionError (result : CommandResult) (forwardPackages : List PackageInfo)
    (removeSpecs : List String) (audit : HostAudit) (native : String) : Option String :=
  if result.returncode ≠ some 0 then some (diagnosticSuffix result)
  else
    match parseAptTransaction result with
    | none => some ": solver emitted malformed or truncated local APT transaction evidence"
    | some (installs, rawRemovals) =>
        match localAptDeviation installs rawRemovals forwardPackages removeSpecs audit native with
        | .error error => some (": " ++ error)
        | .ok () => none

/-- The native architecture that `dpkg --print-architecture` answered. -/
def nativeArchitecture? (result : CommandResult) : Option String :=
  let architecture := Text.strip result.stdout
  if result.returncode ≠ some 0 ∨ outputTruncated result = true ∨
      isAptArchitecture architecture.toList = false then none
  else some architecture

/-- `_preflight_local_apt_forward`; `run` answers a command that changes nothing. -/
def preflightLocalAptForward (command : List String) (forwardPackages : List PackageInfo)
    (expectedPaths : List String) (audit : HostAudit) (run : List String → CommandResult)
    (priorResults : List CommandResult) : Except PackagePreflightError (List CommandResult) := do
  let packages := forwardPackages.map (·.name)
  let error (message : String) (results : List CommandResult) : PackagePreflightError :=
    { message, packageManager := some "apt-get", packages, results }
  let operands := if aptRestorePrefix.isPrefixOf command then command.drop 8 else []
  let restorePaths := operands.filter (Text.endsWith · ".deb")
  let removeSpecs := (operands.filter fun operand =>
    Text.endsWith operand "-" && !Text.endsWith operand ".deb-").map fun operand =>
      String.ofList operand.toList.dropLast
  Result.refuse (operands = [] ∨ restorePaths.length + removeSpecs.length ≠ operands.length ∨
      restorePaths ≠ expectedPaths ∨ ¬ removeSpecs.Nodup)
    (error "APT execution is not bound to the exact staged local payload transaction" priorResults)
  let architectureResult := run ["dpkg", "--print-architecture"]
  match nativeArchitecture? architectureResult with
  | none =>
      throw (error ("APT could not bind the staged local forward transaction to the native " ++
        "architecture" ++ diagnosticSuffix architectureResult) [architectureResult])
  | some native =>
      let result := run ("apt-get" :: "--simulate" :: command.drop 1)
      match localAptTransactionError result forwardPackages removeSpecs audit native with
      | some detail =>
          throw (error ("APT could not prove the exact staged local transaction" ++ detail)
            (priorResults ++ [architectureResult, result]))
      | none => pure [architectureResult, result]

end NvidiaConverge
