import NvidiaConverge.Preflight.Closure
import NvidiaConverge.Preflight.Zypper

/-!
# The forward checks

The checks of a forward transaction against the closure of its targets and the audit, for each
backend.
-/

namespace NvidiaConverge

/-- The targets that no observed package has the name of. -/
def omittedTargetError (manager : PackageManager) (packages : List String) (audit : HostAudit)
    (observedNames : List String) : Option String :=
  let missingTargets := difference (forwardTargetNames manager packages audit) observedNames
  if missingTargets ≠ [] then
    some ("solver omitted a direct planned target action: " ++ Text.join ", " missingTargets)
  else none

/-- Slots are compared part by part. -/
local instance slot_lawful : LawfulBEq (String × String) :=
  inferInstance

/-! ## APT -/

/-- The first error that the check finds in an `Inst` line. -/
def aptForwardInstallError (current : List AptIdentity) (packages : List String)
    (audit : HostAudit) (install : AptInstall) : Option String :=
  if forwardPackageAllowed install.name packages .aptGet audit = false then
    some ("solver dependency expansion is outside the rollback-tracked target closure: " ++
      formatAptIdentity install.identity)
  else
    match currentAtSlot current install.slot with
    | none => install.old.map fun old =>
        "solver reported an unobserved package replacement: " ++
          formatAptIdentity (install.name, install.architecture, old)
    | some identity =>
        if install.old = some identity.2.2 then none
        else
          some ("solver replacement does not match the audited exact package: " ++
            formatAptIdentity identity)

/-- The first error that the check finds in a `Remv` line. -/
def aptForwardRemovalError (current : List AptIdentity) (installs : List AptInstall)
    (packages : List String) (audit : HostAudit) (native : String) (removal : AptRemoval) :
    Option String :=
  match resolveAptRemoval removal current native with
  | none => some "solver removal is not bound to one audited exact package identity"
  | some identity =>
      if aptSlot identity ∉ installs.map AptInstall.slot then
        some ("solver would remove a package without a planned replacement: " ++
          formatAptIdentity identity)
      else if forwardPackageAllowed identity.1 packages .aptGet audit = false then
        some ("solver would replace a package outside the target closure: " ++
          formatAptIdentity identity)
      else none

/-- `_apt_forward_transaction_error`: why a simulated installation is refused, if it is. -/
def aptForwardTransactionError (result : CommandResult) (native : String)
    (packages : List String) (audit : HostAudit) : Option String :=
  match parseAptTransaction result with
  | none => some "transaction actions are malformed or truncated"
  | some (installs, rawRemovals) =>
      let current := currentAptIdentities audit native
      if ¬ (current.map aptSlot).Nodup then
        some "the current APT inventory contains duplicate package slots"
      else
        (installs.findSome? (aptForwardInstallError current packages audit)).or
          ((rawRemovals.findSome?
              (aptForwardRemovalError current installs packages audit native)).or
            (omittedTargetError .aptGet packages audit (installs.map (·.name))))

/-! ## DNF -/

/-- `_RpmIdentity`: name, architecture, epoch, version. -/
abbrev RpmIdentity := String × String × Option String × String

/-- RPM identities are compared part by part. -/
local instance rpm_identity_lawful : LawfulBEq RpmIdentity :=
  inferInstance

/-- Zypper identities are compared part by part. -/
local instance zypper_identity_lawful : LawfulBEq ZypperIdentity :=
  inferInstance

/-- `_valid_transaction_field`: a field of a record without blanks that is not empty. -/
def validTransactionField (value : String) : Bool :=
  isSummaryValue value

/-- The epoch of a record: null, or a string of digits. -/
def recordEpoch? : Json.Value → Option (Option String)
  | .null => some none
  | .string epoch => if Text.isDigitText epoch then some (some epoch) else none
  | _ => none

/-- One record of `_parse_rpm_identity_records`. -/
def readRpmIdentity (identities : List RpmIdentity) (record : Json.Value) :
    Option (List RpmIdentity) :=
  match record with
  | .object fields =>
      match fields.lookup "name", fields.lookup "architecture", fields.lookup "version" with
      | some (.string name), some (.string architecture), some (.string version) => do
          let epoch ← (fields.lookup "epoch").bind recordEpoch?
          if fields.length = 4 ∧ [name, architecture, version].all validTransactionField = true ∧
              (name, architecture) ∉ identities.map fun identity => (identity.1, identity.2.1) then
            some (identities ++ [(name, architecture, epoch, version)])
          else none
      | _, _, _ => none
  | _ => none

/-- `_parse_rpm_identity_records`: the identities of a list of records, without repetition. -/
def parseRpmIdentityRecords : Json.Value → Option (List RpmIdentity)
  | .array records => records.foldlM readRpmIdentity []
  | _ => none

/-- `_parse_dnf_forward_transaction`: the installs and removals that the solver script prints. -/
def parseDnfForwardTransaction (result : CommandResult) :
    Option (List RpmIdentity × List RpmIdentity) :=
  if outputTruncated result then none
  else
    match Json.loads result.stdout with
    | some (.object fields) =>
        match fields.lookup "install", fields.lookup "remove" with
        | some install, some remove => do
            let installs ← parseRpmIdentityRecords install
            let removals ← parseRpmIdentityRecords remove
            if fields.length = 2 then some (installs, removals) else none
        | _, _ => none
    | _ => none

/-- `_rpm_identity`: the identity of an installed RPM, if the package is one. -/
def rpmIdentity (package : PackageInfo) : Option RpmIdentity :=
  if package.installed && package.manager == some "rpm" && truthy package.version &&
      truthy package.architecture then
    some (package.name, formatOption package.architecture, package.epoch,
      formatOption package.version)
  else none

/-- `_format_rpm_identity`: the name, the epoch, the version and the architecture as one text. -/
def formatRpmIdentity (identity : RpmIdentity) : String :=
  identity.1 ++ "-" ++
    (if truthy identity.2.2.1 then formatOption identity.2.2.1 ++ ":" else "") ++
    identity.2.2.2 ++ "." ++ identity.2.1

/-- The slot that an RPM identity fills. -/
def rpmSlot (identity : RpmIdentity) : String × String :=
  (identity.1, identity.2.1)

/-- The error that the check finds in one install. -/
def dnfForwardInstallError (packages : List String) (audit : HostAudit)
    (identity : RpmIdentity) : Option String :=
  if forwardPackageAllowed identity.1 packages .dnf audit = false then
    some ("solver dependency expansion is outside the rollback-tracked target closure: " ++
      formatRpmIdentity identity)
  else none

/-- The error that the check finds in one removal. -/
def dnfForwardRemovalError (installs : List RpmIdentity) (packages : List String)
    (audit : HostAudit) (identity : RpmIdentity) : Option String :=
  if identity ∉ audit.packages.filterMap rpmIdentity then
    some ("solver removal is not bound to the audited exact package inventory: " ++
      formatRpmIdentity identity)
  else if rpmSlot identity ∉ installs.map rpmSlot then
    some ("solver would remove a package without a planned replacement: " ++
      formatRpmIdentity identity)
  else if forwardPackageAllowed identity.1 packages .dnf audit = false then
    some ("solver would replace a package outside the target closure: " ++
      formatRpmIdentity identity)
  else none

/-- `_dnf_forward_transaction_error`: why a solved DNF transaction is refused, if it is. -/
def dnfForwardTransactionError (result : CommandResult) (packages : List String)
    (audit : HostAudit) : Option String :=
  match parseDnfForwardTransaction result with
  | none => some "solver emitted malformed or truncated transaction evidence"
  | some (installs, removals) =>
      (installs.findSome? (dnfForwardInstallError packages audit)).or
        ((removals.findSome? (dnfForwardRemovalError installs packages audit)).or
          (omittedTargetError .dnf packages audit (installs.map (·.1))))

/-! ## Zypper -/

/-- `_zypper_inventory_identity`: the identity of an installed package, if its row is complete. -/
def zypperInventoryIdentity (package : PackageInfo) : Option ZypperIdentity :=
  if package.installed && package.manager == some "rpm" && truthy package.version &&
      truthy package.architecture then
    some (zypperIdentity package)
  else none

/-- Whether the action changes an architecture. -/
def ZypperAction.changesArchitecture (action : ZypperAction) : Bool :=
  !action.keepsArchitecture

/-- The first error that the check finds in one action of a summary. -/
def zypperForwardActionError (actions : List (ZypperAction × ZypperIdentity))
    (packages : List String) (audit : HostAudit) (entry : ZypperAction × ZypperIdentity) :
    Option String :=
  let current := (audit.packages.filterMap zypperInventoryIdentity).dedup
  let changedSlots := (actions.filter (·.1 ≠ .remove)).map (zypperSlot ·.2)
  let (action, identity) := entry
  if forwardPackageAllowed identity.1 packages .zypper audit = false then
    some ("solver would " ++ (if action ≠ .install then "replace" else "install") ++
      " a package outside the rollback-tracked target closure: " ++
      formatZypperIdentity identity)
  else if action = .remove then
    if identity ∉ current then
      some ("solver removal is not bound to the audited exact package inventory: " ++
        formatZypperIdentity identity)
    else if zypperSlot identity ∉ changedSlots then
      some ("solver would remove a package without a planned replacement: " ++
        formatZypperIdentity identity)
    else none
  else if action.changesArchitecture then
    some ("solver architecture replacement does not expose the exact removed identity: " ++
      formatZypperIdentity identity)
  else if action = .reinstall then
    if identity ∉ current then
      some ("solver reinstall is not bound to the audited exact package inventory: " ++
        formatZypperIdentity identity)
    else none
  else if (action = .upgrade ∨ action = .downgrade) ∧
      (current.filter fun other => zypperSlot other = zypperSlot identity).length ≠ 1 then
    some ("solver replacement is not bound to one audited package slot: " ++
      formatZypperIdentity identity)
  else none

/-- `_zypper_forward_transaction_error`: why a Zypper summary is refused, if it is. -/
def zypperForwardTransactionError (parseXml : String → Option XmlElement)
    (result : CommandResult) (packages : List String) (audit : HostAudit) : Option String :=
  match parseZypperTransaction parseXml result with
  | none => some "machine-readable transaction summary is missing or malformed"
  | some actions =>
      (actions.findSome? (zypperForwardActionError actions packages audit)).or
        (omittedTargetError .zypper packages audit
          ((actions.filter (·.1 ≠ .remove)).map (·.2.1)))

end NvidiaConverge
