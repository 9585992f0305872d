import NvidiaConverge.Rollback.Snapshot

/-!
# Rollback commands

`_rollback_commands` derives the package transaction that restores a snapshot, and
`_allowed_rollback_command` is the grammar that `load_snapshot` holds a recorded command
against.
-/

namespace NvidiaConverge

/-- `_interesting_package`: the package is one that a snapshot records. -/
def interestingPackage (name : String) : Bool :=
  ["nvidia", "libnvidia", "cuda", "docker-ce", "linux-headers-", "kernel-devel-"].any
      (Text.startsWith name) ||
    ["build-essential", "containerd.io", "docker-buildx-plugin", "docker-compose-plugin", "gcc",
     "kernel-devel", "kernel-headers", "make", "nvidia-container-toolkit"].contains name ||
    ["kernel-default-devel", "kernel-azure-devel", "kernel-64k-devel"].contains name

/-- `value if value else None`: the reading of an optional string's truth. -/
def truthy : Option String → Bool
  | none => false
  | some text => text ≠ ""

/-- `f"{value}"` of an optional string, which prints `None` where it is missing. -/
def formatOption : Option String → String
  | none => "None"
  | some text => text

/-- `PackageIdentity`: name, architecture, epoch, version. -/
structure PackageIdentity where
  name : String
  architecture : String
  epoch : Option String
  version : String
  deriving DecidableEq

/-- `package_identity` of an audited package. -/
def PackageInfo.identity (package : PackageInfo) : PackageIdentity where
  name := package.name
  architecture := package.architecture.getD ""
  epoch := package.epoch
  version := package.version.getD ""

/-- `package_identity` of a retained payload. -/
def PackagePayload.identity (payload : PackagePayload) : PackageIdentity where
  name := payload.name
  architecture := payload.architecture
  epoch := payload.epoch
  version := payload.version

/-- `_format_package_identity`: the name with the architecture, the epoch and the version. -/
def formatPackageIdentity (identity : PackageIdentity) : String :=
  identity.name ++
    (if identity.architecture = "" then "" else ":" ++ identity.architecture) ++
    (if identity.version = "" then ""
     else
      "=" ++ (if truthy identity.epoch then formatOption identity.epoch ++ ":" else "") ++
        identity.version)

/-- `f"{epoch}:" if epoch else ""`, in front of a version. -/
def epochPrefix (package : PackageInfo) : String :=
  if truthy package.epoch then formatOption package.epoch ++ ":" else ""

/-- `f".{architecture}" if architecture else ""`. -/
def architectureSuffix (package : PackageInfo) : String :=
  if truthy package.architecture then "." ++ formatOption package.architecture else ""

/-- `_rpm_package_spec`: the spelling of an exact package for DNF and YUM. -/
def rpmPackageSpec (package : PackageInfo) : String :=
  package.name ++ "-" ++ epochPrefix package ++ formatOption package.version ++
    architectureSuffix package

/-- `_zypper_package_spec`: the spelling of an exact package for Zypper. -/
def zypperPackageSpec (package : PackageInfo) : String :=
  package.name ++ architectureSuffix package ++ "=" ++ epochPrefix package ++
    formatOption package.version

/-- The spelling of an exact package for APT, with its architecture where that is known. -/
def aptPackageSpec (package : PackageInfo) : String :=
  package.name ++
    (if truthy package.architecture then ":" ++ formatOption package.architecture else "") ++
    "=" ++ formatOption package.version

/-- A stand-in for the text of `DNF_LOCAL_TRANSACTION_SCRIPT`, which no modelled check reads. -/
def dnfLocalTransactionScript : String := "DNF_LOCAL_TRANSACTION_SCRIPT"

/-- `dnf_local_transaction_command`: the call of the script that runs one exact transaction. -/
def dnfLocalTransactionCommand (apply : Bool) (restorePaths removeSpecs expectedInstalls
    expectedRemovals : List String) : List String :=
  ["python3", "-I", "-c", dnfLocalTransactionScript, if apply then "--apply" else "--check"] ++
    restorePaths ++ "--remove" :: removeSpecs ++ "--expect-install" :: expectedInstalls ++
    "--expect-remove" :: expectedRemovals

/-- `sorted(values)` of strings, by their characters. -/
def sorted (values : List String) : List String :=
  values.insertionSort (· ≤ ·)

/-- `_package_tracking_names`: the names that install targets stand for. -/
def packageTrackingNames (packageManager : PackageManager) (targets : List String)
    (kernel : String) : List String :=
  Text.deduplicate <| targets.map fun target =>
    let name := Text.beforeFirst '=' target
    if (packageManager = .dnf ∨ packageManager = .yum) ∧ name = "kernel-devel-" ++ kernel then
      "kernel-devel"
    else name

/-- `_remove_commands`; the assertion errors are unreachable from `_rollback_commands`. -/
def removeCommands (packageManager : PackageManager) (packages : List String) (exact : Bool) :
    List (List String) :=
  if packages = [] then []
  else
    match packageManager with
    | .dnf | .yum =>
        [[packageManager.name, "--disablerepo=*", "--disableplugin=versionlock",
          "--noautoremove", if exact then "remove-nevra" else "remove-n", "-y"] ++ packages]
    | .aptGet | .zypper => []

/-- The packages `_rollback_commands` restores. -/
def restoredPackages (packages : List PackageInfo) : List PackageInfo :=
  packages.filter fun package =>
    package.installed && truthy package.version && interestingPackage package.name

/-- The retained file of one baseline package, as a path beside the snapshot. -/
def localPayloadPath (snapshotPath : String) (bundle : PackagePayloadBundle)
    (package : PackageInfo) : Except String String :=
  -- A later entry of one identity replaces an earlier one in the dictionary.
  match (bundle.packages.filter fun payload => payload.roles.contains "baseline").reverse.find?
      fun payload => payload.identity = package.identity with
  | none =>
      throw ("rollback package payload manifest omits baseline identity " ++
        formatPackageIdentity package.identity)
  | some payload =>
      pure (Posix.pathText (((Posix.pathComponents snapshotPath).getD []).dropLast ++
        [bundle.directory, payload.filename]))

/-- `local_payloads` of `_rollback_commands`: the paths of the retained payloads, one for each
package. -/
def localPayloads (installed : List PackageInfo) (snapshotPath : Option String)
    (packagePayloads : Option PackagePayloadBundle) : Except String (Option (List String)) :=
  match packagePayloads, snapshotPath with
  | some _, none => throw "rollback package payloads require an exact snapshot path"
  | some bundle, some path => do
      let paths ← installed.mapM (localPayloadPath path bundle)
      pure (some paths)
  | none, some _ => throw "applicable rollback snapshot has no retained package payloads"
  | none, none => pure none

/-- The fixed part of a command that restores packages with APT. -/
def aptRestorePrefix : List String :=
  ["apt-get", "install", "-y", "--allow-change-held-packages", "--allow-downgrades",
   "--no-download", "--no-install-recommends", "--purge"]

/-- The fixed part of a command that restores packages with Zypper. -/
def zypperRestorePrefix : List String :=
  ["zypper", "--non-interactive", "--disable-repositories", "--no-refresh", "install",
   "--oldpackage", "--no-recommends", "--no-force-resolution"]

/-- The options of `_rollback_commands` that only the applied transaction sets. -/
structure RollbackCommandOptions where
  exactRemovals : Bool := false
  expectedRpmInstalls : Option (List String) := none
  expectedRpmRemovals : Option (List String) := none

/-- `_rollback_commands`: the commands that restore some packages and remove others. -/
def rollbackCommands (packages : List PackageInfo) (packageManager : Option PackageManager)
    (removePackages : List String) (snapshotPath : Option String)
    (packagePayloads : Option PackagePayloadBundle) (options : RollbackCommandOptions := {}) :
    Except String (List (List String)) := do
  let installed := restoredPackages packages
  let removeSpecs := sorted removePackages.dedup
  let rpms := installed.filter fun package => package.manager = some "rpm"
  let paths ← localPayloads installed snapshotPath packagePayloads
  match packageManager with
  | some .aptGet =>
      let specs := paths.getD
        ((installed.filter fun package => package.manager = some "apt").map aptPackageSpec)
      let operands := specs ++ removeSpecs.map (· ++ "-")
      pure (if operands = [] then [] else [aptRestorePrefix ++ operands])
  | some .zypper =>
      let operands := paths.getD (rpms.map zypperPackageSpec) ++ removeSpecs.map ("-" ++ ·)
      pure (if operands = [] then [] else [zypperRestorePrefix ++ "--" :: operands])
  | some manager =>
      match paths with
      | some specs =>
          let expectedInstalls :=
            sorted (options.expectedRpmInstalls.getD (rpms.map rpmPackageSpec))
          let expectedRemovals := sorted (options.expectedRpmRemovals.getD removeSpecs)
          pure (if specs = [] ∧ removeSpecs = [] then []
            else
              [dnfLocalTransactionCommand true specs removeSpecs expectedInstalls
                expectedRemovals])
      | none =>
          let specs := rpms.map rpmPackageSpec
          pure ((if specs = [] then []
            else
              [[manager.name, "--disablerepo=*", "--disableplugin=versionlock",
                "--noautoremove", "--setopt=localpkg_gpgcheck=1", "install-nevra", "-y"] ++
                specs]) ++
            removeCommands manager removeSpecs options.exactRemovals)
  | none => pure []

/-! ## The accepted commands -/

/-- `[A-Za-z0-9]` followed by characters of a class. -/
def startsAlphanumeric (others : List Char) (text : List Char) : Bool :=
  match text with
  | [] => false
  | first :: rest =>
      first.isAlphanum && rest.all fun c => c.isAlphanum || others.contains c

/-- `_valid_package_spec`: a name, with or without a version, that is no option. -/
def validPackageSpec (spec : String) : Bool :=
  !Text.startsWith spec "-" &&
    match Text.splitFirst '=' (Text.dropFinalNewline spec.toList) with
    | (name, none) => startsAlphanumeric ['.', '+', '_', ':', '-'] name
    | (name, some version) =>
        startsAlphanumeric ['.', '+', '_', ':', '-'] name &&
          startsAlphanumeric ['.', '+', ':', '~', '_', '-'] version

/-- `_valid_package_specs`: there are specifications, and each is valid. -/
def validPackageSpecs (specs : List String) : Bool :=
  !specs.isEmpty && specs.all validPackageSpec

/-- `[a-f0-9]{64}\.extension`: the name of a retained payload. -/
def isPayloadFilename (extension name : String) : Bool :=
  Sha256.isDigest (String.ofList (name.toList.take 64)) &&
    name.toList.drop 64 == '.' :: extension.toList

/-- `_valid_local_payload_path`: a payload's name inside a directory of payloads. -/
def validLocalPayloadPath (extension value : String) : Bool :=
  match Posix.components? value with
  | none => false
  | some components =>
      Text.endsWith (components.dropLast.getLastD "") ".payloads" &&
        isPayloadFilename extension (components.getLastD "")

/-- The parts before and after the first occurrence of a marker. -/
def cutAt (marker : String) : List String → Option (List String × List String)
  | [] => none
  | part :: parts =>
      if part = marker then some ([], parts)
      else (cutAt marker parts).map fun (before, after) => (part :: before, after)

/-- The operands of a DNF local transaction, cut at its three markers. -/
structure DnfOperands where
  restorePaths : List String
  removeSpecs : List String
  expectedInstalls : List String
  expectedRemovals : List String

/-- The slices of a DNF local transaction behind its fixed prefix. -/
def dnfOperands? (operands : List String) : Option DnfOperands := do
  let (restorePaths, rest) ← cutAt "--remove" operands
  let (removeSpecs, rest) ← cutAt "--expect-install" rest
  let (expectedInstalls, expectedRemovals) ← cutAt "--expect-remove" rest
  some { restorePaths, removeSpecs, expectedInstalls, expectedRemovals }

/-- The conditions on the slices of a DNF local transaction. -/
def allowedDnfOperands (command : List String) (operands : DnfOperands) : Bool :=
  command.count "--remove" == 1 && command.count "--expect-install" == 1 &&
    command.count "--expect-remove" == 1 &&
    !(operands.restorePaths.isEmpty && operands.removeSpecs.isEmpty) &&
    operands.restorePaths.length == operands.expectedInstalls.length &&
    operands.restorePaths.Nodup && operands.removeSpecs.Nodup &&
    operands.expectedInstalls.Nodup && operands.expectedRemovals.Nodup &&
    operands.restorePaths.all (validLocalPayloadPath "rpm") &&
    (operands.removeSpecs.isEmpty || validPackageSpecs operands.removeSpecs) &&
    (operands.expectedInstalls.isEmpty || validPackageSpecs operands.expectedInstalls) &&
    (operands.expectedRemovals.isEmpty || validPackageSpecs operands.expectedRemovals)

/-- The fixed prefix of an applied DNF local transaction. -/
def dnfRestorePrefix : List String :=
  ["python3", "-I", "-c", dnfLocalTransactionScript, "--apply"]

/-- An operand of an APT restore: a removal or a retained file. -/
def allowedAptOperand (operand : String) : Bool :=
  if Text.endsWith operand "-" then validPackageSpec (String.ofList operand.toList.dropLast)
  else validLocalPayloadPath "deb" operand

/-- An operand of a Zypper restore: a package to remove or a payload to install. -/
def allowedZypperOperand (operand : String) : Bool :=
  if Text.startsWith operand "-" then validPackageSpec (String.ofList operand.toList.tail)
  else validLocalPayloadPath "rpm" operand

/-- Whether a command starts with `dnf` or `yum` and then the given parts. -/
def dnfCommandWith (parts : List String) (command : List String) : Bool :=
  match command with
  | [] => false
  | program :: rest => ["dnf", "yum"].contains program && parts.isPrefixOf rest

/-- `_allowed_rollback_command`: the command is one that the rollback may have recorded. -/
def allowedRollbackCommand (command : List String) : Bool :=
  if dnfRestorePrefix.isPrefixOf command then
    match dnfOperands? (command.drop 5) with
    | none => false
    | some operands => allowedDnfOperands command operands
  else if aptRestorePrefix.isPrefixOf command then
    !(command.drop 8).isEmpty && (command.drop 8).all allowedAptOperand
  else if command.length ≥ 8 ∧ dnfCommandWith ["--disablerepo=*", "--disableplugin=versionlock",
      "--noautoremove", "--setopt=localpkg_gpgcheck=1", "install", "-y"] command = true then
    (command.drop 7).all (validLocalPayloadPath "rpm")
  else if command.length ≥ 7 ∧ dnfCommandWith ["--disablerepo=*", "--disableplugin=versionlock",
      "--noautoremove", "remove-nevra", "-y"] command = true then
    validPackageSpecs (command.drop 6)
  else if command.length ≥ 7 ∧ dnfCommandWith ["--disablerepo=*", "--disableplugin=versionlock",
      "--noautoremove", "remove-n", "-y"] command = true then
    validPackageSpecs (command.drop 6)
  else if zypperRestorePrefix.isPrefixOf command then
    decide (command.length ≥ 10) && command[8]? == some "--" &&
      (command.drop 9).all allowedZypperOperand
  else false

end NvidiaConverge
