import NvidiaConverge.Launchers.Host
import NvidiaConverge.Preflight.Dnf

/-!
# How the observers read `systemctl show`

Four observers classify a launcher: the audit (`parseServiceState`), the rollback with its masked
fallback (`observeServiceState`), the trusted-service observer (`observeTrustedService`) and the
validation of the Docker socket. Each is a function of the text that systemd prints; the file
checks behind a trusted binding are answers of the host.
-/

namespace NvidiaConverge

/-! ## Properties -/

/-- The properties of a unit as `systemctl show` prints them, by name. -/
abbrev Properties := List (String × String)

/-- `properties[name]` of properties that were read. -/
def Properties.value (properties : Properties) (name : String) : String :=
  (properties.lookup name).getD ""

/-- The lines as a dictionary over exactly these names. -/
def readProperties (names : List String) (lines : List String) : Option Properties := do
  let properties ← lines.mapM (Text.partition? '=')
  let keys := properties.map Prod.fst
  if keys.Nodup ∧ (∀ key ∈ keys, key ∈ names) ∧ ∀ name ∈ names, name ∈ keys then some properties
  else none

/-- The properties that `_service_state` asks for. -/
def stateProperties : List String :=
  ["Id", "LoadState", "ActiveState", "UnitFileState"]

/-- `_SERVICE_PROPERTIES`: what the trusted observer asks of a service. -/
def serviceProperties : List String :=
  ["Id", "LoadState", "ActiveState", "SubState", "MainPID", "FragmentPath", "DropInPaths",
    "ExecCondition", "ExecStartPre", "ExecStart", "ExecStartPost", "ExecStop", "ExecStopPost",
    "Environment", "EnvironmentFiles", "RootDirectory", "RootImage", "BindPaths",
    "BindReadOnlyPaths", "TemporaryFileSystem", "MountImages", "ExtensionImages"]

/-- `_DOCKER_SOCKET_PROPERTIES`: what the validation of the socket asks for. -/
def dockerSocketProperties : List String :=
  ["Id", "LoadState", "ActiveState", "SubState", "FragmentPath", "DropInPaths", "Triggers",
    "ExecStartPre", "ExecStartPost", "ExecStopPre", "ExecStopPost", "Environment",
    "EnvironmentFiles", "RootDirectory", "RootImage", "BindPaths", "BindReadOnlyPaths",
    "TemporaryFileSystem", "MountImages", "ExtensionImages"]

/-- `_parse_service_properties` and `_parse_docker_socket_properties`. -/
def parseTrustedProperties (names : List String) (text : String) : Option Properties := do
  let properties ← readProperties names ((Text.lines text).filter (· ≠ ""))
  if ∀ property ∈ properties, Char.ofNat 0 ∉ property.2.toList then some properties else none

/-! ## The audit and the rollback -/

/-- The unit-file states with their spelling, without `not-found`. -/
def restorableUnitFileState (text : String) : Option UnitFileState :=
  [UnitFileState.enabled, .disabled, .static, .masked].find? (·.value == text)

/-- The result and its stdout can be trusted to be whole. -/
def isWhole (result : CommandResult) : Bool :=
  result.returncode == some 0 && !outputTruncated result

/-- `_parse_service_state`: the state of a loaded unit, unknown where anything is out of place. -/
def parseServiceState (result : CommandResult) (expectedUnit : String) : UnitState :=
  if isWhole result = false then {}
  else
    match readProperties stateProperties (Text.lines result.stdout) with
    | none => {}
    | some properties =>
        let loadState := properties.value "LoadState"
        let activeState := properties.value "ActiveState"
        let unitFileState := properties.value "UnitFileState"
        if properties.value "Id" ≠ expectedUnit then {}
        else if loadState = "not-found" then
          if activeState ≠ "inactive" ∨ unitFileState ≠ "" then {}
          else { active := some false, enabled := some false, unitFileState := some .notFound }
        else if loadState ≠ "loaded" ∧ loadState ≠ "masked" then {}
        else
          match restorableUnitFileState unitFileState with
          | none => {}
          | some file =>
              let active :=
                if activeState = "active" then some true
                else if activeState = "inactive" ∨ activeState = "failed" then some false
                else none
              if loadState = "masked" ∧ file ≠ .masked then {}
              else if loadState = "loaded" ∧ file = .masked then {}
              -- A masked unit counts only once it is inactive.
              else if file = .masked ∧ active ≠ some false then {}
              else { active, enabled := some (file == .enabled), unitFileState := some file }

/-- `_parse_masked_unit_file_state`: the state of a unit that is masked, whether systemd has
reloaded it or not. -/
def parseMaskedUnitFileState (result : CommandResult) (unit : String) : Option UnitState :=
  if isWhole result = false then none
  else
    match readProperties stateProperties (Text.lines result.stdout) with
    | none => none
    | some properties =>
        let loadState := properties.value "LoadState"
        let activeState := properties.value "ActiveState"
        if properties.value "Id" ≠ unit ∨ loadState ≠ "loaded" ∧ loadState ≠ "masked" ∨
            properties.value "UnitFileState" ≠ "masked" then none
        else if activeState = "active" then
          some { active := some true, enabled := some false, unitFileState := some .masked }
        else if activeState = "inactive" ∨ activeState = "failed" then
          some { active := some false, enabled := some false, unitFileState := some .masked }
        else none

/-- `_observe_service_state`, on what `systemctl show` printed. -/
def observeServiceState (result : CommandResult) (unit : String) : Observation :=
  let state := parseServiceState result unit
  { result
    state :=
      if state.active = none then (parseMaskedUnitFileState result unit).getD state else state }

/-! ## The trusted observers -/

/-- `_TrustedServiceObservation`: what the trusted observer has authenticated of a service. -/
structure TrustedServiceObservation (unit : Launcher) where
  active : Bool
  mainPid : Nat
  hasFragment : Bool
  loadState : String
  activeState : String
  subState : String
  properties : Properties
  identity : Option (TrustedGpuServiceIdentity unit)

/-- What the host answers to the file checks of the validations. -/
structure TrustHost where
  /-- `runner.exists("systemctl")`. -/
  systemctl : Bool
  /-- `_validate_trusted_service_binding` of an active unit with this main process. -/
  bindActive : (unit : Launcher) → Properties → Nat →
    Except String (TrustedGpuServiceIdentity unit)
  /-- `_validate_trusted_service_binding` of an inactive unit. -/
  bindInactive : Launcher → Properties → Except String Unit
  /-- `_validate_trusted_docker_socket_binding`. -/
  bindSocket : Properties → Except String TrustedDockerSocketIdentity
  /-- `_trusted_unit_mask_path`. -/
  maskPath : String → Launcher → Except String Unit

/-- The result that a validation records, with its error if it has one. -/
def validationResult (command : List String) (error : Option String) : CommandResult where
  command := command
  returncode := some (if error.isNone then 0 else 1)
  stderr := error.getD ""

/-- The error of a verdict, if it refuses. -/
def verdictError {α : Type} : Except String α → Option String
  | .ok _ => none
  | .error error => some error

/-- The reply of a validation with this verdict. -/
def trustReply {α : Type} (command : List String) (observations : List CommandResult)
    (verdict : Except String α) : TrustReply α where
  observations := observations
  validation := validationResult command (verdictError verdict)
  verdict := verdict
  recorded := by cases verdict <;> rfl

/-- The result of `_validate_trusted_service_binding`. -/
def bindingResult {α : Type} (unit : Launcher) (mainPid : Nat) (verdict : Except String α) :
    CommandResult :=
  validationResult ["validate-trusted-gpu-service", unit.unit, toString mainPid]
    (verdictError verdict)

variable (host : TrustHost)

/-- `_observe_trusted_service`: the results and the observation. -/
def observeTrustedService (unit : Launcher) (result : CommandResult) :
    List CommandResult × Except String (TrustedServiceObservation unit) :=
  match parseTrustedProperties serviceProperties result.stdout with
  | none => ([result], .error (unit.unit ++ " returned malformed or incomplete unit state"))
  | some properties =>
      let id := properties.value "Id"
      let pidText := properties.value "MainPID"
      let mainPid := Text.decimalValue pidText
      let activeState := properties.value "ActiveState"
      let subState := properties.value "SubState"
      let loadState := properties.value "LoadState"
      let hasFragment := properties.value "FragmentPath" ≠ ""
      let observation (active : Bool) (pid : Nat)
          (identity : Option (TrustedGpuServiceIdentity unit)) : TrustedServiceObservation unit :=
        { active, mainPid := pid, hasFragment, loadState, activeState, subState, properties
          identity }
      if id ≠ unit.unit then
        ([result], .error (unit.unit ++ " resolved to unexpected unit " ++ Text.repr id))
      else if Text.isDigitText pidText = false then
        ([result], .error (unit.unit ++ " returned an invalid MainPID"))
      else if loadState = "not-found" then
        if (result.returncode ≠ some 0 ∧ result.returncode ≠ some 1 ∧ result.returncode ≠ some 4) ∨
            activeState ≠ "inactive" ∨ subState ≠ "dead" ∨ mainPid ≠ 0 ∨ hasFragment then
          ([result], .error (unit.unit ++ " has inconsistent not-found unit state"))
        else ([result], .ok (observation false 0 none))
      else if result.returncode ≠ some 0 then
        ([result], .error (commandError ("could not observe " ++ unit.unit) result))
      else if activeState = "active" then
        -- An active unit has to be loaded: one that was masked while it ran is refused.
        if loadState ≠ "loaded" ∨ subState ≠ "running" ∨ mainPid = 0 ∨ ¬ hasFragment then
          ([result], .error (unit.unit ++ " has an unsupported active unit state"))
        else
          let binding := host.bindActive unit properties mainPid
          ([result, bindingResult unit mainPid binding],
            binding.map fun identity => observation true mainPid (some identity))
      else if activeState = "inactive" ∨ activeState = "failed" then
        if mainPid ≠ 0 ∨ (subState ≠ "dead" ∧ subState ≠ "failed") then
          ([result], .error (unit.unit ++ " has an inconsistent inactive unit state"))
        else ([result], .ok (observation false 0 none))
      else
        ([result], .error (unit.unit ++ " is in transitional state " ++ Text.repr activeState))

/-- The properties that an inert unit may have. -/
def inertProperties (names : List String) : List String :=
  names.filter fun name =>
    name ∉ ["Id", "LoadState", "ActiveState", "SubState", "MainPID", "FragmentPath"]

/-- What the validation of an inert unit checks beside its activity. -/
def validateInertProperties (unit : Launcher) (names : List String) (cannot : String)
    (loadState : String) (properties : Properties) : Except String Unit := do
  let fragment := properties.value "FragmentPath"
  Result.refuse (loadState = "not-found" ∧ fragment ≠ "")
    (cannot ++ "inconsistent not-found fragment state")
  if loadState = "masked" then do
    Result.refuse (fragment = "") (cannot ++ "inconsistent masked fragment state")
    match host.maskPath fragment unit with
    | .ok _ => pure ()
    | .error error => throw (cannot ++ "untrusted masked fragment state: " ++ error)
  match (inertProperties names).find? fun name => properties.value name ≠ "" with
  | none => pure ()
  | some name =>
      throw (cannot ++ "unexpected effective " ++ name ++ " in " ++ loadState ++ " state")

/-- `_validate_inert_trusted_service_state`: a unit that is not loaded is trusted only where the
caller allows it and nothing of it runs. -/
def validateInertTrustedServiceState {unit : Launcher} (allowMasked : Bool)
    (observation : TrustedServiceObservation unit) : Except String Unit := do
  let cannot := "cannot trust " ++ unit.unit ++ ": "
  Result.refuse (allowMasked = false)
    ("cannot trust " ++ unit.unit ++ " for this mutation: expected an exact loaded unit")
  Result.refuse (observation.active = true ∨ observation.mainPid ≠ 0)
    (cannot ++ "inconsistent " ++ observation.loadState ++ " process state")
  validateInertProperties host unit serviceProperties cannot observation.loadState
    observation.properties

/-- `validate_trusted_gpu_service_unit`, on what `systemctl show` printed. -/
def validateTrustedGpuServiceUnit (unit : Launcher) (allowMasked : Bool) (result : CommandResult) :
    TrustReply Unit :=
  let command := ["validate-trusted-gpu-service-unit", unit.unit]
  if host.systemctl = false then
    trustReply command []
      (.error "trusted systemctl executable is required to validate service unit")
  else
    let (results, observed) := observeTrustedService host unit result
    match observed with
    | .error error => trustReply command results (.error error)
    | .ok observation =>
        if observation.loadState = "loaded" then
          if observation.hasFragment = false then
            trustReply command results
              (.error ("cannot trust " ++ unit.unit ++ ": effective FragmentPath is missing"))
          else if observation.active then trustReply command results (.ok ())
          else
            let binding := host.bindInactive unit observation.properties
            trustReply command (results ++ [bindingResult unit 0 binding]) binding
        else if observation.loadState = "masked" ∨ observation.loadState = "not-found" then
          trustReply command results (validateInertTrustedServiceState host allowMasked observation)
        else
          trustReply command results
            (.error ("cannot trust " ++ unit.unit ++ ": unsupported load state " ++
              Text.repr observation.loadState))

/-- `validate_active_trusted_gpu_service_identity`, on what `systemctl show` printed; the identity
that its result prints is left out. -/
def validateActiveTrustedGpuService (unit : Launcher)
    (expected : Option (TrustedGpuServiceIdentity unit)) (result : CommandResult) :
    TrustReply (TrustedGpuServiceIdentity unit) :=
  let command := ["validate-active-trusted-gpu-service", unit.unit]
  if host.systemctl = false then
    trustReply command []
      (.error "trusted systemctl executable is required to validate active service")
  else
    let (results, observed) := observeTrustedService host unit result
    let cannot := "cannot trust active " ++ unit.unit ++ ": "
    trustReply command results do
      let observation ← observed
      match observation.identity with
      | none =>
          throw (cannot ++ "expected an exact loaded, active, running unit with MainPID greater " ++
            "than 0")
      | some identity => do
          Result.refuse (expected ≠ none ∧ expected ≠ some identity)
            (cannot ++ "service process identity changed across the validation boundary")
          pure identity

/-- `_validate_inert_docker_socket_state`: the same for the socket of Docker, which must be dead. -/
def validateInertDockerSocketState (allowMasked : Bool) (result : CommandResult)
    (properties : Properties) : Except String Unit := do
  let loadState := properties.value "LoadState"
  Result.refuse (allowMasked = false)
    "cannot trust docker.socket for this mutation: expected an exact loaded unit"
  Result.refuse
    (result.returncode ≠ some 0 ∧ result.returncode ≠ some 1 ∧ result.returncode ≠ some 4)
    (commandError "could not observe docker.socket" result)
  Result.refuse (properties.value "ActiveState" ≠ "inactive" ∨ properties.value "SubState" ≠ "dead")
    ("docker.socket has inconsistent " ++ loadState ++ " unit state")
  validateInertProperties host .dockerSocket dockerSocketProperties "docker.socket has " loadState
    properties

/-- The pairs of states in which a loaded socket is stable. -/
def stableSocketStates : List (String × String) :=
  [("active", "listening"), ("inactive", "dead"), ("failed", "failed")]

/-- The verdict of `validate_trusted_docker_socket_unit_identity`. -/
def dockerSocketVerdict (allowMasked : Bool) (result : CommandResult) :
    Except String (Option TrustedDockerSocketIdentity) :=
  match parseTrustedProperties dockerSocketProperties result.stdout with
  | none => throw "docker.socket returned malformed or incomplete unit state"
  | some properties => do
      let loadState := properties.value "LoadState"
      let activeState := properties.value "ActiveState"
      let subState := properties.value "SubState"
      Result.refuse (properties.value "Id" ≠ dockerSocketUnit)
        ("docker.socket resolved to unexpected unit " ++ Text.repr (properties.value "Id"))
      if loadState = "masked" ∨ loadState = "not-found" then do
        validateInertDockerSocketState host allowMasked result properties
        pure none
      else do
        Result.refuse (result.returncode ≠ some 0)
          (commandError "could not observe docker.socket" result)
        Result.refuse (loadState ≠ "loaded")
          ("docker.socket has unsupported load state " ++ Text.repr loadState)
        Result.refuse (stableSocketStates.contains (activeState, subState) = false)
          (if activeState ∉ ["active", "inactive", "failed"] then
            "docker.socket is in transitional state " ++ Text.repr activeState
          else "docker.socket has an inconsistent stable unit state")
        some <$> host.bindSocket properties

/-- `validate_trusted_docker_socket_unit_identity`, on what `systemctl show` printed. -/
def validateTrustedDockerSocketUnit (allowMasked : Bool) (result : CommandResult) :
    TrustReply (Option TrustedDockerSocketIdentity) :=
  let command := ["validate-trusted-docker-socket-unit", dockerSocketUnit]
  if host.systemctl = false then
    trustReply command []
      (.error "trusted systemctl executable is required to validate docker.socket")
  else trustReply command [result] (dockerSocketVerdict host allowMasked result)

/-- `_validate_trusted_gpu_service_spec_start`, on what `systemctl show` printed. -/
def validateTrustedGpuServiceStart (unit : Launcher) (result : CommandResult) : TrustReply Unit :=
  let command := ["validate-trusted-gpu-service-start", unit.unit]
  if host.systemctl = false then
    trustReply command []
      (.error "trusted systemctl executable is required to validate service start")
  else
    let (results, observed) := observeTrustedService host unit result
    match observed with
    | .error error => trustReply command results (.error error)
    | .ok observation =>
        if observation.loadState ≠ "loaded" ∨ observation.activeState ≠ "inactive" ∨
            observation.subState ≠ "dead" ∨ observation.active = true ∨ observation.mainPid ≠ 0 ∨
            observation.hasFragment = false then
          trustReply command results
            (.error ("cannot start " ++ unit.unit ++ ": expected an exact loaded, " ++
              "inactive, dead unit with MainPID 0"))
        else
          let binding := host.bindInactive unit observation.properties
          trustReply command (results ++ [bindingResult unit 0 binding]) binding

/-- `revalidate_trusted_docker_socket_identity`; `rebind` reads the identity of a file again. -/
def revalidateTrustedDockerSocket (rebind : String → Bool → Except String TrustedUnitFileIdentity)
    (identity : TrustedDockerSocketIdentity) : TrustReply Unit :=
  let checked := identity.files.forM fun expected => do
    let current ← rebind expected.path expected.executable
    Result.refuse (current ≠ expected)
      ("trusted effective unit input changed across mask: " ++ expected.path)
  trustReply ["revalidate-trusted-docker-socket-identity", dockerSocketUnit] []
    (checked.mapError ("cannot trust docker.socket: " ++ ·))

/-- What the process checks of `revalidate_trusted_gpu_service_process_identity` read. -/
structure ProcessReads where
  /-- Device and inode of the trusted executable. -/
  executable : Except String (Nat × Nat)
  startTimeBefore : Except String Nat
  /-- Device and inode of the process's executable. -/
  processExecutable : Except String (Nat × Nat)
  cgroupPath : Except String (Option String)
  startTimeAfter : Except String Nat

/-- `revalidate_trusted_gpu_service_process_identity`. -/
def revalidateTrustedGpuServiceProcess (reads : ProcessReads) (unit : Launcher)
    (expected : TrustedGpuServiceIdentity unit) : TrustReply Unit :=
  let identity := (expected.executableDevice, expected.executableInode)
  let checked : Except String Unit := do
    let executable ← reads.executable
    Result.refuse (executable ≠ identity) "trusted executable identity changed across mask"
    let startTimeBefore ← reads.startTimeBefore
    let processExecutable ← reads.processExecutable
    Result.refuse (processExecutable ≠ identity)
      "trusted service process executable changed across mask"
    let cgroupPath ← reads.cgroupPath
    Result.refuse (cgroupPath ≠ some expected.cgroupPath)
      "trusted service process cgroup changed across mask"
    let startTimeAfter ← reads.startTimeAfter
    Result.refuse (startTimeBefore ≠ expected.processStartTimeTicks ∨
        startTimeAfter ≠ expected.processStartTimeTicks)
      "trusted service process identity changed across mask"
  trustReply ["revalidate-trusted-gpu-service-process-identity", unit.unit] []
    (checked.mapError (("cannot trust active " ++ unit.unit ++ ": ") ++ ·))

/-! ## What they can answer -/

/-- The answers that these functions give, whatever systemd prints and the host's files hold. -/
def HostOp.Answers : (op : HostOp) → op.Reply → Prop
  | .observe unit, reply => ∃ shown, reply = observeServiceState shown unit.unit
  | .validateSocket allowMasked, reply =>
      ∃ host shown, reply = validateTrustedDockerSocketUnit host allowMasked shown
  | .validateService unit allowMasked, reply =>
      ∃ host shown, reply = validateTrustedGpuServiceUnit host unit allowMasked shown
  | .validateStart unit, reply =>
      ∃ host shown, reply = validateTrustedGpuServiceStart host unit shown
  | .validateActive unit expected, reply =>
      ∃ host shown, reply = validateActiveTrustedGpuService host unit expected shown
  | .revalidateSocket identity, reply =>
      ∃ rebind, reply = revalidateTrustedDockerSocket rebind identity
  | .revalidateProcess unit identity, reply =>
      ∃ reads, reply = revalidateTrustedGpuServiceProcess reads unit identity
  | .observeTrusted unit, reply =>
      ∃ host shown, reply = ((observeTrustedService host unit shown).1,
        (observeTrustedService host unit shown).2.map TrustedServiceObservation.active)
  | .systemctl _ _, _ | .record _ _, _ | .audit, _ | .probe _, _ => True

/-- An active unit is observed with the identity of its process. -/
theorem observe_trusted_active {host : TrustHost} {unit : Launcher} {shown : CommandResult}
    {observation : TrustedServiceObservation unit}
    (h : (observeTrustedService host unit shown).2 = .ok observation)
    (hactive : observation.active = true) : ∃ identity, observation.identity = some identity := by
  unfold observeTrustedService at h
  split at h
  · cases h
  · simp only at h
    split at h
    · cases h
    split at h
    · cases h
    split at h
    · split at h
      · cases h
      · cases h
        cases hactive
    split at h
    · cases h
    split at h
    · split at h
      · cases h
      · obtain ⟨identity, -, rfl⟩ := Result.map_eq_ok.mp h
        exact ⟨identity, rfl⟩
    split at h
    · split at h
      · cases h
      · cases h
        cases hactive
    · cases h

end NvidiaConverge
