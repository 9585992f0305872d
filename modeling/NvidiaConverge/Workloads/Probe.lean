import NvidiaConverge.Planning.Convergence
import NvidiaConverge.Workloads.Containers
import NvidiaConverge.Workloads.DeviceUsers

/-!
# The workload probe

`probe_active_gpu_workloads` of `gpu_safety.py`: the compute query, the scan of the process table
and the Docker listing, each with its evidence. `CompleteAnswer` says what the probe has seen when
it returns a list; `workload_probe_complete` that it has.
-/

namespace NvidiaConverge

open Json (Value)
open Result (refuse)

/-- What the probe meets on a host: its client, its devices, its processes and Docker. -/
structure ProbeHost where
  smiPresent : Bool
  computeQuery : CommandResult
  devices : DeviceRoot
  processes : ProcessTable
  docker : DockerReplies

/-- The audit shows no loaded NVIDIA module and no NVIDIA device. -/
def driverAbsent (audit : Option HostAudit) : Bool :=
  audit.any fun audit => !audit.module.loaded && audit.module.devices.isEmpty

/-! ## The compute query -/

/-- The lines of the compute query, without blanks around them and empty ones. -/
def ProbeHost.computeLines (host : ProbeHost) : List String :=
  ((Text.lines host.computeQuery.stdout).map Text.strip).filter (· ≠ "")

/-- `all(line.isdigit() and int(line) > 0 for line in lines)`; `int` may raise. -/
def allPositive : List String → Except String Bool
  | [] => pure true
  | line :: lines =>
      if Text.isDigitText line = false then pure false
      else
        match Text.readInteger? line with
        | none => throw "ValueError"
        | some value => if 0 < value then allPositive lines else pure false

/-- `sorted(pids, key=int)`, where `int` may raise. -/
def sortedPids (pids : List String) : Except String (List String) := do
  refuse (pids.all (fun pid => (Text.readInteger? pid).isSome) = false) "ValueError"
  pure (pids.insertionSort fun pid other =>
    (Text.readInteger? pid).getD 0 ≤ (Text.readInteger? other).getD 0)

/-- `_probe_compute_pids`: the processes, and the error that is kept as evidence. -/
def probeComputePids (audit : Option HostAudit) (host : ProbeHost) :
    Except String (Option (List String) × Option String) :=
  if host.smiPresent = false then
    pure (if driverAbsent audit then (some [], none)
      else (none, some "trusted nvidia-smi executable not found"))
  else if host.computeQuery.returncode ≠ some 0 then
    pure (if driverAbsent audit then (some [], none)
      else (none, some (commandError "nvidia-smi compute-process query failed" host.computeQuery)))
  else if truncatedResult host.computeQuery then
    pure (none, some "nvidia-smi compute-process output was truncated")
  else if host.computeLines.all fun line =>
      Text.contains (Text.lower line) "no running processes" then pure (some [], none)
  else do
    if ← allPositive host.computeLines then
      pure (some (← sortedPids (Text.deduplicate host.computeLines)), none)
    else pure (none, some "nvidia-smi returned an invalid compute-process inventory")

/-! ## The probe -/

/-- `identity_evidence`: the devices by major and minor number, sorted and without repetition. -/
def identityEvidence (devices : List NvidiaDeviceIdentity) : List String :=
  ((devices.map (·.rdev)).dedup.insertionSort (· ≤ ·)).map fun device =>
    toString (osMajor device) ++ ":" ++ toString (osMinor device)

/-- What `_probe_device_user_pids` returns: the users, the devices and an error. -/
structure DevicePids where
  pids : List String := []
  identities : List String := []
  error : Option String := none

/-- `_probe_device_user_pids`: the processes that hold a device, unless the driver is absent. -/
def probeDeviceUserPids (audit : Option HostAudit) (host : ProbeHost) :
    Except String DevicePids :=
  if driverAbsent audit then pure {}
  else
    match nvidiaCharacterDeviceIdentities host.devices with
    | .error reason => pure { error := some reason }
    | .ok devices =>
        match scanProcesses devices host.processes with
        | .error reason => pure { identities := identityEvidence devices, error := some reason }
        | .ok users => do
            pure { pids := ← sortedPids users, identities := identityEvidence devices }

/-- The JSON value of a list of texts, or null. -/
def textsValue (texts : Option (List String)) : Value :=
  match texts with
  | some texts => .array (texts.map .string)
  | none => .null

/-- The evidence that the probe prints, with its keys sorted. -/
def probeEvidence (computePids : Option (List String)) (computeError : Option String)
    (devicePids containers : Option (List String)) (identities : List String) : String :=
  Json.dumps none (.object
    ([("compute_pids", textsValue computePids)] ++
      computeError.toList.map (fun error => ("compute_query_error", .string error)) ++
      devicePids.toList.map (fun pids => ("device_user_pids", textsValue (some pids))) ++
      containers.toList.map (fun ids => ("docker_gpu_containers", textsValue (some ids))) ++
      [("nvidia_device_identities", textsValue (some identities))]))

/-- `_WORKLOAD_PROBE_COMMAND`: how the results name the probe. -/
def workloadProbeCommand : List String :=
  ["probe-active-gpu-workloads"]

/-- `_finish`: the failed result of a probe, with its evidence and its error. -/
def finishProbe (evidence error : String) : CommandResult where
  command := workloadProbeCommand
  returncode := some 1
  stdout := evidence
  stderr := error

/-- The first twelve digits of a container's id, as a workload. -/
def dockerWorkload (containerId : String) : String :=
  "docker:" ++ String.ofList (containerId.toList.take 12)

/-- `probe_active_gpu_workloads`; an error is an exception, and no list is `None`. -/
def probeActiveGpuWorkloads (loads : String → Option Value) (audit : Option HostAudit)
    (host : ProbeHost) : Except String (CommandResult × Option (List String)) := do
  let (computePids, computeError) ← probeComputePids audit host
  let scan ← probeDeviceUserPids audit host
  match scan.error with
  | some error =>
      pure (finishProbe (probeEvidence computePids computeError none none scan.identities) error,
        none)
  | none =>
      match probeDockerGpuAllocations loads audit host.docker with
      | .error error =>
          pure (finishProbe
            (probeEvidence computePids computeError (some scan.pids) none scan.identities) error,
              none)
      | .ok containerIds => do
          let processPids ← sortedPids (Text.deduplicate (computePids.getD [] ++ scan.pids))
          let result : CommandResult :=
            { command := workloadProbeCommand
              returncode := some 0
              stdout := probeEvidence computePids computeError (some scan.pids) (some containerIds)
                scan.identities }
          pure (result, some (processPids.map ("pid:" ++ ·) ++ containerIds.map dockerWorkload))

/-! ## Complete answers -/

/-- A process that a well-formed compute query names. -/
def QueriedPid (host : ProbeHost) (pid : String) : Prop :=
  host.smiPresent = true ∧ host.computeQuery.returncode = some 0 ∧
    truncatedResult host.computeQuery = false ∧ pid ∈ host.computeLines ∧
    ∀ line ∈ host.computeLines, Text.isDigitText line = true ∧
      ∃ value, Text.readInteger? line = some value ∧ 0 < value

/-- What the probe has seen when it returns a list. -/
structure CompleteAnswer (loads : String → Option Value) (audit : Option HostAudit)
    (host : ProbeHost) (workloads : List String) : Prop where
  devices : driverAbsent audit = false → NodesAnswer host.devices host.devices.nodes
  processes : driverAbsent audit = false →
    ∃ users, ScanAnswer host.devices.nodes host.processes users ∧
      ∀ name ∈ users, "pid:" ++ name ∈ workloads
  queried : ∀ pid, QueriedPid host pid → "pid:" ++ pid ∈ workloads
  docker : (∀ shown, audit = some shown → shown.launchers.dockerService.active ≠ some false) →
    dockerMayBeAsked audit = true ∧
      (host.docker.present = false →
        ∀ shown, audit = some shown → shown.runtime.dockerInstalled = false) ∧
      (host.docker.present = true → ∃ gpuContainers, DockerAnswer loads host.docker gpuContainers ∧
        ∀ containerId ∈ gpuContainers, dockerWorkload containerId ∈ workloads)

variable {loads : String → Option Value} {audit : Option HostAudit} {host : ProbeHost}
  {pids : List String}

theorem mem_sorted_pids {found : List String} (h : sortedPids pids = .ok found) {pid : String} :
    pid ∈ found ↔ pid ∈ pids := by
  obtain ⟨-, h⟩ := Result.check_bind_eq_ok.mp h
  rw [← Result.pure_eq_ok.mp h, List.mem_insertionSort]

theorem all_positive_eq_true {lines : List String}
    (h : ∀ line ∈ lines, Text.isDigitText line = true ∧
      ∃ value, Text.readInteger? line = some value ∧ 0 < value) : allPositive lines = .ok true := by
  induction lines with
  | nil => rfl
  | cons line lines ih =>
      obtain ⟨⟨hdigits, value, hvalue, hpositive⟩, hrest⟩ := List.forall_mem_cons.mp h
      rw [allPositive, hdigits, if_neg (by decide), hvalue]
      show (if 0 < value then allPositive lines else pure false) = .ok true
      rw [if_pos hpositive]
      exact ih hrest

theorem eq_blank_of_lower {c : Char} (h : c.toLower = ' ') : c = ' ' := by
  unfold Char.toLower at h
  split at h
  · next hupper =>
      have hcode : (c.val + ('a'.val - 'A'.val)).toNat = 32 :=
        congrArg (fun other : Char => other.val.toNat) h
      have hlow : 65 ≤ c.val.toNat := UInt32.le_iff_toNat_le.mp hupper.1
      have hhigh : c.val.toNat ≤ 90 := UInt32.le_iff_toNat_le.mp hupper.2
      have hshift : ('a'.val - 'A'.val).toNat = 32 := by decide
      rw [UInt32.toNat_add, hshift] at hcode
      omega
  · exact h

/-- A line of digits says nothing about processes that are not running. -/
theorem digits_not_idle {line : String} (h : Text.isDigitText line = true) :
    Text.contains (Text.lower line) "no running processes" = false := by
  rw [← Bool.not_eq_true]
  intro hidle
  have hblank : ' ' ∈ (Text.lower line).toList :=
    Text.subset_of_infix hidle (by decide)
  rw [Text.lower, String.toList_ofList] at hblank
  obtain ⟨c, hc, hlower⟩ := List.mem_map.mp hblank
  rw [Text.isDigitText, Bool.and_eq_true_iff] at h
  have hdigit := List.all_eq_true.mp h.2 c hc
  rw [eq_blank_of_lower hlower] at hdigit
  revert hdigit
  decide

/-- A well-formed compute query is taken over. -/
theorem queried_pids {pid : String} (hquery : QueriedPid host pid)
    {computePids : Option (List String)}
    {computeError : Option String}
    (h : probeComputePids audit host = .ok (computePids, computeError)) :
    pid ∈ computePids.getD [] := by
  obtain ⟨hpresent, hcode, hwhole, hpid, hlines⟩ := hquery
  have hidle : ¬ (host.computeLines.all fun line =>
      Text.contains (Text.lower line) "no running processes") = true := by
    intro hall
    have hline := List.all_eq_true.mp hall pid hpid
    rw [digits_not_idle (hlines pid hpid).1] at hline
    cases hline
  rw [probeComputePids, hpresent, if_neg (by decide), if_neg (not_not.mpr hcode), hwhole,
    if_neg (by decide), if_neg hidle, all_positive_eq_true hlines, Result.ok_bind, if_pos rfl] at h
  obtain ⟨sorted, hsorted, h⟩ := Result.bind_eq_ok.mp h
  cases Result.pure_eq_ok.mp h
  exact (mem_sorted_pids hsorted).mpr (Text.mem_deduplicate.mpr hpid)

/-- A scan without an error, on a host whose driver is not absent. -/
theorem device_user_pids_ok {scan : DevicePids} (hpresent : driverAbsent audit = false)
    (h : probeDeviceUserPids audit host = .ok scan) (herror : scan.error = none) :
    NodesAnswer host.devices host.devices.nodes ∧
      ∃ users, ScanAnswer host.devices.nodes host.processes users ∧
        ∀ name ∈ users, name ∈ scan.pids := by
  rw [probeDeviceUserPids, hpresent, if_neg (by decide)] at h
  split at h
  · cases Result.pure_eq_ok.mp h
    cases herror
  · next devices hdevices =>
      have hnodes := nvidia_identities_ok hdevices
      have hsame := hnodes.nodes
      split at h
      · cases Result.pure_eq_ok.mp h
        cases herror
      · next users husers =>
          obtain ⟨sorted, hsorted, h⟩ := Result.bind_eq_ok.mp h
          cases Result.pure_eq_ok.mp h
          rw [← hsame]
          exact ⟨hnodes, users, scan_processes_ok husers,
            fun name hname => (mem_sorted_pids hsorted).mpr hname⟩

/-- An answered Docker probe, unless the daemon is known to be inactive. -/
theorem docker_allocations_ok {containerIds : List String}
    (hactive : ∀ shown, audit = some shown → shown.launchers.dockerService.active ≠ some false)
    (h : probeDockerGpuAllocations loads audit host.docker = .ok containerIds) :
    dockerMayBeAsked audit = true ∧
      (host.docker.present = false →
        ∀ shown, audit = some shown → shown.runtime.dockerInstalled = false) ∧
      (host.docker.present = true → DockerAnswer loads host.docker containerIds) := by
  unfold probeDockerGpuAllocations at h
  split at h
  · next hinactive =>
      cases audit with
      | none => cases hinactive
      | some shown => exact absurd (beq_iff_eq.mp hinactive) (hactive shown rfl)
  · split at h
    · cases h
    · next hasked =>
        refine ⟨Bool.eq_true_of_not_eq_false hasked, ?_⟩
        split at h
        · next hmissing =>
            refine ⟨fun _ shown hshown => ?_, fun hpresent => ?_⟩
            · split at h
              · cases h
              · next hinstalled =>
                  rw [hshown] at hinstalled
                  exact Bool.eq_false_of_not_eq_true hinstalled
            · exact absurd (hmissing.symm.trans hpresent) Bool.false_ne_true
        · next hpresent =>
            exact ⟨fun hmissing => absurd hmissing hpresent, fun _ => ask_docker_ok h⟩

/-- When the probe returns a list, it has read all the evidence that it relies on, and the list
names every user that this evidence shows. -/
theorem workload_probe_complete {result : CommandResult} {workloads : List String}
    (h : probeActiveGpuWorkloads loads audit host = .ok (result, some workloads)) :
    CompleteAnswer loads audit host workloads := by
  obtain ⟨⟨computePids, computeError⟩, hcompute, h⟩ := Result.bind_eq_ok.mp h
  obtain ⟨scan, hscan, h⟩ := Result.bind_eq_ok.mp h
  split at h
  · cases Result.pure_eq_ok.mp h
  · next herror =>
      split at h
      · cases Result.pure_eq_ok.mp h
      · next containerIds hdocker =>
          obtain ⟨processPids, hprocesses, h⟩ := Result.bind_eq_ok.mp h
          cases Result.pure_eq_ok.mp h
          have hlisted : ∀ pid, pid ∈ computePids.getD [] ++ scan.pids → "pid:" ++ pid ∈
              processPids.map ("pid:" ++ ·) ++ containerIds.map dockerWorkload := by
            intro pid hpid
            have hmem := (mem_sorted_pids hprocesses).mpr (Text.mem_deduplicate.mpr hpid)
            exact List.mem_append_left _ (List.mem_map_of_mem hmem)
          refine ⟨fun hpresent => ?_, fun hpresent => ?_, fun pid hquery => ?_, fun hactive => ?_⟩
          · exact (device_user_pids_ok hpresent hscan herror).1
          · obtain ⟨-, users, hanswer, husers⟩ := device_user_pids_ok hpresent hscan herror
            exact ⟨users, hanswer, fun name hname =>
              hlisted name (List.mem_append_right _ (husers name hname))⟩
          · exact hlisted pid (List.mem_append_left _ (queried_pids hquery hcompute))
          · obtain ⟨hasked, hmissing, hpresent⟩ := docker_allocations_ok hactive hdocker
            refine ⟨hasked, hmissing, fun hdockerPresent => ?_⟩
            exact ⟨containerIds, hpresent hdockerPresent, fun containerId hcontainer =>
              List.mem_append_right _ (List.mem_map_of_mem hcontainer)⟩

/-! ## One host -/

/-- One NVIDIA character device, as a sample. -/
def sampleNode : NvidiaDeviceIdentity where
  rdev := 49920
  backingDevice := 5
  inode := 97

/-- A container with this runtime and this environment, as Docker inspects it. -/
def sampleContainer (runtime setting : String) : Value :=
  .array [.object
    [("Id", .string "0123456789ab"),
      ("State", .object [("Running", .bool true)]),
      ("HostConfig", .object [("Runtime", .string runtime)]),
      ("Config", .object [("Env", .array [.string setting])])]]

/-- A host with one device, one process that holds it open, and one container. -/
def sampleHost (query runtime setting : String) : ProbeHost where
  smiPresent := true
  computeQuery := { command := [], returncode := some 0, stdout := query }
  devices :=
    { path := "/dev"
      entries :=
        [{ name := "nvidia0"
           path := "/dev/nvidia0"
           first := .found false true sampleNode
           second := .found false true sampleNode }] }
  processes :=
    { path := "/proc"
      entries :=
        [{ name := "2718"
           descriptors := [{ reply := .vanished }, { reply := .found true 49920 }]
           maps := .vanished
           mapFiles := ⟨fun _ => .vanished, .vanished, .vanished⟩ }] }
  docker :=
    { present := true
      listed := { command := [], returncode := some 0, stdout := "0123456789ab\n" }
      inspected := fun _ =>
        { command := []
          returncode := some 0
          stdout := Json.dumps none (sampleContainer runtime setting) } }

/-- The workloads that the probe returns on a host, if it returns any list. -/
def probedWorkloads (audit : Option HostAudit) (host : ProbeHost) : Option (List String) :=
  (probeActiveGpuWorkloads Json.loads audit host).toOption.bind (·.2)

theorem probed_workloads_eq_some {audit : Option HostAudit} {host : ProbeHost}
    {workloads : List String} (h : probedWorkloads audit host = some workloads) :
    ∃ result, probeActiveGpuWorkloads Json.loads audit host = .ok (result, some workloads) := by
  unfold probedWorkloads at h
  cases hprobe : probeActiveGpuWorkloads Json.loads audit host with
  | error error =>
      rw [hprobe] at h
      cases h
  | ok answer =>
      rw [hprobe] at h
      exact ⟨answer.1, congrArg _ (Prod.ext rfl h)⟩

/-- A process and a container that are both found, beside a compute query. -/
theorem workload_probe_complete_sample :
    CompleteAnswer Json.loads none (sampleHost "42\n" "nvidia" "NVIDIA_VISIBLE_DEVICES=all")
      ["pid:42", "pid:2718", "docker:0123456789ab"] := by
  have hprobed : probedWorkloads none
      (sampleHost "42\n" "nvidia" "NVIDIA_VISIBLE_DEVICES=all") =
        some ["pid:42", "pid:2718", "docker:0123456789ab"] := by
    decide +kernel
  obtain ⟨result, hresult⟩ := probed_workloads_eq_some hprobed
  exact workload_probe_complete hresult

/-- A malformed compute query does not end the probe; on a host whose audit shows no driver it does
not look for the process that holds the device open; a container whose `NVIDIA_VISIBLE_DEVICES` is
`none` is not listed; and a daemon that is inactive is not asked. -/
theorem probe_lists_less :
    probedWorkloads none (sampleHost "not a process\n" "nvidia" "") =
      some ["pid:2718", "docker:0123456789ab"] ∧
    (probedWorkloads (some { convergedHost none none with module := { loaded := false } })
        (sampleHost "42\n" "nvidia" "") = some ["pid:42", "docker:0123456789ab"] ∧
      ∀ process ∈ (sampleHost "42\n" "nvidia" "").processes.entries,
        process.HoldsDevice [sampleNode]) ∧
    probedWorkloads none (sampleHost "42\n" "runc" "NVIDIA_VISIBLE_DEVICES=none") =
      some ["pid:42", "pid:2718"] ∧
    probedWorkloads (some { convergedHost none none with
      launchers := { dockerService := { active := some false } } })
        (sampleHost "42\n" "nvidia" "") = some ["pid:42", "pid:2718"] := by
  refine ⟨by decide +kernel, ⟨by decide +kernel, ?_⟩, by decide +kernel, by decide +kernel⟩
  intro process hprocess
  rw [List.mem_singleton.mp hprocess]
  exact ⟨_, List.mem_cons_of_mem _ List.mem_cons_self, sampleNode, List.mem_cons_self, rfl⟩

end NvidiaConverge
