import NvidiaConverge.Launchers.Host
import NvidiaConverge.Library.Json
import NvidiaConverge.Library.Result

/-!
# Containers that use a GPU

`_probe_docker_gpu_allocations` of `gpu_safety.py`: the running containers that Docker lists, and
what their inspection says about GPUs. `ShowsGpu` is the meaning of an inspection;
`container_uses_gpu_shown` says that `_container_uses_gpu` never answers `False` where a GPU
shows, and `DockerAnswer` what an answered probe has seen.
-/

namespace NvidiaConverge

open Json (Value)
open Result (refuse)

/-- `_MAX_RUNNING_CONTAINERS`: the most running containers that are inspected. -/
def maxRunningContainers : Nat := 256

/-- `_truncated`: the runner cut one of the outputs off. -/
def truncatedResult (result : CommandResult) : Bool :=
  Text.contains result.stdout "[output truncated:" ||
    Text.contains result.stderr "[output truncated:"

/-! ## One inspection -/

/-- The fields of a JSON object, by key. -/
abbrev JsonFields := List (String × Value)

/-- Checks one after another: `none` is malformed state, `some true` ends them. -/
def firstVerdict : List (Option Bool) → Option Bool
  | [] => some false
  | none :: _ => none
  | some true :: _ => some true
  | some false :: rest => firstVerdict rest

/-- The strings of a list, or nothing where an item is no string. -/
def jsonStrings? (items : List Value) : Option (List String) :=
  items.mapM fun item =>
    match item with
    | .string text => some text
    | _ => none

/-- The list under a key, which may be missing or null. Any other value is an error. -/
def optionalList? (fields : JsonFields) (key : String) : Option (List Value) :=
  match fields.lookup key with
  | none => some []
  | some .null => some []
  | some (.array items) => some items
  | some _ => none

/-- `runtime.lower() == "nvidia"`, where the runtime may be missing or null. -/
def runtimeVerdict (hostConfig : JsonFields) : Option Bool :=
  match hostConfig.lookup "Runtime" with
  | none => some false
  | some .null => some false
  | some (.string runtime) => some (Text.lower runtime == "nvidia")
  | some _ => none

/-- Whether one capability set of a device request names the GPU. -/
def capabilityVerdict : Value → Option Bool
  | .array capabilities =>
      (jsonStrings? capabilities).map fun names => names.any fun name => Text.lower name == "gpu"
  | _ => none

/-- Whether one device request asks for NVIDIA's driver or for a GPU. -/
def requestVerdict : Value → Option Bool
  | .object request =>
      match (request.lookup "Driver").getD (.string ""),
          (request.lookup "Capabilities").getD (.array []) with
      | .string driver, .array capabilities =>
          firstVerdict (some (Text.lower driver == "nvidia") :: capabilities.map capabilityVerdict)
      | _, _ => none
  | _ => none

/-- Whether a device or a mount has an NVIDIA path, by one of its two paths. -/
def pathVerdict (keys : List String) : Value → Option Bool
  | .object fields =>
      some (keys.any fun key =>
        match fields.lookup key with
        | some (.string path) => Text.startsWith path "/dev/nvidia"
        | _ => false)
  | _ => none

/-- Whether one item of a list shows a GPU. Every item must be well formed. -/
def itemsVerdict (verdict : Value → Option Bool) (items : Option (List Value)) : Option Bool :=
  items.bind fun items => firstVerdict (items.map verdict)

/-- Whether any string of a list shows a GPU. -/
def stringsVerdict (shows : String → Bool) (items : Option (List Value)) : Option Bool :=
  (items.bind jsonStrings?).map fun texts => texts.any shows

/-- `NVIDIA_VISIBLE_DEVICES` with a setting that selects devices. -/
def selectsDevices (setting : String) : Bool :=
  match Text.partition? '=' setting with
  | some (name, value) =>
      name == "NVIDIA_VISIBLE_DEVICES" &&
        !(["", "none", "void"] : List String).contains (Text.lower (Text.strip value))
  | none => false

/-- `_container_uses_gpu`; `none` is malformed allocation state. -/
def containerUsesGpu (container : JsonFields) : Option Bool :=
  match container.lookup "HostConfig", container.lookup "Config",
      (container.lookup "Mounts").getD (.array []) with
  | some (.object hostConfig), some (.object config), .array mounts =>
      firstVerdict
        [runtimeVerdict hostConfig,
          itemsVerdict requestVerdict (optionalList? hostConfig "DeviceRequests"),
          itemsVerdict (pathVerdict ["PathOnHost", "PathInContainer"])
            (optionalList? hostConfig "Devices"),
          stringsVerdict (Text.startsWith · "/dev/nvidia") (optionalList? hostConfig "Binds"),
          itemsVerdict (pathVerdict ["Source", "Destination"]) (some mounts),
          stringsVerdict selectsDevices (optionalList? config "Env")]
  | _, _, _ => none

/-! ## What an inspection shows -/

/-- A device request for a GPU: by its driver or by a capability. -/
def RequestsGpu (request : JsonFields) : Prop :=
  (∃ driver, request.lookup "Driver" = some (.string driver) ∧ Text.lower driver = "nvidia") ∨
    ∃ capabilities set name, request.lookup "Capabilities" = some (.array capabilities) ∧
      .array set ∈ capabilities ∧ .string name ∈ set ∧ Text.lower name = "gpu"

/-- One of the paths under these keys is that of an NVIDIA device. -/
def NamesDevice (keys : List String) (fields : JsonFields) : Prop :=
  ∃ key ∈ keys, ∃ path, fields.lookup key = some (.string path) ∧
    Text.startsWith path "/dev/nvidia" = true

/-- What the inspection of a container can show of a GPU. -/
inductive ShowsGpu (container : JsonFields) : Prop where
  | runtime {hostConfig : JsonFields} {name : String}
      (hhost : container.lookup "HostConfig" = some (.object hostConfig))
      (hname : hostConfig.lookup "Runtime" = some (.string name))
      (hnvidia : Text.lower name = "nvidia")
  | request {hostConfig request : JsonFields} {requests : List Value}
      (hhost : container.lookup "HostConfig" = some (.object hostConfig))
      (hrequests : hostConfig.lookup "DeviceRequests" = some (.array requests))
      (hrequest : .object request ∈ requests) (hgpu : RequestsGpu request)
  | device {hostConfig device : JsonFields} {devices : List Value}
      (hhost : container.lookup "HostConfig" = some (.object hostConfig))
      (hdevices : hostConfig.lookup "Devices" = some (.array devices))
      (hdevice : .object device ∈ devices)
      (hpath : NamesDevice ["PathOnHost", "PathInContainer"] device)
  | bind {hostConfig : JsonFields} {binds : List Value} {bind : String}
      (hhost : container.lookup "HostConfig" = some (.object hostConfig))
      (hbinds : hostConfig.lookup "Binds" = some (.array binds))
      (hbind : .string bind ∈ binds) (hpath : Text.startsWith bind "/dev/nvidia" = true)
  | mount {mounts : List Value} {mount : JsonFields}
      (hmounts : container.lookup "Mounts" = some (.array mounts))
      (hmount : .object mount ∈ mounts) (hpath : NamesDevice ["Source", "Destination"] mount)
  | environment {config : JsonFields} {settings : List Value} {setting : String}
      (hconfig : container.lookup "Config" = some (.object config))
      (hsettings : config.lookup "Env" = some (.array settings))
      (hsetting : .string setting ∈ settings) (hselects : selectsDevices setting = true)

/-- Checks that end in `False` have all ended so. -/
theorem first_verdict_eq_false {verdicts : List (Option Bool)} :
    firstVerdict verdicts = some false ↔ ∀ verdict ∈ verdicts, verdict = some false := by
  induction verdicts with
  | nil => simp [firstVerdict]
  | cons verdict verdicts ih =>
      rw [List.forall_mem_cons]
      match verdict with
      | none => simp [firstVerdict]
      | some true => simp [firstVerdict]
      | some false => simp [firstVerdict, ih]

theorem items_verdict_eq_false {verdict : Value → Option Bool} {items : Option (List Value)}
    (h : itemsVerdict verdict items = some false) {listed : List Value}
    (hitems : items = some listed)
    {item : Value} (hitem : item ∈ listed) : verdict item = some false := by
  subst hitems
  exact first_verdict_eq_false.mp h _ (List.mem_map_of_mem hitem)

/-- A list of strings has every string of the JSON list. -/
theorem mem_json_strings {items : List Value} {texts : List String}
    (h : jsonStrings? items = some texts) {text : String} (htext : .string text ∈ items) :
    text ∈ texts := by
  induction items generalizing texts with
  | nil => cases htext
  | cons item items ih =>
      rw [jsonStrings?, List.mapM_cons] at h
      obtain ⟨first, hfirst, h⟩ := Option.bind_eq_some_iff.mp h
      obtain ⟨rest, hrest, h⟩ := Option.bind_eq_some_iff.mp h
      cases h
      rcases List.mem_cons.mp htext with rfl | htext
      · cases hfirst
        exact List.mem_cons_self
      · exact List.mem_cons_of_mem _ (ih hrest htext)

theorem strings_verdict_eq_false {shows : String → Bool} {items : Option (List Value)}
    (h : stringsVerdict shows items = some false) {listed : List Value}
    (hitems : items = some listed) {text : String} (htext : .string text ∈ listed) :
    shows text = false := by
  subst hitems
  obtain ⟨texts, htexts, hnone⟩ := Option.map_eq_some_iff.mp h
  exact List.any_eq_false.mp hnone text (mem_json_strings htexts htext) |>
    Bool.eq_false_of_not_eq_true

theorem optional_list_of_array {fields : JsonFields} {key : String} {items : List Value}
    (h : fields.lookup key = some (.array items)) : optionalList? fields key = some items := by
  rw [optionalList?, h]

/-- A device request that is passed over is none for a GPU. -/
theorem request_verdict_eq_false {request : JsonFields}
    (h : requestVerdict (.object request) = some false) : ¬ RequestsGpu request := by
  unfold requestVerdict at h
  dsimp only at h
  rintro (⟨driver, hdriver, hnvidia⟩ | ⟨capabilities, set, name, hcapabilities, hset, hname, hgpu⟩)
  · rw [hdriver] at h
    simp only [Option.getD_some] at h
    split at h
    · next hsame _ =>
        cases hsame
        have hfirst := first_verdict_eq_false.mp h _ List.mem_cons_self
        rw [hnvidia] at hfirst
        cases hfirst
    · cases h
  · rw [hcapabilities] at h
    simp only [Option.getD_some] at h
    split at h
    · next hsame =>
        cases hsame
        have hitem := first_verdict_eq_false.mp h _
          (List.mem_cons_of_mem _ (List.mem_map_of_mem hset))
        have hstrings : stringsVerdict (fun name => Text.lower name == "gpu") (some set) =
            some false := hitem
        have hnone := strings_verdict_eq_false hstrings rfl hname
        rw [hgpu] at hnone
        cases hnone
    · cases h

theorem path_verdict_eq_false {keys : List String} {fields : JsonFields}
    (h : pathVerdict keys (.object fields) = some false) : ¬ NamesDevice keys fields := by
  rintro ⟨key, hkey, path, hpath, hdevice⟩
  have hnone := List.any_eq_false.mp (Option.some.inj h) key hkey
  rw [hpath] at hnone
  exact hnone hdevice

/-- Where a GPU shows, the inspection is not passed over. -/
theorem container_uses_gpu_shown {container : JsonFields}
    (h : containerUsesGpu container = some false) : ¬ ShowsGpu container := by
  unfold containerUsesGpu at h
  split at h
  · next hostConfig config mounts hhost hconfig hmounts =>
      have hverdicts := first_verdict_eq_false.mp h
      simp only [List.forall_mem_cons, List.not_mem_nil, false_imp_iff, implies_true,
        and_true] at hverdicts
      obtain ⟨hruntime, hrequests, hdevices, hbinds, hmount, henvironment⟩ := hverdicts
      intro hshows
      cases hshows with
      | runtime hother hname hnvidia =>
          cases hhost.symm.trans hother
          rw [runtimeVerdict, hname] at hruntime
          simp [hnvidia] at hruntime
      | request hother hlisted hrequest hgpu =>
          cases hhost.symm.trans hother
          exact request_verdict_eq_false
            (items_verdict_eq_false hrequests (optional_list_of_array hlisted) hrequest) hgpu
      | device hother hlisted hdevice hpath =>
          cases hhost.symm.trans hother
          exact path_verdict_eq_false
            (items_verdict_eq_false hdevices (optional_list_of_array hlisted) hdevice) hpath
      | bind hother hlisted hbind hpath =>
          cases hhost.symm.trans hother
          have hnone := strings_verdict_eq_false hbinds (optional_list_of_array hlisted) hbind
          rw [hpath] at hnone
          cases hnone
      | mount hlisted hfound hpath =>
          rw [hlisted] at hmounts
          cases hmounts
          exact path_verdict_eq_false (items_verdict_eq_false hmount rfl hfound) hpath
      | environment hother hlisted hsetting hselects =>
          cases hconfig.symm.trans hother
          have hnone := strings_verdict_eq_false henvironment
            (optional_list_of_array hlisted) hsetting
          rw [hselects] at hnone
          cases hnone
  · cases h

/-! ## The probe -/

/-- What the Docker client answers to the listing and to the inspection. -/
structure DockerReplies where
  present : Bool
  listed : CommandResult
  inspected : List String → CommandResult

/-- `_CONTAINER_ID.fullmatch`: between 12 and 64 hexadecimal digits. -/
def isContainerId (text : String) : Bool :=
  12 ≤ text.toList.length && text.toList.length ≤ 64 &&
    text.toList.all fun c => c.isDigit || ('a' ≤ c && c ≤ 'f')

/-- The inspection says that the container is running. -/
def isRunning (container : JsonFields) : Bool :=
  match container.lookup "State" with
  | some (.object state) =>
      match state.lookup "Running" with
      | some (.bool running) => running
      | _ => false
  | _ => false

/-- The loop over the inspected containers, with the final check that none is missing. -/
def inspectContainers (expected : List String) :
    List Value → List String → List String → Except String (List String)
  | [], observed, gpuContainers => do
      -- Nothing observed is unexpected, so that this compares the two sets.
      refuse (¬ expected ⊆ observed) "Docker returned an incomplete container inspection"
      pure gpuContainers
  | container :: containers, observed, gpuContainers =>
      match container with
      | .object fields =>
          match fields.lookup "Id" with
          | some (.string containerId) => do
              refuse (containerId ∉ expected)
                "Docker inspection did not match the requested containers"
              refuse (containerId ∈ observed) "Docker returned duplicate container inspection state"
              refuse (isRunning fields = false)
                "Docker container state changed during workload inspection"
              match containerUsesGpu fields with
              | none =>
                  throw ("Docker container " ++ String.ofList (containerId.toList.take 12) ++
                    " has malformed GPU allocation state")
              | some usesGpu =>
                  inspectContainers expected containers (observed ++ [containerId])
                    (if usesGpu then gpuContainers ++ [containerId] else gpuContainers)
          | _ => throw "Docker inspection did not match the requested containers"
      | _ => throw "Docker returned a malformed container inspection"

/-- The lines of the listing, without blanks around them and empty ones. -/
def DockerReplies.containerIds (docker : DockerReplies) : List String :=
  ((Text.lines docker.listed.stdout).map Text.strip).filter (· ≠ "")

/-- `_probe_docker_gpu_allocations` of a daemon that may be asked; `loads` is `json.loads`. -/
def askDocker (loads : String → Option Value) (docker : DockerReplies) :
    Except String (List String) := do
  refuse (docker.listed.returncode ≠ some 0)
    (commandError "running Docker containers are not observable" docker.listed)
  refuse (truncatedResult docker.listed = true) "Docker container inventory was truncated"
  refuse (maxRunningContainers < docker.containerIds.length)
    "running Docker container inventory exceeded the bounded scan limit"
  refuse (¬ docker.containerIds.Nodup ∨ docker.containerIds.all isContainerId = false)
    "Docker returned an invalid running-container inventory"
  if docker.containerIds = [] then pure []
  else do
    let inspected := docker.inspected docker.containerIds
    refuse (inspected.returncode ≠ some 0)
      (commandError "running Docker containers could not be inspected" inspected)
    refuse (truncatedResult inspected = true) "Docker container inspection output was truncated"
    match loads inspected.stdout with
    | none => throw "Docker returned invalid container inspection JSON"
    | some (.array containers) => do
        refuse (containers.length ≠ docker.containerIds.length)
          "Docker returned an incomplete container inspection"
        let gpuContainers ← inspectContainers docker.containerIds containers [] []
        pure (gpuContainers.insertionSort (· ≤ ·))
    | some _ => throw "Docker returned an incomplete container inspection"

/-- Whether the daemon may be asked: it is active, or nothing is known of the host. -/
def dockerMayBeAsked (audit : Option HostAudit) : Bool :=
  audit.all fun audit => audit.launchers.dockerService.active == some true

/-- `_probe_docker_gpu_allocations`: the running containers that hold a GPU. -/
def probeDockerGpuAllocations (loads : String → Option Value) (audit : Option HostAudit)
    (docker : DockerReplies) : Except String (List String) :=
  if audit.any fun audit => audit.launchers.dockerService.active == some false then pure []
  else if dockerMayBeAsked audit = false then
    throw "Docker service activity is not proven; refusing a client probe"
  else if docker.present = false then
    if audit.any (·.runtime.dockerInstalled) then
      throw "Docker is installed but its trusted client executable is unavailable"
    else pure []
  else askDocker loads docker

/-- An inspection of this container that was accepted: it runs, its allocation state is well formed,
and it is counted where a GPU shows. -/
def InspectedContainer (gpuContainers : List String) (containerId : String) (container : Value) :
    Prop :=
  ∃ fields usesGpu, container = .object fields ∧
    fields.lookup "Id" = some (.string containerId) ∧ isRunning fields = true ∧
    containerUsesGpu fields = some usesGpu ∧ (ShowsGpu fields → containerId ∈ gpuContainers)

/-- What an answered probe has seen: every listed container was inspected, each of them once. -/
structure DockerAnswer (loads : String → Option Value) (docker : DockerReplies)
    (gpuContainers : List String) : Prop where
  listed : docker.listed.returncode = some 0 ∧ truncatedResult docker.listed = false
  bounded : docker.containerIds.length ≤ maxRunningContainers
  valid : docker.containerIds.Nodup ∧ docker.containerIds.all isContainerId = true
  inspected : docker.containerIds ≠ [] →
    (docker.inspected docker.containerIds).returncode = some 0 ∧
      truncatedResult (docker.inspected docker.containerIds) = false ∧
      ∃ containers, loads (docker.inspected docker.containerIds).stdout = some (.array containers) ∧
        ∃ containerIds, containerIds.Perm docker.containerIds ∧
          List.Forall₂ (InspectedContainer gpuContainers) containerIds containers

/-- The loop keeps what was counted. Every container behind it is inspected under an identity of its
own, and with those observed before these are all the expected ones. -/
theorem inspect_containers_ok {expected : List String} {containers : List Value}
    {observed gpuContainers found : List String} (hobserved : observed.Nodup)
    (h : inspectContainers expected containers observed gpuContainers = .ok found) :
    gpuContainers ⊆ found ∧ ∃ containerIds, (observed ++ containerIds).Nodup ∧
      containerIds ⊆ expected ∧ expected ⊆ observed ++ containerIds ∧
      List.Forall₂ (InspectedContainer found) containerIds containers := by
  induction containers generalizing observed gpuContainers with
  | nil =>
      obtain ⟨hall, h⟩ := Result.check_bind_eq_ok.mp h
      cases Result.pure_eq_ok.mp h
      rw [Result.refuse_eq_ok, not_not] at hall
      exact ⟨List.Subset.refl _, [], by rwa [List.append_nil], List.nil_subset _,
        by rwa [List.append_nil], .nil⟩
  | cons container containers ih =>
      unfold inspectContainers at h
      split at h
      · next fields =>
          split at h
          · next containerId hid =>
              obtain ⟨hexpected, h⟩ := Result.check_bind_eq_ok.mp h
              obtain ⟨hnew, h⟩ := Result.check_bind_eq_ok.mp h
              obtain ⟨hrunning, h⟩ := Result.check_bind_eq_ok.mp h
              rw [Result.refuse_eq_ok] at hexpected hnew hrunning
              split at h
              · cases h
              · next usesGpu hverdict =>
                  have hgrown : (observed ++ [containerId]).Nodup :=
                    List.nodup_append.mpr ⟨hobserved, List.nodup_singleton _,
                      fun id hmem other hother => by
                        rintro rfl
                        exact hnew (List.mem_singleton.mp hother ▸ hmem)⟩
                  obtain ⟨hkept, containerIds, hnodup, hsubset, hall, hrest⟩ := ih hgrown h
                  rw [List.append_assoc, List.singleton_append] at hnodup hall
                  have hcounted : gpuContainers ⊆
                      if usesGpu then gpuContainers ++ [containerId] else gpuContainers := by
                    split
                    · exact List.subset_append_left _ _
                    · exact List.Subset.refl _
                  refine ⟨List.Subset.trans hcounted hkept, containerId :: containerIds, hnodup,
                    List.cons_subset.mpr ⟨not_not.mp hexpected, hsubset⟩, hall,
                    .cons ⟨fields, usesGpu, rfl, hid, Bool.eq_true_of_not_eq_false hrunning,
                      hverdict, fun hshows => ?_⟩ hrest⟩
                  cases usesGpu with
                  | false => exact absurd hshows (container_uses_gpu_shown hverdict)
                  | true => exact hkept (List.mem_append_right _ (List.mem_singleton.mpr rfl))
          · cases h
      · cases h

theorem ask_docker_ok {loads : String → Option Value} {docker : DockerReplies}
    {gpuContainers : List String} (h : askDocker loads docker = .ok gpuContainers) :
    DockerAnswer loads docker gpuContainers := by
  obtain ⟨hlisted, h⟩ := Result.check_bind_eq_ok.mp h
  obtain ⟨hwhole, h⟩ := Result.check_bind_eq_ok.mp h
  obtain ⟨hbounded, h⟩ := Result.check_bind_eq_ok.mp h
  obtain ⟨hvalid, h⟩ := Result.check_bind_eq_ok.mp h
  rw [Result.refuse_eq_ok] at hlisted hwhole hbounded hvalid
  push Not at hvalid
  refine ⟨⟨not_not.mp hlisted, Bool.eq_false_of_not_eq_true hwhole⟩, Nat.not_lt.mp hbounded,
    ⟨hvalid.1, Bool.eq_true_of_not_eq_false hvalid.2⟩, fun hne => ?_⟩
  rw [if_neg hne] at h
  obtain ⟨hcode, h⟩ := Result.check_bind_eq_ok.mp h
  obtain ⟨hcomplete, h⟩ := Result.check_bind_eq_ok.mp h
  rw [Result.refuse_eq_ok] at hcode hcomplete
  refine ⟨not_not.mp hcode, Bool.eq_false_of_not_eq_true hcomplete, ?_⟩
  split at h
  · cases h
  · next containers hloads =>
      obtain ⟨-, h⟩ := Result.check_bind_eq_ok.mp h
      obtain ⟨found, hfound, h⟩ := Result.bind_eq_ok.mp h
      cases Result.pure_eq_ok.mp h
      obtain ⟨-, containerIds, hnodup, hsubset, hall, hinspected⟩ :=
        inspect_containers_ok List.nodup_nil hfound
      refine ⟨containers, hloads, containerIds, ?_, hinspected.imp ?_⟩
      · exact (List.perm_ext_iff_of_nodup hnodup hvalid.1).mpr fun containerId =>
          ⟨fun hmem => hsubset hmem, fun hmem => hall hmem⟩
      · rintro containerId container ⟨fields, usesGpu, hfields, hid, hrunning, hverdict, hshows⟩
        exact ⟨fields, usesGpu, hfields, hid, hrunning, hverdict,
          fun hgpu => (List.mem_insertionSort _).mpr (hshows hgpu)⟩
  · cases h

end NvidiaConverge
