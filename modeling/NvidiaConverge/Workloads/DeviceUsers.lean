import NvidiaConverge.Library.Result
import NvidiaConverge.Workloads.ProcessMaps

/-!
# Processes that use a GPU

`_probe_device_user_pids` of `gpu_safety.py` on what the kernel shows: the device nodes below the
device root, and of each process the open descriptors and the memory maps. `ScanAnswer` says what
an answered scan has seen of every process: it is counted, or it vanished, or all of it could be
read and none of it is NVIDIA's.
-/

namespace NvidiaConverge

open Result (refuse)

/-- `_MAX_PROCESSES`: the most processes that a scan goes through. -/
def maxProcesses : Nat := 131072

/-- `_MAX_FDS_PER_PROCESS`: the most descriptors of one process. -/
def maxFdsPerProcess : Nat := 65536

/-- `_MAX_TOTAL_FDS`: the most descriptors of a scan. -/
def maxTotalFds : Nat := 1048576

/-- `_MAX_TOTAL_MAP_BYTES`: the most bytes of memory maps of a scan. -/
def maxTotalMapBytes : Nat := 128 * 1024 * 1024

/-- `_MAX_TOTAL_MAP_FILE_STATS`: the most mapped files that a scan inspects. -/
def maxTotalMapFileStats : Nat := 262144

/-- `_MAX_DEVICE_ROOT_ENTRIES`: the most entries of the device root. -/
def maxDeviceRootEntries : Nat := 65536

/-- `_MAX_NVIDIA_DEVICE_NODES`: the most NVIDIA devices of an inventory. -/
def maxNvidiaDeviceNodes : Nat := 4096

/-! ## Device nodes -/

/-- What `os.stat` of a device path answers: a failure, or what it found. -/
inductive NodeReply where
  | failed (reason : String)
  | found (directory character : Bool) (identity : NvidiaDeviceIdentity)

/-- An entry of the device root: its path, what its two `os.stat` calls answer, and the entries
below it when it is the directory of capability devices. -/
structure DeviceEntry where
  name : String
  path : String
  first : NodeReply
  second : NodeReply
  capabilities : List (String × NodeReply) := []
  capabilitiesError : Option String := none

/-- A device root: its entries, and the error that ends the enumeration. -/
structure DeviceRoot where
  path : String
  entries : List DeviceEntry
  error : Option String := none

/-- `add_device`: one more node, which must be a character device within the limit. -/
def addDevice (path : String) (reply : NodeReply) (devices : List NvidiaDeviceIdentity) :
    Except String (List NvidiaDeviceIdentity) := do
  refuse (maxNvidiaDeviceNodes < devices.length + 1)
    "NVIDIA device inventory exceeded the bounded node limit"
  match reply with
  | .failed reason =>
      throw ("cannot inspect NVIDIA device node " ++ path ++ ": " ++ reason)
  | .found _ character identity => do
      refuse (character = false) ("NVIDIA device path is not a character device: " ++ path)
      pure (devices ++ [identity])

/-- The loop over the capability devices of a directory. -/
def addCapabilities : List (String × NodeReply) → List NvidiaDeviceIdentity →
    Except String (List NvidiaDeviceIdentity)
  | [], devices => pure devices
  | (path, reply) :: rest, devices => do addCapabilities rest (← addDevice path reply devices)

/-- `entry.name == "nvidia-caps" and stat.S_ISDIR(metadata.st_mode)`. -/
def DeviceEntry.isCapabilities (entry : DeviceEntry) : Bool :=
  entry.name == "nvidia-caps" &&
    match entry.first with
    | .found directory _ _ => directory
    | .failed _ => false

/-- One entry of the device root, which is passed over unless it is NVIDIA's. -/
def addEntry (entry : DeviceEntry) (devices : List NvidiaDeviceIdentity) :
    Except String (List NvidiaDeviceIdentity) :=
  if Text.startsWith entry.name "nvidia" = false then pure devices
  else
    match entry.first with
    | .failed reason =>
        throw ("cannot inspect NVIDIA device path " ++ entry.path ++ ": " ++ reason)
    | .found .. =>
        if entry.isCapabilities then do
          let devices ← addCapabilities entry.capabilities devices
          match entry.capabilitiesError with
          | some reason =>
              throw ("cannot enumerate NVIDIA capability devices " ++ entry.path ++ ": " ++ reason)
          | none => pure devices
        else addDevice entry.path entry.second devices

/-- The loop over the device root, behind this many entries. -/
def addEntries : List DeviceEntry → Nat → List NvidiaDeviceIdentity →
    Except String (List NvidiaDeviceIdentity)
  | [], _, devices => pure devices
  | entry :: entries, count, devices => do
      refuse (maxDeviceRootEntries < count + 1)
        "device-root inventory exceeded the bounded scan limit"
      addEntries entries (count + 1) (← addEntry entry devices)

/-- `_nvidia_character_device_identities`: the NVIDIA devices of the root, of which there must be
one. -/
def nvidiaCharacterDeviceIdentities (root : DeviceRoot) :
    Except String (List NvidiaDeviceIdentity) := do
  let devices ← addEntries root.entries 0 []
  match root.error with
  | some reason =>
      throw ("cannot enumerate NVIDIA devices in " ++ root.path ++ ": " ++ reason)
  | none => do
      refuse (devices = [])
        ("NVIDIA stack is loaded or device-present, but no NVIDIA " ++
          "character-device identities could be established")
      pure devices

/-! ## Processes -/

/-- An open descriptor: whether the time is up when it is reached, and what it refers to. -/
structure OpenDescriptor where
  late : Bool := false
  reply : StatReply

/-- A process as the scan meets it: its descriptors, its maps and the files that it has mapped. -/
structure ProcessEntry where
  name : String
  late : Bool := false
  descriptors : List OpenDescriptor
  descriptorsEnd : ReadEnd := .endOfFile
  maps : MapsFile
  mapFiles : MapFiles

/-- The process table: its entries, and the error that ends the enumeration. -/
structure ProcessTable where
  path : String
  entries : List ProcessEntry
  error : Option String := none

/-- How the loop over the descriptors of a process ends. -/
inductive DescriptorScan where
  | used
  | unused
  | vanished

/-- The descriptor is an NVIDIA character device. -/
def OpenDescriptor.isDevice (devices : List NvidiaDeviceIdentity) (descriptor : OpenDescriptor) :
    Bool :=
  match descriptor.reply with
  | .found character rdev => character && devices.any (·.rdev == rdev)
  | _ => false

/-- The loop over the descriptors, behind these counts of the process and of the scan. -/
def scanDescriptors (devices : List NvidiaDeviceIdentity) (name : String) (ending : ReadEnd) :
    List OpenDescriptor → Nat → Nat → Except String (DescriptorScan × Nat)
  | [], _, total =>
      match ending with
      | .endOfFile => pure (.unused, total)
      | .vanished => pure (.vanished, total)
      | .failed reason =>
          throw ("cannot inspect file descriptors for PID " ++ name ++ ": " ++ reason)
  | descriptor :: rest, count, total => do
      refuse (maxFdsPerProcess < count + 1)
        ("PID " ++ name ++ " exceeded the bounded descriptor scan limit")
      refuse (maxTotalFds < total + 1)
        "file-descriptor inventory exceeded the bounded scan limit"
      refuse (descriptor.late = true) "GPU device-user inspection exceeded its time limit"
      match descriptor.reply with
      | .failed reason =>
          throw ("cannot inspect PID " ++ name ++ " descriptor: " ++ reason)
      | _ =>
          -- The first device settles it.
          if descriptor.isDevice devices then pure (.used, total + 1)
          else scanDescriptors devices name ending rest (count + 1) (total + 1)

/-- What the scan has counted so far, and the users that it found. -/
structure ScanState where
  processes : Nat := 0
  descriptors : Nat := 0
  mapBytes : Nat := 0
  mapFileStats : Nat := 0
  users : List String := []

/-- `_process_maps_use_nvidia` of one process. -/
def ProcessEntry.scanMaps (devices : List NvidiaDeviceIdentity) (process : ProcessEntry) :
    MapsScan :=
  processMapsUseNvidia process.mapFiles devices process.maps

/-- The maps of a process without an NVIDIA descriptor. -/
def countMaps (devices : List NvidiaDeviceIdentity) (process : ProcessEntry) (state : ScanState) :
    Except String ScanState := do
  let scan := process.scanMaps devices
  let state :=
    { state with
      mapBytes := state.mapBytes + scan.bytesRead
      mapFileStats := state.mapFileStats + scan.inspected }
  refuse (maxTotalMapBytes < state.mapBytes)
    "process memory-map inventory exceeded the bounded scan limit"
  match scan.error with
  | some reason =>
      throw ("cannot inspect memory maps for PID " ++ process.name ++ ": " ++ reason)
  | none => do
      refuse (maxTotalMapFileStats < state.mapFileStats)
        "mapped-file identity inspection exceeded the bounded scan limit"
      pure { state with
        users := if scan.mapped then Text.addSeen state.users process.name else state.users }

/-- One process of the table, with everything that it counts for. -/
def countProcess (devices : List NvidiaDeviceIdentity) (process : ProcessEntry)
    (state : ScanState) : Except String ScanState :=
  if Text.isDigitText process.name = false then pure state
  else do
    refuse (maxProcesses < state.processes + 1) "process inventory exceeded the bounded scan limit"
    refuse (process.late = true) "GPU device-user inspection exceeded its time limit"
    let (scan, descriptors) ← scanDescriptors devices process.name process.descriptorsEnd
      process.descriptors 0 state.descriptors
    let state := { state with processes := state.processes + 1, descriptors }
    match scan with
    | .vanished => pure state
    | .used => pure { state with users := Text.addSeen state.users process.name }
    | .unused => countMaps devices process state

/-- The loop over the process table. -/
def countProcesses (devices : List NvidiaDeviceIdentity) :
    List ProcessEntry → ScanState → Except String ScanState
  | [], state => pure state
  | process :: rest, state => do countProcesses devices rest (← countProcess devices process state)

/-- The scan of `_probe_device_user_pids`: the names of the users, before they are sorted. -/
def scanProcesses (devices : List NvidiaDeviceIdentity) (table : ProcessTable) :
    Except String (List String) := do
  let state ← countProcesses devices table.entries {}
  match table.error with
  | some reason => throw ("cannot enumerate " ++ table.path ++ ": " ++ reason)
  | none => pure state.users

/-! ## What an answered inventory has seen -/

/-- The identity of the character device that was found, if one was. -/
def NodeReply.identity? : NodeReply → Option NvidiaDeviceIdentity
  | .found _ true identity => some identity
  | _ => none

/-- The NVIDIA character devices of an entry of the device root. -/
def DeviceEntry.nodes (entry : DeviceEntry) : List NvidiaDeviceIdentity :=
  if Text.startsWith entry.name "nvidia" = false then []
  else if entry.isCapabilities then entry.capabilities.filterMap (·.2.identity?)
  else entry.second.identity?.toList

/-- The NVIDIA character devices below the root. -/
def DeviceRoot.nodes (root : DeviceRoot) : List NvidiaDeviceIdentity :=
  root.entries.flatMap DeviceEntry.nodes

/-- An NVIDIA entry all of whose nodes could be inspected and are character devices. -/
def DeviceEntry.Intact (entry : DeviceEntry) : Prop :=
  (∀ reason, entry.first ≠ .failed reason) ∧
    if entry.isCapabilities then
      entry.capabilitiesError = none ∧
        ∀ capability ∈ entry.capabilities, capability.2.identity?.isSome = true
    else entry.second.identity?.isSome = true

/-- What an inventory that answered has seen: every device, within the limits. -/
structure NodesAnswer (root : DeviceRoot) (devices : List NvidiaDeviceIdentity) : Prop where
  nodes : devices = root.nodes
  established : devices ≠ []
  whole : root.error = none
  bounded : root.entries.length ≤ maxDeviceRootEntries ∧ devices.length ≤ maxNvidiaDeviceNodes
  intact : ∀ entry ∈ root.entries, Text.startsWith entry.name "nvidia" = true → entry.Intact

variable {devices found : List NvidiaDeviceIdentity} {users : List String}

theorem add_device_ok {path : String} {reply : NodeReply}
    (h : addDevice path reply devices = .ok found) :
    reply.identity?.isSome = true ∧ found = devices ++ reply.identity?.toList ∧
      found.length ≤ maxNvidiaDeviceNodes := by
  obtain ⟨hlimit, h⟩ := Result.check_bind_eq_ok.mp h
  rw [Result.refuse_eq_ok] at hlimit
  match reply with
  | .failed reason => cases h
  | .found directory false identity =>
      obtain ⟨hcharacter, -⟩ := Result.check_bind_eq_ok.mp h
      cases hcharacter
  | .found directory true identity =>
      obtain ⟨-, h⟩ := Result.check_bind_eq_ok.mp h
      cases Result.pure_eq_ok.mp h
      refine ⟨rfl, rfl, ?_⟩
      rw [List.length_append, List.length_singleton]
      omega

/-- Capability devices that are added are all character devices, and the limit is kept. -/
theorem add_capabilities_ok {capabilities : List (String × NodeReply)}
    (hbounded : devices.length ≤ maxNvidiaDeviceNodes)
    (h : addCapabilities capabilities devices = .ok found) :
    (∀ capability ∈ capabilities, capability.2.identity?.isSome = true) ∧
      found = devices ++ capabilities.filterMap (·.2.identity?) ∧
      found.length ≤ maxNvidiaDeviceNodes := by
  induction capabilities generalizing devices with
  | nil =>
      cases Result.pure_eq_ok.mp h
      exact ⟨fun capability hcapability => absurd hcapability List.not_mem_nil,
        (List.append_nil _).symm, hbounded⟩
  | cons capability capabilities ih =>
      obtain ⟨added, hadded, h⟩ := Result.bind_eq_ok.mp h
      obtain ⟨hidentity, rfl, hlength⟩ := add_device_ok hadded
      obtain ⟨hrest, rfl, hfound⟩ := ih hlength h
      refine ⟨List.forall_mem_cons.mpr ⟨hidentity, hrest⟩, ?_, hfound⟩
      obtain ⟨identity, hsome⟩ := Option.isSome_iff_exists.mp hidentity
      rw [List.filterMap_cons, hsome, List.append_assoc]
      rfl

/-- An entry that is passed adds its devices, and is intact where it is NVIDIA's. -/
theorem add_entry_ok {entry : DeviceEntry} (hbounded : devices.length ≤ maxNvidiaDeviceNodes)
    (h : addEntry entry devices = .ok found) :
    (Text.startsWith entry.name "nvidia" = true → entry.Intact) ∧
      found = devices ++ entry.nodes ∧ found.length ≤ maxNvidiaDeviceNodes := by
  unfold addEntry at h
  unfold DeviceEntry.nodes DeviceEntry.Intact
  split at h
  · next hother =>
      cases Result.pure_eq_ok.mp h
      rw [if_pos hother, List.append_nil]
      exact ⟨fun hnvidia => absurd (hother.symm.trans hnvidia) Bool.false_ne_true, rfl, hbounded⟩
  · next hnvidia =>
      rw [if_neg hnvidia]
      split at h
      · cases h
      · next hfirst =>
          have hread : ∀ reason, entry.first ≠ .failed reason := by
            intro reason hfailed
            rw [hfailed] at hfirst
            cases hfirst
          split at h
          · next hcapabilities =>
              obtain ⟨added, hadded, h⟩ := Result.bind_eq_ok.mp h
              obtain ⟨hintact, hnodes, hlength⟩ := add_capabilities_ok hbounded hadded
              split at h
              · cases h
              · next hwhole =>
                  cases Result.pure_eq_ok.mp h
                  rw [if_pos hcapabilities, if_pos hcapabilities]
                  exact ⟨fun _ => ⟨hread, hwhole, hintact⟩, hnodes, hlength⟩
          · next hcapabilities =>
              obtain ⟨hintact, hnodes, hlength⟩ := add_device_ok h
              rw [if_neg hcapabilities, if_neg hcapabilities]
              exact ⟨fun _ => ⟨hread, hintact⟩, hnodes, hlength⟩

/-- Entries that are passed add their devices, and each is intact where it is NVIDIA's. -/
theorem add_entries_ok {entries : List DeviceEntry} {count : Nat}
    (hcount : count ≤ maxDeviceRootEntries) (hbounded : devices.length ≤ maxNvidiaDeviceNodes)
    (h : addEntries entries count devices = .ok found) :
    (∀ entry ∈ entries, Text.startsWith entry.name "nvidia" = true → entry.Intact) ∧
      found = devices ++ entries.flatMap DeviceEntry.nodes ∧
      found.length ≤ maxNvidiaDeviceNodes ∧ count + entries.length ≤ maxDeviceRootEntries := by
  induction entries generalizing count devices with
  | nil =>
      cases Result.pure_eq_ok.mp h
      exact ⟨fun entry hentry => absurd hentry List.not_mem_nil, (List.append_nil _).symm, hbounded,
        hcount⟩
  | cons entry entries ih =>
      obtain ⟨hlimit, h⟩ := Result.check_bind_eq_ok.mp h
      rw [Result.refuse_eq_ok, Nat.not_lt] at hlimit
      obtain ⟨added, hadded, h⟩ := Result.bind_eq_ok.mp h
      obtain ⟨hintact, rfl, hlength⟩ := add_entry_ok hbounded hadded
      obtain ⟨hrest, rfl, hfound, htotal⟩ := ih hlimit hlength h
      refine ⟨List.forall_mem_cons.mpr ⟨hintact, hrest⟩, ?_, hfound, ?_⟩
      · rw [List.flatMap_cons, List.append_assoc]
      · rw [List.length_cons]
        omega

theorem nvidia_identities_ok {root : DeviceRoot}
    (h : nvidiaCharacterDeviceIdentities root = .ok devices) : NodesAnswer root devices := by
  obtain ⟨listed, hlisted, h⟩ := Result.bind_eq_ok.mp h
  obtain ⟨hintact, hnodes, hlength, htotal⟩ :=
    add_entries_ok (Nat.zero_le _) (Nat.zero_le _) hlisted
  split at h
  · cases h
  · next hwhole =>
      obtain ⟨hestablished, h⟩ := Result.check_bind_eq_ok.mp h
      cases Result.pure_eq_ok.mp h
      rw [Result.refuse_eq_ok] at hestablished
      rw [Nat.zero_add] at htotal
      exact ⟨hnodes, hestablished, hwhole, ⟨htotal, hlength⟩, hintact⟩

/-! ## What an answered scan has seen -/

/-- The process holds an NVIDIA character device open. -/
def ProcessEntry.HoldsDevice (devices : List NvidiaDeviceIdentity)
    (process : ProcessEntry) : Prop :=
  ∃ descriptor ∈ process.descriptors, ∃ device ∈ devices,
    descriptor.reply = .found true device.rdev

/-- The record maps an NVIDIA device: by its backing identity, or by what its `map_files` entry
refers to, where its path names NVIDIA or its inode lies on a device that backs one. -/
def MapsDevice (files : MapFiles) (devices : List NvidiaDeviceIdentity)
    (line : List UInt8) : Prop :=
  ∃ record, parseMapsLine line = .ok record ∧
    ((∃ device ∈ devices, record.device =
        (osMajor device.backingDevice, osMinor device.backingDevice) ∧
        record.inode = device.inode) ∨
      ((∃ device ∈ devices,
          files.mapped (String.ofList (record.address.map asciiChar)) = .found true device.rdev) ∧
        (Text.utf8 "nvidia" <:+: lowerBytes record.pathname ∨
          (0 < record.inode ∧ ∃ device ∈ devices, record.device =
            (osMajor device.backingDevice, osMinor device.backingDevice)))))

/-- The process maps an NVIDIA device, in a `maps` file that was read to its end. -/
def ProcessEntry.MapsNvidia (devices : List NvidiaDeviceIdentity) (process : ProcessEntry) : Prop :=
  ∃ chunks, process.maps = .opened true chunks .endOfFile ∧
    ∃ line ∈ Delimited.records 10 (chunks.flatMap Subtype.val),
      MapsDevice process.mapFiles devices line

/-- Everything about the process could be read in time and within its limits, and none of it is
NVIDIA's. -/
structure ProcessEntry.Readable (devices : List NvidiaDeviceIdentity) (process : ProcessEntry) :
    Prop where
  descriptors : ∀ descriptor ∈ process.descriptors,
    descriptor.late = false ∧ (∀ reason, descriptor.reply ≠ .failed reason) ∧
      descriptor.isDevice devices = false
  bounded : process.descriptors.length ≤ maxFdsPerProcess
  ending : process.descriptorsEnd = .endOfFile
  maps : (process.scanMaps devices).clean = true

/-- What an answered scan has seen of a process. -/
structure ProcessSeen (devices : List NvidiaDeviceIdentity) (users : List String)
    (process : ProcessEntry) : Prop where
  inTime : process.late = false
  held : process.HoldsDevice devices → process.name ∈ users
  mapped : process.descriptorsEnd = .endOfFile → process.MapsNvidia devices → process.name ∈ users
  intact : process.name ∈ users ∨ process.descriptorsEnd = .vanished ∨ process.Readable devices

/-- The descriptors that the scan reads: up to the first NVIDIA one. -/
def descriptorsRead (devices : List NvidiaDeviceIdentity) : List OpenDescriptor → Nat
  | [] => 0
  | descriptor :: rest =>
      if descriptor.isDevice devices then 1 else descriptorsRead devices rest + 1

/-- The scan reads the maps of a process that is there and without an NVIDIA descriptor. -/
def ProcessEntry.mapsRead (devices : List NvidiaDeviceIdentity) (process : ProcessEntry) :
    MapsScan :=
  if process.descriptors.any (·.isDevice devices) then {}
  else
    match process.descriptorsEnd with
    | .endOfFile => process.scanMaps devices
    | _ => {}

/-- The entries that are processes: those with a number for a name. -/
def numbered (entries : List ProcessEntry) : List ProcessEntry :=
  entries.filter fun process => Text.isDigitText process.name

/-- The processes of a table: the entries that are numbered. -/
def ProcessTable.processes (table : ProcessTable) : List ProcessEntry :=
  numbered table.entries

/-- What a scan that answered has seen: every process, within the limits. -/
structure ScanAnswer (devices : List NvidiaDeviceIdentity) (table : ProcessTable)
    (users : List String) : Prop where
  whole : table.error = none
  processes : ∀ process ∈ table.processes, ProcessSeen devices users process
  bounded : table.processes.length ≤ maxProcesses
  descriptors : (table.processes.map fun process =>
    descriptorsRead devices process.descriptors).sum ≤ maxTotalFds
  mapBytes : (table.processes.map fun process =>
    (process.mapsRead devices).bytesRead).sum ≤ maxTotalMapBytes
  mapFileStats : (table.processes.map fun process =>
    (process.mapsRead devices).inspected).sum ≤ maxTotalMapFileStats

/-- A descriptor is one of a device exactly when its file has the number of one. -/
theorem is_device_iff {descriptor : OpenDescriptor} :
    descriptor.isDevice devices = true ↔
      ∃ device ∈ devices, descriptor.reply = .found true device.rdev := by
  unfold OpenDescriptor.isDevice
  match descriptor.reply with
  | .vanished => simp
  | .failed reason => simp
  | .found character rdev =>
      simp only [Bool.and_eq_true, List.any_eq_true, beq_iff_eq, StatReply.found.injEq]
      constructor
      · rintro ⟨rfl, device, hdevice, rfl⟩
        exact ⟨device, hdevice, rfl, rfl⟩
      · rintro ⟨device, hdevice, rfl, rfl⟩
        exact ⟨rfl, device, hdevice, rfl⟩

/-- A record that maps an NVIDIA device is found. -/
theorem maps_line_of_device {files : MapFiles} {line : List UInt8}
    (h : MapsDevice files devices line) :
    (mapsLineUsesNvidia files devices line).mapped = true := by
  obtain ⟨record, hrecord, hshown⟩ := h
  unfold mapsLineUsesNvidia
  rw [hrecord]
  dsimp only
  split
  · rfl
  · next hbacking =>
      rcases hshown with ⟨device, hdevice, hsame, hinode⟩ | ⟨⟨device, hdevice, htarget⟩, hrelevant⟩
      · refine absurd (List.mem_map.mpr ⟨device, hdevice, ?_⟩) hbacking
        rw [hsame, hinode]
      · rw [if_pos]
        · unfold inspectMappedFile
          rw [htarget]
          show (true && devices.any fun other => other.rdev == device.rdev) = true
          rw [Bool.true_and]
          exact List.any_eq_true.mpr ⟨device, hdevice, beq_self_eq_true _⟩
        · rcases hrelevant with hpath | ⟨hpositive, other, hother, hsame⟩
          · exact .inr hpath
          · refine .inl ⟨hpositive, ?_⟩
            rw [List.map_map]
            exact List.mem_map.mpr ⟨other, hother, hsame.symm⟩

/-- The maps of a process that maps an NVIDIA device are not clean. -/
theorem maps_not_clean {process : ProcessEntry} (h : process.MapsNvidia devices) :
    (process.scanMaps devices).clean = false := by
  obtain ⟨chunks, hmaps, line, hline, hdevice⟩ := h
  rw [← Bool.not_eq_true, ProcessEntry.scanMaps, hmaps, processMapsUseNvidia,
    scan_chunks_clean (fun line => overlong_not_clean process.mapFiles devices) chunks
      (Nat.zero_le _) (Nat.zero_le _) List.not_mem_nil, List.nil_append]
  intro hclean
  have hfound := hclean.clean line hline
  rw [MapsLine.clean, maps_line_of_device hdevice] at hfound
  cases hfound

/-- What the loop over the descriptors has read. -/
theorem scan_descriptors_ok {name : String} {ending : ReadEnd} {descriptors : List OpenDescriptor}
    {count total after : Nat} {scan : DescriptorScan} (hcount : count ≤ maxFdsPerProcess)
    (htotal : total ≤ maxTotalFds)
    (h : scanDescriptors devices name ending descriptors count total = .ok (scan, after)) :
    after = total + descriptorsRead devices descriptors ∧ after ≤ maxTotalFds ∧
      match scan with
      | .used => descriptors.any (·.isDevice devices) = true
      | .vanished => ending = .vanished ∧ descriptors.any (·.isDevice devices) = false
      | .unused => ending = .endOfFile ∧ count + descriptors.length ≤ maxFdsPerProcess ∧
          ∀ descriptor ∈ descriptors, descriptor.late = false ∧
            (∀ reason, descriptor.reply ≠ .failed reason) ∧
            descriptor.isDevice devices = false := by
  induction descriptors generalizing count total with
  | nil =>
      unfold scanDescriptors at h
      split at h
      · cases Result.pure_eq_ok.mp h
        exact ⟨rfl, htotal, rfl, hcount, fun descriptor hmem => absurd hmem List.not_mem_nil⟩
      · cases Result.pure_eq_ok.mp h
        exact ⟨rfl, htotal, rfl, rfl⟩
      · cases h
  | cons descriptor descriptors ih =>
      unfold scanDescriptors at h
      obtain ⟨hprocess, h⟩ := Result.check_bind_eq_ok.mp h
      obtain ⟨hall, h⟩ := Result.check_bind_eq_ok.mp h
      obtain ⟨htime, h⟩ := Result.check_bind_eq_ok.mp h
      rw [Result.refuse_eq_ok, Nat.not_lt] at hprocess hall
      rw [Result.refuse_eq_ok] at htime
      split at h
      · cases h
      · next hread =>
          split at h
          -- The loop stops at the first device: the descriptors behind it are neither read nor
          -- counted.
          · next hdevice =>
              cases Result.pure_eq_ok.mp h
              refine ⟨?_, hall, ?_⟩
              · rw [descriptorsRead, if_pos hdevice]
              · exact List.any_eq_true.mpr ⟨descriptor, List.mem_cons_self, hdevice⟩
          · next hother =>
              have hother := Bool.eq_false_of_not_eq_true hother
              obtain ⟨hafter, hbound, hscan⟩ := ih hprocess hall h
              refine ⟨?_, hbound, ?_⟩
              · rw [hafter, descriptorsRead, hother]
                simp only [Bool.false_eq_true, if_false]
                omega
              · cases scan with
                | used => rw [List.any_cons, hscan, Bool.or_true]
                | vanished =>
                    rw [List.any_cons, hother, hscan.2]
                    exact ⟨hscan.1, rfl⟩
                | unused =>
                    obtain ⟨hending, hlength, hrest⟩ := hscan
                    refine ⟨hending, ?_, List.forall_mem_cons.mpr
                      ⟨⟨Bool.eq_false_of_not_eq_true htime, hread, hother⟩, hrest⟩⟩
                    rw [List.length_cons]
                    omega

/-- What was counted is within the limits. -/
structure ScanState.Bounded (state : ScanState) : Prop where
  processes : state.processes ≤ maxProcesses
  descriptors : state.descriptors ≤ maxTotalFds
  mapBytes : state.mapBytes ≤ maxTotalMapBytes
  mapFileStats : state.mapFileStats ≤ maxTotalMapFileStats

/-- What counting a process adds to a scan. -/
structure Counted (devices : List NvidiaDeviceIdentity) (process : ProcessEntry)
    (before after : ScanState) : Prop where
  bounded : after.Bounded
  users : before.users ⊆ after.users
  processes : after.processes = before.processes + 1
  descriptors : after.descriptors =
    before.descriptors + descriptorsRead devices process.descriptors
  mapBytes : after.mapBytes = before.mapBytes + (process.mapsRead devices).bytesRead
  mapFileStats : after.mapFileStats = before.mapFileStats + (process.mapsRead devices).inspected
  seen : ProcessSeen devices after.users process

variable {process : ProcessEntry} {state after : ScanState}

theorem mem_add_seen {seen : List String} {name other : String} :
    other ∈ Text.addSeen seen name ↔ other ∈ seen ∨ other = name := by
  unfold Text.addSeen
  split
  · next hseen =>
      refine ⟨.inl, fun h => h.elim id fun hsame => ?_⟩
      rw [hsame]
      exact List.contains_iff_mem.mp hseen
  · rw [List.mem_cons, or_comm]

theorem ProcessSeen.mono (h : ProcessSeen devices users process) {more : List String}
    (hmore : users ⊆ more) : ProcessSeen devices more process :=
  ⟨h.inTime, fun hheld => hmore (h.held hheld), fun hending hmaps => hmore (h.mapped hending hmaps),
    h.intact.imp_left fun hmem => hmore hmem⟩

/-- A counted process is seen, whatever else it shows. -/
theorem seen_of_user (htime : process.late = false) (h : process.name ∈ users) :
    ProcessSeen devices users process :=
  ⟨htime, fun _ => h, fun _ _ => h, .inl h⟩

theorem not_holds_of_none
    (h : ∀ descriptor ∈ process.descriptors, descriptor.isDevice devices = false) :
    ¬ process.HoldsDevice devices := by
  rintro ⟨descriptor, hdescriptor, device, hdevice, hreply⟩
  have hother := h descriptor hdescriptor
  rw [is_device_iff.mpr ⟨device, hdevice, hreply⟩] at hother
  cases hother

theorem maps_read_of_used (h : process.descriptors.any (·.isDevice devices) = true) :
    process.mapsRead devices = {} :=
  if_pos h

theorem maps_read_of_vanished (h : process.descriptorsEnd = .vanished) :
    process.mapsRead devices = {} := by
  unfold ProcessEntry.mapsRead
  rw [h]
  split
  · rfl
  · rfl

theorem maps_read_of_unused
    (hnone : ∀ descriptor ∈ process.descriptors, descriptor.isDevice devices = false)
    (h : process.descriptorsEnd = .endOfFile) :
    process.mapsRead devices = process.scanMaps devices := by
  have hany : ¬ process.descriptors.any (·.isDevice devices) = true := by
    rw [Bool.not_eq_true]
    exact List.any_eq_false.mpr fun descriptor hdescriptor =>
      Bool.not_eq_true _ ▸ hnone descriptor hdescriptor
  rw [ProcessEntry.mapsRead, if_neg hany, h]

/-- The maps of a process without an NVIDIA descriptor. -/
theorem count_maps_ok (hbounded : state.Bounded) (h : countMaps devices process state = .ok after) :
    after.Bounded ∧ state.users ⊆ after.users ∧ after.processes = state.processes ∧
      after.descriptors = state.descriptors ∧
      after.mapBytes = state.mapBytes + (process.scanMaps devices).bytesRead ∧
      after.mapFileStats = state.mapFileStats + (process.scanMaps devices).inspected ∧
      (process.name ∈ after.users ∨ (process.scanMaps devices).clean = true) := by
  obtain ⟨hbytes, h⟩ := Result.check_bind_eq_ok.mp h
  rw [Result.refuse_eq_ok, Nat.not_lt] at hbytes
  split at h
  · cases h
  · next herror =>
      obtain ⟨hstats, h⟩ := Result.check_bind_eq_ok.mp h
      rw [Result.refuse_eq_ok, Nat.not_lt] at hstats
      cases Result.pure_eq_ok.mp h
      refine ⟨⟨hbounded.processes, hbounded.descriptors, hbytes, hstats⟩, ?_, rfl, rfl,
        rfl, rfl, ?_⟩
      · intro name hname
        show name ∈ if _ then _ else _
        split
        · exact mem_add_seen.mpr (.inl hname)
        · exact hname
      · show process.name ∈ (if _ then _ else _) ∨ _
        split
        · exact .inl (mem_add_seen.mpr (.inr rfl))
        · next hmapped =>
            right
            rw [MapsScan.clean, herror, Bool.eq_false_of_not_eq_true hmapped]
            rfl

/-- A process that the scan went past was counted, and is a user where it holds a device. -/
theorem count_process_ok (hname : Text.isDigitText process.name = true) (hbounded : state.Bounded)
    (h : countProcess devices process state = .ok after) :
    Counted devices process state after := by
  rw [countProcess, hname, if_neg (by decide)] at h
  obtain ⟨hlimit, h⟩ := Result.check_bind_eq_ok.mp h
  obtain ⟨htime, h⟩ := Result.check_bind_eq_ok.mp h
  rw [Result.refuse_eq_ok, Nat.not_lt] at hlimit
  rw [Result.refuse_eq_ok, Bool.not_eq_true] at htime
  obtain ⟨⟨scan, read⟩, hscan, h⟩ := Result.bind_eq_ok.mp h
  obtain ⟨hread, hdescriptors, hends⟩ :=
    scan_descriptors_ok (Nat.zero_le _) hbounded.descriptors hscan
  -- The maps are read only where no descriptor is a device and the process has not vanished.
  cases scan with
  | used =>
      cases Result.pure_eq_ok.mp h
      have hmaps := maps_read_of_used hends
      exact
        { bounded := ⟨hlimit, hdescriptors, hbounded.mapBytes, hbounded.mapFileStats⟩
          users := fun name hmem => mem_add_seen.mpr (.inl hmem)
          processes := rfl
          descriptors := hread
          mapBytes := by rw [hmaps]; rfl
          mapFileStats := by rw [hmaps]; rfl
          seen := seen_of_user htime (mem_add_seen.mpr (.inr rfl)) }
  | vanished =>
      cases Result.pure_eq_ok.mp h
      obtain ⟨hvanished, hnone⟩ := hends
      have hmaps : process.mapsRead devices = {} := maps_read_of_vanished hvanished
      have hnotHeld : ¬ process.HoldsDevice devices := not_holds_of_none fun descriptor hmem =>
        Bool.eq_false_of_not_eq_true (List.any_eq_false.mp hnone descriptor hmem)
      exact
        { bounded := ⟨hlimit, hdescriptors, hbounded.mapBytes, hbounded.mapFileStats⟩
          users := List.Subset.refl _
          processes := rfl
          descriptors := hread
          mapBytes := by rw [hmaps]; rfl
          mapFileStats := by rw [hmaps]; rfl
          seen := ⟨htime, fun hheld => absurd hheld hnotHeld,
            fun hending => absurd (hvanished.symm.trans hending) (by simp),
            .inr (.inl hvanished)⟩ }
  | unused =>
      obtain ⟨hending, hlength, hnone⟩ := hends
      have hmaps := maps_read_of_unused (fun descriptor hmem => (hnone descriptor hmem).2.2) hending
      have hstate : ScanState.Bounded
          { state with processes := state.processes + 1, descriptors := read } :=
        ⟨hlimit, hdescriptors, hbounded.mapBytes, hbounded.mapFileStats⟩
      obtain ⟨hafter, husers, hprocesses, hfds, hbytes, hstats, hclean⟩ := count_maps_ok hstate h
      rw [Nat.zero_add] at hlength
      exact
        { bounded := hafter
          users := husers
          processes := hprocesses
          descriptors := hfds.trans hread
          mapBytes := by rw [hmaps]; exact hbytes
          mapFileStats := by rw [hmaps]; exact hstats
          seen := ⟨htime,
            fun hheld => absurd hheld (not_holds_of_none fun descriptor hmem =>
              (hnone descriptor hmem).2.2),
            fun _ hmapped => hclean.resolve_right (by rw [maps_not_clean hmapped]; simp),
            hclean.imp_right fun hclean => .inr ⟨hnone, hlength, hending, hclean⟩⟩ }

/-- The whole table: by induction on its entries. -/
theorem count_processes_ok {entries : List ProcessEntry} (hbounded : state.Bounded)
    (h : countProcesses devices entries state = .ok after) :
    after.Bounded ∧ state.users ⊆ after.users ∧
      (∀ process ∈ numbered entries, ProcessSeen devices after.users process) ∧
      after.processes = state.processes + (numbered entries).length ∧
      after.descriptors = state.descriptors + ((numbered entries).map fun process =>
        descriptorsRead devices process.descriptors).sum ∧
      after.mapBytes = state.mapBytes + ((numbered entries).map fun process =>
        (process.mapsRead devices).bytesRead).sum ∧
      after.mapFileStats = state.mapFileStats + ((numbered entries).map fun process =>
        (process.mapsRead devices).inspected).sum := by
  induction entries generalizing state with
  | nil =>
      cases Result.pure_eq_ok.mp h
      exact ⟨hbounded, List.Subset.refl _,
        fun process hmem => absurd hmem List.not_mem_nil, rfl, rfl,
        rfl, rfl⟩
  | cons process entries ih =>
      obtain ⟨middle, hmiddle, h⟩ := Result.bind_eq_ok.mp h
      cases hname : Text.isDigitText process.name with
      | false =>
          rw [countProcess, if_pos hname] at hmiddle
          cases Result.pure_eq_ok.mp hmiddle
          rw [numbered, List.filter_cons_of_neg (by rw [hname]; exact Bool.false_ne_true)]
          exact ih hbounded h
      | true =>
          have hcounted := count_process_ok hname hbounded hmiddle
          obtain ⟨hafter, husers, hseen, hprocesses, hdescriptors, hbytes, hstats⟩ :=
            ih hcounted.bounded h
          have hcons : numbered (process :: entries) = process :: numbered entries :=
            List.filter_cons_of_pos hname
          rw [hcons]
          refine ⟨hafter, List.Subset.trans hcounted.users husers,
            List.forall_mem_cons.mpr ⟨hcounted.seen.mono husers, hseen⟩, ?_, ?_, ?_, ?_⟩
          · rw [hprocesses, hcounted.processes, List.length_cons]
            omega
          · rw [hdescriptors, hcounted.descriptors, List.map_cons, List.sum_cons, Nat.add_assoc]
          · rw [hbytes, hcounted.mapBytes, List.map_cons, List.sum_cons, Nat.add_assoc]
          · rw [hstats, hcounted.mapFileStats, List.map_cons, List.sum_cons, Nat.add_assoc]

theorem scan_processes_ok {table : ProcessTable} (h : scanProcesses devices table = .ok users) :
    ScanAnswer devices table users := by
  obtain ⟨state, hstate, h⟩ := Result.bind_eq_ok.mp h
  have hempty : ScanState.Bounded {} :=
    ⟨Nat.zero_le _, Nat.zero_le _, Nat.zero_le _, Nat.zero_le _⟩
  obtain ⟨hbounded, -, hseen, hprocesses, hdescriptors, hbytes, hstats⟩ :=
    count_processes_ok hempty hstate
  split at h
  · cases h
  · next hwhole =>
      cases Result.pure_eq_ok.mp h
      refine ⟨hwhole, hseen, ?_, ?_, ?_, ?_⟩
      · have hlimit := hbounded.processes
        rw [hprocesses] at hlimit
        exact Nat.le_of_add_left_le hlimit
      · have hlimit := hbounded.descriptors
        rw [hdescriptors] at hlimit
        exact Nat.le_of_add_left_le hlimit
      · have hlimit := hbounded.mapBytes
        rw [hbytes] at hlimit
        exact Nat.le_of_add_left_le hlimit
      · have hlimit := hbounded.mapFileStats
        rw [hstats] at hlimit
        exact Nat.le_of_add_left_le hlimit

end NvidiaConverge
