import NvidiaConverge.Planning.MigExecution
import NvidiaConverge.Rollback.Snapshot

/-!
# Fresh MIG observations

What `_fresh_rollback_mig_observation` reads: the modes of the snapshot's GPUs, and behind
enabled modes the instances of `nvidia-smi mig -lgi` and `-lci` with the devices of
`nvidia-smi -L`. An observation is stable when both modes agree and the geometry is complete;
`stable_cases` says what such an observation can show, `stable_results` that all of it was read
without a failure.
-/

namespace NvidiaConverge

/-- `_OUTPUT_TRUNCATED in text`: the runner cut the output off. -/
def truncatedText (text : String) : Bool :=
  Text.contains text "[output truncated:"

/-! ## Modes -/

/-- `_aggregate_mig_modes`: one mode for all GPUs, where `n/a` counts as disabled. -/
def aggregateMigModes (modes : List String) : Option MigMode :=
  let normalized := modes.map fun mode => if mode = "n/a" then "disabled" else mode
  if normalized = [] then none
  else if normalized.all (· == "enabled") then some .enabled
  else if normalized.all (· == "disabled") then some .disabled
  else if normalized.all fun mode => mode == "enabled" || mode == "disabled" then some .mixed
  else none

/-- The fields of the lines that are not blank. -/
def csvRows (text : String) : List (List String) :=
  ((Text.lines text).filter fun line => !(Text.strip line).isEmpty).map fun line =>
    (line.toList.splitOn ',').map fun part => Text.strip (String.ofList part)

/-- A row for this GPU, with its current and its pending mode in lower case. -/
def migModeRow? (gpuUuid : String) : List String → Option (String × String)
  | [uuid, current, pending] =>
      let known := ["enabled", "disabled", "n/a"]
      if uuid = gpuUuid ∧ Text.lower current ∈ known ∧ Text.lower pending ∈ known then
        some (Text.lower current, Text.lower pending)
      else none
  | _ => none

/-- The rows for these GPUs, in their order, or nothing where one is out of place. -/
def migModeRows? : List String → List (List String) → Option (List (String × String))
  | [], [] => some []
  | gpuUuid :: gpuUuids, row :: rows => do
      let modes ← migModeRow? gpuUuid row
      let more ← migModeRows? gpuUuids rows
      pure (modes :: more)
  | _, _ => none

/-- `_observe_rollback_mig_state` on the answer to its query: the current and the pending mode. -/
def observeRollbackMigState (expectedGpuUuids : List String) (result : CommandResult) :
    Option MigMode × Option MigMode :=
  if result.returncode ≠ some 0 ∨ truncatedText result.stdout = true ∨
      truncatedText result.stderr = true then (none, none)
  else
    let rows := csvRows result.stdout
    if rows = [] then (none, none)
    else
      match migModeRows? expectedGpuUuids rows with
      | none => (none, none)
      | some modes => (aggregateMigModes (modes.map (·.1)), aggregateMigModes (modes.map (·.2)))

/-! ## Instance tables -/

/-- Whether `re.IGNORECASE` lets a lower-case letter match the code point: its capital does, and
so do the other code points with the same case folding. -/
def sameLetter (letter c : Char) : Bool :=
  c == letter || c == letter.toUpper ||
    (letter == 'i' && (c.toNat == 0x130 || c.toNat == 0x131)) ||
    (letter == 's' && c.toNat == 0x17f)

/-- Whether the word is at the head, in any case. -/
def startsWord : List Char → List Char → Bool
  | [], _ => true
  | _ :: _, [] => false
  | letter :: word, c :: text => sameLetter letter c && startsWord word text

/-- Whether the words are at the head, with whitespace between them. -/
def startsPhrase : List String → List Char → Bool
  | [], _ => true
  | [word], text => startsWord word.toList text
  | word :: next :: more, text =>
      let rest := text.drop word.toList.length
      startsWord word.toList text && rest.head?.any Text.isSpace &&
        startsPhrase (next :: more) (rest.dropWhile Text.isSpace)

/-- Whether some suffix of the code points satisfies the predicate: `re.search`. -/
def searchText (found : List Char → Bool) : List Char → Bool
  | [] => found []
  | c :: rest => found (c :: rest) || searchText found rest

/-- `no\s+<kind>\s+instances\s+found` anywhere, in any case. -/
def saysNoInstances (kind output : String) : Bool :=
  searchText (startsPhrase ["no", kind, "instances", "found"]) output.toList

/-- `(\d+\s+){count}MIG\s+` at the head of a text. -/
def numbersThenMig : Nat → List Char → Bool
  | 0, text => "MIG".toList.isPrefixOf text && (text.drop 3).head?.any Text.isSpace
  | count + 1, text =>
      let (digits, rest) := Text.spanDigits text
      !digits.isEmpty && rest.head?.any Text.isSpace &&
        numbersThenMig count (rest.dropWhile Text.isSpace)

/-- `\|\s*(\d+\s+){count}MIG\s+` at the head of a line. -/
def startsMigRow (count : Nat) : List Char → Bool
  | '|' :: rest => numbersThenMig count (rest.dropWhile Text.isSpace)
  | _ => false

/-- The lines that hold a row, without the whitespace around them. -/
def migRowCandidates (count : Nat) (output : String) : List String :=
  ((Text.lines output).filter fun line => searchText (startsMigRow count) line.toList).map
    Text.strip

/-- The words between two bars, as `^\|\s*...\s*\|$` cuts a row. -/
def rowWords (line : String) : List String :=
  match line.toList with
  | '|' :: rest =>
      match rest.reverse with
      | '|' :: body => (Text.words body.reverse).map String.ofList
      | _ => []
  | _ => []

/-- `[A-Za-z0-9.+_-]+`: the spelling of a profile in a row. -/
def isProfileWord (text : String) : Bool :=
  !text.isEmpty && text.toList.all fun c => c.isAlphanum || ['.', '+', '_', '-'].contains c

/-- `_MIG_GPU_INSTANCE_ROW.fullmatch(line)`: the instance under its id. -/
def migGpuInstanceRow? (gpuUuid line : String) : Option (Nat × MigGpuInstance) :=
  match rowWords line with
  | [index, mig, profile, profileId, instanceId, placement] => do
      let (start, size) ← Text.partition? ':' placement
      if mig = "MIG" ∧ isProfileWord profile = true ∧
          [index, profileId, instanceId, start, size].all Text.isDecimal = true then
        some (Text.decimalValue instanceId,
          { gpuUuid := gpuUuid
            profile := profile
            profileId := Text.decimalValue profileId
            placementStart := Text.decimalValue start
            placementSize := Text.decimalValue size })
      else none
  | _ => none

/-- `_MIG_COMPUTE_INSTANCE_ROW.fullmatch(line)`: the instance under the ids of its GPU instance
and its own. -/
def migComputeInstanceRow? (line : String) : Option (Nat × Nat × MigComputeInstance) :=
  match rowWords line with
  | [index, gpuInstanceId, mig, profile, profileId, instanceId] =>
      if mig = "MIG" ∧ isProfileWord profile = true ∧
          [index, gpuInstanceId, profileId, instanceId].all Text.isDecimal = true then
        some (Text.decimalValue gpuInstanceId, Text.decimalValue instanceId,
          { profile := profile, profileId := Text.decimalValue profileId })
      else none
  | _ => none

/-- The order of Python's tuples of numbers. -/
def tupleLe : List Nat → List Nat → Bool
  | [], _ => true
  | _ :: _, [] => false
  | left :: lefts, right :: rights => left < right || (left == right && tupleLe lefts rights)

/-- `_parse_mig_gpu_instances`: the GPU instances that a listing shows, each with its number. -/
def parseMigGpuInstances (output gpuUuid : String) : Option (List (Nat × MigGpuInstance)) :=
  if saysNoInstances "gpu" output then some []
  else do
    let instances ← (migRowCandidates 1 output).mapM (migGpuInstanceRow? gpuUuid)
    if instances = [] ∨ ¬ (instances.map (·.1)).Nodup then none
    else
      let key (item : Nat × MigGpuInstance) := [item.2.placementStart, item.1]
      some (instances.mergeSort fun item other => tupleLe (key item) (key other))

/-- `_parse_mig_compute_instances`: the compute instances of a listing, with the numbers they belong
to. -/
def parseMigComputeInstances (output : String) : Option (List (Nat × Nat × MigComputeInstance)) :=
  if saysNoInstances "compute" output then some []
  else do
    let instances ← (migRowCandidates 2 output).mapM migComputeInstanceRow?
    if instances = [] ∨ ¬ (instances.map fun item => (item.1, item.2.1)).Nodup then none
    else
      let key (item : Nat × Nat × MigComputeInstance) := [item.1, item.2.1]
      some (instances.mergeSort fun item other => tupleLe (key item) (key other))

/-! ## Devices -/

/-- `<kind>-[A-Fa-f0-9-]{16,}`: the identity of a device of that kind. -/
def isDeviceUuid (kind uuid : String) : Bool :=
  let start := kind ++ "-"
  let digits := uuid.toList.drop start.toList.length
  Text.startsWith uuid start && 16 ≤ digits.length &&
    digits.all fun c => c.isDigit || c == '-' || ('a' ≤ c.toLower && c.toLower ≤ 'f')

/-- `\(UUID:\s*(<kind>-[A-Fa-f0-9-]{16,})\)` at the end: what stands before it, and the UUID. -/
def trailingUuid? (kind line : String) : Option (String × String) := do
  let (before, last) ← Text.rpartition? '(' line
  if Text.startsWith last "UUID:" = true ∧ Text.endsWith last ")" = true then
    let uuid := String.ofList ((last.toList.drop 5).dropLast.dropWhile Text.isSpace)
    if isDeviceUuid kind uuid then some (before, uuid) else none
  else none

/-- `GPU\s+\d+:` at the head of a line. -/
def startsGpuLine (text : String) : Bool :=
  let rest := text.toList.drop 3
  let (digits, last) := Text.spanDigits (rest.dropWhile Text.isSpace)
  Text.startsWith text "GPU" && rest.head?.any Text.isSpace && !digits.isEmpty &&
    last.head? == some ':'

/-- `MIG\s+.+?\s+Device\s+\d+:\s*`, read from the end: the number, the word before it, and at
least one code point between the blanks behind `MIG` and those before `Device`. -/
def isMigDeviceLine (text : String) : Bool :=
  match text.toList.reverse.dropWhile Text.isSpace with
  | ':' :: numbered =>
      let (digits, named) := Text.spanDigits numbered
      let device := named.dropWhile Text.isSpace
      let name := device.drop 6
      let between := name.dropLast.dropLast.dropLast
      !digits.isEmpty && named.head?.any Text.isSpace &&
        "Device".toList.reverse.isPrefixOf device && "MIG".toList.reverse.isSuffixOf name &&
        3 ≤ between.length && between.head?.any Text.isSpace && between.getLast?.any Text.isSpace
  | _ => false

/-- What a scan of `nvidia-smi -L` has found: the last GPU, and the devices under their GPUs. -/
structure MigDevices where
  gpuUuid : Option String := none
  found : List (String × String) := []

/-- A line of `nvidia-smi -L` that names no GPU. -/
def MigDevices.scanDevice (devices : MigDevices) (line : String) : Option MigDevices :=
  match (trailingUuid? "MIG" line).filter fun (before, _) => isMigDeviceLine before with
  | some (_, uuid) =>
      match devices.gpuUuid with
      | some gpuUuid =>
          if (devices.found.map (·.2)).contains uuid then none
          else some { devices with found := devices.found ++ [(gpuUuid, uuid)] }
      | none => none
  | none =>
      if Text.contains line "UUID:" && Text.contains line "MIG-" then none else some devices

/-- One line of `_parse_mig_device_uuids`: of a GPU, of one of its MIG devices, or neither. -/
def MigDevices.scanLine (gpuUuids : List String) (devices : MigDevices) (line : String) :
    Option MigDevices :=
  match (trailingUuid? "GPU" line).filter fun (before, _) => startsGpuLine before with
  | some (_, uuid) =>
      if gpuUuids.contains uuid then some { devices with gpuUuid := some uuid } else none
  | none => devices.scanDevice line

/-- `_parse_mig_device_uuids`: the devices, in the order of their GPUs. -/
def parseMigDeviceUuids (output : String) (gpuUuids : List String) : Option (List String) := do
  let devices ← ((Text.lines output).map Text.strip).foldlM (MigDevices.scanLine gpuUuids) {}
  pure (gpuUuids.flatMap fun gpuUuid => (devices.found.filter (·.1 == gpuUuid)).map (·.2))

/-! ## Geometry -/

/-- What the commands of one observation answer. -/
structure MigAnswers where
  modes : CommandResult
  smiPresent : Bool
  gpuInstances : String → CommandResult
  computeInstances : String → CommandResult
  devices : CommandResult

/-- `result.returncode != 0 or _OUTPUT_TRUNCATED in result.stdout`. -/
def listingFailed (result : CommandResult) : Bool :=
  result.returncode != some 0 || truncatedText result.stdout

/-- The instances of one GPU, with the results that were asked for. -/
def gpuMigGeometry (answers : MigAnswers) (gpuUuid : String) :
    List CommandResult × Option (List MigGpuInstance) :=
  let gpuInstances := answers.gpuInstances gpuUuid
  if listingFailed gpuInstances then ([gpuInstances], none)
  else
    match parseMigGpuInstances gpuInstances.stdout gpuUuid with
    | none => ([gpuInstances], none)
    | some [] => ([gpuInstances], some [])
    | some parsed =>
        let computeInstances := answers.computeInstances gpuUuid
        let results := [gpuInstances, computeInstances]
        if listingFailed computeInstances then (results, none)
        else
          match parseMigComputeInstances computeInstances.stdout with
          | none => (results, none)
          | some children =>
              if children.any fun child => !(parsed.map (·.1)).contains child.1 then (results, none)
              else
                (results, some (parsed.map fun (instanceId, gpuInstance) =>
                  { gpuInstance with
                    computeInstances :=
                      (children.filter (·.1 == instanceId)).map (·.2.2) }))

/-- The instances of the GPUs, one after another; the first failure ends the listing. -/
def listMigGeometry (answers : MigAnswers) :
    List String → List CommandResult × Option (List MigGpuInstance)
  | [] => ([], some [])
  | gpuUuid :: gpuUuids =>
      match gpuMigGeometry answers gpuUuid with
      | (results, none) => (results, none)
      | (results, some geometry) =>
          let (more, rest) := listMigGeometry answers gpuUuids
          (results ++ more, rest.map (geometry ++ ·))

/-- What `_audit_mig_geometry` returns: the geometry, its devices and whether that is all. -/
structure MigGeometryAudit where
  geometry : List MigGpuInstance := []
  deviceUuids : List String := []
  complete : Bool := false
  results : List CommandResult := []

/-- `_audit_mig_geometry`: the geometry of all GPUs, complete only where every listing is. -/
def auditMigGeometry (migMode migModePending : Option MigMode) (gpuUuids : List String)
    (answers : MigAnswers) : MigGeometryAudit :=
  -- A GPU that is and stays disabled has no instances; it is not asked for any.
  if migMode = some .disabled ∧ migModePending = some .disabled ∧ gpuUuids ≠ [] then
    { complete := true }
  else if migMode ≠ some .enabled ∨ migModePending ≠ some .enabled ∨ gpuUuids = [] ∨
      answers.smiPresent = false then {}
  else
    match listMigGeometry answers gpuUuids with
    | (results, none) => { results := results }
    | (results, some geometry) =>
        let results := results ++ [answers.devices]
        if listingFailed answers.devices then { results := results }
        else
          match parseMigDeviceUuids answers.devices.stdout gpuUuids with
          | none => { results := results }
          | some deviceUuids =>
              if deviceUuids.length ≠ (geometry.map (·.computeInstances.length)).sum then
                { results := results }
              else
                let key (gpuInstance : MigGpuInstance) :=
                  [gpuUuids.idxOf gpuInstance.gpuUuid, gpuInstance.placementStart,
                    gpuInstance.profileId]
                { geometry := geometry.mergeSort fun left right => tupleLe (key left) (key right)
                  deviceUuids := deviceUuids
                  complete := true
                  results := results }

/-- What `_fresh_rollback_mig_observation` returns. -/
structure MigObservation where
  results : List CommandResult
  current : Option MigMode := none
  pending : Option MigMode := none
  geometry : List MigGpuInstance := []
  complete : Bool := false

/-- `_fresh_rollback_mig_observation`: the modes and the geometry as they are now. -/
def freshRollbackMigObservation (gpuUuids : List String) (answers : MigAnswers) : MigObservation :=
  let (current, pending) := observeRollbackMigState gpuUuids answers.modes
  if current = none ∨ pending = none then { results := [answers.modes] }
  else
    let audited := auditMigGeometry current pending gpuUuids answers
    { results := answers.modes :: audited.results
      current := current
      pending := pending
      geometry := audited.geometry
      complete := audited.complete }

/-! ## Stable observations -/

/-- Both modes were read and agree, and the geometry is complete. -/
def MigObservation.stable (observation : MigObservation) : Bool :=
  observation.current.isSome && observation.current == observation.pending && observation.complete

variable {answers : MigAnswers} {gpuUuids : List String}

theorem not_failed_of_listed {result : CommandResult} (h : listingFailed result = false) :
    result.returncode = some 0 := by
  rw [listingFailed, Bool.or_eq_false_iff, bne_eq_false_iff_eq] at h
  exact h.1

theorem listed_results {gpuUuid : String} {results : List CommandResult}
    {geometry : List MigGpuInstance}
    (h : gpuMigGeometry answers gpuUuid = (results, some geometry)) :
    ∀ result ∈ results, result.returncode = some 0 := by
  unfold gpuMigGeometry at h
  simp only at h
  split at h
  · cases h
  · next hinstances =>
      have hfirst := not_failed_of_listed (Bool.eq_false_of_not_eq_true hinstances)
      split at h
      · cases h
      · cases h
        simpa using hfirst
      · split at h
        · cases h
        · next hchildren =>
            have hsecond := not_failed_of_listed (Bool.eq_false_of_not_eq_true hchildren)
            split at h
            · cases h
            · split at h
              · cases h
              · cases h
                simpa using ⟨hfirst, hsecond⟩

/-- A listing that found the geometry of every GPU met no failure. -/
theorem list_geometry_results {results : List CommandResult} {geometry : List MigGpuInstance}
    (h : listMigGeometry answers gpuUuids = (results, some geometry)) :
    ∀ result ∈ results, result.returncode = some 0 := by
  induction gpuUuids generalizing results geometry with
  | nil =>
      cases h
      exact fun result hresult => absurd hresult List.not_mem_nil
  | cons gpuUuid gpuUuids ih =>
      rw [listMigGeometry] at h
      split at h
      · cases h
      · next first found hfirst =>
          cases hrest : listMigGeometry answers gpuUuids with
          | mk more rest =>
              rw [hrest] at h
              obtain ⟨rfl, hgeometry⟩ := Prod.mk.inj h
              obtain ⟨tail, rfl, -⟩ := Option.map_eq_some_iff.mp hgeometry
              intro result hresult
              rcases List.mem_append.mp hresult with hresult | hresult
              · exact listed_results hfirst result hresult
              · exact ih hrest result hresult

/-- A complete geometry is that of two enabled modes, or the empty one of two disabled ones; and
everything it was read from succeeded. -/
theorem audit_geometry_complete {current pending : Option MigMode}
    (h : (auditMigGeometry current pending gpuUuids answers).complete = true) :
    (∀ result ∈ (auditMigGeometry current pending gpuUuids answers).results,
      result.returncode = some 0) ∧
    ((current = some .disabled ∧
      (auditMigGeometry current pending gpuUuids answers).geometry = []) ∨
      (current = some .enabled ∧ pending = some .enabled)) := by
  revert h
  unfold auditMigGeometry
  split
  · next hdisabled =>
      exact fun _ => ⟨fun result hresult => absurd hresult List.not_mem_nil,
        .inl ⟨hdisabled.1, rfl⟩⟩
  · split
    · exact fun h => Bool.noConfusion h
    · next henabled =>
        push Not at henabled
        split
        · exact fun h => Bool.noConfusion h
        · next results geometry hlisted =>
            dsimp only
            split
            · exact fun h => Bool.noConfusion h
            · next hdevices =>
                split
                · exact fun h => Bool.noConfusion h
                · split
                  · exact fun h => Bool.noConfusion h
                  · refine fun _ => ⟨fun result hresult => ?_, .inr ⟨henabled.1, henabled.2.1⟩⟩
                    rcases List.mem_append.mp hresult with hresult | hresult
                    · exact list_geometry_results hlisted result hresult
                    · rw [List.mem_singleton.mp hresult]
                      exact not_failed_of_listed (Bool.eq_false_of_not_eq_true hdevices)

/-- The modes are read from a command that succeeded only. -/
theorem observed_modes {result : CommandResult}
    (h : (observeRollbackMigState gpuUuids result).1 ≠ none) : result.returncode = some 0 := by
  unfold observeRollbackMigState at h
  split at h
  · exact absurd rfl h
  · next hread =>
      push Not at hread
      exact hread.1

/-- What a stable observation shows: two enabled modes, or two disabled ones and no instance. -/
theorem stable_cases (h : (freshRollbackMigObservation gpuUuids answers).stable = true) :
    (freshRollbackMigObservation gpuUuids answers).current =
        (freshRollbackMigObservation gpuUuids answers).pending ∧
      (((freshRollbackMigObservation gpuUuids answers).current = some .disabled ∧
          (freshRollbackMigObservation gpuUuids answers).geometry = []) ∨
        (freshRollbackMigObservation gpuUuids answers).current = some .enabled) := by
  rw [MigObservation.stable, Bool.and_eq_true_iff, Bool.and_eq_true_iff, beq_iff_eq] at h
  obtain ⟨⟨-, hsame⟩, hcomplete⟩ := h
  refine ⟨hsame, ?_⟩
  revert hcomplete
  unfold freshRollbackMigObservation
  obtain ⟨current, pending⟩ := observeRollbackMigState gpuUuids answers.modes
  dsimp only
  split
  · exact fun h => Bool.noConfusion h
  · exact fun h => (audit_geometry_complete h).2.imp_right And.left

/-- Every command of a stable observation succeeded. -/
theorem stable_results (h : (freshRollbackMigObservation gpuUuids answers).stable = true) :
    ∀ result ∈ (freshRollbackMigObservation gpuUuids answers).results,
      result.failed = false := by
  rw [MigObservation.stable, Bool.and_eq_true_iff] at h
  obtain ⟨-, hcomplete⟩ := h
  revert hcomplete
  unfold freshRollbackMigObservation
  cases hmodes : observeRollbackMigState gpuUuids answers.modes with
  | mk current pending =>
      dsimp only
      split
      · exact fun h => Bool.noConfusion h
      · next hread =>
          push Not at hread
          have hfirst : answers.modes.returncode = some 0 :=
            observed_modes (by rw [hmodes]; exact hread.1)
          intro h result hresult
          have hcode : result.returncode = some 0 := by
            rcases List.mem_cons.mp hresult with rfl | hresult
            · exact hfirst
            · exact (audit_geometry_complete h).1 result hresult
          rw [CommandResult.failed, hcode]
          rfl

end NvidiaConverge
