import NvidiaConverge.Rollback.Decode

/-!
# Persisted snapshots

What a successful `create_snapshot(persist=True)` has established. `create_snapshot_persisted`
collects its checks in `Persisted`; the later results say, group by group, which of the
loader's conditions these checks already give.
-/

namespace NvidiaConverge

open Result (refuse)
open Posix (AbsolutePath)

/-- The parts of a snapshot that `create_snapshot` computes. -/
structure SnapshotParts where
  manager : PackageManager
  bundle : PackagePayloadBundle
  failsafePath : Option String
  moduleNames : List String
  introduced : List String
  commands : List (List String)
  hostId : String
  managedFiles : List FileSnapshot

/-- The snapshot of these parts, before its digest. -/
def SnapshotParts.record (parts : SnapshotParts) (host : SnapshotHost) (audit : HostAudit)
    (request : SnapshotRequest) : RollbackSnapshot where
  path := some request.path.text
  packages := installedPackages audit
  kernel := audit.kernel.running
  moduleVersion := audit.module.version
  commands := parts.commands
  schemaVersion := snapshotSchemaVersion
  createdAt := host.now.isoformat
  operationId := snapshotOperationId host request
  hostId := parts.hostId
  osId := audit.osId
  osVersion := audit.osVersion
  architecture := host.machine
  packageManager := some parts.manager
  introducedPackages := parts.introduced
  moduleLoaded := audit.module.loaded
  moduleNames := parts.moduleNames
  moduleOpenModule := audit.module.openModule
  moduleSigned := audit.module.signed
  moduleInstalledVersion := audit.module.installedVersion
  moduleInstalledOpenModule := audit.module.installedOpenModule
  moduleInstalledSigned := audit.module.installedSigned
  migMode := audit.migMode
  launchers := audit.launchers
  managedFiles := parts.managedFiles
  packagePayloads := some parts.bundle
  gpuUuids := audit.gpuUuids
  migGeometry := audit.migGeometry

/-- The checks that a snapshot passed before it was persisted. -/
structure Persisted (host : SnapshotHost) (audit : HostAudit) (request : SnapshotRequest)
    (parts : SnapshotParts) (s : RollbackSnapshot) (text : String) : Prop where
  manager : audit.packageManager = some parts.manager
  bundle : request.packagePayloads = some parts.bundle
  failsafe : failsafeTarget host audit request = .ok parts.failsafePath
  failsafeRequired : parts.manager = .dnf → parts.failsafePath ≠ none
  mode : audit.migMode ≠ some .mixed
  disabled : ¬ (audit.migMode = some .disabled ∧ audit.migGeometry ≠ [])
  osId : audit.osId ≠ some ""
  observed : unknownServiceStates audit.launchers = []
  consistent : serviceStateConsistencyError audit.launchers = none
  operation : isOperationId (snapshotOperationId host request) = true
  versions : ∀ package ∈ installedPackages audit, truthy package.version = true
  modules : nvidiaModuleUnloadOrder host.modules = .ok parts.moduleNames
  loaded : audit.module.loaded = decide ("nvidia" ∈ parts.moduleNames)
  payloads : ∃ paths, validatePackagePayloads request.path parts.bundle (installedPackages audit)
    parts.manager none { host.payloads with inspect := none } = .ok paths
  introduced : introducedPackages request.desired audit = .ok parts.introduced
  commands : rollbackCommands audit.packages audit.packageManager parts.introduced
    (some request.path.text) request.packagePayloads = .ok parts.commands
  hostId : hostIdentity host = .ok parts.hostId
  files : captureManagedFiles host audit.packageManager parts.failsafePath =
    .ok parts.managedFiles
  snapshot : s = (parts.record host audit request).sealed
  size : (Text.utf8 text).length ≤ maxSnapshotBytes
  written : text = snapshotText s

variable {host : SnapshotHost} {audit : HostAudit} {request : SnapshotRequest}
  {s : RollbackSnapshot} {text : String}

/-- A DNF snapshot that is persisted has a fail-safe target. -/
theorem failsafe_target_required {target : Option String} (hpersist : request.persist = true)
    (h : failsafeTarget host audit request = .ok target) :
    audit.packageManager = some .dnf → target ≠ none := by
  intro hdnf
  obtain ⟨path, _, hrest⟩ := Result.bind_eq_ok.mp h
  obtain ⟨hrequired, htarget⟩ := Result.check_bind_eq_ok.mp hrest
  rw [Result.refuse_eq_ok] at hrequired
  cases path with
  | none => exact absurd ⟨hpersist, hdnf, rfl⟩ hrequired
  | some path =>
      obtain ⟨_, heq⟩ := Result.check_bind_eq_ok.mp htarget
      rw [← Result.pure_eq_ok.mp heq]
      exact Option.some_ne_none path

/-- The module list of a persisted snapshot is the unload order. -/
theorem snapshot_modules_persisted {names : List String} (hpersist : request.persist = true)
    (h : snapshotModules host audit request = .ok names) :
    nvidiaModuleUnloadOrder host.modules = .ok names ∧
      audit.module.loaded = decide ("nvidia" ∈ names) := by
  obtain ⟨order, horder, hrest⟩ := Result.bind_eq_ok.mp h
  obtain ⟨hloaded, heq⟩ := Result.check_bind_eq_ok.mp hrest
  obtain rfl := Result.pure_eq_ok.mp heq
  rw [Result.refuse_eq_ok] at hloaded
  refine ⟨?_, Decidable.not_not.mp fun hne => hloaded ⟨hpersist, hne⟩⟩
  split at horder
  · next names hnames => rw [hnames, Result.pure_eq_ok.mp horder]
  · obtain ⟨hrefused, _⟩ := Result.check_bind_eq_ok.mp horder
    exact absurd hpersist (Result.refuse_eq_ok.mp hrefused)

/-- The payload check of a persisted snapshot validated a bundle for a package manager. -/
theorem check_payloads_persisted (hpersist : request.persist = true)
    (h : checkPayloads host audit request = .ok ()) :
    ∃ bundle manager, request.packagePayloads = some bundle ∧
      audit.packageManager = some manager ∧
      ∃ paths, validatePackagePayloads request.path bundle (installedPackages audit) manager none
        { host.payloads with inspect := none } = .ok paths := by
  rw [checkPayloads, if_pos hpersist] at h
  split at h
  · next bundle manager hbundle hmanager =>
      split at h
      · next paths hpaths => exact ⟨bundle, manager, hbundle, hmanager, paths, hpaths⟩
      · cases h
  · cases h

/-- What the guards on the audit leave of a persisted snapshot. -/
theorem check_baseline_persisted (hpersist : request.persist = true)
    (h : checkBaseline audit request = .ok ()) :
    audit.migMode ≠ some .mixed ∧
      ¬ (audit.migMode = some .disabled ∧ audit.migGeometry ≠ []) ∧
      audit.osId ≠ some "" ∧ unknownServiceStates audit.launchers = [] ∧
      serviceStateConsistencyError audit.launchers = none := by
  simp only [checkBaseline, Result.check_bind_eq_ok, Result.refuse_eq_ok, hpersist, true_and]
    at h
  obtain ⟨hmixed, -, -, -, hdisabled, -, -, -, hos, -, hknown, hconsistent⟩ := h
  refine ⟨hmixed, ?_, ?_, not_not.mp hknown, ?_⟩
  · rintro ⟨hmode, hgeometry⟩
    exact hdisabled ⟨hmode, Or.inl hgeometry⟩
  · intro hempty
    exact hos (by rw [hempty]; rfl)
  · simpa using hconsistent

/-- The operation and the versions of a persisted snapshot. -/
theorem check_operation_persisted (hpersist : request.persist = true)
    (h : checkOperation host audit request = .ok ()) :
    isOperationId (snapshotOperationId host request) = true ∧
      ∀ package ∈ installedPackages audit, truthy package.version = true := by
  simp only [checkOperation, Result.check_bind_eq_ok, Result.refuse_eq_ok, hpersist, true_and]
    at h
  obtain ⟨hoperation, hversions⟩ := h
  refine ⟨by simpa using hoperation, ?_⟩
  simpa using hversions

/-- A persisted snapshot passed every check of `create_snapshot`. -/
theorem create_snapshot_persisted (h : createSnapshot host audit request = .ok (s, some text)) :
    ∃ parts, Persisted host audit request parts s text := by
  obtain ⟨target, htarget, h⟩ := Result.bind_eq_ok.mp h
  obtain ⟨hbaseline, h⟩ := Result.check_bind_eq_ok.mp h
  obtain ⟨hoperation, h⟩ := Result.check_bind_eq_ok.mp h
  obtain ⟨names, hnames, h⟩ := Result.bind_eq_ok.mp h
  obtain ⟨hpayloads, h⟩ := Result.check_bind_eq_ok.mp h
  obtain ⟨record, hrecord, h⟩ := Result.bind_eq_ok.mp h
  by_cases hpersist : request.persist = true
  · rw [if_pos hpersist] at h
    obtain ⟨written, hwritten, heq⟩ := Result.bind_eq_ok.mp h
    obtain ⟨rfl, rfl⟩ : record.sealed = s ∧ written = text := by
      simpa using Result.pure_eq_ok.mp heq
    obtain ⟨introduced, hintroduced, hrecord⟩ := Result.bind_eq_ok.mp hrecord
    rw [if_pos hpersist, if_pos hpersist] at hrecord
    obtain ⟨commands, hcommands, hrecord⟩ := Result.bind_eq_ok.mp hrecord
    obtain ⟨hostId, hhostId, hrecord⟩ := Result.bind_eq_ok.mp hrecord
    obtain ⟨files, hfiles, hrecord⟩ := Result.bind_eq_ok.mp hrecord
    obtain ⟨bundle, manager, hbundle, hmanager, hvalid⟩ := check_payloads_persisted hpersist
      hpayloads
    obtain ⟨hsize, hstore⟩ := Result.check_bind_eq_ok.mp hwritten
    obtain ⟨hmixed, hdisabled, hos, hobserved, hconsistent⟩ := check_baseline_persisted hpersist
      hbaseline
    obtain ⟨hid, hversions⟩ := check_operation_persisted hpersist hoperation
    obtain ⟨hmodules, hloaded⟩ := snapshot_modules_persisted hpersist hnames
    have htext : written = snapshotText record.sealed := by
      split at hstore
      · cases hstore
      · exact (Result.pure_eq_ok.mp hstore).symm
    refine ⟨⟨manager, bundle, target, names, introduced, commands, hostId, files⟩, ?_⟩
    exact
      { manager := hmanager
        bundle := hbundle
        failsafe := htarget
        failsafeRequired := fun hdnf => failsafe_target_required hpersist htarget (hdnf ▸ hmanager)
        mode := hmixed
        disabled := hdisabled
        osId := hos
        observed := hobserved
        consistent := hconsistent
        operation := hid
        versions := hversions
        modules := hmodules
        loaded := hloaded
        payloads := hvalid
        introduced := hintroduced
        commands := hcommands
        hostId := hhostId
        files := hfiles
        snapshot := by
          rw [← Result.pure_eq_ok.mp hrecord, hmanager, hbundle]
          rfl
        written := htext
        size := by
          rw [htext]
          exact not_lt.mp (Result.refuse_eq_ok.mp hsize) }
  · rw [if_neg hpersist] at h
    have heq := Result.pure_eq_ok.mp h
    cases heq

/-- When every check passes, the snapshot is persisted. -/
theorem create_snapshot_of_checks {target : Option String} {names : List String}
    {record : RollbackSnapshot} (hpersist : request.persist = true)
    (htarget : failsafeTarget host audit request = .ok target)
    (hbaseline : checkBaseline audit request = .ok ())
    (hoperation : checkOperation host audit request = .ok ())
    (hmodules : snapshotModules host audit request = .ok names)
    (hpayloads : checkPayloads host audit request = .ok ())
    (hrecord : snapshotRecord host audit request target names = .ok record)
    (hsize : (Text.utf8 (snapshotText record.sealed)).length ≤ maxSnapshotBytes)
    (hstore : host.storeError = none) :
    createSnapshot host audit request = .ok (record.sealed, some (snapshotText record.sealed)) := by
  have hwritten : storeSnapshot host request record.sealed =
      .ok (snapshotText record.sealed) := by
    rw [storeSnapshot, Result.refuse_of_not (not_lt.mpr hsize), Result.ok_bind, hstore]
    rfl
  rw [createSnapshot, htarget, Result.ok_bind, hbaseline, Result.ok_bind, hoperation,
    Result.ok_bind, hmodules, Result.ok_bind, hpayloads, Result.ok_bind, hrecord, Result.ok_bind,
    if_pos hpersist, hwritten]
  rfl

/-- The snapshot without its two digests, which is what a host's identity and the text decide. -/
def RollbackSnapshot.undigested (s : RollbackSnapshot) : RollbackSnapshot :=
  { s with hostId := "", integritySha256 := none }

/-- A snapshot's text is bounded by the weight of its other fields and its two digests. -/
theorem sealed_text_size_le (record : RollbackSnapshot) :
    (Text.utf8 (snapshotText record.sealed)).length ≤
      4 * (Json.weight 2 0 (.object record.undigested.jsonFields) +
        12 * record.hostId.toList.length + 1000) := by
  have hsize := Json.length_utf8_dumps_le 2 (.object record.sealed.jsonFields)
  have hdigest : (snapshotIntegrity record).toList.length = 64 := Sha256.length_hexdigest _
  refine hsize.trans ?_
  simp only [RollbackSnapshot.jsonFields, RollbackSnapshot.leadingFields,
    RollbackSnapshot.trailingFields, RollbackSnapshot.sealed, RollbackSnapshot.undigested,
    optional_value_some, optionalValue.eq_1, List.cons_append, List.nil_append, Json.weight,
    Json.weightFields, hdigest, String.toList_empty, List.length_nil]
  omega

/-! ## What the payload validation gives -/

/-- What a validated bundle satisfies beside a baseline. -/
structure ValidPayloads (path : AbsolutePath) (bundle : PackagePayloadBundle)
    (packages : List PackageInfo) (manager : PackageManager) : Prop where
  complete : ∀ package ∈ packages, completeIdentity manager package = true
  count : packages.length ≤ maxBaselinePackagePayloads
  entries : bundle.packages.length ≤ maxPackagePayloadEntries
  directory : payloadBundleDirectory path = .ok bundle.directory
  distinct : (packages.map PackageInfo.identity).Nodup
  identities : (bundle.packages.map PackagePayload.identity).Nodup
  oneToOne : sameMembers (identitiesWithRole "baseline" bundle)
    (packages.map PackageInfo.identity) = true
  filenames : (bundle.packages.map (·.filename)).Nodup
  each : ∀ entry ∈ bundle.packages, validPayloadEntry manager entry = true
  total : bundle.totalSizeBytes = (bundle.packages.map (·.sizeBytes)).sum

/-- Requested packages are completely identified. -/
theorem validate_requested_packages_complete {manager : PackageManager}
    {seen : List PackageIdentity} {packages : List PackageInfo}
    (h : validateRequestedPackages manager seen packages = .ok ()) :
    ∀ package ∈ packages, completeIdentity manager package = true := by
  induction packages generalizing seen with
  | nil => simp
  | cons package packages ih =>
      rw [validateRequestedPackages] at h
      obtain ⟨hcomplete, h⟩ := Result.check_bind_eq_ok.mp h
      obtain ⟨_, hrest⟩ := Result.check_bind_eq_ok.mp h
      intro other hother
      rcases List.mem_cons.mp hother with rfl | hother
      · simpa using Result.refuse_eq_ok.mp hcomplete
      · exact ih hrest other hother

/-- A validated entry is well formed and adds its size to the total. -/
theorem validate_payload_file_ok {manager : PackageManager} {bundlePath : List String}
    {files : List PayloadFile} {inspect : Option PayloadInspection} {total total' : Nat}
    {entry : PackagePayload}
    (h : validatePayloadFile manager bundlePath files inspect total entry = .ok total') :
    validPayloadEntry manager entry = true ∧ total' = total + entry.sizeBytes := by
  obtain ⟨hvalid, h⟩ := Result.check_bind_eq_ok.mp h
  refine ⟨by simpa using Result.refuse_eq_ok.mp hvalid, ?_⟩
  split at h
  · cases h
  · next file _ =>
      obtain ⟨hbytes, h⟩ := Result.check_bind_eq_ok.mp h
      obtain ⟨_, h⟩ := Result.check_bind_eq_ok.mp h
      obtain ⟨_, heq⟩ := Result.check_bind_eq_ok.mp h
      have hsize : file.sizeBytes = entry.sizeBytes := by
        simp only [Result.refuse_eq_ok, not_or, not_not] at hbytes
        exact hbytes.2
      rw [← Result.pure_eq_ok.mp heq, hsize]

/-- The entries of a bundle are well formed and their sizes add up. -/
theorem validate_payload_files_ok {manager : PackageManager} {bundlePath : List String}
    {files : List PayloadFile} {inspect : Option PayloadInspection} {total total' : Nat}
    {entries : List PackagePayload}
    (h : entries.foldlM (validatePayloadFile manager bundlePath files inspect) total =
      .ok total') :
    (∀ entry ∈ entries, validPayloadEntry manager entry = true) ∧
      total' = total + (entries.map (·.sizeBytes)).sum := by
  induction entries generalizing total with
  | nil =>
      obtain rfl := Result.pure_eq_ok.mp h
      simp
  | cons entry entries ih =>
      rw [List.foldlM_cons] at h
      obtain ⟨next, hentry, hrest⟩ := Result.bind_eq_ok.mp h
      obtain ⟨hvalid, rfl⟩ := validate_payload_file_ok hentry
      obtain ⟨hvalids, rfl⟩ := ih hrest
      refine ⟨by simpa using ⟨hvalid, hvalids⟩, ?_⟩
      rw [List.map_cons, List.sum_cons]
      omega

/-- A bundle that `validate_package_payloads` accepts is valid. -/
theorem validate_package_payloads_ok {path : AbsolutePath} {bundle : PackagePayloadBundle}
    {packages : List PackageInfo} {manager : PackageManager} {access : PayloadAccess}
    {paths : List (PackageIdentity × String)}
    (h : validatePackagePayloads path bundle packages manager none access = .ok paths) :
    ValidPayloads path bundle packages manager := by
  simp only [validatePackagePayloads, Result.bind_eq_ok, Result.refuse_eq_ok, exists_const,
    not_lt, not_not, not_or, Bool.not_eq_false] at h
  obtain ⟨_, hrequested, hcount, hentries, _, -, directory, hdirectory, hbound, hdistinct,
    ⟨hidentities, honeToOne⟩, _, -, hfilenames, files, -, -, total, hfold, htotal, -⟩ := h
  obtain ⟨hvalid, hsum⟩ := validate_payload_files_ok hfold
  exact
    { complete := validate_requested_packages_complete hrequested
      count := hcount
      entries := hentries
      directory := by rw [hdirectory, hbound]
      distinct := hdistinct
      identities := hidentities
      oneToOne := honeToOne
      filenames := hfilenames
      each := hvalid
      total := by rw [← htotal, hsum, Nat.zero_add] }

end NvidiaConverge
