import NvidiaConverge.Launchers.Host
import NvidiaConverge.Rollback.RoundTrip

/-!
# The authority to roll back

An applied rollback acts on the object that `load_snapshot` returned and on no copy of it. The
automatic compensation of a failed install hands over the object that `create_snapshot` built,
which has no source binding: `compensation_is_refused`.
-/

namespace NvidiaConverge

open Posix (AbsolutePath)
open Result (refuse)

/-! ## The checks before a rollback -/

/-- `SNAPSHOT_DIR`, as components of the path. -/
def snapshotDirectory : List String :=
  ["var", "lib", "nvidia-converge", "snapshots"]

/-- The object is the one that was loaded from this file, and the file is as it was. -/
def validateSourceBinding (store : SnapshotStore) (object : SnapshotObject)
    (source : AbsolutePath) : Except String Unit :=
  match object.sourceBinding with
  | none =>
      throw "applied rollback requires the exact object returned by trusted snapshot loading"
  | some binding => do
      let trusted ← loadSnapshot store source true
      refuse (trusted.sourceBinding ≠ some binding ∨ trusted.snapshot ≠ object.snapshot)
        "rollback snapshot file or trusted ancestry changed after loading"

/-- The names of the fields that do not belong to this host. -/
def hostMismatches (hostId machine : String) (snapshot : RollbackSnapshot) (audit : HostAudit) :
    List String :=
  (if snapshot.hostId = hostId then [] else ["host_id"]) ++
    (if snapshot.osId = audit.osId then [] else ["os_id"]) ++
    (if snapshot.osVersion = audit.osVersion then [] else ["os_version"]) ++
    (if snapshot.architecture = machine then [] else ["architecture"]) ++
    (if snapshot.packageManager = audit.packageManager then [] else ["package_manager"])

/-- The retained payloads, validated with the runner of the rollback. -/
def validateRollbackPayloads (store : SnapshotStore) (snapshot : RollbackSnapshot)
    (source : AbsolutePath) : Except String Unit :=
  match snapshot.packagePayloads, snapshot.packageManager with
  | some bundle, some manager =>
      match validatePackagePayloads source bundle snapshot.packages manager none store.payloads with
      | .ok _ => pure ()
      | .error reason => throw ("rollback package payload validation failed: " ++ reason)
  | _, _ => throw "applied rollback snapshot has no retained package payload authority"

/-- `validate_snapshot_for_apply`; `source` is `os.path.abspath` of the argument. -/
def validateSnapshotForApply (store : SnapshotStore) (host : SnapshotHost)
    (object : SnapshotObject) (source : AbsolutePath) (audit : HostAudit) :
    Except String Unit := do
  refuse (source.parent ≠ snapshotDirectory)
    ("applied rollback snapshots must be stored directly in " ++ Posix.pathText snapshotDirectory)
  refuse (object.snapshot.path.bind Posix.pathComponents ≠ some source.components)
    "rollback snapshot path binding does not match the loaded file"
  match store.file source with
  | .error reason => throw ("cannot validate rollback snapshot trust: " ++ reason)
  | .ok file => do
      refuse (file.metadata.uid ≠ store.euid)
        ("applied rollback snapshot must be a private, singly linked regular " ++
          "file owned by the effective uid")
      -- Only `load_snapshot` sets the binding of an object.
      validateSourceBinding store object source
      let hostId ← hostIdentity host
      let mismatches := hostMismatches hostId host.machine object.snapshot audit
      refuse (mismatches ≠ [])
        ("rollback snapshot does not belong to the current host/backend: " ++
          Text.join ", " mismatches)
      validateRollbackPayloads store object.snapshot source

/-- A failed precondition of `apply_rollback`. -/
def rollbackPrecondition (name reason : String) : CommandResult where
  command := ["rollback-precondition", name]
  returncode := some 1
  stderr := reason

/-- The first checks of an applied `apply_rollback`: the result with which it stops. -/
def authorizeRollback (store : SnapshotStore) (host : SnapshotHost) (object : SnapshotObject)
    (source : AbsolutePath) : Option HostAudit → Except CommandResult Unit
  | none =>
      throw (rollbackPrecondition "current-audit"
        "an applied rollback requires a current host audit")
  | some audit =>
      if object.snapshot.path = none then
        throw (rollbackPrecondition "snapshot-authority"
          ("an applied rollback requires a trusted snapshot loaded " ++
            "from its exact private source path"))
      else
        match validateSnapshotForApply store host object source audit with
        | .ok _ => pure ()
        | .error reason => throw (rollbackPrecondition "snapshot-authority" reason)

/-! ## Creation and compensation -/

/-- The phases of an applied snapshot around `create_snapshot`. -/
structure SnapshotEvidence where
  operationId : Option String
  hasJournal : Bool
  /-- `stage_package_payloads`. -/
  staged : Except String PackagePayloadBundle
  /-- `_append_snapshot_binding`. -/
  bound : Except String Unit

/-- `_create_snapshot_with_evidence` with `persist=True`. -/
def createSnapshotWithEvidence (host : SnapshotHost) (audit : HostAudit) (request : SnapshotRequest)
    (evidence : SnapshotEvidence) : Except String (SnapshotObject × CommandResult) := do
  refuse (evidence.operationId = none ∨ evidence.hasJournal = false)
    "an applied rollback snapshot requires a durable operation binding"
  refuse (audit.packageManager = none)
    "cannot stage package payloads without a supported package manager"
  match evidence.staged with
  | .error reason => throw ("cannot retain package payloads before snapshot binding: " ++ reason)
  | .ok bundle => do
      let (snapshot, _) ← createSnapshot host audit
        { request with
          persist := true
          operationId := evidence.operationId
          packagePayloads := some bundle }
      evidence.bound
      pure ({ snapshot, sourceBinding := none },
        { command := ["persist-rollback-snapshot"], returncode := some 0 })

/-- `_attempt_install_compensation`: whether it succeeded, and the results of its rollback; the
rest of `apply_rollback` is an argument. -/
def attemptInstallCompensation (store : SnapshotStore) (host : SnapshotHost)
    (object : SnapshotObject) (source : AbsolutePath) (audit : HostAudit)
    (preflight : Except String Unit) (applied : List CommandResult) :
    Bool × List CommandResult :=
  if audit.packageInventoryComplete = false then (false, [])
  else
    match preflight with
    | .error _ => (false, [])
    | .ok _ =>
        match authorizeRollback store host object source (some audit) with
        | .error refusal => (commandsSucceeded [refusal], [refusal])
        | .ok _ => (commandsSucceeded applied, applied)

/-! ## Who has the authority -/

variable {store : SnapshotStore} {host live : SnapshotHost} {object : SnapshotObject}
  {source : AbsolutePath} {audit current : HostAudit} {request : SnapshotRequest}
  {evidence : SnapshotEvidence} {result : CommandResult}

/-- Where the file of an applied snapshot is, and whose it is. -/
structure InPlace (store : SnapshotStore) (object : SnapshotObject) (source : AbsolutePath) :
    Prop where
  directory : source.parent = snapshotDirectory
  path : object.snapshot.path.bind Posix.pathComponents = some source.components
  owner : ∃ file, store.file source = .ok file ∧ file.metadata.uid = store.euid

/-- Behind the checks of the place, the source binding decides first. -/
theorem InPlace.validate (h : InPlace store object source) :
    validateSnapshotForApply store live object source current = (do
      validateSourceBinding store object source
      let hostId ← hostIdentity live
      let mismatches := hostMismatches hostId live.machine object.snapshot current
      refuse (mismatches ≠ [])
        ("rollback snapshot does not belong to the current host/backend: " ++
          Text.join ", " mismatches)
      validateRollbackPayloads store object.snapshot source) := by
  obtain ⟨file, hfile, howner⟩ := h.owner
  unfold validateSnapshotForApply
  rw [Result.refuse_of_not (not_not.mpr h.directory), Result.ok_bind,
    Result.refuse_of_not (not_not.mpr h.path), Result.ok_bind, hfile]
  simp only
  rw [Result.refuse_of_not (not_not.mpr howner), Result.ok_bind]

/-- An object without a source binding has none. -/
theorem unbound_object_refused (source : AbsolutePath) (current : HostAudit)
    (h : object.sourceBinding = none) :
    ∃ reason, validateSnapshotForApply store live object source current = .error reason := by
  cases hvalidate : validateSnapshotForApply store live object source current with
  | error reason => exact ⟨reason, rfl⟩
  | ok accepted =>
      exfalso
      obtain ⟨-, hvalidate⟩ := Result.check_bind_eq_ok.mp hvalidate
      obtain ⟨-, hvalidate⟩ := Result.check_bind_eq_ok.mp hvalidate
      split at hvalidate
      · cases hvalidate
      · obtain ⟨-, hvalidate⟩ := Result.check_bind_eq_ok.mp hvalidate
        obtain ⟨hbinding, -⟩ := Result.check_bind_eq_ok.mp hvalidate
        rw [validateSourceBinding, h] at hbinding
        cases hbinding

/-- The object that an applied snapshot returns has no source binding. -/
theorem created_snapshot_unbound
    (h : createSnapshotWithEvidence host audit request evidence = .ok (object, result)) :
    object.sourceBinding = none := by
  obtain ⟨-, h⟩ := Result.check_bind_eq_ok.mp h
  obtain ⟨-, h⟩ := Result.check_bind_eq_ok.mp h
  split at h
  · cases h
  · obtain ⟨⟨snapshot, text⟩, -, h⟩ := Result.bind_eq_ok.mp h
    obtain ⟨-, h⟩ := Result.check_bind_eq_ok.mp h
    rw [← (Prod.mk.inj (Result.pure_eq_ok.mp h)).1]

/-- With its file in place, the refusal names the missing binding. -/
theorem created_snapshot_refusal
    (h : createSnapshotWithEvidence host audit request evidence = .ok (object, result))
    (hplace : InPlace store object source) :
    validateSnapshotForApply store live object source current = .error
      "applied rollback requires the exact object returned by trusted snapshot loading" := by
  rw [hplace.validate, validateSourceBinding, created_snapshot_unbound h]
  rfl

/-- The compensation of a failed install is refused on every host, from every store and for every
audit, whatever the rest of the rollback would have done. -/
theorem compensation_is_refused
    (hcreate : createSnapshotWithEvidence host audit request evidence = .ok (object, result))
    (hinventory : current.packageInventoryComplete = true) (applied : List CommandResult) :
    ∃ reason, attemptInstallCompensation store live object source current (.ok ()) applied =
      (false, [rollbackPrecondition "snapshot-authority" reason]) := by
  have hrefused : ∃ reason, authorizeRollback store live object source (some current) =
      .error (rollbackPrecondition "snapshot-authority" reason) := by
    by_cases hpath : object.snapshot.path = none
    · simp only [authorizeRollback, if_pos hpath]
      exact ⟨_, rfl⟩
    · simp only [authorizeRollback, if_neg hpath]
      obtain ⟨reason, hreason⟩ := unbound_object_refused source current
        (created_snapshot_unbound hcreate)
      rw [hreason]
      exact ⟨reason, rfl⟩
  obtain ⟨reason, hreason⟩ := hrefused
  refine ⟨reason, ?_⟩
  unfold attemptInstallCompensation
  rw [if_neg (by simp [hinventory]), hreason]
  rfl

/-- A run on the host without a Docker configuration file, whose snapshot was persisted. -/
def configEvidence : SnapshotEvidence where
  operationId := configRequest.operationId
  hasJournal := true
  staged := .ok configBundle
  bound := .ok ()

/-- An applied snapshot returns what `create_snapshot` built, when its phases succeed. -/
theorem create_with_evidence_ok (evidence : SnapshotEvidence) {bundle : PackagePayloadBundle}
    {snapshot : RollbackSnapshot}
    {text : Option String} (hoperation : evidence.operationId ≠ none)
    (hjournal : evidence.hasJournal = true) (hmanager : audit.packageManager ≠ none)
    (hstaged : evidence.staged = .ok bundle) (hbound : evidence.bound = .ok ())
    (hcreate : createSnapshot host audit
      { request with
        persist := true
        operationId := evidence.operationId
        packagePayloads := some bundle } = .ok (snapshot, text)) :
    createSnapshotWithEvidence host audit request evidence =
      .ok ({ snapshot, sourceBinding := none },
        { command := ["persist-rollback-snapshot"], returncode := some 0 }) := by
  unfold createSnapshotWithEvidence
  rw [Result.refuse_of_not (by simp [hoperation, hjournal]), Result.ok_bind,
    Result.refuse_of_not hmanager, Result.ok_bind, hstaged]
  simp only
  rw [hcreate, Result.ok_bind, hbound, Result.ok_bind]
  rfl

/-- The snapshot of the host without a Docker configuration file. -/
theorem config_snapshot_built :
    createSnapshot (configHost .absent) configAudit configRequest =
      .ok (configSnapshot .absent ⟨dockerConfigPath, false, none, none⟩, some (snapshotText
        (configSnapshot .absent ⟨dockerConfigPath, false, none, none⟩))) :=
  create_snapshot_of_checks (by rfl) (by rfl) (by rfl) (by rfl) (by rfl) (by rfl) (by rfl)
    (config_text_size (by decide +kernel)) (by rfl)

theorem config_snapshot_created :
    createSnapshotWithEvidence (configHost .absent) configAudit configRequest configEvidence =
      .ok ({ snapshot := configSnapshot .absent ⟨dockerConfigPath, false, none, none⟩
             sourceBinding := none },
        { command := ["persist-rollback-snapshot"], returncode := some 0 }) :=
  create_with_evidence_ok configEvidence (by simp [configEvidence, configRequest])
    rfl (by decide) rfl rfl config_snapshot_built

/-- The compensation of this run, on the same host and with its published snapshot. -/
theorem compensation_is_refused_config_host :
    ∃ reason, attemptInstallCompensation
        (publishedStore (configHost .absent)
          (snapshotText (configSnapshot .absent ⟨dockerConfigPath, false, none, none⟩)))
        (configHost .absent)
        { snapshot := configSnapshot .absent ⟨dockerConfigPath, false, none, none⟩
          sourceBinding := none } configRequest.path configAudit (.ok ()) [] =
      (false, [rollbackPrecondition "snapshot-authority" reason]) :=
  compensation_is_refused config_snapshot_created rfl []

/-- The published snapshot of that host is in place. -/
theorem config_in_place :
    InPlace
      (publishedStore (configHost .absent)
        (snapshotText (configSnapshot .absent ⟨dockerConfigPath, false, none, none⟩)))
      { snapshot := configSnapshot .absent ⟨dockerConfigPath, false, none, none⟩
        sourceBinding := none } configRequest.path where
  directory := by rfl
  path := by
    show (some configRequest.path.text).bind Posix.pathComponents = _
    rw [Option.bind_some, AbsolutePath.path_components_text]
  owner := ⟨_, rfl, rfl⟩

/-- The snapshot file is in place and loads as the snapshot that was created, and the rollback
with that snapshot is refused. -/
theorem unchanged_snapshot_refused :
    ¬ ∀ (host : SnapshotHost) (audit : HostAudit) (request : SnapshotRequest)
        (evidence : SnapshotEvidence) (object : SnapshotObject) (result : CommandResult)
        (store : SnapshotStore),
      createSnapshotWithEvidence host audit request evidence = .ok (object, result) →
      InPlace store object request.path →
      (∃ binding, loadSnapshot store request.path true = .ok ⟨object.snapshot, some binding⟩) →
      validateSnapshotForApply store host object request.path audit = .ok () := by
  intro hall
  obtain ⟨parts, hpersisted⟩ := create_snapshot_persisted config_snapshot_built
  obtain ⟨file, hfile⟩ := published_store (configHost .absent) configRequest.path
    (snapshotText (configSnapshot .absent ⟨dockerConfigPath, false, none, none⟩))
  have hloaded := (load_published_iff hpersisted hfile true).mpr absent_config_reloadable
  have haccepted := hall _ _ _ _ _ _ _ config_snapshot_created config_in_place hloaded
  rw [created_snapshot_refusal config_snapshot_created config_in_place] at haccepted
  cases haccepted

end NvidiaConverge
