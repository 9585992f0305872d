import NvidiaConverge.Release.GateRefinement
import NvidiaConverge.Rollback.ExactDelta
import NvidiaConverge.Rollback.RoundTrip

/-!
# The gate recomputes the rollback

`gate_recomputes_iff`: for a persisted snapshot the gate derives the program's commands, with the
retained files at their attested paths, and accepts the snapshot's own commands, exactly when the
snapshot records a package and its manifest is as staging writes it.
-/

namespace NvidiaConverge

open Posix (AbsolutePath PurePath)
open Posix.PurePath (rooted)

variable {key : List UInt8} {bindings bindings' : PathBindings} {path : AbsolutePath}
  {bundle : PackagePayloadBundle} {packages : List PackageInfo} {manager : PackageManager}
  {snapshot sanitized : RollbackSnapshot} {audit : HostAudit} {package : PackageInfo}

/-! ## Plain operands -/

/-- The spellings of a row start with its name. -/
theorem removal_spec_plain (h : InventoryRow manager package) :
    PlainPart (removalSpec manager package) := by
  have hname := plain_of_interesting h.interesting
  cases manager with
  | aptGet => exact hname.append _
  | dnf | yum =>
      simp only [removalSpec, rpmPackageSpec, String.append_assoc]
      exact hname.append _
  | zypper =>
      simp only [removalSpec, String.append_assoc]
      exact hname.append _

/-- The RPM spelling of a row starts with its name. -/
theorem rpm_package_spec_plain (h : InventoryRow manager package) :
    PlainPart (rpmPackageSpec package) := by
  simp only [rpmPackageSpec, String.append_assoc]
  exact (plain_of_interesting h.interesting).append _

/-- The removals of a delta are plain parts of a command. -/
theorem delta_removals_plain (haudit : Inventory manager audit.packages)
    (hmanager : snapshot.packageManager = some manager) :
    ∀ part ∈ deltaRemovals snapshot audit, PlainPart part := by
  intro part hpart
  rw [deltaRemovals, hmanager, mem_package_removal_specs] at hpart
  obtain ⟨package, hpackage, rfl⟩ := hpart
  exact removal_spec_plain (haudit.rows package (mem_added_packages.mp hpackage).1)

/-- The expected installs of a delta are plain. -/
theorem delta_installs_plain (h : Inventory manager snapshot.packages) :
    ∀ part ∈ deltaInstallSpecs snapshot audit, PlainPart part := by
  intro part hpart
  rw [deltaInstallSpecs, mem_sorted, List.mem_map] at hpart
  obtain ⟨package, hpackage, rfl⟩ := hpart
  exact rpm_package_spec_plain (h.rows package (restore_packages_subset h package hpackage))

/-- The expected removals of a delta are plain. -/
theorem delta_removal_specs_plain (haudit : Inventory manager audit.packages)
    (hmanager : snapshot.packageManager = some manager) :
    ∀ part ∈ deltaRemovalSpecs snapshot audit, PlainPart part := by
  intro part hpart
  rw [deltaRemovalSpecs, mem_sorted, List.mem_dedup, List.mem_append, List.mem_map] at hpart
  rcases hpart with hremoval | ⟨package, hpackage, rfl⟩
  · exact delta_removals_plain haudit hmanager part hremoval
  · exact rpm_package_spec_plain (haudit.rows package (List.mem_filter.mp hpackage).1)

/-! ## The snapshot's own commands -/

/-- The commands that `create_snapshot` records for a retained baseline. -/
def ownCommands (manager : PackageManager) (snapshot : RollbackSnapshot)
    (introduced : List String) : List (List String) :=
  if baselineOperands snapshot = [] ∧ sorted introduced.dedup = [] then []
  else
    [deltaCommand manager (baselineOperands snapshot) (sorted introduced.dedup)
      (sorted ((snapshot.packages.filter fun package =>
        package.manager = some "rpm").map rpmPackageSpec))
      (sorted (sorted introduced.dedup))]

/-- Every package of a complete inventory is restored. -/
theorem restored_inventory (h : Inventory manager packages) :
    restoredPackages packages = packages := by
  refine List.filter_eq_self.mpr fun package hpackage => ?_
  have hrow := h.rows package hpackage
  simp [hrow.installed, hrow.version_truthy, hrow.interesting]

/-- `_rollback_commands` on the whole baseline. -/
theorem rollback_commands_baseline (h : RetainedBaseline snapshot manager path bundle)
    (introduced : List String) :
    rollbackCommands snapshot.packages (some manager) introduced (some path.text) (some bundle) =
      .ok (ownCommands manager snapshot introduced) := by
  have hsorted : sorted (sorted introduced.dedup).dedup = sorted introduced.dedup := by
    rw [(nodup_sorted.mpr (List.nodup_dedup introduced)).dedup, sorted_sorted]
  rw [← rollback_commands_sorted, rollback_commands_retained (restored_inventory h.inventory)
    hsorted (h.local_payloads fun package hpackage => hpackage)]
  rfl

/-- The snapshot as if it lay at another path of its name. -/
def RollbackSnapshot.relocated (snapshot : RollbackSnapshot) (target : AbsolutePath) :
    RollbackSnapshot :=
  { snapshot with path := some target.text }

/-- A snapshot with its retained baseline can be moved as a whole. -/
theorem RetainedBaseline.relocated (h : RetainedBaseline snapshot manager path bundle)
    {target : AbsolutePath} (hname : target.name = path.name) :
    RetainedBaseline (snapshot.relocated target) manager target bundle where
  located := rfl
  backend := h.backend
  retained := h.retained
  payloads :=
    { h.payloads with
      directory := by
        rw [payloadBundleDirectory, hname]
        exact h.payloads.directory }
  inventory := h.inventory

/-- The export moves the operands of packages to the attested snapshot. -/
theorem attests_operands (h : RetainedBaseline snapshot manager path bundle)
    {target : AbsolutePath} (hname : target.name = path.name)
    (hbound : ∀ entry ∈ bundle.packages, bindings.paths.lookup (payloadPath path bundle entry) =
      some (payloadPath target bundle entry)) {restored : List PackageInfo}
    (hsub : ∀ package ∈ restored, package ∈ snapshot.packages) :
    List.Forall₂ (Attests key bindings) (restored.map (snapshotPayloadOperand snapshot))
      (restored.map (snapshotPayloadOperand (snapshot.relocated target))) := by
  rw [List.forall₂_map_left_iff, List.forall₂_map_right_iff, List.forall₂_same]
  intro package hpackage
  obtain ⟨entry, hentry, -, hidentity, hoperand⟩ := h.baseline_entry (hsub package hpackage)
  obtain ⟨found, hfound, -, hidentity', hoperand'⟩ :=
    (h.relocated hname).baseline_entry (hsub package hpackage)
  obtain rfl := List.inj_on_of_nodup_map h.payloads.identities hentry hfound
    (hidentity.trans hidentity'.symm)
  rw [hoperand, hoperand', Attests]
  unfold pseudonymizeArgument
  simp only [hbound entry hentry]
  rfl

/-- The parts of its own commands beside the operands are plain. -/
structure PlainOwnParts (snapshot : RollbackSnapshot) (introduced : List String) : Prop where
  removals : ∀ part ∈ sorted introduced.dedup, PlainPart part
  installs : ∀ part ∈ sorted ((snapshot.packages.filter fun package =>
    package.manager = some "rpm").map rpmPackageSpec), PlainPart part
  removed : ∀ part ∈ sorted (sorted introduced.dedup), PlainPart part

/-- Plain introduced names give plain commands. -/
theorem plain_own_parts (h : Inventory manager snapshot.packages) {introduced : List String}
    (hintroduced : ∀ name ∈ introduced, PlainPart name) : PlainOwnParts snapshot introduced where
  removals := fun part hpart =>
    hintroduced part (List.mem_dedup.mp (mem_sorted.mp hpart))
  installs := by
    intro part hpart
    rw [mem_sorted, List.mem_map] at hpart
    obtain ⟨package, hpackage, rfl⟩ := hpart
    exact rpm_package_spec_plain (h.rows package (List.mem_filter.mp hpackage).1)
  removed := fun part hpart =>
    hintroduced part (List.mem_dedup.mp (mem_sorted.mp (mem_sorted.mp hpart)))

/-! ## The gate on a sanitised snapshot -/

/-- A snapshot that the program can export: its baseline is retained, and its commands are those
of its baseline and of plain introduced names. -/
structure Exportable (snapshot : RollbackSnapshot) (manager : PackageManager)
    (path : AbsolutePath) (bundle : PackagePayloadBundle) : Prop where
  baseline : RetainedBaseline snapshot manager path bundle
  schemaVersion : snapshot.schemaVersion = "2.6"
  introduced : ∀ name ∈ snapshot.introducedPackages, PlainPart name
  commands : snapshot.commands = ownCommands manager snapshot snapshot.introducedPackages

/-- The sanitised form of an exportable snapshot is one that the gate can read. -/
theorem Exportable.gate_records (h : Exportable snapshot manager path bundle)
    (hsanitized : SanitizedFrom key bindings bindings' snapshot sanitized) :
    GateRecords key path bundle manager sanitized where
  schemaVersion := hsanitized.schemaVersion.trans h.schemaVersion
  packageManager := hsanitized.packageManager.trans h.baseline.backend
  payloads := hsanitized.payloads.trans h.baseline.retained
  valid := by
    rw [hsanitized.packages]
    exact h.baseline.payloads
  path := hsanitized.attested_path h.baseline.located

/-- The attested snapshot keeps the name of its file. -/
theorem attested_snapshot_name (key : List UInt8) (hname : path.components ≠ []) :
    (attestedSnapshot key path hname).name = path.name :=
  rfl

/-- The sanitised commands are those of the snapshot at its attested path. -/
theorem Exportable.sanitized_commands (h : Exportable snapshot manager path bundle)
    (hsanitized : SanitizedFrom key bindings bindings' snapshot sanitized)
    (hname : path.components ≠ []) :
    sanitized.commands =
      ownCommands manager (snapshot.relocated (attestedSnapshot key path hname))
        snapshot.introducedPackages := by
  have hparts := plain_own_parts h.baseline.inventory h.introduced
  have hbound := registered_paths hname h.baseline.payloads h.baseline.located h.baseline.retained
    hsanitized.registered
  have hmapped : (ownCommands manager snapshot snapshot.introducedPackages).mapM
      (pseudonymizeCommand key bindings') =
      .ok (ownCommands manager (snapshot.relocated (attestedSnapshot key path hname))
        snapshot.introducedPackages) :=
    pseudonymize_delta
      (attests_operands h.baseline (attested_snapshot_name key hname) hbound fun _ hmem => hmem)
      hparts.removals (fun _ => hparts.installs) fun _ => hparts.removed
  have hcommands := hsanitized.commands
  rw [h.commands, hmapped] at hcommands
  exact (Except.ok.inj hcommands).symm

/-- Without a package no command holds a retained file. -/
theorem Exportable.no_root (h : Exportable snapshot manager path bundle)
    (hsanitized : SanitizedFrom key bindings bindings' snapshot sanitized)
    (hempty : snapshot.packages = []) : payloadRoot bundle sanitized.commands.flatten = none := by
  have hparts := plain_own_parts h.baseline.inventory h.introduced
  have hnone : baselineOperands snapshot = [] := by
    rw [baselineOperands, hempty, List.map_nil]
  have hpaths : List.Forall₂ (Attests key bindings') (baselineOperands snapshot)
      (baselineOperands snapshot) := by
    rw [hnone]
    exact .nil
  have hmapped : (ownCommands manager snapshot snapshot.introducedPackages).mapM
      (pseudonymizeCommand key bindings') =
      .ok (ownCommands manager snapshot snapshot.introducedPackages) :=
    pseudonymize_delta hpaths hparts.removals (fun _ => hparts.installs) fun _ => hparts.removed
  have hcommands := hsanitized.commands
  rw [h.commands, hmapped] at hcommands
  have hobserved : observedPayloadPaths bundle sanitized.commands.flatten = [] := by
    rw [← Except.ok.inj hcommands, ownCommands]
    split
    · rfl
    · rw [List.flatten_cons, List.flatten_nil, List.append_nil, observed_delta hparts.removals
        (fun _ => hparts.installs) fun _ => hparts.removed, hnone]
      rfl
  unfold payloadRoot
  rw [hobserved]
  rfl

/-- The gate has an authority only over a staged, nonempty baseline of a named snapshot. -/
theorem Exportable.of_authority (h : Exportable snapshot manager path bundle)
    (hsanitized : SanitizedFrom key bindings bindings' snapshot sanitized)
    (hauthority : snapshotPackageAuthority sanitized manager ≠ none) :
    snapshot.packages ≠ [] ∧ path.components ≠ [] ∧
      ∀ payload ∈ bundle.packages, payload.Staged := by
  have hgate := h.gate_records hsanitized
  unfold snapshotPackageAuthority at hauthority
  simp only [hgate.payloads, hgate.path] at hauthority
  split at hauthority
  · next hrecords =>
      refine ⟨fun hempty => ?_, ((attested_records_iff hgate).mp hrecords).1⟩
      rw [h.no_root hsanitized hempty] at hauthority
      exact hauthority rfl
  · exact absurd rfl hauthority

/-- Over such a baseline it has the authority of the attested snapshot. -/
theorem Exportable.authority (h : Exportable snapshot manager path bundle)
    (hsanitized : SanitizedFrom key bindings bindings' snapshot sanitized)
    (hne : snapshot.packages ≠ []) (hname : path.components ≠ [])
    (hstaged : ∀ payload ∈ bundle.packages, payload.Staged) :
    snapshotPackageAuthority sanitized manager =
      some { snapshotPath := rooted (attestedSnapshot key path hname).components
             packages := sanitized.packages, bundle } := by
  have hmoved := h.baseline.relocated (attested_snapshot_name key hname)
  have hparts := plain_own_parts hmoved.inventory h.introduced
  have hoperands :
      baselineOperands (snapshot.relocated (attestedSnapshot key path hname)) ≠ [] := by
    rw [baselineOperands, ne_eq, List.map_eq_nil_iff]
    exact hne
  have hcommands := h.sanitized_commands hsanitized hname
  rw [ownCommands, if_neg fun hboth => hoperands hboth.1] at hcommands
  have hparts' : observedPayloadPaths bundle sanitized.commands.flatten =
      (baselineOperands (snapshot.relocated (attestedSnapshot key path hname))).map
        PurePath.parse := by
    rw [hcommands, List.flatten_cons, List.flatten_nil, List.append_nil,
      observed_delta hparts.removals (fun _ => hparts.installs) fun _ => hparts.removed,
      observed_baseline hmoved]
  refine snapshot_package_authority_eq (h.gate_records hsanitized) hname hstaged ?_
    (payload_root_baseline hmoved hne hparts')
  rw [hcommands]
  refine ⟨List.cons_ne_nil _ _, fun hmem => ?_⟩
  have hempty := List.mem_singleton.mp hmem
  cases manager with
  | aptGet | zypper | dnf | yum => cases hempty

/-- The gate accepts the snapshot's own commands. -/
theorem Exportable.contract (h : Exportable snapshot manager path bundle)
    (hsanitized : SanitizedFrom key bindings bindings' snapshot sanitized)
    (hne : snapshot.packages ≠ []) (hname : path.components ≠ [])
    (hstaged : ∀ payload ∈ bundle.packages, payload.Staged) (label name : String) :
    verifySnapshotCommandContract label manager sanitized name = [] := by
  have hmoved := h.baseline.relocated (attested_snapshot_name key hname)
  have hnonempty : snapshot.introducedPackages.filter (· ≠ "") = snapshot.introducedPackages := by
    refine List.filter_eq_self.mpr fun name hmem => decide_eq_true ?_
    rintro rfl
    exact absurd (h.introduced "" hmem) (by decide)
  have hexpected : rollbackCommands sanitized.packages (some manager)
      (sorted (sanitized.introducedPackages.filter (· ≠ "")).dedup)
      (some (rooted (attestedSnapshot key path hname).components).text) (some bundle) =
      .ok sanitized.commands := by
    rw [hsanitized.introduced, hnonempty, rollback_commands_sorted, Posix.text_rooted,
      hsanitized.packages, h.sanitized_commands hsanitized hname]
    exact rollback_commands_baseline hmoved snapshot.introducedPackages
  unfold verifySnapshotCommandContract
  simp only [h.authority hsanitized hne hname hstaged, hexpected]
  simp

/-- The commands that carry out a delta: none where it is empty. -/
def deltaCommands (manager : PackageManager) (snapshot : RollbackSnapshot) (audit : HostAudit) :
    List (List String) :=
  if deltaPaths snapshot audit = [] ∧ deltaRemovals snapshot audit = [] then []
  else
    [deltaCommand manager (deltaPaths snapshot audit) (deltaRemovals snapshot audit)
      (deltaInstallSpecs snapshot audit) (deltaRemovalSpecs snapshot audit)]

/-- The export moves the commands of a delta to the attested snapshot. -/
theorem Exportable.attested_delta (h : Exportable snapshot manager path bundle)
    (hsanitized : SanitizedFrom key bindings bindings' snapshot sanitized)
    (hname : path.components ≠ []) (haudit : Inventory manager audit.packages) :
    (deltaCommands manager snapshot audit).mapM (pseudonymizeCommand key bindings') =
      .ok (deltaCommands manager (snapshot.relocated (attestedSnapshot key path hname)) audit) := by
  have hbound := registered_paths hname h.baseline.payloads h.baseline.located h.baseline.retained
    hsanitized.registered
  exact pseudonymize_delta
    (attests_operands h.baseline (attested_snapshot_name key hname) hbound
      (restore_packages_subset h.baseline.inventory))
    (delta_removals_plain haudit h.baseline.backend)
    (fun _ => delta_installs_plain h.baseline.inventory)
    fun _ => delta_removal_specs_plain haudit h.baseline.backend

/-- The gate recomputes the program's commands for a complete audit. -/
theorem Exportable.recomputed (h : Exportable snapshot manager path bundle)
    (hsanitized : SanitizedFrom key bindings bindings' snapshot sanitized)
    (hne : snapshot.packages ≠ []) (hname : path.components ≠ [])
    (hstaged : ∀ payload ∈ bundle.packages, payload.Staged)
    (haudit : Inventory manager audit.packages) {attested : AttestedAudit}
    (hattested : attested.packages = audit.packages) :
    ∃ commands, rollbackPackageCommands snapshot (some audit) = .ok commands ∧
      commands.mapM (pseudonymizeCommand key bindings') =
        .ok (expectedAppliedPackageCommands sanitized attested manager) := by
  have hmoved := h.baseline.relocated (attested_snapshot_name key hname)
  have hgate : recomputedCommands manager (snapshot.packages.filter (·.installed))
      (audit.packages.filter (·.installed))
      (rooted (attestedSnapshot key path hname).components).text bundle =
      .ok (deltaCommands manager (snapshot.relocated (attestedSnapshot key path hname)) audit) := by
    rw [Posix.text_rooted]
    exact (gate_commands_eq hmoved haudit).trans (derived_rollback_commands hmoved audit)
  refine ⟨deltaCommands manager snapshot audit, derived_rollback_commands h.baseline audit, ?_⟩
  rw [h.attested_delta hsanitized hname haudit]
  unfold expectedAppliedPackageCommands
  simp only [h.authority hsanitized hne hname hstaged, hattested, hsanitized.packages, hgate]

/-! ## Exports -/

/-- A sealed snapshot passes the exporter's integrity check. -/
theorem validate_snapshot_integrity_sealed (record : RollbackSnapshot) :
    validateSnapshotIntegrity record.sealed = .ok () := by
  have hdigest : Sha256.isDigest (record.sealed.integritySha256.getD "") = true :=
    Sha256.is_digest_hexdigest _
  have hsame : record.sealed.integritySha256 = some (snapshotIntegrity record.sealed) := rfl
  exact Result.check_bind_eq_ok.mpr
    ⟨Result.refuse_eq_ok.mpr (by rw [hdigest]; exact Bool.noConfusion),
      Result.refuse_eq_ok.mpr (not_not.mpr hsame)⟩

/-- The pseudonym of a text that is not empty is its keyed attestation. -/
theorem pseudonym_eq {purpose value : String} (h : value ≠ "") :
    pseudonym key purpose value = .ok (keyedAttestation key purpose [value]) := by
  rw [pseudonym, Result.refuse_of_not h]
  rfl

/-- What the export of a sealed record needs, beside registered paths. -/
structure CleanRecord (key : List UInt8) (bindings : PathBindings) (record : RollbackSnapshot) :
    Prop where
  path : record.path ≠ some ""
  hostId : record.hostId ≠ ""
  gpuUuids : "" ∉ record.gpuUuids
  migGeometry : ∀ gpuInstance ∈ record.migGeometry, gpuInstance.gpuUuid ≠ ""
  commands : ∃ commands, record.commands.mapM (pseudonymizeCommand key bindings) = .ok commands
  managedFiles : ∀ file ∈ record.managedFiles, ∃ content,
    managedFileContentAttestation key file = .ok content

/-- A clean record whose paths can be registered is exported. -/
theorem sanitize_snapshot_succeeds {record : RollbackSnapshot}
    (h : CleanRecord key bindings' record)
    (hregister : registerPayloadPathBindings key record.sealed bindings = .ok bindings') :
    ∃ sanitized, sanitizeSnapshot key bindings record.sealed = .ok (sanitized, bindings') := by
  have hpath : ∃ path, attestSnapshotPath key record.path = .ok path := by
    cases hcase : record.path with
    | none => exact ⟨none, rfl⟩
    | some path =>
        have hne : path ≠ "" := fun heq => h.path (by rw [hcase, heq])
        exact ⟨_, Result.map_eq_ok.mpr ⟨_, pseudonym_eq hne, rfl⟩⟩
  have hgpus : ∃ uuids, pseudonymizeGpuUuids key "source evidence has invalid GPU UUID binding"
      record.gpuUuids = .ok uuids := by
    rw [pseudonymizeGpuUuids, Result.refuse_of_not h.gpuUuids, Result.ok_bind]
    exact Result.mapM_succeeds fun uuid huuid =>
      ⟨_, pseudonym_eq fun heq => h.gpuUuids (heq ▸ huuid)⟩
  have hgeometry : ∃ geometry, pseudonymizeMigGeometry key record.migGeometry = .ok geometry :=
    Result.mapM_succeeds fun gpuInstance hmem =>
      ⟨_, by rw [pseudonym_eq (h.migGeometry gpuInstance hmem), Result.ok_bind]; rfl⟩
  have hfiles : ∃ files, record.managedFiles.mapM (attestManagedFile key) = .ok files := by
    refine Result.mapM_succeeds fun file hfile => ?_
    obtain ⟨content, hcontent⟩ := h.managedFiles file hfile
    exact ⟨_, by rw [attestManagedFile, hcontent, Result.ok_bind]; rfl⟩
  obtain ⟨path, hpath⟩ := hpath
  obtain ⟨uuids, hgpus⟩ := hgpus
  obtain ⟨commands, hcommands⟩ := h.commands
  obtain ⟨geometry, hgeometry⟩ := hgeometry
  obtain ⟨files, hfiles⟩ := hfiles
  exact ⟨_, Result.check_bind_eq_ok.mpr ⟨validate_snapshot_integrity_sealed record,
    Result.bind_eq_ok.mpr ⟨_, hregister, Result.bind_eq_ok.mpr ⟨_, hpath,
      Result.bind_eq_ok.mpr ⟨_, pseudonym_eq h.hostId, Result.bind_eq_ok.mpr ⟨_, hgpus,
        Result.bind_eq_ok.mpr ⟨_, hcommands, Result.bind_eq_ok.mpr ⟨_, hgeometry,
          Result.bind_eq_ok.mpr ⟨_, hfiles, rfl⟩⟩⟩⟩⟩⟩⟩⟩⟩

/-! ## Persisted snapshots -/

/-- What the release gate should conclude from a sanitised snapshot: for every complete audit the
program's own commands, and no finding about the commands it records. -/
structure GateRecomputes (key : List UInt8) (bindings : PathBindings)
    (snapshot sanitized : RollbackSnapshot) : Prop where
  transaction : ∀ manager (audit : HostAudit) attested,
    snapshot.packageManager = some manager → Inventory manager audit.packages →
    sanitizeAudit key audit = .ok attested →
    ∃ commands, rollbackPackageCommands snapshot (some audit) = .ok commands ∧
      commands.mapM (pseudonymizeCommand key bindings) =
        .ok (expectedAppliedPackageCommands sanitized attested manager)
  contract : ∀ manager label name, snapshot.packageManager = some manager →
    verifySnapshotCommandContract label manager sanitized name = []

/-- A sanitised audit shows the packages of the audit. -/
theorem sanitize_audit_packages {attested : AttestedAudit}
    (h : sanitizeAudit key audit = .ok attested) : attested.packages = audit.packages := by
  obtain ⟨gpuUuids, -, h⟩ := Result.bind_eq_ok.mp h
  obtain ⟨migDeviceUuids, -, h⟩ := Result.bind_eq_ok.mp h
  obtain ⟨migGeometry, -, h⟩ := Result.bind_eq_ok.mp h
  rw [← Result.pure_eq_ok.mp h]

/-- A snapshot persisted from a complete inventory can be exported. -/
theorem persisted_exportable {host : SnapshotHost} {request : SnapshotRequest}
    {parts : SnapshotParts} {text : String}
    (h : Persisted host audit request parts snapshot text)
    (hinventory : Inventory parts.manager audit.packages) :
    Exportable snapshot parts.manager request.path parts.bundle := by
  obtain ⟨paths, hpaths⟩ := h.payloads
  have hpackages : snapshot.packages = audit.packages := by
    rw [h.snapshot]
    exact hinventory.filter_installed
  have hretained : RetainedBaseline snapshot parts.manager request.path parts.bundle :=
    { located := by rw [h.snapshot]; rfl
      backend := by rw [h.snapshot]; rfl
      retained := by rw [h.snapshot]; rfl
      payloads := by
        rw [hpackages, ← hinventory.filter_installed]
        exact validate_package_payloads_ok hpaths
      inventory := by rw [hpackages]; exact hinventory }
  have hintroduced : snapshot.introducedPackages = parts.introduced := by
    rw [h.snapshot]
    rfl
  refine ⟨hretained, by rw [h.snapshot]; rfl, ?_, ?_⟩
  · rw [hintroduced]
    exact introduced_plain h.introduced
  · have hcommands : snapshot.commands = parts.commands := by
      rw [h.snapshot]
      rfl
    have hown := h.commands
    rw [h.manager, h.bundle, ← hpackages, rollback_commands_baseline hretained] at hown
    rw [hcommands, hintroduced]
    exact (Except.ok.inj hown).symm

/-- The gate recomputes the rollback of a persisted snapshot, for every complete audit, exactly
when the snapshot records a package, has a name, and retains files as staging writes them. -/
theorem gate_recomputes_iff {host : SnapshotHost} {request : SnapshotRequest} {text : String}
    (hcreate : createSnapshot host audit request = .ok (snapshot, some text))
    (hinventory : ∀ manager, audit.packageManager = some manager →
      Inventory manager audit.packages)
    (hsanitize : sanitizeSnapshot key bindings snapshot = .ok (sanitized, bindings')) :
    GateRecomputes key bindings' snapshot sanitized ↔
      snapshot.packages ≠ [] ∧ request.path.components ≠ [] ∧
        ∀ bundle, snapshot.packagePayloads = some bundle →
          ∀ payload ∈ bundle.packages, payload.Staged := by
  obtain ⟨parts, hpersisted⟩ := create_snapshot_persisted hcreate
  have hexport := persisted_exportable hpersisted (hinventory parts.manager hpersisted.manager)
  have hsanitized := sanitize_snapshot_ok hsanitize
  constructor
  · intro h
    have hauthority : snapshotPackageAuthority sanitized parts.manager ≠ none := by
      intro hnone
      exact contract_without_authority hnone "" ""
        (h.contract parts.manager "" "" hexport.baseline.backend)
    obtain ⟨hne, hname, hstaged⟩ := hexport.of_authority hsanitized hauthority
    refine ⟨hne, hname, fun bundle hbundle => ?_⟩
    obtain rfl := Option.some.inj (hbundle.symm.trans hexport.baseline.retained)
    exact hstaged
  · rintro ⟨hne, hname, hstaged⟩
    have hstaged' := hstaged parts.bundle hexport.baseline.retained
    constructor
    · intro manager current attested hmanager hcurrent hattested
      obtain rfl := Option.some.inj (hmanager.symm.trans hexport.baseline.backend)
      exact hexport.recomputed hsanitized hne hname hstaged' hcurrent
        (sanitize_audit_packages hattested)
    · intro manager label name hmanager
      obtain rfl := Option.some.inj (hmanager.symm.trans hexport.baseline.backend)
      exact hexport.contract hsanitized hne hname hstaged' label name

/-! ## A node with two builds of the kernel headers, and a node without packages -/

/-- The Docker configuration that the node does not have. -/
def absentConfig : FileSnapshot where
  path := dockerConfigPath
  existed := false
  contentBase64 := none
  mode := none

/-- The key of an export. -/
def exportKey : List UInt8 :=
  List.replicate 32 7

/-- The identity of the node is recorded in its snapshot. -/
theorem config_host_id_ne_empty : configHostId ≠ "" := by
  intro hempty
  have hlength := config_host_id_length
  rw [hempty] at hlength
  exact absurd hlength (by decide)

/-- A SUSE node with two builds of the kernel headers. -/
def develBaseline : HostAudit :=
  { configAudit with
    osId := some "sles"
    osVersion := some "15.6"
    packageManager := some .zypper
    packages := [develPackage .zypper "1", develPackage .zypper "2"] }

/-- The request to persist its snapshot with the two retained files. -/
def develRequest : SnapshotRequest :=
  { configRequest with path := develPath, packagePayloads := some (develBundle .zypper) }

/-- The node, whose bundle directory holds the two files. -/
def develHost : SnapshotHost :=
  { configHost .absent with
    payloads :=
      { directory := .ok ((develBundle .zypper).packages.map fun (payload : PackagePayload) =>
          { name := payload.filename, sha256 := payload.sha256
            sizeBytes := payload.sizeBytes }) } }

/-- The parts of the snapshot of the node with two builds. -/
def develParts : SnapshotParts :=
  { configParts absentConfig with
    manager := .zypper
    bundle := develBundle .zypper
    commands := [zypperRestorePrefix ++
      "--" :: (develBundle .zypper).packages.map (payloadPath develPath (develBundle .zypper))]
    managedFiles := [absentConfig, { absentConfig with path := zypperLockPath }] }

/-- The record of the snapshot of the node with two builds. -/
def develRecord : RollbackSnapshot :=
  develParts.record develHost develBaseline develRequest

/-- A small record of a node with this identity fits the size limit. -/
theorem small_record_fits {record : RollbackSnapshot} (hid : record.hostId = configHostId)
    (hweight : Json.weight 2 0 (.object record.undigested.jsonFields) ≤ 100000) :
    (Text.utf8 (snapshotText record.sealed)).length ≤ maxSnapshotBytes := by
  have hbound := sealed_text_size_le record
  rw [hid, config_host_id_length] at hbound
  refine hbound.trans ?_
  rw [maxSnapshotBytes]
  omega

/-- The snapshot of the node with two builds is persisted. -/
theorem devel_record_created : createSnapshot develHost develBaseline develRequest =
    .ok (develRecord.sealed, some (snapshotText develRecord.sealed)) := by
  have hsize : (Text.utf8 (snapshotText develRecord.sealed)).length ≤ maxSnapshotBytes :=
    small_record_fits rfl (by decide +kernel)
  have hrecord : snapshotRecord develHost develBaseline develRequest none ["nvidia"] =
      .ok develRecord := by rfl
  exact create_snapshot_of_checks (by rfl) (by rfl) (by rfl) (by rfl) (by rfl) (by rfl) hrecord
    hsize (by rfl)

/-- The snapshot of the node with two builds is exported. -/
theorem devel_record_exported : ∃ bindings sanitized,
    sanitizeSnapshot exportKey {} develRecord.sealed = .ok (sanitized, bindings) := by
  obtain ⟨bindings, hregister⟩ : ∃ bindings,
      registerPayloadPathBindings exportKey develRecord.sealed {} = .ok bindings := ⟨_, rfl⟩
  have hclean : CleanRecord exportKey bindings develRecord :=
    { path := by decide
      hostId := config_host_id_ne_empty
      gpuUuids := by decide
      migGeometry := by decide
      commands := by
        obtain rfl := Except.ok.inj hregister
        exact ⟨_, rfl⟩
      managedFiles := by
        intro file hfile
        rcases List.mem_cons.mp hfile with rfl | hfile
        · exact ⟨none, rfl⟩
        · obtain rfl := List.mem_singleton.mp hfile
          exact ⟨none, rfl⟩ }
  obtain ⟨sanitized, hsanitized⟩ := sanitize_snapshot_succeeds hclean hregister
  exact ⟨bindings, sanitized, hsanitized⟩

/-- The entries of the node's manifest are staged as they were bound. -/
theorem devel_payloads_staged : ∀ payload ∈ (develBundle .zypper).packages, payload.Staged := by
  intro payload hpayload
  rcases List.mem_cons.mp hpayload with rfl | hpayload
  · exact ⟨by decide, by decide, by decide, by decide +kernel, by decide +kernel⟩
  · obtain rfl := List.mem_singleton.mp hpayload
    exact ⟨by decide, by decide, by decide, by decide +kernel, by decide +kernel⟩

/-- On a node whose baseline holds two builds of the kernel headers the gate recomputes the
rollback; when one of them is gone and a third has come, this is one transaction that restores the
first and removes the third. -/
theorem gate_recomputes_iff_two_builds : ∃ bindings sanitized attested,
    sanitizeSnapshot exportKey {} develRecord.sealed = .ok (sanitized, bindings) ∧
      GateRecomputes exportKey bindings develRecord.sealed sanitized ∧
      sanitizeAudit exportKey (develAudit .zypper ["2", "3"]) = .ok attested ∧
      [zypperRestorePrefix ++ ["--", payloadPath develPath (develBundle .zypper)
          (develPayload .zypper "1" 'a'), "-kernel-default-devel.x86_64=6.4.0-3"]].mapM
        (pseudonymizeCommand exportKey bindings) =
          .ok (expectedAppliedPackageCommands sanitized attested .zypper) := by
  obtain ⟨bindings, sanitized, hsanitized⟩ := devel_record_exported
  have hinventory : ∀ manager, develBaseline.packageManager = some manager →
      Inventory manager develBaseline.packages := by
    intro manager hmanager
    obtain rfl := Option.some.inj hmanager
    exact devel_inventory (by decide)
  have hstaged : ∀ bundle, develRecord.sealed.packagePayloads = some bundle →
      ∀ payload ∈ bundle.packages, payload.Staged := by
    intro bundle hbundle
    obtain rfl := Option.some.inj hbundle
    exact devel_payloads_staged
  have hgate := (gate_recomputes_iff devel_record_created hinventory hsanitized).mpr
    ⟨by decide, by decide, hstaged⟩
  have hcurrent : Inventory .zypper (develAudit .zypper ["2", "3"]).packages :=
    devel_audited .zypper (by decide) ["2", "3"] (by decide) (by decide)
  obtain ⟨attested, hattested⟩ : ∃ attested,
      sanitizeAudit exportKey (develAudit .zypper ["2", "3"]) = .ok attested := ⟨_, rfl⟩
  obtain ⟨commands, hcommands, hexpected⟩ := hgate.transaction .zypper _ attested rfl hcurrent
    hattested
  have hderived : rollbackPackageCommands develRecord.sealed
      (some (develAudit .zypper ["2", "3"])) =
      .ok [zypperRestorePrefix ++ ["--", payloadPath develPath (develBundle .zypper)
        (develPayload .zypper "1" 'a'), "-kernel-default-devel.x86_64=6.4.0-3"]] := by
    decide +kernel
  obtain rfl := Except.ok.inj (hderived.symm.trans hcommands)
  exact ⟨bindings, sanitized, attested, hsanitized, hgate, hattested, hexpected⟩

/-- The package inventory of a node with one package. -/
theorem one_package_inventory : Inventory .aptGet configAudit.packages where
  rows := by
    intro package hpackage
    obtain rfl := List.mem_singleton.mp hpackage
    exact
      { installed := rfl
        backend := rfl
        interesting := by decide
        fields := ⟨by decide, ⟨"amd64", rfl, by decide, by decide⟩, by decide, rfl⟩ }
  distinct := by decide
  slots := by decide

/-- The audit of the node before it has any package. -/
def emptyAudit : HostAudit :=
  { configAudit with packages := [] }

/-- The bundle of that node, which is empty. -/
def emptyBundle : PackagePayloadBundle where
  directory := "rollback-1.json.payloads"
  packages := []
  totalSizeBytes := 0

/-- The request to persist the snapshot of that node. -/
def emptyRequest : SnapshotRequest :=
  { configRequest with packagePayloads := some emptyBundle }

/-- The node with an empty bundle directory. -/
def emptyHost : SnapshotHost :=
  { configHost .absent with payloads := { directory := .ok [] } }

/-- The record of the snapshot of that node. -/
def emptyRecord : RollbackSnapshot :=
  { configParts absentConfig with bundle := emptyBundle, commands := [] }.record emptyHost
    emptyAudit emptyRequest

/-- The snapshot of the node without packages is persisted. -/
theorem empty_record_created : createSnapshot emptyHost emptyAudit emptyRequest =
    .ok (emptyRecord.sealed, some (snapshotText emptyRecord.sealed)) := by
  have hsize : (Text.utf8 (snapshotText emptyRecord.sealed)).length ≤ maxSnapshotBytes :=
    small_record_fits rfl (by decide +kernel)
  have hrecord : snapshotRecord emptyHost emptyAudit emptyRequest none ["nvidia"] =
      .ok emptyRecord := by rfl
  exact create_snapshot_of_checks (by rfl) (by rfl) (by rfl) (by rfl) (by rfl) (by rfl) hrecord
    hsize (by rfl)

/-- The snapshot of the node without packages is exported. -/
theorem empty_record_exported : ∃ bindings sanitized,
    sanitizeSnapshot exportKey {} emptyRecord.sealed = .ok (sanitized, bindings) := by
  obtain ⟨bindings, hregister⟩ : ∃ bindings,
      registerPayloadPathBindings exportKey emptyRecord.sealed {} = .ok bindings := ⟨_, rfl⟩
  have hclean : CleanRecord exportKey bindings emptyRecord :=
    { path := by decide
      hostId := config_host_id_ne_empty
      gpuUuids := by decide
      migGeometry := by decide
      commands := ⟨[], rfl⟩
      managedFiles := by
        intro file hfile
        obtain rfl := List.mem_singleton.mp hfile
        exact ⟨none, rfl⟩ }
  obtain ⟨sanitized, hsanitized⟩ := sanitize_snapshot_succeeds hclean hregister
  exact ⟨bindings, sanitized, hsanitized⟩

/-- A package installed on the node: the program removes it, and the gate derives nothing and
refuses the snapshot. -/
theorem empty_baseline_not_recomputed :
    createSnapshot emptyHost emptyAudit emptyRequest =
        .ok (emptyRecord.sealed, some (snapshotText emptyRecord.sealed)) ∧
      Inventory .aptGet emptyAudit.packages ∧ Inventory .aptGet configAudit.packages ∧
      rollbackPackageCommands emptyRecord.sealed (some configAudit) =
        .ok [aptRestorePrefix ++ ["nvidia-driver-580-open:amd64-"]] ∧
      ∃ bindings sanitized attested,
        sanitizeSnapshot exportKey {} emptyRecord.sealed = .ok (sanitized, bindings) ∧
        sanitizeAudit exportKey configAudit = .ok attested ∧
        expectedAppliedPackageCommands sanitized attested .aptGet = [] ∧
        verifySnapshotCommandContract "apply" .aptGet sanitized "initial" ≠ [] := by
  obtain ⟨bindings, sanitized, hsanitized⟩ := empty_record_exported
  have hinventory : Inventory .aptGet emptyAudit.packages :=
    { rows := fun package hpackage => by cases hpackage
      distinct := by decide
      slots := by decide }
  obtain ⟨parts, hpersisted⟩ := create_snapshot_persisted empty_record_created
  have hmanager : parts.manager = .aptGet := (Option.some.inj hpersisted.manager).symm
  have hexport := persisted_exportable hpersisted (by rw [hmanager]; exact hinventory)
  have hauthority : snapshotPackageAuthority sanitized .aptGet = none := by
    rw [← hmanager]
    by_contra hsome
    exact (hexport.of_authority (sanitize_snapshot_ok hsanitized) hsome).1 rfl
  refine ⟨empty_record_created, hinventory, one_package_inventory, by decide +kernel, bindings,
    sanitized, _, hsanitized, rfl, ?_, contract_without_authority hauthority "apply" "initial"⟩
  unfold expectedAppliedPackageCommands
  rw [hauthority]

end NvidiaConverge
