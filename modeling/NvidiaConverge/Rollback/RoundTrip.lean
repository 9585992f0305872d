import NvidiaConverge.Library.JsonRoundTrip
import NvidiaConverge.Planning.Convergence
import NvidiaConverge.Rollback.Grammar

/-!
# Loading a persisted snapshot

`persisted_snapshot_reloads_iff`: a snapshot that `create_snapshot` persisted is loaded back,
field by field, exactly when its inputs are `Reloadable`. The conditions are those that
`load_snapshot` checks and `create_snapshot` does not.
-/

namespace NvidiaConverge

open Posix (AbsolutePath)

/-! ## What only the loader checks -/

/-- An existing managed file has content, and no mode bit above the permission bits. -/
def ManagedFile.Restorable : ManagedFile → Prop
  | .absent | .unreadable _ => True
  | .present content stMode => content ≠ "" ∧ permissionBits stMode ≤ 0o777

/-- The fields of a payload entry that `validate_package_payloads` leaves open. -/
structure PackagePayload.Recordable (entry : PackagePayload) : Prop where
  interesting : interestingPackage entry.name = true
  architecture : entry.architecture ≠ ""
  version : entry.version ≠ ""
  epoch : entry.epoch ≠ some ""
  signers : entry.signerIds.Nodup

/-- The inputs of `create_snapshot` whose snapshot `load_snapshot` accepts. -/
structure Reloadable (host : SnapshotHost) (audit : HostAudit) (request : SnapshotRequest) :
    Prop where
  machine : host.machine ≠ ""
  kernel : audit.kernel.running ≠ ""
  osVersion : audit.osVersion ≠ some ""
  gpus : LoadableGpus audit.gpuUuids
  geometry : LoadableGeometry audit.gpuUuids audit.migGeometry
  packages : ∀ package ∈ installedPackages audit,
    interestingPackage package.name = true ∧ package.epoch ≠ some ""
  introduced : ∀ names, introducedPackages request.desired audit = .ok names →
    ∀ name ∈ names, introducible name = true
  entries : ∀ bundle, request.packagePayloads = some bundle →
    ∀ entry ∈ bundle.packages, entry.Recordable
  files : ∀ target, failsafeTarget host audit request = .ok target →
    ∀ path ∈ managedPaths audit.packageManager target, (host.managedFile path).Restorable
  transaction : ∀ manager names, audit.packageManager = some manager →
    introducedPackages request.desired audit = .ok names →
      AcceptedTransaction manager (installedPackages audit) names

/-! ## The groups of fields -/

variable {host : SnapshotHost} {audit : HostAudit} {request : SnapshotRequest}
  {parts : SnapshotParts} {s : RollbackSnapshot} {text : String}

/-- The header is read back when three of its fields are not empty. -/
theorem persisted_header_iff (h : Persisted host audit request parts s text) :
    LoadableHeader s ↔
      host.machine ≠ "" ∧ audit.kernel.running ≠ "" ∧ audit.osVersion ≠ some "" := by
  rw [h.snapshot]
  constructor
  · intro hload
    exact ⟨hload.architecture, hload.kernel, hload.osVersion⟩
  · rintro ⟨hmachine, hkernel, hosVersion⟩
    have hhost : parts.hostId ≠ "" := by
      intro hempty
      have hid := h.hostId
      rw [hempty, hostIdentity] at hid
      split at hid
      · have heq := congrArg String.toList (Result.pure_eq_ok.mp hid)
        simp at heq
      · obtain ⟨_, hid⟩ := Result.check_bind_eq_ok.mp hid
        have heq := congrArg String.toList (Result.pure_eq_ok.mp hid)
        simp at heq
    have hcreated : host.now.isoformat ≠ "" := by
      intro hempty
      have haccepts := IsoTime.accepts_isoformat host.now
      rw [hempty] at haccepts
      exact absurd haccepts (by decide)
    have hoperation : snapshotOperationId host request ≠ "" := by
      intro hempty
      have hid := h.operation
      rw [hempty] at hid
      exact absurd hid (by decide)
    exact
      { createdAt := ⟨hcreated, IsoTime.accepts_isoformat host.now⟩
        operationId := ⟨hoperation, h.operation⟩
        hostId := hhost
        osId := h.osId
        osVersion := hosVersion
        architecture := hmachine
        kernel := hkernel }

/-- The module record of a persisted snapshot is always read back. -/
theorem persisted_module_loadable (h : Persisted host audit request parts s text) :
    LoadableModule s := by
  obtain ⟨hnodup, hknown⟩ := unload_order_valid h.modules
  rw [h.snapshot]
  refine ⟨?_, hnodup, h.loaded⟩
  show parts.moduleNames.all (knownNvidiaModules.contains ·) = true
  simpa using hknown

/-- A launcher whose observations are all known. -/
theorem launchers_known_of_observed {launchers : LauncherStates}
    (h : unknownServiceStates launchers = []) : launchers.Known := by
  unfold unknownServiceStates at h
  rw [sorted_eq_nil] at h
  simp at h
  simp only [LauncherStates.Known, UnitState.Known, ← Option.isSome_iff_ne_none]
  tauto

/-- A captured file is read back when it is restorable. -/
theorem captured_file_iff {path : String} {file : FileSnapshot} (hpath : path ≠ "")
    (hmanaged : isManagedPath path = true) (h : captureManagedFile host path = .ok file) :
    file.path = path ∧ (file.Loadable ↔ (host.managedFile path).Restorable) := by
  unfold captureManagedFile at h
  split at h
  · next habsent =>
      obtain rfl := Result.pure_eq_ok.mp h
      simp [FileSnapshot.Loadable, ManagedFile.Restorable, habsent, hpath, hmanaged]
  · cases h
  · next content stMode hpresent =>
      obtain ⟨hsize, h⟩ := Result.check_bind_eq_ok.mp h
      obtain rfl := Result.pure_eq_ok.mp h
      have hcontent : String.ofList (Base64.encode (Text.utf8 content)) ≠ "" ↔ content ≠ "" := by
        rw [not_iff_not, ← String.toList_inj, String.toList_ofList]
        exact Base64.encode_eq_nil.trans Text.utf8_eq_nil
      have hread : Base64.decode (String.ofList (Base64.encode (Text.utf8 content))).toList =
          some (Text.utf8 content) := by
        rw [String.toList_ofList]
        exact Base64.decode_encode _
      refine ⟨rfl, ?_⟩
      rw [hpresent]
      simp only [FileSnapshot.Loadable, ManagedFile.Restorable, if_true]
      constructor
      · rintro ⟨_, _, _, mode, _, htext, hmode, hne, hbits, _⟩
        obtain rfl := Option.some.inj htext
        obtain rfl := Option.some.inj hmode
        exact ⟨hcontent.mp hne, hbits⟩
      · rintro ⟨hne, hbits⟩
        exact ⟨hpath, hmanaged, _, _, _, rfl, rfl, hcontent.mpr hne, hbits, hread,
          Text.is_utf8_utf8 content, not_lt.mp (Result.refuse_eq_ok.mp hsize)⟩

/-- A fail-safe target is a managed path below the fail-safe directory. -/
theorem failsafe_target_managed {target : String}
    (h : failsafeTarget host audit request = .ok (some target)) :
    audit.packageManager = some .dnf ∧ isManagedPath target = true ∧
      isFailsafePath target = true := by
  obtain ⟨path, _, h⟩ := Result.bind_eq_ok.mp h
  obtain ⟨_, h⟩ := Result.check_bind_eq_ok.mp h
  cases path with
  | none => cases Result.pure_eq_ok.mp h
  | some path =>
      obtain ⟨hexact, h⟩ := Result.check_bind_eq_ok.mp h
      obtain rfl := Option.some.inj (Result.pure_eq_ok.mp h)
      simp only [Result.refuse_eq_ok, not_or, not_not, Bool.not_eq_false] at hexact
      obtain ⟨hdnf, hmanaged, hbelow⟩ := hexact
      refine ⟨hdnf, hmanaged, ?_⟩
      simp only [isManagedPath, Bool.or_eq_true] at hmanaged
      rcases hmanaged with hfixed | hfailsafe
      · -- None of the fixed paths is below the fail-safe directory.
        simp only [List.contains_eq_mem, List.mem_cons, List.not_mem_nil, or_false,
          decide_eq_true_eq] at hfixed
        rcases hfixed with rfl | rfl | rfl <;> exact absurd hbelow (by decide)
      · exact hfailsafe

/-- The managed paths of a persisted snapshot are the canonical ones. -/
theorem managed_paths_canonical (h : Persisted host audit request parts s text) :
    CanonicalManagedPaths parts.manager
        (managedPaths audit.packageManager parts.failsafePath) ∧
      ∀ path ∈ managedPaths audit.packageManager parts.failsafePath,
        path ≠ "" ∧ isManagedPath path = true := by
  rw [h.manager]
  cases hmanager : parts.manager with
  | aptGet =>
      show CanonicalManagedPaths .aptGet [dockerConfigPath] ∧ ∀ path ∈ [dockerConfigPath], _
      unfold CanonicalManagedPaths
      decide
  | yum =>
      show CanonicalManagedPaths .yum [dockerConfigPath, dnfModulePath] ∧
        ∀ path ∈ [dockerConfigPath, dnfModulePath], _
      unfold CanonicalManagedPaths
      decide
  | zypper =>
      show CanonicalManagedPaths .zypper [dockerConfigPath, zypperLockPath] ∧
        ∀ path ∈ [dockerConfigPath, zypperLockPath], _
      unfold CanonicalManagedPaths
      decide
  | dnf =>
      obtain ⟨target, htarget⟩ := Option.ne_none_iff_exists'.mp (h.failsafeRequired hmanager)
      have hfailsafe := h.failsafe
      rw [htarget] at hfailsafe
      obtain ⟨-, hmanaged, hpath⟩ := failsafe_target_managed hfailsafe
      have hne : target ≠ dockerConfigPath ∧ target ≠ dnfModulePath ∧ target ≠ "" := by
        refine ⟨?_, ?_, ?_⟩ <;>
          · rintro rfl
            exact absurd hpath (by decide)
      have hfixed : isFailsafePath dockerConfigPath = false ∧
          isFailsafePath dnfModulePath = false := by decide
      have hfilter : [dockerConfigPath, dnfModulePath, target].filter isFailsafePath =
          [target] := by
        simp [hfixed, hpath]
      rw [htarget]
      show CanonicalManagedPaths .dnf [dockerConfigPath, dnfModulePath, target] ∧ _
      refine ⟨⟨?_, ?_, ?_⟩, ?_⟩
      · rw [hfilter]
        simp
      · have hdistinct : dockerConfigPath ≠ dnfModulePath := by decide
        simp [hdistinct, hne.1.symm, hne.2.1.symm]
      · rw [hfilter]
        rfl
      · intro path hmem
        simp only [managedPaths, Option.toList_some, List.cons_append, List.nil_append,
          List.mem_cons, List.not_mem_nil, or_false] at hmem
        rcases hmem with rfl | rfl | rfl
        · decide
        · decide
        · exact ⟨hne.2.2, hmanaged⟩

/-- The managed files are read back when each of them is restorable. -/
theorem persisted_files_iff (h : Persisted host audit request parts s text) :
    ((∀ file ∈ s.managedFiles, file.Loadable) ∧
        CanonicalManagedPaths parts.manager (s.managedFiles.map (·.path))) ↔
      ∀ path ∈ managedPaths audit.packageManager parts.failsafePath,
        (host.managedFile path).Restorable := by
  obtain ⟨hcanonical, hmanaged⟩ := managed_paths_canonical h
  obtain ⟨_, hfiles⟩ := Result.check_bind_eq_ok.mp h.files
  have hall := Result.mapM_eq_ok.mp hfiles
  have hcaptured : ∀ path ∈ managedPaths audit.packageManager parts.failsafePath, ∀ file,
      captureManagedFile host path = .ok file →
        file.path = path ∧ (file.Loadable ↔ (host.managedFile path).Restorable) :=
    fun path hpath _ hfile =>
      captured_file_iff (hmanaged path hpath).1 (hmanaged path hpath).2 hfile
  have hpaths : parts.managedFiles.map (·.path) =
      managedPaths audit.packageManager parts.failsafePath := by
    have hrelated : ∀ {paths : List String} {files : List FileSnapshot},
        List.Forall₂ (fun path file => captureManagedFile host path = .ok file) paths files →
          (∀ path ∈ paths, ∀ file, captureManagedFile host path = .ok file → file.path = path) →
            files.map (·.path) = paths := by
      intro paths files hrelated heach
      induction hrelated with
      | nil => rfl
      | cons hfirst _ ih =>
          rw [List.map_cons, heach _ (by simp) _ hfirst,
            ih fun path hpath => heach path (by simp [hpath])]
    exact hrelated hall fun path hpath file hfile => (hcaptured path hpath file hfile).1
  rw [h.snapshot]
  show ((∀ file ∈ parts.managedFiles, file.Loadable) ∧
    CanonicalManagedPaths parts.manager (parts.managedFiles.map (·.path))) ↔ _
  rw [hpaths]
  constructor
  · rintro ⟨hloadable, -⟩ path hpath
    obtain ⟨file, hfile, hcapture⟩ := Result.forall₂_exists_right hall hpath
    exact (hcaptured path hpath file hcapture).2.mp (hloadable file hfile)
  · intro hrestorable
    refine ⟨?_, hcanonical⟩
    intro file hfile
    obtain ⟨path, hpath, hcapture⟩ := Result.forall₂_exists_left hall hfile
    exact (hcaptured path hpath file hcapture).2.mpr (hrestorable path hpath)

/-- A validated entry is read back when it is recordable. -/
theorem valid_entry_loadable_iff {manager : PackageManager} {entry : PackagePayload}
    (h : validPayloadEntry manager entry = true) : entry.Loadable manager ↔ entry.Recordable := by
  obtain ⟨hdigest, hfilename⟩ := valid_entry_filename h
  simp only [validPayloadEntry, Bool.and_eq_true, beq_iff_eq, decide_eq_true_eq] at h
  obtain ⟨⟨⟨⟨⟨⟨⟨⟨⟨⟨⟨hformat, hverification⟩, -⟩, -⟩, hsize⟩, -⟩, hroles⟩, hdistinct⟩, hknown⟩,
    hdeb⟩, hrpm⟩, hsigners⟩ := h
  constructor
  · intro hload
    exact ⟨hload.interesting, hload.architecture, hload.version, hload.epoch, hload.signers.2.1⟩
  · intro hrecord
    exact
      { interesting := hrecord.interesting
        architecture := hrecord.architecture
        version := hrecord.version
        epoch := hrecord.epoch
        format := hformat
        verification := hverification
        digest := hdigest
        filename := by rw [hfilename, hformat]
        size := hsize
        roles := ⟨by simpa using hroles, hdistinct, hknown⟩
        signers := by
          refine ⟨?_, hrecord.signers, hsigners⟩
          rintro ⟨hrpmFormat, hnone⟩
          simp [hrpmFormat, hnone] at hrpm
        unsigned := by
          rintro ⟨hdebFormat, hsome⟩
          simp [hdebFormat, hsome] at hdeb }

/-- The bundle is read back when each of its entries is recordable. -/
theorem persisted_bundle_iff (h : Persisted host audit request parts s text) :
    parts.bundle.Loadable parts.manager s.packages (payloadBundleDirectory request.path) ↔
      ∀ entry ∈ parts.bundle.packages, entry.Recordable := by
  obtain ⟨paths, hpaths⟩ := h.payloads
  have hvalid := validate_package_payloads_ok hpaths
  rw [h.snapshot]
  constructor
  · intro hload entry hentry
    exact (valid_entry_loadable_iff (hvalid.each entry hentry)).mp (hload.each entry hentry)
  · intro hrecord
    exact
      { directory := hvalid.directory
        named := by
          obtain ⟨_, heq⟩ := Result.check_bind_eq_ok.mp hvalid.directory
          rw [← Result.pure_eq_ok.mp heq]
          intro hempty
          have hchars := congrArg String.toList hempty
          simp at hchars
        count := hvalid.entries
        each := fun entry hentry =>
          (valid_entry_loadable_iff (hvalid.each entry hentry)).mpr (hrecord entry hentry)
        identities := hvalid.identities
        filenames := hvalid.filenames
        oneToOne := hvalid.oneToOne
        total := hvalid.total }

/-- The packages are read back when their names are in scope and no epoch is empty. -/
theorem persisted_packages_iff (h : Persisted host audit request parts s text) :
    LoadablePackages s.packages ∧
        (∀ package ∈ s.packages, package.manager = some (expectedManager parts.manager)) ↔
      ∀ package ∈ installedPackages audit,
        interestingPackage package.name = true ∧ package.epoch ≠ some "" := by
  obtain ⟨paths, hpaths⟩ := h.payloads
  have hvalid := validate_package_payloads_ok hpaths
  rw [h.snapshot]
  show LoadablePackages (installedPackages audit) ∧ _ ↔ _
  have hcomplete : ∀ package ∈ installedPackages audit,
      package.manager = some (expectedManager parts.manager) ∧
        truthy package.architecture = true := by
    intro package hpackage
    have hidentity := hvalid.complete package hpackage
    simp only [completeIdentity, Bool.and_eq_true, beq_iff_eq, bne_iff_ne] at hidentity
    obtain ⟨⟨⟨⟨-, hmanager⟩, -⟩, harchitecture⟩, -⟩ := hidentity
    refine ⟨hmanager, ?_⟩
    cases hoption : package.architecture with
    | none => simp [PackageInfo.identity, hoption] at harchitecture
    | some architecture =>
        have hne : architecture ≠ "" := by
          simpa [PackageInfo.identity, hoption] using harchitecture
        simp [truthy, hne]
  constructor
  · rintro ⟨hload, -⟩ package hpackage
    exact ⟨(hload.each package hpackage).interesting, (hload.each package hpackage).epoch⟩
  · intro hscope
    refine ⟨⟨hvalid.count, ?_, ?_⟩, fun package hpackage => (hcomplete package hpackage).1⟩
    · intro package hpackage
      have hmanager : expectedManager parts.manager ≠ "" := by
        cases parts.manager <;> decide
      exact
        { interesting := (hscope package hpackage).1
          version := h.versions package hpackage
          manager := by
            rw [(hcomplete package hpackage).1]
            simpa using hmanager
          installed := (List.mem_filter.mp hpackage).2
          architecture := (hcomplete package hpackage).2
          epoch := (hscope package hpackage).2 }
    · -- The recorded state determines the identity that the bundle is keyed by.
      refine List.Nodup.of_map
        (fun state : String × Option String × Option String × Option String =>
        (⟨state.1, state.2.1.getD "", state.2.2.1, state.2.2.2.getD ""⟩ : PackageIdentity)) ?_
      rw [List.map_map]
      exact hvalid.distinct

/-- Every installed package whose name is in scope is restored. -/
theorem restored_packages_eq (h : Persisted host audit request parts s text)
    (hscope : ∀ package ∈ installedPackages audit, interestingPackage package.name = true) :
    restoredPackages audit.packages = installedPackages audit := by
  refine List.filter_congr ?_
  intro package hpackage
  cases hinstalled : package.installed with
  | false => simp
  | true =>
      have hmem : package ∈ installedPackages audit :=
        List.mem_filter.mpr ⟨hpackage, hinstalled⟩
      simp [h.versions package hmem, hscope package hmem]

/-- The names of introduced packages are distinct. -/
theorem introduced_packages_nodup {desired : Option DesiredState} {names : List String}
    (h : introducedPackages desired audit = .ok names) : names.Nodup := by
  unfold introducedPackages at h
  split at h
  · obtain ⟨tracked, htracked, heq⟩ := Result.bind_eq_ok.mp h
    rw [← Result.pure_eq_ok.mp heq]
    refine List.Nodup.filter _ ?_
    obtain ⟨_, _, heq⟩ := Result.bind_eq_ok.mp htracked
    rw [← Result.pure_eq_ok.mp heq]
    split
    · exact Text.nodup_deduplicate _
    · exact Text.nodup_deduplicate _
  · rw [← Result.pure_eq_ok.mp h]
    exact List.nodup_nil

/-! ## The round trip -/

/-- The restorable state is read back exactly when its inputs are reloadable. -/
theorem persisted_restore_iff (h : Persisted host audit request parts s text) :
    LoadableRestore s parts.manager parts.bundle (payloadBundleDirectory request.path) ∧
        host.machine ≠ "" ∧ audit.kernel.running ≠ "" ∧ audit.osVersion ≠ some "" ↔
      Reloadable host audit request := by
  obtain ⟨_, hpaths⟩ := h.payloads
  have hvalid := validate_package_payloads_ok hpaths
  have hpackages := persisted_packages_iff h
  have hbundle := persisted_bundle_iff h
  have hfiles := persisted_files_iff h
  have hcommandsOk := h.commands
  rw [h.manager, h.bundle] at hcommandsOk
  have hintroducedEq : s.introducedPackages = parts.introduced := by rw [h.snapshot]; rfl
  have hcommandsEq : s.commands = parts.commands := by rw [h.snapshot]; rfl
  have hmodeEq : s.migMode = audit.migMode := by rw [h.snapshot]; rfl
  have hlaunchersEq : s.launchers = audit.launchers := by rw [h.snapshot]; rfl
  have hgpusEq : s.gpuUuids = audit.gpuUuids := by rw [h.snapshot]; rfl
  have hgeometryEq : s.migGeometry = audit.migGeometry := by rw [h.snapshot]; rfl
  -- The reader checks what the writer did not. Each field of `Reloadable` is one of these checks,
  -- taken back through the equation of its snapshot field to what the snapshot was made from.
  constructor
  · rintro ⟨hload, hmachine, hkernel, hosVersion⟩
    have hscope := hpackages.mp ⟨hload.packages, hload.managers⟩
    have hrestored := restored_packages_eq h fun package hpackage => (hscope package hpackage).1
    have hnames := hload.introduced
    rw [hintroducedEq] at hnames
    have hcommands := hload.commands
    rw [hcommandsEq, derived_commands_loadable_iff (hrestored ▸ hvalid) hnames.2.1 hnames.2.2
      hcommandsOk, hrestored] at hcommands
    exact
      { machine := hmachine
        kernel := hkernel
        osVersion := hosVersion
        gpus := hgpusEq ▸ hload.gpus
        geometry := hgeometryEq ▸ hgpusEq ▸ hload.geometry
        packages := hscope
        introduced := by
          intro names heq
          obtain rfl := Except.ok.inj (h.introduced.symm.trans heq)
          exact hnames.2.1
        entries := by
          intro bundle heq
          obtain rfl := Option.some.inj (h.bundle.symm.trans heq)
          exact hbundle.mp hload.payloads
        files := by
          intro target heq
          obtain rfl := Except.ok.inj (h.failsafe.symm.trans heq)
          exact hfiles.mp ⟨hload.files, hload.paths⟩
        transaction := by
          intro manager names hmanager heq
          obtain rfl := Option.some.inj (h.manager.symm.trans hmanager)
          obtain rfl := Except.ok.inj (h.introduced.symm.trans heq)
          exact hcommands }
  · intro hreload
    have hscope := hreload.packages
    have hrestored := restored_packages_eq h fun package hpackage => (hscope package hpackage).1
    obtain ⟨hloadable, hmanagers⟩ := hpackages.mpr hscope
    obtain ⟨hfile, hcanonical⟩ := hfiles.mpr (hreload.files _ h.failsafe)
    have hnames := hreload.introduced _ h.introduced
    have hnodup := introduced_packages_nodup h.introduced
    have htransaction := hreload.transaction _ _ h.manager h.introduced
    have hcount : parts.introduced.length ≤ maxSnapshotPackages := by
      have hparts := htransaction.parts
      have hbound : parts.introduced.length ≤ derivedCommandParts parts.manager
          (installedPackages audit).length parts.introduced.length := by
        cases parts.manager <;> simp only [derivedCommandParts] <;> omega
      exact hbound.trans hparts
    rw [← hrestored] at htransaction
    have hcommands := (derived_commands_loadable_iff (hrestored ▸ hvalid) hnames hnodup
      hcommandsOk).mpr htransaction
    refine ⟨?_, hreload.machine, hreload.kernel, hreload.osVersion⟩
    exact
      { migMode := hmodeEq ▸ h.mode
        launchers := hlaunchersEq ▸ launchers_known_of_observed h.observed
        gpus := hgpusEq ▸ hreload.gpus
        geometry := hgeometryEq ▸ hgpusEq ▸ hreload.geometry
        disabled := hmodeEq ▸ hgeometryEq ▸ h.disabled
        packages := hloadable
        managers := hmanagers
        introduced := hintroducedEq ▸ ⟨hcount, hnames, hnodup⟩
        payloads := hbundle.mpr (hreload.entries _ h.bundle)
        files := hfile
        paths := hcanonical
        commands := hcommandsEq ▸ hcommands }

/-- A persisted snapshot passes the checks of a decoded one against itself. -/
theorem persisted_checks (h : Persisted host audit request parts s text) :
    checkSnapshot s = .ok () := by
  have hcommands := h.commands
  rw [h.manager, h.bundle] at hcommands
  have hinstalled :
      restoredPackages (installedPackages audit) = restoredPackages audit.packages := by
    rw [restoredPackages, restoredPackages, installedPackages, List.filter_filter]
    refine List.filter_congr ?_
    intro package _
    cases package.installed <;> simp
  have hderived : rollbackCommands s.packages s.packageManager s.introducedPackages s.path
      s.packagePayloads = .ok s.commands := by
    rw [h.snapshot]
    show rollbackCommands (installedPackages audit) (some parts.manager) parts.introduced
      (some request.path.text) (some parts.bundle) = .ok parts.commands
    rw [← hcommands, rollbackCommands, rollbackCommands, hinstalled]
  have hconsistent : serviceStateConsistencyError s.launchers = none := by
    rw [h.snapshot]
    exact h.consistent
  have hdigest : s.integritySha256 = some (snapshotIntegrity s) := by
    rw [h.snapshot]
    rfl
  rw [checkSnapshot, hconsistent, hderived]
  simp only [Result.ok_bind, ne_eq, not_true_eq_false, hdigest, Result.refuse_of_not not_false]

/-- The file as the private atomic write leaves it, with the payload directory unchanged. -/
structure Published (store : SnapshotStore) (host : SnapshotHost) (path : AbsolutePath)
    (text : String) (file : StoredFile) : Prop where
  opened : store.file path = .ok file
  size : file.metadata.size = (Text.utf8 text).length
  mode : file.metadata.mode = 0o100600
  links : file.metadata.nlink = 1
  owner : file.metadata.uid = store.euid
  parentMode : file.parentMetadata.mode = 0o40700
  parentOwner : file.parentMetadata.uid = store.euid
  payloads : store.payloads.directory = host.payloads.directory
  text : file.text = text

/-- A published file that is not too large is trusted when it is read. -/
theorem read_trusted_published {store : SnapshotStore} {path : AbsolutePath} {file : StoredFile}
    (h : Published store host path text file) (hsize : (Text.utf8 text).length ≤ maxSnapshotBytes)
    (requirePrivate : Bool) :
    readTrusted store path maxSnapshotBytes requirePrivate = .ok file ∧
      file.metadata.permissions = 0o600 := by
  have hpermissions : file.metadata.permissions = 0o600 := by
    rw [FileMetadata.permissions, h.mode]
    rfl
  have hregular : file.metadata.isRegular = true := by
    rw [FileMetadata.isRegular, h.mode]
    rfl
  have hparent : privateDirectory file.parentMetadata store.euid = true := by
    rw [privateDirectory, FileMetadata.isDirectory, FileMetadata.permissions, h.parentMode,
      h.parentOwner]
    simp [permissionBits]
  refine ⟨?_, hpermissions⟩
  simp only [readTrusted, h.opened, Result.ok_bind, hparent, hregular, hpermissions, h.owner,
    h.links, h.text, h.size]
  simp [Result.refuse_of_not, hsize]

/-- The published text of a persisted snapshot is read as the snapshot exactly when its inputs
are reloadable. -/
theorem load_published_iff {store : SnapshotStore} {file : StoredFile}
    (h : Persisted host audit request parts s text)
    (hfile : Published store host request.path text file) (requirePrivate : Bool) :
    (∃ binding, loadSnapshot store request.path requirePrivate = .ok ⟨s, some binding⟩) ↔
      Reloadable host audit request := by
  obtain ⟨_, hpayloads⟩ := h.payloads
  obtain ⟨hread, hpermissions⟩ := read_trusted_published hfile h.size requirePrivate
  have hjson : Json.loads file.text = some (.object s.jsonFields) := by
    rw [hfile.text, h.written]
    exact Json.loads_dumps_newline (plain_json_fields s)
  have hdecode : decodeSnapshot s.jsonFields request.path = .ok s ↔
      Reloadable host audit request := by
    have hiff := @decode_snapshot_iff s request.path parts.manager parts.bundle
      (snapshotIntegrity (parts.record host audit request))
      (by rw [h.snapshot]; rfl) (by rw [h.snapshot]; rfl) (by rw [h.snapshot]; rfl)
      (by rw [h.snapshot]; rfl) (by rw [h.snapshot]; rfl) (Sha256.is_digest_hexdigest _)
    rw [hiff, persisted_header_iff h, ← persisted_restore_iff h]
    constructor
    · rintro ⟨hheader, -, hrestore⟩
      exact ⟨hrestore, hheader⟩
    · rintro ⟨hrestore, hheader⟩
      exact ⟨hheader, persisted_module_loadable h, hrestore⟩
  have hbundle : s.packagePayloads = some parts.bundle ∧ s.packageManager = some parts.manager ∧
      s.packages = installedPackages audit := by
    rw [h.snapshot]
    exact ⟨rfl, rfl, rfl⟩
  have hprivate : ¬ (requirePrivate = true ∧ file.metadata.permissions &&& 0o077 ≠ 0) := by
    rw [hpermissions]
    simp
  rw [← hdecode, loadSnapshot, hread, Result.ok_bind, Result.refuse_of_not hprivate,
    Result.ok_bind, hjson]
  constructor
  · rintro ⟨binding, hload⟩
    obtain ⟨decoded, hdecoded, hload⟩ := Result.bind_eq_ok.mp hload
    obtain ⟨_, hload⟩ := Result.check_bind_eq_ok.mp hload
    split at hload
    · obtain ⟨_, _, heq⟩ := Result.bind_eq_ok.mp hload
      have hobject := Result.pure_eq_ok.mp heq
      rw [hdecoded, (SnapshotObject.mk.inj hobject).1]
    · cases hload
  · intro hdecoded
    refine ⟨file.binding request.path, ?_⟩
    simp only [hdecoded, Result.ok_bind, persisted_checks h, hbundle.1, hbundle.2.1, hbundle.2.2,
      hfile.payloads, hpayloads]
    rfl

/-- A persisted snapshot is loaded back exactly when its inputs are reloadable. -/
theorem persisted_snapshot_reloads_iff {store : SnapshotStore} {file : StoredFile}
    (hcreate : createSnapshot host audit request = .ok (s, some text))
    (hfile : Published store host request.path text file) (requirePrivate : Bool) :
    (∃ binding, loadSnapshot store request.path requirePrivate = .ok ⟨s, some binding⟩) ↔
      Reloadable host audit request := by
  obtain ⟨parts, h⟩ := create_snapshot_persisted hcreate
  exact load_published_iff h hfile requirePrivate

/-! ## A node with a Docker configuration -/

/-- The state of a unit that is not installed. -/
def absentUnit : UnitState where
  active := some false
  enabled := some false
  unitFileState := some .notFound

/-- The converged host with one package and known launchers. -/
def configAudit : HostAudit :=
  { convergedHost (some true) (some true) with
    packages := [{ name := "nvidia-driver-580-open", version := some "580.95.05-1",
                   manager := some "apt", installed := true, architecture := some "amd64" }]
    launchers :=
      { dockerSocket :=
          { active := some true, enabled := some true, unitFileState := some .enabled }
        dockerService :=
          { active := some true, enabled := some true, unitFileState := some .enabled }
        nvidiaPersistenced := absentUnit
        fabricManager := absentUnit } }

/-- The retained file of the host's driver package. -/
def configPayload : PackagePayload where
  name := "nvidia-driver-580-open"
  architecture := "amd64"
  epoch := none
  version := "580.95.05-1"
  format := "deb"
  filename := String.ofList (List.replicate 64 'a') ++ ".deb"
  sha256 := String.ofList (List.replicate 64 'a')
  sizeBytes := 1024
  verification := "apt-repository"
  roles := ["baseline"]

/-- The bundle that holds the retained file. -/
def configBundle : PackagePayloadBundle where
  directory := "rollback-1.json.payloads"
  packages := [configPayload]
  totalSizeBytes := 1024

/-- The request to persist a snapshot of this host. -/
def configRequest : SnapshotRequest where
  path :=
    { components := ["var", "lib", "nvidia-converge", "snapshots", "rollback-1.json"]
      normalized := by decide }
  operationId := some (String.ofList (List.replicate 32 'a'))
  packagePayloads := some configBundle

/-- The host with a Docker configuration file. -/
def configHost (config : ManagedFile) : SnapshotHost where
  machine := "x86_64"
  machineId := some (String.ofList (List.replicate 32 'b'))
  node := "node"
  now :=
    { year := 2026, month := 1, day := 2, hour := 3, minute := 4, second := 5
      date := by decide, clock := by decide }
  uuid := String.ofList (List.replicate 32 'c')
  modules :=
    { names := .ok ["nvidia"], isDirectory := fun _ => .ok true, holders := fun _ => .ok [] }
  managedFile := fun _ => config
  failsafeNames := .ok []
  payloads :=
    { directory := .ok
        [{ name := configPayload.filename, sha256 := configPayload.sha256, sizeBytes := 1024 }] }
  storeError := none

/-- The identity of the host, as the snapshot records it. -/
def configHostId : String :=
  "machine-id-sha256:" ++ Sha256.hexdigest (Text.utf8 (String.ofList (List.replicate 32 'b')))

/-- What its snapshot records, with the captured configuration. -/
def configParts (captured : FileSnapshot) : SnapshotParts where
  manager := .aptGet
  bundle := configBundle
  failsafePath := none
  moduleNames := ["nvidia"]
  introduced := []
  commands := [aptRestorePrefix ++ [payloadPath configRequest.path configBundle configPayload]]
  hostId := configHostId
  managedFiles := [captured]

/-- The snapshot that is persisted on the host. -/
def configSnapshot (config : ManagedFile) (captured : FileSnapshot) : RollbackSnapshot :=
  ((configParts captured).record (configHost config) configAudit configRequest).sealed

/-- The store that holds a text as the private atomic write leaves it. -/
def publishedStore (host : SnapshotHost) (text : String) : SnapshotStore where
  euid := 0
  file := fun _ => .ok
    { text
      metadata :=
        { dev := 1, ino := 2, mode := 0o100600, nlink := 1, uid := 0, gid := 0
          size := (Text.utf8 text).length, mtimeNs := 0, ctimeNs := 0 }
      parentMetadata :=
        { dev := 1, ino := 1, mode := 0o40700, nlink := 2, uid := 0, gid := 0
          size := 4096, mtimeNs := 0, ctimeNs := 0 } }
  payloads := host.payloads

/-- This store publishes the text under every path. -/
theorem published_store (host : SnapshotHost) (path : AbsolutePath) (text : String) :
    ∃ file, Published (publishedStore host text) host path text file :=
  ⟨_, rfl, rfl, rfl, rfl, rfl, rfl, rfl, rfl, rfl⟩

/-- The length of the host's identity. -/
theorem config_host_id_length : configHostId.toList.length = 18 + 64 := by
  unfold configHostId
  rw [String.toList_append, List.length_append, Sha256.length_hexdigest]
  decide +kernel

/-- The snapshot fits the size limit when its fields but the digests are small. -/
theorem config_text_size {config : ManagedFile} {audit : HostAudit} {captured : FileSnapshot}
    (hweight : Json.weight 2 0 (.object ((configParts captured).record (configHost config)
      audit configRequest).undigested.jsonFields) ≤ 100000) :
    (Text.utf8 (snapshotText ((configParts captured).record (configHost config) audit
      configRequest).sealed)).length ≤ maxSnapshotBytes := by
  have hid : ((configParts captured).record (configHost config) audit
      configRequest).hostId = configHostId := rfl
  have hsize := sealed_text_size_le ((configParts captured).record (configHost config) audit
    configRequest)
  rw [hid, config_host_id_length] at hsize
  refine hsize.trans ?_
  rw [maxSnapshotBytes]
  omega

/-- The host without a configuration file is reloadable. -/
theorem absent_config_reloadable : Reloadable (configHost .absent) configAudit configRequest where
  machine := by decide
  kernel := by decide
  osVersion := by decide
  gpus :=
    { observed := by decide
      count := by decide
      each := by decide
      distinct := by decide }
  geometry :=
    { count := by decide
      instances := by
        intro gpuInstance hmem
        cases hmem
      placements := by decide }
  packages := by decide
  introduced := by
    intro names hnames name hname
    obtain rfl := Except.ok.inj hnames
    cases hname
  entries := by
    intro bundle hbundle entry hentry
    obtain rfl := Option.some.inj hbundle
    obtain rfl := List.mem_singleton.mp hentry
    exact ⟨by decide, by decide, by decide, by decide, by decide⟩
  files := fun _ _ _ _ => trivial
  transaction := by
    intro manager names hmanager hnames
    obtain rfl := Option.some.inj hmanager
    obtain rfl := Except.ok.inj hnames
    refine ⟨by decide, ?_⟩
    rintro (hno | hno) <;> cases hno

/-- The host in MIG mode, with one instance that fills its GPU. -/
def migConfigAudit : HostAudit :=
  { configAudit with
    migMode := some .enabled
    migModePending := some .enabled
    migDeviceUuids := ["MIG-87654321-4321-4321-4321-cba987654321"]
    migGeometry :=
      [{ gpuUuid := "GPU-12345678-1234-1234-1234-123456789abc", profile := "7g.80gb"
         profileId := 0, placementStart := 0, placementSize := 8
         computeInstances := [{ profile := "7g.80gb", profileId := 0 }] }] }

/-- A Docker configuration file that holds an empty object. -/
def daemonConfig : ManagedFile :=
  .present "\x7b\x7d\n" 0o100644

/-- What the snapshot records of an existing daemon configuration. -/
def capturedConfig : FileSnapshot :=
  ⟨dockerConfigPath, true, some "e30K", some 0o644⟩

/-- The persisted snapshot of the host in MIG mode with that file. -/
def migConfigSnapshot : RollbackSnapshot :=
  ((configParts capturedConfig).record (configHost daemonConfig) migConfigAudit
    configRequest).sealed

/-- The host in MIG mode with that file is reloadable. -/
theorem mig_config_reloadable :
    Reloadable (configHost daemonConfig) migConfigAudit configRequest where
  machine := by decide
  kernel := by decide
  osVersion := by decide
  gpus := absent_config_reloadable.gpus
  geometry :=
    { count := by decide
      instances := by
        intro gpuInstance hmem
        obtain rfl := List.mem_singleton.mp hmem
        exact
          { known := by decide
            profile := by decide
            size := by decide
            count := by decide
            computes := by
              intro compute hcompute
              obtain rfl := List.mem_singleton.mp hcompute
              show isMigProfile "7g.80gb" = true
              decide }
      placements := by decide }
  packages := absent_config_reloadable.packages
  introduced := absent_config_reloadable.introduced
  entries := absent_config_reloadable.entries
  files := fun _ _ _ _ => ⟨by decide, by decide⟩
  transaction := absent_config_reloadable.transaction

/-- A host in MIG mode gets the snapshot of its geometry and its Docker configuration back. -/
theorem persisted_snapshot_reloads_iff_mig_config :
    ∃ binding, loadSnapshot
        (publishedStore (configHost daemonConfig) (snapshotText migConfigSnapshot))
        configRequest.path true = .ok ⟨migConfigSnapshot, some binding⟩ := by
  have hcreate : createSnapshot (configHost daemonConfig) migConfigAudit configRequest =
      .ok (migConfigSnapshot, some (snapshotText migConfigSnapshot)) :=
    create_snapshot_of_checks (by rfl) (by rfl) (by rfl) (by rfl) (by rfl) (by rfl) (by rfl)
      (config_text_size (by decide +kernel)) (by rfl)
  obtain ⟨file, hfile⟩ := published_store (configHost daemonConfig) configRequest.path
    (snapshotText migConfigSnapshot)
  exact (persisted_snapshot_reloads_iff hcreate hfile true).mpr mig_config_reloadable

/-- An existing but empty Docker configuration file: its snapshot is persisted and not loaded. -/
theorem empty_config_not_reloaded :
    createSnapshot (configHost (.present "" 0o100644)) configAudit configRequest =
        .ok (configSnapshot (.present "" 0o100644) ⟨dockerConfigPath, true, some "", some 0o644⟩,
          some (snapshotText (configSnapshot (.present "" 0o100644)
            ⟨dockerConfigPath, true, some "", some 0o644⟩))) ∧
      ¬ ∃ binding, loadSnapshot
          (publishedStore (configHost (.present "" 0o100644))
            (snapshotText (configSnapshot (.present "" 0o100644)
              ⟨dockerConfigPath, true, some "", some 0o644⟩)))
          configRequest.path true =
        .ok ⟨configSnapshot (.present "" 0o100644) ⟨dockerConfigPath, true, some "", some 0o644⟩,
          some binding⟩ := by
  have hcreate : createSnapshot (configHost (.present "" 0o100644)) configAudit configRequest =
      .ok (configSnapshot (.present "" 0o100644) ⟨dockerConfigPath, true, some "", some 0o644⟩,
        some (snapshotText (configSnapshot (.present "" 0o100644)
          ⟨dockerConfigPath, true, some "", some 0o644⟩))) :=
    create_snapshot_of_checks (by rfl) (by rfl) (by rfl) (by rfl) (by rfl) (by rfl) (by rfl)
      (config_text_size (by decide +kernel)) (by rfl)
  refine ⟨hcreate, ?_⟩
  obtain ⟨parts, h⟩ := create_snapshot_persisted hcreate
  obtain ⟨file, hfile⟩ := published_store (configHost (.present "" 0o100644)) configRequest.path
    (snapshotText (configSnapshot (.present "" 0o100644)
      ⟨dockerConfigPath, true, some "", some 0o644⟩))
  rw [load_published_iff h hfile true]
  intro hreload
  exact (hreload.files none rfl dockerConfigPath List.mem_cons_self).1 rfl

end NvidiaConverge
