import NvidiaConverge.Rollback.Load

/-!
# Reading written fields

For every reader of `load_snapshot`, when it gives back what the matching writer wrote. The
readers of arrays and records are the same statement over their items: `load_package_iff` is
the shape to read first.
-/

namespace NvidiaConverge

open Result (refuse traverse)
open Json (Value)

/-! ## Scalars -/

/-- A required string is read back exactly when it is not empty. -/
@[simp] theorem required_string_iff {value : Value} {name text : String} :
    requiredString value name = .ok text ↔ value = .string text ∧ text ≠ "" := by
  unfold requiredString
  split
  · next other =>
      by_cases h : other = ""
      · rw [if_pos h]
        simp only [fieldError, Result.throw_eq_ok, Value.string.injEq, false_iff, not_and,
          not_not]
        intro heq
        rw [← heq, h]
      · rw [if_neg h]
        simp only [Result.pure_eq_ok, Value.string.injEq]
        constructor
        · rintro rfl
          exact ⟨rfl, h⟩
        · exact And.left
  · next hno =>
      simp only [fieldError, Result.throw_eq_ok, false_iff, not_and]
      intro heq
      exact absurd heq (hno text)

/-- An optional string is read back unless it is empty. -/
@[simp] theorem optional_string_iff {text read : Option String} {name : String} :
    optionalString (optionalValue .string text) name = .ok read ↔
      text ≠ some "" ∧ text = read := by
  cases text with
  | none => simp [optionalString, optionalValue]
  | some text =>
      by_cases h : text = "" <;> simp [optionalString, optionalValue, fieldError, h]

/-- An optional version is always read back, since a version is not empty. -/
@[simp] theorem optional_version_iff {version read : Option VersionText} {name : String} :
    optionalVersion (optionalValue (.string ·.val) version) name = .ok read ↔ version = read := by
  cases version with
  | none => simp [optionalVersion, optionalValue]
  | some version =>
      obtain ⟨text, h⟩ := version
      simp [optionalVersion, optionalValue, h]

/-- An empty package string is read as absent. -/
@[simp] theorem optional_package_string_iff {text read : Option String} {name : String} :
    optionalPackageString (optionalValue .string text) name = .ok read ↔
      (if text = some "" then none else text) = read := by
  cases text with
  | none => simp [optionalPackageString, optionalString, optionalValue]
  | some text =>
      by_cases h : text = "" <;> simp [optionalPackageString, optionalValue, h]

@[simp] theorem required_boolean_iff {value read : Bool} {name : String} :
    requiredBoolean (.bool value) name = .ok read ↔ value = read := by
  simp [requiredBoolean]

/-- A required boolean is read back exactly when the observation is known. -/
@[simp] theorem required_boolean_optional_iff {value : Option Bool} {read : Bool}
    {name : String} :
    requiredBoolean (optionalValue .bool value) name = .ok read ↔ value = some read := by
  cases value with
  | none => simp [requiredBoolean, optionalValue, fieldError]
  | some value => simp [optionalValue]

@[simp] theorem optional_boolean_iff {value read : Option Bool} {name : String} :
    optionalBoolean (optionalValue .bool value) name = .ok read ↔ value = read := by
  cases value with
  | none => simp [optionalBoolean, optionalValue]
  | some value =>
      simp only [optionalBoolean, optionalValue, requiredBoolean, pure, Except.pure,
        Result.ok_bind]
      exact ⟨fun h => (by cases h; rfl), fun h => (by rw [← h])⟩

/-- A number is read back when it reaches the minimum. -/
@[simp] theorem load_nonnegative_integer_iff {n read minimum : Nat} {name : String} :
    loadNonnegativeInteger (.int n) name minimum = .ok read ↔ minimum ≤ n ∧ n = read := by
  by_cases h : minimum ≤ n <;> simp [loadNonnegativeInteger, fieldError, h]

/-- A unit-file state is read back exactly when it is known. -/
@[simp] theorem required_unit_file_state_iff {state : Option UnitFileState} {read : UnitFileState}
    {name : String} :
    requiredUnitFileState (optionalValue (.string ·.value) state) name = .ok read ↔
      state = some read := by
  cases state with
  | none =>
      simp only [requiredUnitFileState, optionalValue, Result.bind_eq_ok, required_string_iff,
        reduceCtorEq, false_and, exists_false]
  | some state =>
      have hread : requiredUnitFileState (.string state.value) name = .ok state := by
        cases state <;> rfl
      show requiredUnitFileState (.string state.value) name = .ok read ↔ _
      rw [hread]
      simp

/-- The items of a string array are read back. -/
theorem strings_map (items : List String) : strings? (items.map Value.string) = some items := by
  induction items with
  | nil => rfl
  | cons item items ih => simp [strings?, ih]

/-! ## MIG geometry -/

/-- The condition under which a compute instance is read back. -/
def MigComputeInstance.Loadable (compute : MigComputeInstance) : Prop :=
  isMigProfile compute.profile = true

/-- A MIG profile is read back exactly when it is a valid one. -/
theorem load_mig_profile_iff {profile read : String} {name : String} :
    loadMigProfile (.string profile) name = .ok read ↔
      isMigProfile profile = true ∧ profile = read := by
  have hne : isMigProfile profile = true → profile ≠ "" := by
    rintro h rfl
    cases h
  simp only [loadMigProfile, Result.bind_eq_ok, required_string_iff, Result.refuse_eq_ok,
    Result.pure_eq_ok, Value.string.injEq, Bool.not_eq_false, exists_const]
  constructor
  · rintro ⟨_, ⟨rfl, _⟩, hprofile, rfl⟩
    exact ⟨hprofile, rfl⟩
  · rintro ⟨hprofile, rfl⟩
    exact ⟨profile, ⟨rfl, hne hprofile⟩, hprofile, rfl⟩

/-- A compute instance is read back when its profile is one. -/
theorem load_compute_instance_iff {instanceName : String} {index : Nat}
    {compute : MigComputeInstance} :
    loadComputeInstance instanceName index compute.toJson = .ok compute ↔ compute.Loadable := by
  obtain ⟨profile, profileId⟩ := compute
  have hkeys : hasExactly ["profile", "profile_id"]
      [("profile", .string profile), ("profile_id", .int profileId)] = true := by
    simp [hasExactly, sameMembers]
  simp only [loadComputeInstance, MigComputeInstance.toJson, MigComputeInstance.Loadable]
  simp [Result.bind_eq_ok, hkeys, field, List.lookup, load_mig_profile_iff]

/-- A GPU instance that is read back on a host with the given GPUs. -/
structure MigGpuInstance.Loadable (gpuUuids : List String) (gpuInstance : MigGpuInstance) :
    Prop where
  known : gpuInstance.gpuUuid ∈ gpuUuids
  profile : isMigProfile gpuInstance.profile = true
  size : 1 ≤ gpuInstance.placementSize
  count : gpuInstance.computeInstances.length ≤ maxMigComputeInstances
  computes : ∀ compute ∈ gpuInstance.computeInstances, compute.Loadable

/-- The compute instances of an instance are read back one by one. -/
theorem load_compute_instances_iff (instanceName : String) (computes : List MigComputeInstance) :
    traverse (loadComputeInstance instanceName) 0 (computes.map MigComputeInstance.toJson) =
        .ok computes ↔ ∀ compute ∈ computes, compute.Loadable :=
  Result.traverse_map_eq_ok fun _ _ => load_compute_instance_iff

/-- A GPU instance is read back when it is loadable and its placement is new. -/
theorem load_gpu_instance_iff {gpuUuids : List String} (placements : List (String × Nat))
    (index : Nat) (gpuInstance : MigGpuInstance) (hgpus : "" ∉ gpuUuids) :
    loadGpuInstance gpuUuids placements index gpuInstance.toJson = .ok gpuInstance ↔
      gpuInstance.Loadable gpuUuids ∧ gpuInstance.placement ∉ placements := by
  obtain ⟨gpuUuid, profile, profileId, placementStart, placementSize, computes⟩ := gpuInstance
  have hread := load_compute_instances_iff (indexed "mig_geometry" index) computes
  have hne : gpuUuid ∈ gpuUuids → gpuUuid ≠ "" := by
    rintro hmem rfl
    exact hgpus hmem
  simp [loadGpuInstance, MigGpuInstance.toJson, hasExactly, sameMembers, field, List.lookup,
    Result.bind_eq_ok, load_mig_profile_iff, hread, MigGpuInstance.placement]
  constructor
  · rintro ⟨_, hknown, hprofile, hsize, hplacement, hcount, hcomputes⟩
    exact ⟨⟨hknown, hprofile, hsize, hcount, hcomputes⟩, hplacement⟩
  · rintro ⟨⟨hknown, hprofile, hsize, hcount, hcomputes⟩, hplacement⟩
    exact ⟨hne hknown, hknown, hprofile, hsize, hplacement, hcount, hcomputes⟩

/-- The loop reads a geometry back when its placements differ from each other and from the
earlier ones. -/
theorem load_gpu_instances_iff {gpuUuids : List String} (hgpus : "" ∉ gpuUuids)
    (placements : List (String × Nat)) (index : Nat) (geometry : List MigGpuInstance) :
    loadGpuInstances gpuUuids placements index (geometry.map MigGpuInstance.toJson) =
        .ok geometry ↔
      (∀ gpuInstance ∈ geometry, gpuInstance.Loadable gpuUuids) ∧
        (geometry.map MigGpuInstance.placement).Nodup ∧
        ∀ placement ∈ geometry.map MigGpuInstance.placement, placement ∉ placements := by
  induction geometry generalizing placements index with
  | nil => simp [loadGpuInstances]
  | cons first rest ih =>
      have hfirst := load_gpu_instance_iff placements index first hgpus
      have hrest := ih (first.placement :: placements) (index + 1)
      rw [List.map_cons, loadGpuInstances]
      constructor
      · intro h
        obtain ⟨read, hread, htail⟩ := Result.bind_eq_ok.mp h
        obtain ⟨others, hothers, heq⟩ := Result.bind_eq_ok.mp htail
        obtain ⟨rfl, rfl⟩ := List.cons.inj (Result.pure_eq_ok.mp heq)
        obtain ⟨hload, hnew⟩ := hfirst.mp hread
        obtain ⟨hloads, hnodup, hdisjoint⟩ := hrest.mp hothers
        refine ⟨by simpa using ⟨hload, hloads⟩, ?_, ?_⟩
        · rw [List.map_cons, List.nodup_cons]
          exact ⟨fun hmem => hdisjoint _ hmem (by simp), hnodup⟩
        · intro placement hmem
          rw [List.map_cons, List.mem_cons] at hmem
          rcases hmem with rfl | hmem
          · exact hnew
          · exact fun hold => hdisjoint placement hmem (List.mem_cons_of_mem _ hold)
      · rintro ⟨hloads, hnodup, hdisjoint⟩
        rw [List.map_cons, List.nodup_cons] at hnodup
        have hread := hfirst.mpr ⟨hloads first (by simp), hdisjoint _ (by simp)⟩
        have hothers := hrest.mpr
          ⟨fun other hother => hloads other (by simp [hother]), hnodup.2, by
            intro placement hmem
            rw [List.mem_cons, not_or]
            refine ⟨?_, hdisjoint placement (by simp [hmem])⟩
            rintro rfl
            exact hnodup.1 hmem⟩
        rw [hread, Result.ok_bind, hothers]
        rfl

/-- The conditions under which a MIG geometry is read back. -/
structure LoadableGeometry (gpuUuids : List String) (geometry : List MigGpuInstance) : Prop where
  count : geometry.length ≤ maxMigGpuInstances
  instances : ∀ gpuInstance ∈ geometry, gpuInstance.Loadable gpuUuids
  placements : (geometry.map MigGpuInstance.placement).Nodup

/-- `_load_mig_geometry` on a written geometry. -/
theorem load_mig_geometry_iff {gpuUuids : List String} {geometry : List MigGpuInstance}
    (hgpus : "" ∉ gpuUuids) :
    loadMigGeometry gpuUuids (.array (geometry.map MigGpuInstance.toJson)) = .ok geometry ↔
      LoadableGeometry gpuUuids geometry := by
  have hread := load_gpu_instances_iff hgpus [] 0 geometry
  simp only [loadMigGeometry, Result.check_bind_eq_ok, Result.refuse_eq_ok, List.length_map,
    not_lt, hread]
  constructor
  · rintro ⟨hcount, hinstances, hplacements, _⟩
    exact ⟨hcount, hinstances, hplacements⟩
  · rintro ⟨hcount, hinstances, hplacements⟩
    exact ⟨hcount, hinstances, hplacements, by simp⟩

/-! ## Packages -/

/-- The conditions under which a package is read back. -/
structure PackageInfo.Loadable (package : PackageInfo) : Prop where
  interesting : interestingPackage package.name = true
  version : truthy package.version = true
  manager : package.manager ≠ some ""
  installed : package.installed = true
  architecture : truthy package.architecture = true
  epoch : package.epoch ≠ some ""

/-- An optional string is truthy exactly when it is present and not empty. -/
theorem truthy_iff {text : Option String} :
    truthy text = true ↔ text ≠ some "" ∧ text ≠ none := by
  cases text with
  | none => simp [truthy]
  | some value => simp [truthy]

/-- The name of an interesting package is not empty. -/
theorem interesting_ne_empty {name : String} (h : interestingPackage name = true) : name ≠ "" := by
  rintro rfl
  exact absurd h (by decide)

/-- A package is read back when it is loadable. -/
theorem load_package_iff {index : Nat} {package : PackageInfo} :
    loadPackage index package.toJson = .ok package ↔ package.Loadable := by
  obtain ⟨name, version, manager, installed, architecture, epoch⟩ := package
  cases installed with
  | false =>
      constructor
      · simp [loadPackage, PackageInfo.toJson, hasExactly, sameMembers, field, List.lookup,
          Result.bind_eq_ok, fieldError]
      · intro h
        cases h.installed
  | true =>
      simp [loadPackage, PackageInfo.toJson, hasExactly, sameMembers, field, List.lookup,
        Result.bind_eq_ok]
      constructor
      · rintro ⟨_, hname, hversion, harchitecture, _, hmanager, _, hepoch⟩
        exact
          { interesting := hname
            version := truthy_iff.mpr hversion
            manager := fun heq => (by cases (hmanager heq).trans heq)
            installed := rfl
            architecture := truthy_iff.mpr harchitecture
            epoch := fun heq => (by cases (hepoch heq).trans heq) }
      · intro h
        have hversion := truthy_iff.mp h.version
        have harchitecture := truthy_iff.mp h.architecture
        exact ⟨interesting_ne_empty h.interesting, h.interesting, hversion, harchitecture,
          fun heq => absurd heq hversion.1, fun heq => absurd heq h.manager,
          fun heq => absurd heq harchitecture.1, fun heq => absurd heq h.epoch⟩

/-- The conditions under which a list of packages is read back. -/
structure LoadablePackages (packages : List PackageInfo) : Prop where
  count : packages.length ≤ maxSnapshotPackages
  each : ∀ package ∈ packages, package.Loadable
  distinct : (packages.map packageStateIdentity).Nodup

/-- Packages that were written are read back exactly when they are loadable. -/
theorem load_packages_iff {packages : List PackageInfo} :
    loadPackages (.array (packages.map PackageInfo.toJson)) = .ok packages ↔
      LoadablePackages packages := by
  have hread : ∀ {index : Nat}, traverse loadPackage index (packages.map PackageInfo.toJson) =
      .ok packages ↔ ∀ package ∈ packages, package.Loadable :=
    Result.traverse_map_eq_ok fun _ _ => load_package_iff
  simp only [loadPackages, Result.bind_eq_ok, Result.refuse_eq_ok, List.length_map, not_lt,
    exists_const, not_not, Result.pure_eq_ok]
  constructor
  · rintro ⟨hcount, read, hpackages, hdistinct, rfl⟩
    exact ⟨hcount, hread.mp hpackages, hdistinct⟩
  · rintro ⟨hcount, hpackages, hdistinct⟩
    exact ⟨hcount, packages, hread.mpr hpackages, hdistinct, rfl⟩

/-- The names `_load_introduced_packages` accepts. -/
def introducible (name : String) : Bool :=
  interestingPackage name && validPackageSpec name

/-- An introduced name is read back when it is accepted. -/
theorem load_introduced_package_iff {index : Nat} {name : String} :
    loadIntroducedPackage index (.string name) = .ok name ↔ introducible name = true := by
  simp only [loadIntroducedPackage, Result.bind_eq_ok, required_string_iff, Result.refuse_eq_ok,
    Result.pure_eq_ok, Value.string.injEq, exists_const, introducible, Bool.and_eq_true, not_or,
    Bool.not_eq_false]
  constructor
  · rintro ⟨_, ⟨rfl, _⟩, h, _⟩
    exact h
  · intro h
    exact ⟨name, ⟨rfl, interesting_ne_empty h.1⟩, h, rfl⟩

/-- `_load_introduced_packages` on written names. -/
theorem load_introduced_packages_iff {names : List String} :
    loadIntroducedPackages (stringArray names) = .ok names ↔
      names.length ≤ maxSnapshotPackages ∧ (∀ name ∈ names, introducible name = true) ∧
        names.Nodup := by
  have hread : ∀ {index : Nat}, traverse loadIntroducedPackage index (names.map Value.string) =
      .ok names ↔ ∀ name ∈ names, introducible name = true :=
    Result.traverse_map_eq_ok fun _ _ => load_introduced_package_iff
  simp only [loadIntroducedPackages, stringArray, Result.bind_eq_ok, Result.refuse_eq_ok,
    List.length_map, not_lt, exists_const, not_not, Result.pure_eq_ok]
  constructor
  · rintro ⟨hcount, read, hnames, hdistinct, rfl⟩
    exact ⟨hcount, hread.mp hnames, hdistinct⟩
  · rintro ⟨hcount, hnames, hdistinct⟩
    exact ⟨hcount, names, hread.mpr hnames, hdistinct, rfl⟩

/-! ## Payloads -/

/-- A set of strings is read back when its values are distinct and accepted. -/
theorem load_payload_string_set_iff {items read : List String} {name problem : String}
    {accepts : String → Bool} {requireNonempty : Bool} :
    loadPayloadStringSet (stringArray items) name accepts problem requireNonempty = .ok read ↔
      (¬ ((requireNonempty = true ∧ items = []) ∨ ¬ items.Nodup) ∧ items.all accepts = true) ∧
        items = read := by
  simp only [loadPayloadStringSet, stringArray, strings_map, Result.bind_eq_ok,
    Result.refuse_eq_ok, exists_const, Result.pure_eq_ok, Bool.not_eq_false, and_assoc]

/-- A payload that is read back for a package manager. -/
structure PackagePayload.Loadable (manager : PackageManager) (payload : PackagePayload) :
    Prop where
  interesting : interestingPackage payload.name = true
  architecture : payload.architecture ≠ ""
  version : payload.version ≠ ""
  epoch : payload.epoch ≠ some ""
  format : payload.format = expectedFormat manager
  verification : payload.verification = expectedVerification manager
  digest : Sha256.isDigest payload.sha256 = true
  filename : payload.filename = payload.sha256 ++ "." ++ payload.format
  size : 1 ≤ payload.sizeBytes
  roles : payload.roles ≠ [] ∧ payload.roles.Nodup ∧
    payload.roles.all (["baseline", "forward"].contains ·) = true
  signers : ¬ (payload.format = "rpm" ∧ payload.signerIds = []) ∧ payload.signerIds.Nodup ∧
    payload.signerIds.all isSignerId = true
  unsigned : ¬ (payload.format = "deb" ∧ payload.signerIds ≠ [])

/-- The texts a payload's provenance fixes are not empty. -/
theorem PackagePayload.Loadable.texts_ne_empty {manager : PackageManager}
    {payload : PackagePayload} (h : payload.Loadable manager) :
    payload.format ≠ "" ∧ payload.verification ≠ "" ∧ payload.filename ≠ "" ∧
      payload.sha256 ≠ "" := by
  have hformat : expectedFormat manager ≠ "" := by cases manager <;> decide
  have hverification : expectedVerification manager ≠ "" := by cases manager <;> decide
  refine ⟨h.format ▸ hformat, h.verification ▸ hverification, ?_, ?_⟩
  · rw [h.filename]
    intro heq
    have hlength := congrArg (fun text => text.toList.length) heq
    simp at hlength
  · intro heq
    have hdigest := h.digest
    rw [heq] at hdigest
    exact absurd hdigest (by decide)

/-- A payload is read back when it is loadable. -/
theorem load_payload_iff {manager : PackageManager} {index : Nat} {payload : PackagePayload} :
    loadPayload manager index payload.toJson = .ok payload ↔ payload.Loadable manager := by
  obtain ⟨name, architecture, epoch, version, format, filename, sha256, sizeBytes, verification,
    roles, signerIds⟩ := payload
  simp [loadPayload, PackagePayload.toJson, hasExactly, sameMembers, field, List.lookup,
    Result.bind_eq_ok, load_payload_string_set_iff]
  constructor
  · rintro ⟨_, hname, harchitecture, hversion, _, _, _, _,
      ⟨hformat, hverification, hdigest, hfilename⟩, hsize, hroles, hsigners, hunsigned, hepoch⟩
    exact
      { interesting := hname
        architecture := harchitecture
        version := hversion
        epoch := fun heq => (by cases (hepoch heq).trans heq)
        format := hformat
        verification := hverification
        digest := hdigest
        filename := hfilename
        size := hsize
        roles := ⟨hroles.1.1, hroles.1.2, by simpa using hroles.2⟩
        signers := ⟨fun hno => hsigners.1.1 hno.1 hno.2, hsigners.1.2, by simpa using hsigners.2⟩
        unsigned := fun hno => hno.2 (hunsigned hno.1) }
  · intro h
    obtain ⟨hformat, hverification, hfilename, hsha256⟩ := h.texts_ne_empty
    exact ⟨interesting_ne_empty h.interesting, h.interesting, h.architecture, h.version, hformat,
      hverification, hfilename, hsha256, ⟨h.format, h.verification, h.digest, h.filename⟩, h.size,
      ⟨⟨h.roles.1, h.roles.2.1⟩, by simpa using h.roles.2.2⟩,
      ⟨⟨fun heq hnil => h.signers.1 ⟨heq, hnil⟩, h.signers.2.1⟩, by simpa using h.signers.2.2⟩,
      fun heq => Decidable.not_not.mp fun hno => h.unsigned ⟨heq, hno⟩,
      fun heq => absurd heq h.epoch⟩

/-- A bundle that is read back beside a baseline. -/
structure PackagePayloadBundle.Loadable (manager : PackageManager) (baseline : List PackageInfo)
    (expectedDirectory : Except String String) (bundle : PackagePayloadBundle) : Prop where
  directory : expectedDirectory = .ok bundle.directory
  named : bundle.directory ≠ ""
  count : bundle.packages.length ≤ maxSnapshotPackages * 2
  each : ∀ payload ∈ bundle.packages, payload.Loadable manager
  identities : (bundle.packages.map PackagePayload.identity).Nodup
  filenames : (bundle.packages.map (·.filename)).Nodup
  oneToOne : sameMembers (identitiesWithRole "baseline" bundle)
    (baseline.map PackageInfo.identity) = true
  total : bundle.totalSizeBytes = (bundle.packages.map (·.sizeBytes)).sum

/-- `_load_package_payloads` on a written bundle. -/
theorem load_package_payloads_iff {manager : PackageManager} {baseline : List PackageInfo}
    {expectedDirectory : Except String String} {bundle : PackagePayloadBundle} :
    loadPackagePayloads bundle.toJson manager baseline expectedDirectory = .ok bundle ↔
      bundle.Loadable manager baseline expectedDirectory := by
  obtain ⟨directory, packages, totalSizeBytes⟩ := bundle
  have hread : ∀ {index : Nat}, traverse (loadPayload manager) index
      (packages.map PackagePayload.toJson) = .ok packages ↔
        ∀ payload ∈ packages, payload.Loadable manager :=
    Result.traverse_map_eq_ok fun _ _ => load_payload_iff
  cases expectedDirectory with
  | error reason =>
      constructor
      · simp [loadPackagePayloads, PackagePayloadBundle.toJson, hasExactly, sameMembers, field,
          List.lookup, Result.bind_eq_ok]
      · intro h
        cases h.directory
  | ok expected =>
      have hkeys : hasExactly ["directory", "packages", "total_size_bytes"]
          [("directory", .string directory),
           ("packages", .array (packages.map PackagePayload.toJson)),
           ("total_size_bytes", .int totalSizeBytes)] = true := by
        simp [hasExactly, sameMembers]
      simp [loadPackagePayloads, PackagePayloadBundle.toJson, hkeys, field, List.lookup,
        Result.bind_eq_ok]
      constructor
      · rintro ⟨hnamed, rfl, hcount, hpackages, hidentities, hfilenames, honeToOne, htotal⟩
        exact
          { directory := rfl
            named := hnamed
            count := hcount
            each := hread.mp hpackages
            identities := hidentities
            filenames := hfilenames
            oneToOne := by simpa [identitiesWithRole] using honeToOne
            total := htotal }
      · intro h
        exact ⟨h.named, (Except.ok.inj h.directory).symm, h.count, hread.mpr h.each, h.identities,
          h.filenames, by simpa [identitiesWithRole] using h.oneToOne, h.total⟩

/-! ## Names, files and commands -/

/-- Module names that were written are read back exactly when they are known and fit the loaded
state. -/
theorem load_module_names_iff {names read : List String} {loaded : Bool} :
    loadModuleNames (stringArray names) loaded = .ok read ↔
      (names.all (knownNvidiaModules.contains ·) = true ∧ names.Nodup ∧
        loaded = decide ("nvidia" ∈ names)) ∧ names = read := by
  simp only [loadModuleNames, stringArray, strings_map, Result.bind_eq_ok, Result.refuse_eq_ok,
    exists_const, Result.pure_eq_ok, Bool.not_eq_false, not_not, ne_eq, and_assoc]

/-- The conditions under which the identities of the GPUs are read back. -/
structure LoadableGpus (uuids : List String) : Prop where
  observed : uuids ≠ []
  count : uuids.length ≤ 64
  each : ∀ uuid ∈ uuids, isGpuUuid uuid = true
  distinct : uuids.Nodup

/-- An identity of a GPU that is read back is not empty. -/
theorem LoadableGpus.empty_not_mem {uuids : List String} (h : LoadableGpus uuids) :
    "" ∉ uuids :=
  fun hmem => absurd (h.each "" hmem) (by decide)

/-- Identities that were written are read back exactly when they are loadable. -/
theorem load_gpu_uuids_iff {uuids read : List String} :
    loadGpuUuids (stringArray uuids) = .ok read ↔ LoadableGpus uuids ∧ uuids = read := by
  simp only [loadGpuUuids, stringArray, strings_map, Result.bind_eq_ok, Result.refuse_eq_ok,
    exists_const, Result.pure_eq_ok, Bool.not_eq_false, not_not, List.length_map, not_lt,
    List.map_eq_nil_iff, List.all_eq_true]
  constructor
  · rintro ⟨hobserved, hcount, heach, hdistinct, rfl⟩
    exact ⟨⟨hobserved, hcount, heach, hdistinct⟩, rfl⟩
  · rintro ⟨⟨hobserved, hcount, heach, hdistinct⟩, rfl⟩
    exact ⟨hobserved, hcount, heach, hdistinct, rfl⟩

/-- A managed file that is read back: an existing one has content, valid Base64 of UTF-8 text
within the limit, and no bit above the permission bits. -/
def FileSnapshot.Loadable (file : FileSnapshot) : Prop :=
  file.path ≠ "" ∧ isManagedPath file.path = true ∧
    if file.existed then
      ∃ text mode decoded, file.contentBase64 = some text ∧ file.mode = some mode ∧ text ≠ "" ∧
        mode ≤ 0o777 ∧ Base64.decode text.toList = some decoded ∧
        Text.isUtf8 decoded = true ∧ decoded.length ≤ maxManagedFileBytes
    else file.contentBase64 = none ∧ file.mode = none

/-- An empty content text is refused, any other is read. -/
theorem optional_string_text {text : String} {name : String} :
    optionalString (.string text) name =
      if text = "" then fieldError name "must be null or a non-empty string"
      else .ok (some text) :=
  rfl

/-- A managed file is read back when it is loadable. -/
theorem load_managed_file_iff {index : Nat} {file : FileSnapshot} :
    loadManagedFile index file.toJson = .ok file ↔ file.Loadable := by
  obtain ⟨path, existed, content, mode⟩ := file
  have hnull : ∀ name, optionalString .null name = .ok none := fun _ => rfl
  cases content with
  | none =>
      cases existed <;> cases mode <;>
        simp [loadManagedFile, FileSnapshot.toJson, hasExactly, sameMembers, field, List.lookup,
          Result.bind_eq_ok, optionalValue, fieldError, FileSnapshot.Loadable, managedMode?, hnull]
  | some text =>
      by_cases htext : text = ""
      · cases existed <;>
          simp [loadManagedFile, FileSnapshot.toJson, hasExactly, sameMembers, field, List.lookup,
            Result.bind_eq_ok, optionalValue, fieldError, FileSnapshot.Loadable, htext,
            optional_string_text]
      · cases hdecode : Base64.decode text.toList <;> cases existed <;> cases mode <;>
          simp [loadManagedFile, FileSnapshot.toJson, hasExactly, sameMembers, field, List.lookup,
            Result.bind_eq_ok, optionalValue, fieldError, FileSnapshot.Loadable, managedMode?,
            htext, optional_string_text, hdecode]

/-- The recorded paths are those of the package manager, in restore order. -/
def CanonicalManagedPaths (manager : PackageManager) (paths : List String) : Prop :=
  ¬ (manager = .dnf ∧ ((paths.filter isFailsafePath).dedup).length ≠ 1) ∧ paths.Nodup ∧
    paths = canonicalManagedPaths manager ((paths.filter isFailsafePath).dedup)

/-- A list has the same members as itself. -/
theorem same_members_self {α : Type} [DecidableEq α] (items : List α) :
    sameMembers items items = true := by
  simp [sameMembers]

/-- Managed files that were written are read back exactly when each is loadable and their paths are
canonical. -/
theorem load_managed_files_iff {manager : PackageManager} {files : List FileSnapshot} :
    loadManagedFiles (.array (files.map FileSnapshot.toJson)) manager = .ok files ↔
      (∀ file ∈ files, file.Loadable) ∧ CanonicalManagedPaths manager (files.map (·.path)) := by
  have hread : ∀ {index : Nat}, traverse loadManagedFile index (files.map FileSnapshot.toJson) =
      .ok files ↔ ∀ file ∈ files, file.Loadable :=
    Result.traverse_map_eq_ok fun _ _ => load_managed_file_iff
  simp only [loadManagedFiles, Result.bind_eq_ok, Result.refuse_eq_ok, exists_const,
    Result.pure_eq_ok, CanonicalManagedPaths]
  constructor
  · rintro ⟨read, hfiles, hfailsafe, hmembers, hcanonical, rfl⟩
    simp only [not_or, not_not] at hmembers hcanonical
    exact ⟨hread.mp hfiles, hfailsafe, hmembers.2, hcanonical⟩
  · rintro ⟨hfiles, hfailsafe, hdistinct, hcanonical⟩
    refine ⟨files, hread.mpr hfiles, hfailsafe, ?_, not_not.mpr hcanonical, rfl⟩
    rw [← hcanonical, same_members_self]
    simpa using hdistinct

/-- The conditions under which a recorded command is read back. -/
structure LoadableCommand (command : List String) : Prop where
  nonempty : command ≠ []
  count : command.length ≤ maxCommandParts
  parts : "" ∉ command
  allowed : allowedRollbackCommand command = true

/-- A command is read back when it is loadable. -/
theorem load_command_iff {index : Nat} {command : List String} :
    loadCommand index (stringArray command) = .ok command ↔ LoadableCommand command := by
  simp only [loadCommand, stringArray, strings_map, Result.bind_eq_ok, Result.refuse_eq_ok,
    exists_const, Result.pure_eq_ok, List.length_map, not_lt, List.map_eq_nil_iff,
    Bool.not_eq_false, and_true]
  constructor
  · rintro ⟨hnonempty, hcount, hparts, hallowed⟩
    exact ⟨hnonempty, hcount, hparts, hallowed⟩
  · rintro ⟨hnonempty, hcount, hparts, hallowed⟩
    exact ⟨hnonempty, hcount, hparts, hallowed⟩

/-- Commands that were written are read back exactly when each is loadable and there are not too
many. -/
theorem load_commands_iff {commands : List (List String)} :
    loadCommands (.array (commands.map stringArray)) = .ok commands ↔
      commands.length ≤ maxSnapshotCommands ∧ ∀ command ∈ commands, LoadableCommand command := by
  have hread : ∀ {index : Nat}, traverse loadCommand index (commands.map stringArray) =
      .ok commands ↔ ∀ command ∈ commands, LoadableCommand command :=
    Result.traverse_map_eq_ok fun _ _ => load_command_iff
  simp only [loadCommands, Result.bind_eq_ok, Result.refuse_eq_ok, exists_const, List.length_map,
    not_lt, hread]

end NvidiaConverge
