import NvidiaConverge.Preflight.Agreement
import NvidiaConverge.Release.AttestedCommands

/-!
# The gate's authority and delta

Two halves of the release gate against the program. `snapshot_package_authority_eq` gives the
authority that the gate rebuilds from the recorded commands of a sanitised snapshot, and
`gate_commands_eq` says that its delta is the program's, for a snapshot that lies where the gate
takes it to lie.
-/

namespace NvidiaConverge

open Posix (AbsolutePath PurePath)
open Posix.PurePath (rooted)

variable {key : List UInt8} {bindings bindings' : PathBindings} {path : AbsolutePath}
  {bundle : PackagePayloadBundle} {packages : List PackageInfo} {manager : PackageManager}

/-! ## Bound paths -/

/-- The dictionary of bound paths only grows. -/
def PathBindings.Extends (bindings' bindings : PathBindings) : Prop :=
  ∀ text value, bindings.paths.lookup text = some value → bindings'.paths.lookup text = some value

/-- Binding a path binds it and keeps the others. -/
theorem bind_path_lookup {source target : PurePath} {habsolute : source.isAbsolute = true}
    (h : bindings.bindPath source target habsolute = .ok bindings') :
    bindings'.paths.lookup source.text = some target.text ∧ bindings'.Extends bindings := by
  unfold PathBindings.bindPath at h
  split at h
  · next hnone =>
      rw [← Result.pure_eq_ok.mp h]
      refine ⟨?_, fun text value hvalue => ?_⟩
      · simp [List.lookup_append, hnone]
      · simp [List.lookup_append, hvalue]
  · next previous hsome =>
      split at h
      · next heq =>
          rw [← Result.pure_eq_ok.mp h, hsome, heq]
          exact ⟨rfl, fun text value hvalue => hvalue⟩
      · cases h

/-- Every file that was registered is bound to its attested path. -/
theorem register_payloads_lookup {source target : PurePath} {habsolute : source.isAbsolute = true}
    {filenames : List String} {payloads : List PackagePayload}
    (h : registerPayloads source target habsolute filenames payloads bindings = .ok bindings') :
    bindings'.Extends bindings ∧ ∀ payload ∈ payloads,
      bindings'.paths.lookup (source.join payload.filename).text =
        some (target.join payload.filename).text := by
  induction payloads generalizing filenames bindings with
  | nil =>
      rw [registerPayloads] at h
      rw [← Result.pure_eq_ok.mp h]
      exact ⟨fun text value hvalue => hvalue, fun payload hpayload => by cases hpayload⟩
  | cons payload payloads ih =>
      obtain ⟨-, h⟩ := Result.check_bind_eq_ok.mp h
      obtain ⟨between, hbetween, h⟩ := Result.bind_eq_ok.mp h
      obtain ⟨hbound, hgrows⟩ := bind_path_lookup hbetween
      obtain ⟨hrest, hall⟩ := ih h
      refine ⟨fun text value hvalue => hrest _ _ (hgrows _ _ hvalue), fun other hother => ?_⟩
      rcases List.mem_cons.mp hother with rfl | hother
      · exact hrest _ _ hbound
      · exact hall other hother

/-- The digest of the pseudonym of a snapshot's path. -/
def snapshotDigest (key : List UInt8) (path : AbsolutePath) : String :=
  Text.removePrefix (keyedAttestation key "snapshot-path" [path.text]) "attested:"

/-- The prefix of an attestation is recognised and removed. -/
theorem attested_text (text : String) :
    Text.removePrefix ("attested:" ++ text) "attested:" = text ∧
      Text.startsWith ("attested:" ++ text) "attested:" = true := by
  have hstarts : Text.startsWith ("attested:" ++ text) "attested:" = true := by
    rw [Text.startsWith, List.isPrefixOf_iff_prefix, String.toList_append]
    exact List.prefix_append _ _
  refine ⟨String.toList_inj.mp ?_, hstarts⟩
  have hback := Text.remove_prefix_append hstarts
  rw [String.toList_append] at hback
  exact List.append_cancel_left hback

/-- The pseudonym of a path carries its digest. -/
theorem keyed_attestation_digest (key : List UInt8) (path : AbsolutePath) :
    keyedAttestation key "snapshot-path" [path.text] = "attested:" ++ snapshotDigest key path ∧
      Sha256.isDigest (snapshotDigest key path) = true := by
  rw [snapshotDigest, keyedAttestation, (attested_text _).1]
  exact ⟨rfl, Sha256.is_digest_hmac _ _⟩

/-- A digest is one component of a path. -/
theorem digest_component {digest : String} (h : Sha256.isDigest digest = true) :
    Posix.isComponent digest = true := by
  obtain ⟨hlength, hhex⟩ := digest_chars h
  have hlong : ∀ other : String, other.toList.length ≤ 2 → digest ≠ other := by
    rintro other hshort rfl
    omega
  have hslash : '/' ∉ digest.toList := fun hmem => absurd (hhex '/' hmem) (by decide)
  simp [Posix.isComponent, hslash, hlong "" (by decide), hlong "." (by decide),
    hlong ".." (by decide)]

/-- The bundle directory is a component, named after the snapshot. -/
theorem bundle_directory (h : ValidPayloads path bundle packages manager) :
    bundle.directory = path.name ++ ".payloads" ∧ safeComponent bundle.directory = true := by
  obtain ⟨hsafe, heq⟩ := Result.check_bind_eq_ok.mp h.directory
  rw [← Result.pure_eq_ok.mp heq]
  exact ⟨rfl, by simpa using Result.refuse_eq_ok.mp hsafe⟩

/-- A safe component is one component of a path. -/
theorem component_of_safe {name : String} (h : safeComponent name = true) :
    Posix.isComponent name = true := by
  simp only [safeComponent, Bool.and_eq_true] at h
  simp only [Posix.isComponent, Bool.and_eq_true]
  exact h.1.1

/-- The attested path of a snapshot that has a name. -/
def attestedSnapshot (key : List UInt8) (path : AbsolutePath) (hname : path.components ≠ []) :
    AbsolutePath where
  components := ["attested", snapshotDigest key path, path.name]
  normalized := by
    have hlast : Posix.isComponent path.name = true := by
      rw [AbsolutePath.name, List.getLastD_eq_getLast?, List.getLast?_eq_some_getLast hname]
      exact List.all_eq_true.mp path.normalized _ (List.getLast_mem hname)
    simp [hlast, digest_component (keyed_attestation_digest key path).2,
      (by decide : Posix.isComponent "attested" = true)]

/-- The directory of the attested snapshots is an absolute path. -/
theorem parse_attested : PurePath.parse "/attested" = rooted ["attested"] :=
  Posix.parse_path_text (show (["attested"] : List String).all Posix.isComponent = true by decide)

/-- The root under which the gate expects the files of a snapshot. -/
theorem attested_root_eq {directory : String} (hdirectory : Posix.isComponent directory = true) :
    attestedRoot (keyedAttestation key "snapshot-path" [path.text]) directory =
      rooted ["attested", snapshotDigest key path, directory] := by
  have hdigest := digest_component (keyed_attestation_digest key path).2
  rw [attestedRoot, parse_attested, ← snapshotDigest, Posix.rooted_join hdigest,
    Posix.rooted_join hdirectory]
  rfl

/-- After the registration every retained file is bound to its attested path. -/
theorem registered_paths {snapshot : RollbackSnapshot} (hname : path.components ≠ [])
    (h : ValidPayloads path bundle packages manager) (hpath : snapshot.path = some path.text)
    (hbundle : snapshot.packagePayloads = some bundle)
    (hregister : registerPayloadPathBindings key snapshot bindings = .ok bindings') :
    ∀ entry ∈ bundle.packages, bindings'.paths.lookup (payloadPath path bundle entry) =
      some (payloadPath (attestedSnapshot key path hname) bundle entry) := by
  intro entry hentry
  have hdirectory := component_of_safe (bundle_directory h).2
  have hfile := payload_filename_component (h.each entry hentry)
  have hparse : PurePath.parse path.text = rooted path.components :=
    Posix.parse_path_text path.normalized
  unfold registerPayloadPathBindings at hregister
  simp only [hpath, hbundle, hparse, Posix.rooted_parent, Posix.rooted_join hdirectory]
    at hregister
  split at hregister
  · obtain ⟨-, hregister⟩ := Result.check_bind_eq_ok.mp hregister
    obtain ⟨attested, hattested, hregister⟩ := Result.bind_eq_ok.mp hregister
    obtain ⟨between, -, hregister⟩ := Result.bind_eq_ok.mp hregister
    obtain ⟨-, hattested⟩ := Result.check_bind_eq_ok.mp hattested
    have hbound := (register_payloads_lookup hregister).2 entry hentry
    rw [← Result.pure_eq_ok.mp hattested, attested_root_eq hdirectory, Posix.rooted_join hfile,
      Posix.rooted_join hfile, Posix.text_rooted, Posix.text_rooted, List.append_assoc] at hbound
    exact hbound
  · cases hregister

/-! ## Recognised paths -/

/-- The path of a retained file is its directory with its name. -/
theorem parse_payload_path (h : ValidPayloads path bundle packages manager)
    {entry : PackagePayload} (hentry : entry ∈ bundle.packages) :
    PurePath.parse (payloadPath path bundle entry) =
      rooted (path.parent ++ [bundle.directory, entry.filename]) :=
  Posix.parse_path_text (payload_path_normalized h hentry)

/-- The directory of the retained files, beside the snapshot. -/
def payloadDirectory (path : AbsolutePath) (bundle : PackagePayloadBundle) : PurePath :=
  rooted (path.parent ++ [bundle.directory])

/-- A retained file lies in the directory of its bundle. -/
theorem parse_payload_path_join (h : ValidPayloads path bundle packages manager)
    {entry : PackagePayload} (hentry : entry ∈ bundle.packages) :
    PurePath.parse (payloadPath path bundle entry) =
      (payloadDirectory path bundle).join entry.filename := by
  rw [parse_payload_path h hentry, payloadDirectory,
    Posix.rooted_join (payload_filename_component (h.each entry hentry)), List.append_assoc]
  rfl

/-- The path of a retained file is recognised as one. -/
theorem payload_path_recognised (h : ValidPayloads path bundle packages manager)
    {entry : PackagePayload} (hentry : entry ∈ bundle.packages) :
    isPayloadPath bundle (payloadPath path bundle entry) = true := by
  have hparent : (rooted (path.parent ++ [bundle.directory, entry.filename])).parent =
      rooted (path.parent ++ [bundle.directory]) := by
    rw [Posix.rooted_parent, List.dropLast_append_of_ne_nil (by simp)]
    rfl
  have hname : (rooted (path.parent ++ [bundle.directory])).name = bundle.directory := by
    simp [PurePath.name, PurePath.rooted]
  have hfile : (rooted (path.parent ++ [bundle.directory, entry.filename])).name =
      entry.filename := by
    simp [PurePath.name, PurePath.rooted]
  have htext : (rooted (path.parent ++ [bundle.directory, entry.filename])).text =
      payloadPath path bundle entry :=
    Posix.text_rooted _
  simp only [isPayloadPath, parse_payload_path h hentry, hparent, hname, hfile, htext,
    beq_self_eq_true,
    Bool.and_true, Bool.and_eq_true, List.contains_iff_mem]
  exact ⟨rfl, List.mem_map_of_mem hentry⟩

/-- A plain part of a command is not taken for the path of a retained file. -/
theorem PlainPart.not_recognised {part : String} (h : PlainPart part) :
    isPayloadPath bundle part = false := by
  simp only [isPayloadPath, h.relative, Bool.false_and]

/-- Among plain parts there is no path of a retained file. -/
theorem observed_plain {parts : List String} (h : ∀ part ∈ parts, PlainPart part) :
    observedPayloadPaths bundle parts = [] := by
  rw [observedPayloadPaths, List.map_eq_nil_iff, List.filter_eq_nil_iff]
  intro part hpart
  rw [(h part hpart).not_recognised]
  exact Bool.false_ne_true

/-- The paths of two parts of a command are those of the first and then those of the second. -/
theorem observed_append {before after : List String} :
    observedPayloadPaths bundle (before ++ after) =
      observedPayloadPaths bundle before ++ observedPayloadPaths bundle after := by
  simp only [observedPayloadPaths, List.filter_append, List.map_append]

/-- A plain part in front adds no path. -/
theorem observed_cons {part : String} {parts : List String} (h : PlainPart part) :
    observedPayloadPaths bundle (part :: parts) = observedPayloadPaths bundle parts := by
  rw [observedPayloadPaths, List.filter_cons_of_neg (by rw [h.not_recognised]; exact
    Bool.false_ne_true), observedPayloadPaths]

/-- A derived command holds the recognised paths of its operands. -/
theorem observed_delta {paths removals installs removed : List String}
    (hremovals : ∀ part ∈ removals, PlainPart part)
    (hinstalls : manager ≠ .aptGet → ∀ part ∈ installs, PlainPart part)
    (hremoved : manager ≠ .aptGet → ∀ part ∈ removed, PlainPart part) :
    observedPayloadPaths bundle
        (deltaCommand manager paths removals installs removed) =
      observedPayloadPaths bundle paths := by
  cases manager with
  | aptGet =>
      have hsuffix : ∀ part ∈ removals.map (· ++ "-"), PlainPart part := by
        intro part hpart
        obtain ⟨removal, hremoval, rfl⟩ := List.mem_map.mp hpart
        exact (hremovals removal hremoval).append "-"
      rw [deltaCommand, observed_append, observed_append, observed_plain hsuffix,
        observed_plain (by decide), List.nil_append, List.append_nil]
  | zypper =>
      have hprefix : ∀ part ∈ removals.map ("-" ++ ·), PlainPart part := by
        intro part hpart
        obtain ⟨removal, _, rfl⟩ := List.mem_map.mp hpart
        exact plain_dash removal
      rw [deltaCommand, observed_append, observed_cons (by decide), observed_append,
        observed_plain hprefix, observed_plain (by decide), List.nil_append, List.append_nil]
  | dnf | yum =>
      have hmarked : ∀ marker, PlainPart marker → ∀ parts : List String,
          (∀ part ∈ parts, PlainPart part) → observedPayloadPaths bundle (marker :: parts) = [] :=
        fun marker hmarker parts hparts =>
          observed_plain (List.forall_mem_cons.mpr ⟨hmarker, hparts⟩)
      rw [deltaCommand, dnfLocalTransactionCommand, observed_append, observed_append,
        observed_append, observed_append, hmarked _ (by decide) _ hremovals,
        hmarked _ (by decide) _ (hinstalls (by decide)),
        hmarked _ (by decide) _ (hremoved (by decide)), observed_plain (by decide)]
      simp only [List.nil_append, List.append_nil]

variable {snapshot : RollbackSnapshot}

/-- The manifest entry of a baseline package is a baseline entry. -/
theorem RetainedBaseline.baseline_entry (h : RetainedBaseline snapshot manager path bundle)
    {package : PackageInfo} (hmem : package ∈ snapshot.packages) :
    ∃ entry ∈ bundle.packages, entry.roles.contains "baseline" = true ∧
      entry.identity = package.identity ∧
      snapshotPayloadOperand snapshot package = payloadPath path bundle entry := by
  obtain ⟨entry, hentry, hidentity, -, hoperand⟩ := h.entry hmem
  have hheld := same_members_iff.mp h.payloads.oneToOne package.identity
  obtain ⟨found, hfound, heq⟩ := List.mem_map.mp (hheld.mpr (List.mem_map_of_mem hmem))
  obtain ⟨hfound, hrole⟩ := List.mem_filter.mp hfound
  obtain rfl := List.inj_on_of_nodup_map h.payloads.identities hentry hfound
    (hidentity.trans heq.symm)
  exact ⟨entry, hentry, hrole, hidentity, hoperand⟩

/-- A baseline entry belongs to a baseline package. -/
theorem RetainedBaseline.entry_package (h : RetainedBaseline snapshot manager path bundle)
    {entry : PackagePayload} (hentry : entry ∈ bundle.packages)
    (hrole : entry.roles.contains "baseline" = true) :
    ∃ package ∈ snapshot.packages,
      snapshotPayloadOperand snapshot package = payloadPath path bundle entry := by
  have hheld := same_members_iff.mp h.payloads.oneToOne entry.identity
  obtain ⟨package, hpackage, heq⟩ := List.mem_map.mp
    (hheld.mp (List.mem_map_of_mem (List.mem_filter.mpr ⟨hentry, hrole⟩)))
  obtain ⟨found, hfound, -, hidentity, hoperand⟩ := h.baseline_entry hpackage
  obtain rfl := List.inj_on_of_nodup_map h.payloads.identities hfound hentry
    (hidentity.trans heq)
  exact ⟨package, hpackage, hoperand⟩

/-- There are as many baseline entries as packages. -/
theorem RetainedBaseline.entry_count (h : RetainedBaseline snapshot manager path bundle) :
    (bundle.packages.filter fun payload => payload.roles.contains "baseline").length =
      snapshot.packages.length := by
  have hsub : ((bundle.packages.filter fun payload => payload.roles.contains "baseline").map
      PackagePayload.identity).Nodup :=
    h.payloads.identities.sublist (List.filter_sublist.map _)
  have hperm := (List.perm_ext_iff_of_nodup hsub h.payloads.distinct).mpr
    (same_members_iff.mp h.payloads.oneToOne)
  simpa using hperm.length_eq

/-- The operands that restore the whole baseline. -/
def baselineOperands (snapshot : RollbackSnapshot) : List String :=
  snapshot.packages.map (snapshotPayloadOperand snapshot)

/-- The operands are recognised, one path each. -/
theorem observed_baseline (h : RetainedBaseline snapshot manager path bundle) :
    observedPayloadPaths bundle (baselineOperands snapshot) =
      (baselineOperands snapshot).map PurePath.parse := by
  have hall : (baselineOperands snapshot).filter (isPayloadPath bundle) =
      baselineOperands snapshot := by
    refine List.filter_eq_self.mpr fun part hpart => ?_
    obtain ⟨package, hpackage, rfl⟩ := List.mem_map.mp hpart
    obtain ⟨entry, hentry, -, -, hoperand⟩ := h.baseline_entry hpackage
    rw [hoperand]
    exact payload_path_recognised h.payloads hentry
  rw [observedPayloadPaths, hall]

/-- The root of a nonempty baseline is the directory of its files. -/
theorem payload_root_baseline (h : RetainedBaseline snapshot manager path bundle)
    (hne : snapshot.packages ≠ []) {parts : List String}
    (hparts : observedPayloadPaths bundle parts = (baselineOperands snapshot).map PurePath.parse) :
    payloadRoot bundle parts = some (payloadDirectory path bundle) := by
  have hparse : ∀ package ∈ snapshot.packages, ∃ entry ∈ bundle.packages,
      entry.roles.contains "baseline" = true ∧
      PurePath.parse (snapshotPayloadOperand snapshot package) =
        (payloadDirectory path bundle).join entry.filename := by
    intro package hpackage
    obtain ⟨entry, hentry, hrole, -, hoperand⟩ := h.baseline_entry hpackage
    refine ⟨entry, hentry, hrole, ?_⟩
    rw [hoperand, parse_payload_path_join h.payloads hentry]
  have hoperand : ∀ entry ∈ bundle.packages, entry.roles.contains "baseline" = true →
      ∃ package ∈ snapshot.packages, PurePath.parse (snapshotPayloadOperand snapshot package) =
        (payloadDirectory path bundle).join entry.filename := by
    intro entry hentry hrole
    obtain ⟨package, hpackage, hoperand⟩ := h.entry_package hentry hrole
    refine ⟨package, hpackage, ?_⟩
    rw [hoperand, parse_payload_path_join h.payloads hentry]
  -- Every recognised path lies in the one directory.
  have hroots : ((observedPayloadPaths bundle parts).map PurePath.parent).dedup =
      [payloadDirectory path bundle] := by
    have hall : ∀ root ∈ (observedPayloadPaths bundle parts).map PurePath.parent,
        root = payloadDirectory path bundle := by
      intro root hroot
      rw [hparts, baselineOperands, List.map_map, List.map_map, List.mem_map] at hroot
      obtain ⟨package, hpackage, rfl⟩ := hroot
      obtain ⟨entry, hentry, -, heq⟩ := hparse package hpackage
      simp only [Function.comp, heq, payloadDirectory,
        Posix.rooted_join (payload_filename_component (h.payloads.each entry hentry)),
        Posix.rooted_parent, List.dropLast_concat]
    rw [List.eq_replicate_of_mem hall]
    refine List.replicate_dedup ?_
    simpa [hparts, baselineOperands] using hne
  -- The baseline files are told apart by their names.
  have hdistinct : ((bundle.packages.filter fun payload => payload.roles.contains "baseline").map
      fun payload => (payloadDirectory path bundle).join payload.filename).Nodup := by
    refine List.Nodup.map_on ?_ (h.payloads.identities.of_map.filter _)
    intro entry hentry other hother heq
    have hentry' := (List.mem_filter.mp hentry).1
    have hother' := (List.mem_filter.mp hother).1
    rw [payloadDirectory,
      Posix.rooted_join (payload_filename_component (h.payloads.each entry hentry')),
      Posix.rooted_join (payload_filename_component (h.payloads.each other hother'))] at heq
    refine List.inj_on_of_nodup_map h.payloads.filenames hentry' hother' ?_
    simpa [PurePath.rooted] using congrArg PurePath.names heq
  have hexpected : expectedBaselinePaths bundle (payloadDirectory path bundle) =
      (bundle.packages.filter fun payload => payload.roles.contains "baseline").map fun payload =>
        (payloadDirectory path bundle).join payload.filename :=
    hdistinct.dedup
  unfold payloadRoot
  simp only [hroots]
  rw [if_pos]
  refine ⟨same_members_iff.mpr fun found => ?_, ?_⟩
  · rw [hparts, hexpected, baselineOperands, List.map_map, List.mem_map, List.mem_map]
    constructor
    · rintro ⟨package, hpackage, rfl⟩
      obtain ⟨entry, hentry, hrole, heq⟩ := hparse package hpackage
      exact ⟨entry, List.mem_filter.mpr ⟨hentry, hrole⟩, heq.symm⟩
    · rintro ⟨entry, hentry, rfl⟩
      obtain ⟨hmem, hrole⟩ := List.mem_filter.mp hentry
      obtain ⟨package, hpackage, heq⟩ := hoperand entry hmem hrole
      exact ⟨package, hpackage, heq⟩
  · rw [hparts, hexpected, List.length_map, baselineOperands, List.length_map, List.length_map,
      h.entry_count]

/-! ## The sanitised snapshot -/

/-- What the export keeps of a snapshot for the gate. -/
structure SanitizedFrom (key : List UInt8) (bindings bindings' : PathBindings)
    (snapshot sanitized : RollbackSnapshot) : Prop where
  registered : registerPayloadPathBindings key snapshot bindings = .ok bindings'
  path : attestSnapshotPath key snapshot.path = .ok sanitized.path
  commands : snapshot.commands.mapM (pseudonymizeCommand key bindings') = .ok sanitized.commands
  schemaVersion : sanitized.schemaVersion = snapshot.schemaVersion
  packageManager : sanitized.packageManager = snapshot.packageManager
  packages : sanitized.packages = snapshot.packages
  introduced : sanitized.introducedPackages = snapshot.introducedPackages
  payloads : sanitized.packagePayloads = snapshot.packagePayloads

/-- A snapshot that was exported is sanitised field by field. -/
theorem sanitize_snapshot_ok {sanitized : RollbackSnapshot}
    (h : sanitizeSnapshot key bindings snapshot = .ok (sanitized, bindings')) :
    SanitizedFrom key bindings bindings' snapshot sanitized := by
  obtain ⟨-, h⟩ := Result.check_bind_eq_ok.mp h
  obtain ⟨registered, hregistered, h⟩ := Result.bind_eq_ok.mp h
  obtain ⟨path, hpath, h⟩ := Result.bind_eq_ok.mp h
  obtain ⟨hostId, -, h⟩ := Result.bind_eq_ok.mp h
  obtain ⟨gpuUuids, -, h⟩ := Result.bind_eq_ok.mp h
  obtain ⟨commands, hcommands, h⟩ := Result.bind_eq_ok.mp h
  obtain ⟨migGeometry, -, h⟩ := Result.bind_eq_ok.mp h
  obtain ⟨managedFiles, -, h⟩ := Result.bind_eq_ok.mp h
  obtain ⟨rfl, rfl⟩ := Prod.mk.inj (Result.pure_eq_ok.mp h)
  exact ⟨hregistered, hpath, hcommands, rfl, rfl, rfl, rfl, rfl⟩

/-- The path of an exported snapshot is its pseudonym. -/
theorem SanitizedFrom.attested_path {sanitized : RollbackSnapshot}
    (h : SanitizedFrom key bindings bindings' snapshot sanitized)
    (hpath : snapshot.path = some path.text) :
    sanitized.path = some ("attested:" ++ snapshotDigest key path) := by
  have hattested := h.path
  rw [hpath] at hattested
  obtain ⟨attested, hpseudonym, heq⟩ := Result.map_eq_ok.mp hattested
  obtain ⟨-, hpseudonym⟩ := Result.check_bind_eq_ok.mp hpseudonym
  rw [← heq, ← Result.pure_eq_ok.mp hpseudonym, (keyed_attestation_digest key path).1]

/-- A manifest entry as staging writes it: completely identified, its roles and signers sorted. -/
structure PackagePayload.Staged (payload : PackagePayload) : Prop where
  name : payload.name ≠ ""
  architecture : payload.architecture ≠ ""
  version : payload.version ≠ ""
  roles : canonicalList payload.roles = true
  signers : canonicalList payload.signerIds = true

/-- A valid entry passes the gate exactly when it is staged. -/
theorem attested_payload_iff {payload : PackagePayload}
    (h : validPayloadEntry manager payload = true) :
    attestedPayload manager payload = true ↔ payload.Staged := by
  have hsigner : payload.signerIds.all (fun signer =>
      decide (8 ≤ signer.toList.length) && decide (signer.toList.length ≤ 40) &&
        signer.toList.all Sha256.isHexDigit) = payload.signerIds.all isSignerId := rfl
  obtain ⟨hdigest, hfilename⟩ := valid_entry_filename h
  simp only [validPayloadEntry, Bool.and_eq_true, hsigner, decide_eq_true_eq] at h
  obtain ⟨⟨⟨⟨⟨⟨⟨⟨⟨⟨⟨hformat, hverification⟩, -⟩, -⟩, hsize⟩, -⟩, hroles⟩, -⟩, hknown⟩, hdeb⟩, hrpm⟩,
    hsigners⟩ := h
  have hformatEq := beq_iff_eq.mp hformat
  rw [hformatEq] at hdeb hrpm
  simp only [attestedPayload, Bool.and_eq_true, hformat, hverification, hdigest, hfilename,
    beq_self_eq_true, hsize, decide_true, hroles, hknown, hsigners, hdeb, hrpm, and_true,
    bne_iff_ne, ne_eq]
  constructor
  · rintro ⟨⟨⟨⟨hname, harchitecture⟩, hversion⟩, hsortedRoles⟩, hsortedSigners⟩
    exact ⟨hname, harchitecture, hversion, hsortedRoles, hsortedSigners⟩
  · intro hstaged
    exact ⟨⟨⟨⟨hstaged.name, hstaged.architecture⟩, hstaged.version⟩, hstaged.roles⟩,
      hstaged.signers⟩

/-- A text has at most as many code points as bytes. -/
theorem length_le_utf8 (text : String) : text.toList.length ≤ (Text.utf8 text).length := by
  rw [Text.utf8]
  induction text.toList with
  | nil => simp
  | cons c cs ih =>
      have hsize := Char.utf8Size_pos c
      simp only [List.flatMap_cons, List.length_append, String.length_utf8EncodeChar,
        List.length_cons] at ih ⊢
      omega

/-- The bundle directory passes the gate exactly when the snapshot has a name. -/
theorem attested_directory_iff (h : ValidPayloads path bundle packages manager) :
    attestedDirectory bundle.directory = true ↔ path.components ≠ [] := by
  obtain ⟨hdirectory, hsafe⟩ := bundle_directory h
  have hlength : bundle.directory.toList.length = path.name.toList.length + 9 := by
    rw [hdirectory, String.toList_append, List.length_append]
    rfl
  have hbound := length_le_utf8 bundle.directory
  simp only [safeComponent, Bool.and_eq_true, decide_eq_true_eq] at hsafe
  have hlong : 10 ≤ bundle.directory.toList.length ↔ path.components ≠ [] := by
    rw [hlength]
    constructor
    · intro hname hcomponents
      rw [AbsolutePath.name, hcomponents] at hname
      exact absurd hname (by decide)
    · intro hcomponents
      have hname : Posix.isComponent path.name = true := by
        rw [AbsolutePath.name, List.getLastD_eq_getLast?, List.getLast?_eq_some_getLast hcomponents]
        exact List.all_eq_true.mp path.normalized _ (List.getLast_mem hcomponents)
      have hpos := List.length_pos_iff.mpr (Posix.component_ne_nil hname)
      omega
  have hshort : bundle.directory.toList.length ≤ 255 := hbound.trans hsafe.2
  rw [attestedDirectory, bundle_directory_suffix h, hsafe.1.1.2, hsafe.1.2, ← hlong]
  simp [hshort]

/-- The snapshot's name is the directory without its suffix. -/
theorem snapshot_name_eq (h : ValidPayloads path bundle packages manager) :
    snapshotName bundle.directory = path.name := by
  obtain ⟨hdirectory, -⟩ := bundle_directory h
  rw [snapshotName, if_pos (bundle_directory_suffix h), hdirectory]
  refine String.toList_inj.mp ?_
  have hlength : (path.name ++ ".payloads").toList.length - 9 = path.name.toList.length := by
    rw [String.toList_append, List.length_append]
    rfl
  rw [hlength, String.toList_ofList, String.toList_append, List.take_left']
  rfl

/-- A validated bundle passes the gate exactly when its snapshot has a name and it is staged. -/
theorem attested_bundle_iff (h : ValidPayloads path bundle packages manager) :
    attestedBundle manager packages bundle = true ↔
      path.components ≠ [] ∧ ∀ payload ∈ bundle.packages, payload.Staged := by
  have heach : bundle.packages.all (attestedPayload manager) = true ↔
      ∀ payload ∈ bundle.packages, payload.Staged := by
    rw [List.all_eq_true]
    exact forall₂_congr fun payload hpayload => attested_payload_iff (h.each payload hpayload)
  simp only [attestedBundle, Bool.and_eq_true, attested_directory_iff h, heach, h.identities,
    h.filenames, h.total, h.oneToOne, decide_true, beq_self_eq_true, and_true]

/-- Packages with valid payloads pass the gate's check of their fields. -/
theorem attested_packages (h : ValidPayloads path bundle packages manager) :
    packages.all (attestedPackage manager) = true := by
  rw [List.all_eq_true]
  intro package hpackage
  have hcomplete := h.complete package hpackage
  simp only [completeIdentity, Bool.and_eq_true, bne_iff_ne, ne_eq, PackageInfo.identity]
    at hcomplete
  obtain ⟨⟨⟨⟨hinstalled, hmanager⟩, hname⟩, harchitecture⟩, hversion⟩ := hcomplete
  have htruthy : ∀ value : Option String, value.getD "" ≠ "" → truthy value = true := by
    intro value hvalue
    cases value with
    | none => exact absurd rfl hvalue
    | some text => simpa [truthy] using hvalue
  simp [attestedPackage, hname, hinstalled, hmanager, htruthy _ harchitecture, htruthy _ hversion]

/-- The parts of a sanitised snapshot that the gate rebuilds its authority from. -/
structure GateRecords (key : List UInt8) (path : AbsolutePath) (bundle : PackagePayloadBundle)
    (manager : PackageManager) (sanitized : RollbackSnapshot) : Prop where
  schemaVersion : sanitized.schemaVersion = "2.6"
  packageManager : sanitized.packageManager = some manager
  payloads : sanitized.packagePayloads = some bundle
  valid : ValidPayloads path bundle sanitized.packages manager
  path : sanitized.path = some ("attested:" ++ snapshotDigest key path)

/-- The records of a sanitised snapshot pass the gate. -/
theorem attested_records_iff {sanitized : RollbackSnapshot}
    (h : GateRecords key path bundle manager sanitized) :
    attestedRecords sanitized manager bundle ↔
      (path.components ≠ [] ∧ ∀ payload ∈ bundle.packages, payload.Staged) ∧
        sanitized.commands ≠ [] ∧ [] ∉ sanitized.commands := by
  rw [attestedRecords, attested_bundle_iff h.valid]
  simp only [h.schemaVersion, h.packageManager, attested_packages h.valid, h.valid.distinct,
    true_and]

/-- The authority of a snapshot whose commands hold the whole baseline. -/
theorem snapshot_package_authority_eq {sanitized : RollbackSnapshot}
    (h : GateRecords key path bundle manager sanitized) (hname : path.components ≠ [])
    (hstaged : ∀ payload ∈ bundle.packages, payload.Staged)
    (hcommands : sanitized.commands ≠ [] ∧ [] ∉ sanitized.commands)
    (hroot : payloadRoot bundle sanitized.commands.flatten =
      some (payloadDirectory (attestedSnapshot key path hname) bundle)) :
    snapshotPackageAuthority sanitized manager =
      some { snapshotPath := rooted (attestedSnapshot key path hname).components
             packages := sanitized.packages, bundle } := by
  have hrecords : attestedRecords sanitized manager bundle :=
    (attested_records_iff h).mpr ⟨⟨hname, hstaged⟩, hcommands⟩
  have hlast : Posix.isComponent path.name = true := by
    have hall := (attestedSnapshot key path hname).normalized
    rw [List.all_eq_true] at hall
    exact hall _ (by simp [attestedSnapshot])
  have hdirectory := component_of_safe (bundle_directory h.valid).2
  have hdigest := keyed_attestation_digest key path
  have hparent : (payloadDirectory (attestedSnapshot key path hname) bundle).parent =
      rooted ["attested", snapshotDigest key path] := rfl
  have hsnapshot : (rooted ["attested", snapshotDigest key path]).join
      (snapshotName bundle.directory) =
      rooted (attestedSnapshot key path hname).components := by
    rw [snapshot_name_eq h.valid, Posix.rooted_join hlast]
    rfl
  have hback : ((rooted (attestedSnapshot key path hname).components).parent.join
      bundle.directory) = payloadDirectory (attestedSnapshot key path hname) bundle := by
    rw [Posix.rooted_parent, Posix.rooted_join hdirectory]
    rfl
  have hattested : (PurePath.parse "/attested").join (snapshotDigest key path) =
      rooted ["attested", snapshotDigest key path] := by
    rw [parse_attested, Posix.rooted_join (digest_component hdigest.2)]
    rfl
  have hdeclares : declaresRoot ("attested:" ++ snapshotDigest key path)
      (payloadDirectory (attestedSnapshot key path hname) bundle)
      (rooted (attestedSnapshot key path hname).components) = true := by
    rw [declaresRoot, (attested_text _).1, (attested_text _).2, hdigest.2, if_pos ⟨rfl, rfl⟩,
      hparent, hattested, beq_self_eq_true]
  unfold snapshotPackageAuthority
  simp only [h.payloads, h.path, if_pos hrecords, hroot, hparent, hsnapshot, hback, hdeclares,
    and_self, and_true]
  exact if_pos rfl

/-- The commands of a snapshot that the gate has no authority over are refused. -/
theorem contract_without_authority {sanitized : RollbackSnapshot}
    (h : snapshotPackageAuthority sanitized manager = none) (label name : String) :
    verifySnapshotCommandContract label manager sanitized name ≠ [] := by
  unfold verifySnapshotCommandContract
  simp [h]

/-! ## The recomputed delta -/

variable {audit : HostAudit} {package : PackageInfo}

/-- The gate restores the packages that the program restores. -/
theorem gate_restore_packages_eq (h : Inventory manager snapshot.packages) :
    gateRestorePackages (baselinePackages snapshot) (installedPackages audit) =
      restorePackages snapshot audit := by
  rw [gateRestorePackages, baselinePackages, List.filter_filter, restorePackages]
  refine List.filter_congr fun package hpackage => ?_
  rw [(h.rows package hpackage).installed, (h.rows package hpackage).version_truthy]
  simp

/-- The gate removes the packages that the program removes. -/
theorem gate_added_packages_eq :
    gateAddedPackages (baselinePackages snapshot) (installedPackages audit) =
      addedPackages snapshot audit :=
  rfl

/-- The gate reads a row of the inventory as it is. -/
theorem restore_info_eq (h : InventoryRow manager package) : restoreInfo package = package := by
  obtain ⟨architecture, harchitecture, -⟩ := h.architecture_known
  have hversion := h.version_truthy
  have hbackend := h.backend
  have hinstalled := h.installed
  cases package with
  | mk name version manager installed architecture epoch =>
      simp only at harchitecture hbackend hinstalled hversion
      cases version with
      | none => cases hversion
      | some version => simp [restoreInfo, harchitecture, hbackend, hinstalled, formatOption]

/-- The gate spells a removal as the program does. -/
theorem exact_removal_spec_eq (h : InventoryRow manager package) :
    exactRemovalSpec manager package = removalSpec manager package := by
  cases manager with
  | aptGet => rfl
  | dnf | yum => rfl
  | zypper =>
      simp only [exactRemovalSpec, zypperSnapshotPackageSpec, removalSpec, rpmEdition,
        h.version_truthy, if_true, String.append_assoc]

/-- The gate expects the displaced packages that the program expects. -/
theorem gate_displaced_packages_eq (h : Inventory manager snapshot.packages)
    (haudit : Inventory manager audit.packages) (hmanager : manager ≠ .aptGet) :
    gateDisplacedPackages (baselinePackages snapshot) (installedPackages audit) =
      displacedRpmPackages snapshot audit := by
  have hrpm : (restorePackages snapshot audit).filter (fun package =>
      package.manager == some "rpm") = restoredRpmPackages snapshot audit := by
    rw [restored_rpm_packages h hmanager]
    refine List.filter_eq_self.mpr fun package hpackage => ?_
    rw [(h.rows package (restore_packages_subset h package hpackage)).backend, expectedManager,
      if_neg hmanager]
    exact beq_self_eq_true _
  rw [gateDisplacedPackages, gate_restore_packages_eq h, hrpm, installedPackages,
    List.filter_filter, displacedRpmPackages]
  refine List.filter_congr fun package hpackage => ?_
  have hrow := haudit.rows package hpackage
  simp [hrow.installed, hrow.version_truthy]

/-- The removals that the gate expects are those of the program. -/
theorem gate_removals_eq (haudit : Inventory manager audit.packages)
    (hmanager : snapshot.packageManager = some manager) :
    sorted ((gateAddedPackages (baselinePackages snapshot) (installedPackages audit)).map
        (exactRemovalSpec manager)).dedup = deltaRemovals snapshot audit := by
  have hmap : (addedPackages snapshot audit).map (exactRemovalSpec manager) =
      (addedPackages snapshot audit).map (removalSpec manager) :=
    List.map_congr_left fun package hpackage =>
      exact_removal_spec_eq (haudit.rows package (mem_added_packages.mp hpackage).1)
  rw [gate_added_packages_eq, hmap, deltaRemovals, hmanager]
  rfl

/-- The gate derives what the program derives for a snapshot that lies at the gate's path. -/
theorem gate_commands_eq (h : RetainedBaseline snapshot manager path bundle)
    (haudit : Inventory manager audit.packages) :
    recomputedCommands manager (baselinePackages snapshot) (installedPackages audit) path.text
        bundle =
      rollbackPackageCommands snapshot (some audit) := by
  have hinfos : (restorePackages snapshot audit).map restoreInfo =
      restorePackages snapshot audit :=
    (List.map_congr_left fun package hpackage => restore_info_eq
      (h.inventory.rows package (restore_packages_subset h.inventory package hpackage))).trans
      (List.map_id _)
  have hpaths : localPayloads (restorePackages snapshot audit) (some path.text) (some bundle) =
      .ok (some (deltaPaths snapshot audit)) :=
    h.local_payloads (restore_packages_subset h.inventory)
  rw [recomputedCommands, gate_removals_eq haudit h.backend, gate_restore_packages_eq h.inventory,
    hinfos,
    rollback_commands_retained (restored_restore_packages h.inventory) sorted_delta_removals hpaths,
    derived_rollback_commands h audit]
  by_cases hmanager : manager = .aptGet
  · subst hmanager
    rfl
  · have hrpm : (restorePackages snapshot audit).filter (fun package =>
        package.manager == some "rpm") = restorePackages snapshot audit := by
      refine List.filter_eq_self.mpr fun package hpackage => ?_
      rw [(h.inventory.rows package
        (restore_packages_subset h.inventory package hpackage)).backend, expectedManager,
        if_neg hmanager]
      exact beq_self_eq_true _
    cases manager with
    | aptGet => exact absurd rfl hmanager
    | zypper => rfl
    | dnf | yum =>
        simp only [gateOptions, gate_restore_packages_eq h.inventory, hrpm,
          gate_displaced_packages_eq h.inventory haudit hmanager, Option.getD_some, sorted_sorted,
          reduceCtorEq, or_true, true_or, if_true]
        rfl

end NvidiaConverge
