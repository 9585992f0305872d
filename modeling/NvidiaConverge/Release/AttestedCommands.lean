import NvidiaConverge.Preflight.Operands
import NvidiaConverge.Release.SnapshotGate

/-!
# Commands behind the path binding

What the exporter makes of a derived rollback command: `pseudonymize_delta` says that the retained
files are moved to the attested snapshot and that every other part stays. The parts that stay are
those whose first letters are neither a path's nor a GPU identity's.
-/

namespace NvidiaConverge

open Posix (AbsolutePath PurePath)

/-! ## Plain parts -/

/-- The starts of the parts that `_rollback_commands` writes beside retained paths. -/
def plainStarts : List String :=
  ["nvidia", "libnvidia", "cuda", "docker-ce", "linux-headers-", "kernel-", "build-essential",
   "containerd.io", "docker-buildx-plugin", "docker-compose-plugin", "gcc", "make", "-", "apt-get",
   "install", "zypper", "python3", "DNF_LOCAL_TRANSACTION_SCRIPT"]

/-- A part of a command that starts with one of the plain starts. -/
def PlainPart (part : String) : Prop :=
  ∃ start ∈ plainStarts, start.toList <+: part.toList

instance (part : String) : Decidable (PlainPart part) := by
  unfold PlainPart
  infer_instance

variable {part text : String} {key : List UInt8} {bindings bindings' : PathBindings}

/-- What follows in a plain part does not matter. -/
theorem PlainPart.append (h : PlainPart part) (rest : String) : PlainPart (part ++ rest) := by
  obtain ⟨start, hstart, hprefix⟩ := h
  refine ⟨start, hstart, hprefix.trans ?_⟩
  rw [String.toList_append]
  exact List.prefix_append _ _

/-- A part with a dash in front is plain. -/
theorem plain_dash (part : String) : PlainPart ("-" ++ part) :=
  ⟨"-", by decide, by rw [String.toList_append]; exact List.prefix_append _ _⟩

/-- No plain part starts like a path or like a GPU identity. -/
theorem PlainPart.not_starts (h : PlainPart part) {other : String}
    (hother : other ∈ ["/", "GPU-", "MIG-", "device="]) : Text.startsWith part other = false := by
  obtain ⟨start, hstart, hprefix⟩ := h
  rw [← Bool.not_eq_true, Text.startsWith, List.isPrefixOf_iff_prefix]
  intro hstarts
  have hapart : ∀ start ∈ plainStarts, ∀ other ∈ ["/", "GPU-", "MIG-", "device="],
      ¬ start.toList <+: other.toList ∧ ¬ other.toList <+: start.toList := by decide
  rcases List.prefix_or_prefix_of_prefix hprefix hstarts with hcase | hcase
  · exact (hapart start hstart other hother).1 hcase
  · exact (hapart start hstart other hother).2 hcase

/-- A plain part does not begin as an absolute path does. -/
theorem PlainPart.head (h : PlainPart part) : part.toList.head? ≠ some '/' := by
  have hslash : Text.startsWith part "/" = false := h.not_starts (by decide)
  intro hhead
  rw [Text.startsWith] at hslash
  cases hchars : part.toList with
  | nil => rw [hchars] at hhead; cases hhead
  | cons c rest =>
      rw [hchars] at hhead hslash
      obtain rfl := Option.some.inj hhead
      cases hslash

/-- A plain part is no absolute path. -/
theorem PlainPart.relative (h : PlainPart part) : (PurePath.parse part).isAbsolute = false :=
  Posix.parse_relative h.head

/-- No path that the exporter has bound is a plain part. -/
theorem PlainPart.unbound (h : PlainPart part) (bindings : PathBindings) :
    bindings.paths.lookup part = none := by
  rw [List.lookup_eq_none_iff]
  intro binding hbinding
  have hhead := bindings.rooted binding hbinding
  simp only [bne_iff_ne, ne_eq]
  rintro rfl
  exact h.head hhead

/-- The exporter leaves a plain part of a command alone. -/
theorem PlainPart.pseudonymize (h : PlainPart part) (key : List UInt8)
    (bindings : PathBindings) : pseudonymizeArgument key bindings part = .ok part := by
  have hgpu : isGpuIdentity part = false := by
    rw [isGpuIdentity, h.not_starts (by decide), h.not_starts (by decide)]
    rfl
  have hdevice : ¬ (Text.startsWith part "device=" = true ∧
      isGpuIdentity (Text.removePrefix part "device=") = true) := by
    rw [h.not_starts (by decide)]
    rintro ⟨hno, -⟩
    cases hno
  have hrelative : ¬ (PurePath.parse part).isAbsolute = true := by
    rw [h.relative]
    exact Bool.false_ne_true
  unfold pseudonymizeArgument
  simp only [h.unbound bindings, hgpu, Bool.false_eq_true, if_false, if_neg hdevice]
  rw [Result.refuse_of_not fun hroot => hrelative hroot.1,
    Result.refuse_of_not fun hname => hrelative hname.1]
  rfl

/-- The name of an interesting package is plain. -/
theorem plain_of_interesting (h : interestingPackage text = true) : PlainPart text := by
  have hstarts : ∀ start ∈ ["nvidia", "libnvidia", "cuda", "docker-ce", "linux-headers-",
      "kernel-devel-"], Text.startsWith text start = true → PlainPart text := by
    intro start hstart hprefix
    rw [Text.startsWith, List.isPrefixOf_iff_prefix] at hprefix
    have hknown : ∀ start ∈ ["nvidia", "libnvidia", "cuda", "docker-ce", "linux-headers-",
        "kernel-devel-"], PlainPart start := by decide
    obtain ⟨known, hmem, hshort⟩ := hknown start hstart
    exact ⟨known, hmem, hshort.trans hprefix⟩
  have hnames : ∀ name ∈ ["build-essential", "containerd.io", "docker-buildx-plugin",
      "docker-compose-plugin", "gcc", "kernel-devel", "kernel-headers", "make",
      "nvidia-container-toolkit", "kernel-default-devel", "kernel-azure-devel",
      "kernel-64k-devel"], PlainPart name := by decide
  simp only [interestingPackage, Bool.or_eq_true, List.any_eq_true, List.contains_iff_mem] at h
  rcases h with (⟨start, hstart, hprefix⟩ | hname) | hname
  · exact hstarts start hstart hprefix
  · exact hnames text (by simp only [List.mem_cons, List.not_mem_nil, or_false] at hname ⊢; tauto)
  · exact hnames text (by simp only [List.mem_cons, List.not_mem_nil, or_false] at hname ⊢; tauto)

/-! ## Names that can be introduced -/

/-- The part before a separator keeps a start without it. -/
theorem before_first_prefix {start : String} {sep : Char} (hsep : sep ∉ start.toList)
    (h : start.toList <+: text.toList) : start.toList <+: (Text.beforeFirst sep text).toList := by
  obtain ⟨rest, hrest⟩ := h
  rw [Text.beforeFirst, String.toList_ofList, ← hrest]
  have hsplit : ∀ front : List Char, sep ∉ front →
      front <+: (Text.splitFirst sep (front ++ rest)).1 := by
    intro front hfront
    induction front with
    | nil => exact List.nil_prefix
    | cons c front ih =>
        have hc : c ≠ sep := fun heq => hfront (by simp [heq])
        rw [List.cons_append, Text.splitFirst, if_neg hc]
        exact List.prefix_cons_inj c |>.mpr
          (ih fun hmem => hfront (List.mem_cons_of_mem _ hmem))
  exact hsplit start.toList hsep

/-- The part in front of a version is plain where the whole is. -/
theorem PlainPart.beforeFirst (h : PlainPart text) : PlainPart (Text.beforeFirst '=' text) := by
  obtain ⟨start, hstart, hprefix⟩ := h
  have hfree : ∀ start ∈ plainStarts, '=' ∉ start.toList := by decide
  exact ⟨start, hstart, before_first_prefix (hfree start hstart) hprefix⟩

/-- The development package of a SUSE kernel is plain. -/
theorem suse_kernel_devel_plain {kernel target : String}
    (h : suseKernelDevel kernel = some target) :
    PlainPart target := by
  unfold suseKernelDevel at h
  split at h
  · cases h
  · split at h
    · cases h
    · rw [← Option.some.inj h, String.append_assoc, String.append_assoc]
      exact PlainPart.append (by decide : PlainPart "kernel-") _

/-- Every package that a plan may ask for is a plain part. -/
theorem install_target_plain {desired : DesiredState} {audit : HostAudit} {target : String}
    (h : target ∈ packageInstallTargets desired audit) : PlainPart target := by
  have hknown : ∀ name ∈ ["nvidia-open", "cuda-drivers", "nvidia-container-toolkit", "docker-ce",
      "kernel-headers", "build-essential", "gcc", "make"], PlainPart name := by decide
  rw [packageInstallTargets, Text.mem_deduplicate] at h
  simp only [driftedTargets, List.mem_append] at h
  rcases h with (((hdriver | htoolkit) | hdocker) | hheaders) | hcompiler
  · refine hknown target ?_
    unfold driverPackageName at hdriver
    grind
  · exact hknown target (by grind)
  · exact hknown target (by grind)
  · split at hheaders
    · cases hheaders
    · unfold kernelBuildTargets at hheaders
      split at hheaders
      · rw [List.mem_singleton.mp hheaders]
        exact PlainPart.append (by decide : PlainPart "linux-headers-") _
      · have hbuild := List.mem_of_mem_filter hheaders
        rw [rhelBuildDependencies] at hbuild
        split at hbuild
        · exact hknown target (by grind)
        · rcases List.mem_cons.mp hbuild with rfl | hbuild
          · exact PlainPart.append (by decide : PlainPart "kernel-devel-") _
          · exact hknown target (by grind)
      · have hbuild := List.mem_of_mem_filter hheaders
        rw [rhelBuildDependencies] at hbuild
        split at hbuild
        · exact hknown target (by grind)
        · rcases List.mem_cons.mp hbuild with rfl | hbuild
          · exact PlainPart.append (by decide : PlainPart "kernel-devel-") _
          · exact hknown target (by grind)
      · exact suse_kernel_devel_plain (by simpa using hheaders)
      · cases hheaders
  · exact hknown target (by grind)

/-- A name that is tracked for plain targets is a plain part. -/
theorem tracking_name_plain {manager : PackageManager} {targets : List String}
    {kernel name : String} (h : ∀ target ∈ targets, PlainPart target)
    (hname : name ∈ packageTrackingNames manager targets kernel) : PlainPart name := by
  rw [packageTrackingNames, Text.mem_deduplicate, List.mem_map] at hname
  obtain ⟨target, htarget, rfl⟩ := hname
  dsimp only
  split
  · decide
  · exact (h target htarget).beforeFirst

/-- Every name that a snapshot can introduce is plain. -/
theorem introduced_plain {desired : Option DesiredState} {audit : HostAudit}
    {names : List String} (h : introducedPackages desired audit = .ok names) :
    ∀ name ∈ names, PlainPart name := by
  intro name hname
  unfold introducedPackages at h
  split at h
  · next desired manager _ =>
      obtain ⟨tracked, htracked, h⟩ := Result.bind_eq_ok.mp h
      rw [← Result.pure_eq_ok.mp h] at hname
      have hmem := List.mem_of_mem_filter hname
      obtain ⟨policy, hpolicy, htracked⟩ := Result.bind_eq_ok.mp htracked
      have hpolicyPlain : ∀ target ∈ policy, PlainPart target := by
        intro target htarget
        unfold packagePolicyPackageTargets at hpolicy
        split at hpolicy
        · rw [← Result.pure_eq_ok.mp hpolicy] at htarget
          cases htarget
        · obtain ⟨actions, _, hpolicy⟩ := Result.bind_eq_ok.mp hpolicy
          split at hpolicy
          · rw [← Result.pure_eq_ok.mp hpolicy] at htarget
            cases htarget
          · rw [← Result.pure_eq_ok.mp hpolicy] at htarget
            split at htarget
            · rw [List.mem_singleton.mp htarget]
              exact PlainPart.append (by decide : PlainPart "nvidia-driver-pinning-") _
            · cases htarget
      have hnames : ∀ name ∈ packageTrackingNames manager
          (packageInstallTargets desired audit ++ policy) audit.kernel.running,
          PlainPart name := by
        intro name hname
        refine tracking_name_plain ?_ hname
        intro target htarget
        rcases List.mem_append.mp htarget with hinstall | hpin
        · exact install_target_plain hinstall
        · exact hpolicyPlain target hpin
      rw [← Result.pure_eq_ok.mp htracked] at hmem
      split at hmem
      · rw [Text.mem_deduplicate, List.mem_append] at hmem
        rcases hmem with hmem | hclosure
        · exact hnames name hmem
        · have hall : ∀ name ∈ nvidiaContainerToolkitPackageClosure, PlainPart name := by decide
          exact hall name hclosure
      · exact hnames name hmem
  · rw [← Result.pure_eq_ok.mp h] at hname
    cases hname

/-! ## Derived commands -/

variable {manager : PackageManager} {paths paths' removals installs removed : List String}

/-- The exporter turns one argument into another. -/
def Attests (key : List UInt8) (bindings : PathBindings) (argument attested : String) : Prop :=
  pseudonymizeArgument key bindings argument = .ok attested

/-- Plain parts of a command are attested as they are. -/
theorem attests_plain {parts : List String} (h : ∀ part ∈ parts, PlainPart part) :
    List.Forall₂ (Attests key bindings) parts parts :=
  List.forall₂_same.mpr fun part hpart => (h part hpart).pseudonymize key bindings

/-- A part that is written before what follows it. -/
theorem attests_cons {parts parts' : List String} (h : PlainPart part)
    (hparts : List.Forall₂ (Attests key bindings) parts parts') :
    List.Forall₂ (Attests key bindings) (part :: parts) (part :: parts') :=
  .cons (h.pseudonymize key bindings) hparts

/-- The exporter moves the retained files of a derived command and leaves the rest alone. -/
theorem attests_delta_command (hpaths : List.Forall₂ (Attests key bindings) paths paths')
    (hremovals : ∀ part ∈ removals, PlainPart part)
    (hinstalls : manager ≠ .aptGet → ∀ part ∈ installs, PlainPart part)
    (hremoved : manager ≠ .aptGet → ∀ part ∈ removed, PlainPart part) :
    List.Forall₂ (Attests key bindings) (deltaCommand manager paths removals installs removed)
      (deltaCommand manager paths' removals installs removed) := by
  cases manager with
  | aptGet =>
      refine List.rel_append (attests_plain (by decide)) (List.rel_append hpaths
        (attests_plain fun part hpart => ?_))
      obtain ⟨removal, hremoval, rfl⟩ := List.mem_map.mp hpart
      exact (hremovals removal hremoval).append "-"
  | zypper =>
      refine List.rel_append (attests_plain (by decide)) (attests_cons (by decide)
        (List.rel_append hpaths (attests_plain fun part hpart => ?_)))
      obtain ⟨removal, _, rfl⟩ := List.mem_map.mp hpart
      exact plain_dash removal
  | dnf | yum =>
      exact List.rel_append (List.rel_append (List.rel_append (List.rel_append
        (attests_plain (by decide)) hpaths)
        (attests_cons (by decide) (attests_plain hremovals)))
        (attests_cons (by decide) (attests_plain (hinstalls (by decide)))))
        (attests_cons (by decide) (attests_plain (hremoved (by decide))))

/-- The same for the list of derived commands. -/
theorem pseudonymize_delta (hpaths : List.Forall₂ (Attests key bindings) paths paths')
    (hremovals : ∀ part ∈ removals, PlainPart part)
    (hinstalls : manager ≠ .aptGet → ∀ part ∈ installs, PlainPart part)
    (hremoved : manager ≠ .aptGet → ∀ part ∈ removed, PlainPart part) :
    (if paths = [] ∧ removals = [] then []
      else [deltaCommand manager paths removals installs removed]).mapM
        (pseudonymizeCommand key bindings) =
      .ok (if paths' = [] ∧ removals = [] then []
        else [deltaCommand manager paths' removals installs removed]) := by
  have hnil : paths = [] ↔ paths' = [] := by
    rw [← List.length_eq_zero_iff, ← List.length_eq_zero_iff, hpaths.length_eq]
  by_cases hnothing : paths = [] ∧ removals = []
  · rw [if_pos hnothing, if_pos ⟨hnil.mp hnothing.1, hnothing.2⟩]
    rfl
  · rw [if_neg hnothing, if_neg fun hboth => hnothing ⟨hnil.mpr hboth.1, hboth.2⟩, List.mapM_cons,
      pseudonymizeCommand, Result.mapM_eq_ok.mpr (attests_delta_command hpaths hremovals hinstalls
        hremoved)]
    rfl

/-- `_rollback_commands` sorts the removals itself. -/
theorem rollback_commands_sorted {packages : List PackageInfo} {snapshotPath : Option String}
    {payloads : Option PackagePayloadBundle} {options : RollbackCommandOptions} :
    rollbackCommands packages (some manager) (sorted removals.dedup) snapshotPath payloads
        options =
      rollbackCommands packages (some manager) removals snapshotPath payloads options := by
  have hsorted : sorted (sorted removals.dedup).dedup = sorted removals.dedup := by
    rw [(nodup_sorted.mpr (List.nodup_dedup removals)).dedup, sorted_sorted]
  simp only [rollbackCommands, hsorted]

end NvidiaConverge
