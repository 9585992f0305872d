import NvidiaConverge.Planning.PackagePolicy
import NvidiaConverge.Preflight.AptForward

/-!
# The closure of the forward targets

Which packages a forward transaction may touch, and which ones `_audit_packages` lists.
`forward_allowed_listed` relates the two: whatever a forward check allows is listed, except under
APT for a headers target whose release is cut at a version operator.
-/

namespace NvidiaConverge

/-! ## Allowed names -/

/-- `_TOOLKIT_PACKAGE_CLOSURE`: the packages of the container toolkit. -/
def toolkitPackageClosure : List String :=
  ["libnvidia-container-tools", "libnvidia-container1", "nvidia-container-toolkit",
    "nvidia-container-toolkit-base"]

/-- `_DOCKER_PACKAGE_CLOSURE`: the packages of Docker. -/
def dockerPackageClosure : List String :=
  ["containerd.io", "docker-buildx-plugin", "docker-ce", "docker-ce-cli",
    "docker-ce-rootless-extras", "docker-compose-plugin"]

/-- `[<>=]`: a character that begins a version constraint. -/
def isVersionOperator (c : Char) : Bool :=
  ['<', '>', '='].contains c

/-- `re.split(r"[<>=]", spec, maxsplit=1)[0]`. -/
def targetName (spec : String) : String :=
  String.ofList (spec.toList.takeWhile fun c => !isVersionOperator c)

/-- `_forward_target_names`: the names of the packages that a plan asks for. -/
def forwardTargetNames (manager : PackageManager) (packages : List String) (audit : HostAudit) :
    List String :=
  packages.map fun spec =>
    if (manager = .dnf ∨ manager = .yum) ∧
        targetName spec = "kernel-devel-" ++ audit.kernel.running then "kernel-devel"
    else targetName spec

/-- `kernel-(?:default|azure|64k)-devel`: a headers package of SUSE. -/
def isSuseKernelDevel (name : String) : Bool :=
  ["kernel-default-devel", "kernel-azure-devel", "kernel-64k-devel"].contains name

/-- `_driver_package_dependency`: the package may come with the driver. -/
def driverPackageDependency (name : String) : Bool :=
  if toolkitPackageClosure.contains name ||
      ["cuda-compat-", "cuda-drivers-fabricmanager", "cuda-toolkit", "libnvidia-container",
        "nvidia-container", "nvidia-fabricmanager"].any (Text.startsWith name) then false
  else
    ["cuda-drivers", "nvidia-open"].contains name ||
      ["cuda-drivers-", "nvidia-", "libnvidia-"].any (Text.startsWith name)

/-- `_forward_package_observable`: an audit records the package, and so a snapshot can. -/
def forwardPackageObservable (name : String) (manager : PackageManager) (audit : HostAudit)
    (targets : List String) : Bool :=
  if interestingPackage name = false then false
  else if manager ≠ .aptGet then true
  else
    ["nvidia-", "libnvidia-", "cuda-", "docker-ce"].any (Text.startsWith name) ||
      ["build-essential", "containerd.io", "docker-buildx-plugin", "docker-compose-plugin",
        "nvidia-container-toolkit"].contains name ||
      name == "linux-headers-" ++ audit.kernel.running || targets.contains name

/-- `_forward_package_allowed`: a forward transaction may install the package. -/
def forwardPackageAllowed (name : String) (packages : List String) (manager : PackageManager)
    (audit : HostAudit) : Bool :=
  let targets := forwardTargetNames manager packages audit
  if forwardPackageObservable name manager audit targets = false then false
  else if targets.contains name then true
  else if (targets.contains "cuda-drivers" || targets.contains "nvidia-open") &&
      driverPackageDependency name then true
  else if targets.contains "nvidia-container-toolkit" &&
      toolkitPackageClosure.contains name then true
  else if targets.contains "docker-ce" && dockerPackageClosure.contains name then true
  else if targets.any (Text.startsWith · "linux-headers-") then
    Text.startsWith name "linux-headers-"
  else if targets.contains "kernel-devel" || targets.contains "kernel-headers" then
    ["kernel-devel", "kernel-headers"].contains name || Text.startsWith name "kernel-devel-"
  else if targets.any isSuseKernelDevel then isSuseKernelDevel name
  else false

/-! ## Listed names -/

/-- The name patterns of the `dpkg-query` of `_audit_packages`. -/
def dpkgQueryPatterns (kernel : String) : List String :=
  ["nvidia-*", "libnvidia-*", "cuda-*", "docker-ce*", "containerd.io", "docker-buildx-plugin",
    "docker-compose-plugin", "nvidia-container-toolkit", "linux-headers-" ++ kernel,
    "build-essential"]

/-- Whether a pattern matches a name; the only wildcard is a final `*`. -/
def matchesDpkgPattern (pattern name : String) : Bool :=
  if pattern.toList.getLast? = some '*' then pattern.toList.dropLast.isPrefixOf name.toList
  else pattern == name

/-- Whether `_audit_packages` lists an installed package of a name: the query of the backend
prints it, and `_interesting_package` keeps its row. -/
def auditListed (manager : PackageManager) (kernel name : String) : Bool :=
  interestingPackage name &&
    match manager with
    | .aptGet => (dpkgQueryPatterns kernel).any (matchesDpkgPattern · name)
    | .dnf | .yum | .zypper => true

variable {desired : DesiredState} {audit : HostAudit} {manager : PackageManager} {name : String}

/-- A package that a forward transaction may install is observable. -/
theorem allowed_observable {packages : List String}
    (h : forwardPackageAllowed name packages manager audit = true) :
    forwardPackageObservable name manager audit (forwardTargetNames manager packages audit) =
      true := by
  rw [forwardPackageAllowed] at h
  by_contra hhidden
  rw [if_pos (Bool.eq_false_iff.mpr hhidden)] at h
  cases h

/-- An observable package is one that a snapshot records. -/
theorem observable_interesting {targets : List String}
    (h : forwardPackageObservable name manager audit targets = true) :
    interestingPackage name = true := by
  rw [forwardPackageObservable] at h
  by_contra hother
  rw [if_pos (Bool.eq_false_iff.mpr hother)] at h
  cases h

/-- Under RPM every allowed package is listed. -/
theorem rpm_allowed_listed {packages : List String} (hmanager : manager ≠ .aptGet)
    (h : forwardPackageAllowed name packages manager audit = true) (kernel : String) :
    auditListed manager kernel name = true := by
  have hinteresting := observable_interesting (allowed_observable h)
  cases manager with
  | aptGet => exact absurd rfl hmanager
  | dnf | yum | zypper => simp [auditListed, hinteresting]

/-- The release of a kernel without a version operator. -/
def PlainRelease (kernel : String) : Prop :=
  ∀ c ∈ kernel.toList, isVersionOperator c = false

instance (kernel : String) : Decidable (PlainRelease kernel) :=
  decidable_of_iff ((kernel.toList.all fun c => !isVersionOperator c) = true)
    (by simp [PlainRelease])

/-- A spec without a version operator is a name. -/
theorem target_name_plain {spec : String} (h : PlainRelease spec) : targetName spec = spec := by
  have hall : spec.toList.takeWhile (fun c => !isVersionOperator c) = spec.toList :=
    List.takeWhile_eq_self_iff.mpr fun c hc => by rw [h c hc, Bool.not_false]
  rw [targetName, hall, String.ofList_toList]

/-- The name of a target has no version operator. -/
theorem target_name_is_plain (spec : String) : PlainRelease (targetName spec) := by
  intro c hc
  rw [targetName, String.toList_ofList] at hc
  simpa using List.mem_takeWhile_imp hc

/-- The packages that a plan may ask for on an APT host. -/
theorem apt_target_cases (hmanager : audit.packageManager = some .aptGet) {target : String}
    (h : target ∈ packageInstallTargets desired audit) :
    target ∈ ["nvidia-open", "cuda-drivers", "nvidia-container-toolkit", "docker-ce",
        "build-essential"] ∨
      target = "linux-headers-" ++ audit.kernel.running ∧
        audit.kernel.headersInstalled = false := by
  rw [packageInstallTargets, Text.mem_deduplicate, driftedTargets] at h
  simp only [List.mem_append, hmanager, kernelBuildTargets] at h
  rcases h with (((h | h) | h) | h) | h
  · split at h
    · cases h
    · rw [List.mem_singleton.mp h, driverPackageName]
      split <;> simp
  · split at h
    · cases h
    · rw [List.mem_singleton.mp h]
      simp
  · split at h
    · cases h
    · rw [List.mem_singleton.mp h]
      simp
  · split at h
    · cases h
    · next hmissing => exact .inr ⟨List.mem_singleton.mp h, Bool.eq_false_iff.mpr hmissing⟩
  · split at h
    · cases h
    · rw [if_pos trivial] at h
      rw [List.mem_singleton.mp h]
      simp

/-- A dpkg pattern matches its own text. -/
theorem matches_dpkg_pattern_self (pattern : String) :
    matchesDpkgPattern pattern pattern = true := by
  rw [matchesDpkgPattern]
  split
  · rw [List.isPrefixOf_iff_prefix]
    exact List.dropLast_prefix _
  · exact beq_self_eq_true pattern

/-- A text with a final wildcard matches the names that it starts. -/
theorem matches_dpkg_start (text name : String) :
    matchesDpkgPattern (text ++ "*") name = Text.startsWith name text := by
  have hchars : (text ++ "*").toList = text.toList ++ ['*'] := String.toList_append
  rw [matchesDpkgPattern, hchars, if_pos List.getLast?_concat, List.dropLast_concat,
    Text.startsWith]

/-- A pattern that matches a name without version operators has none. -/
theorem matches_dpkg_pattern_plain {pattern : String} (h : matchesDpkgPattern pattern name = true)
    (hname : PlainRelease name) : PlainRelease pattern := by
  rw [matchesDpkgPattern] at h
  split at h
  · next hlast =>
      intro c hc
      rw [← List.dropLast_append_getLast? _ hlast, List.mem_append] at hc
      rcases hc with hc | hc
      · exact hname c ((List.isPrefixOf_iff_prefix.mp h).subset hc)
      · rw [List.mem_singleton.mp hc]
        decide
  · rw [beq_iff_eq] at h
    rw [h]
    exact hname

/-- The headers target, cut at the first version operator of the release. -/
def cutHeadersName (kernel : String) : String :=
  targetName ("linux-headers-" ++ kernel)

/-- The headers target of a kernel whose release is cut still names headers. -/
theorem cut_headers_name_eq (kernel : String) :
    (cutHeadersName kernel).toList = "linux-headers-".toList ++ (targetName kernel).toList := by
  have hstart : ∀ c ∈ "linux-headers-".toList, (!isVersionOperator c) = true :=
    Text.forall_of_all (by decide)
  have hcut : (cutHeadersName kernel).toList =
      ("linux-headers-".toList ++ kernel.toList).takeWhile fun c => !isVersionOperator c := by
    rw [cutHeadersName, targetName, String.toList_append]
    exact String.toList_ofList
  have hrest : (targetName kernel).toList =
      kernel.toList.takeWhile fun c => !isVersionOperator c := String.toList_ofList
  rw [hcut, hrest, List.takeWhile_append_of_pos hstart]

/-- The query of an APT host does not print the cut target. -/
theorem cut_headers_unlisted {kernel : String} (h : ¬ PlainRelease kernel) :
    auditListed .aptGet kernel (cutHeadersName kernel) = false := by
  have hname : PlainRelease (cutHeadersName kernel) := target_name_is_plain _
  have hpattern : matchesDpkgPattern ("linux-headers-" ++ kernel) (cutHeadersName kernel) =
      false := by
    refine Bool.eq_false_iff.mpr fun hmatch => h ?_
    intro c hc
    exact matches_dpkg_pattern_plain hmatch hname c (by simp [hc])
  have hhead := cut_headers_name_eq kernel
  have hstart : ∀ text ∈ ["nvidia-", "libnvidia-", "cuda-", "docker-ce"],
      matchesDpkgPattern (text ++ "*") (cutHeadersName kernel) = false := by
    intro text hmem
    rw [matches_dpkg_start, Text.startsWith, hhead]
    simp only [List.mem_cons, List.not_mem_nil, or_false] at hmem
    rcases hmem with rfl | rfl | rfl | rfl <;> rfl
  have hexact : ∀ text ∈ ["containerd.io", "docker-buildx-plugin", "docker-compose-plugin",
      "nvidia-container-toolkit", "build-essential"],
      matchesDpkgPattern text (cutHeadersName kernel) = false := by
    intro text hmem
    have hplain : text.toList.getLast? ≠ some '*' ∧ text.toList.head? ≠ some 'l' := by
      revert text
      decide
    rw [matchesDpkgPattern, if_neg hplain.1]
    refine beq_eq_false_iff_ne.mpr fun heq => hplain.2 ?_
    rw [heq, hhead]
    rfl
  rw [auditListed, Bool.and_eq_false_iff]
  refine .inr (List.any_eq_false.mpr fun pattern hmem => Bool.eq_false_iff.mp ?_)
  simp only [dpkgQueryPatterns, List.mem_cons, List.not_mem_nil, or_false] at hmem
  rcases hmem with rfl | rfl | rfl | rfl | rfl | rfl | rfl | rfl | rfl | rfl
  · exact hstart "nvidia-" (by simp)
  · exact hstart "libnvidia-" (by simp)
  · exact hstart "cuda-" (by simp)
  · exact hstart "docker-ce" (by simp)
  · exact hexact "containerd.io" (by simp)
  · exact hexact "docker-buildx-plugin" (by simp)
  · exact hexact "docker-compose-plugin" (by simp)
  · exact hexact "nvidia-container-toolkit" (by simp)
  · exact hpattern
  · exact hexact "build-essential" (by simp)

/-- Whatever the APT check allows is listed, or it is the cut headers target. -/
theorem apt_allowed_listed (hmanager : audit.packageManager = some .aptGet)
    (h : forwardPackageAllowed name (packageInstallTargets desired audit) .aptGet audit = true) :
    auditListed .aptGet audit.kernel.running name = true ∨
      name = cutHeadersName audit.kernel.running ∧ audit.kernel.headersInstalled = false ∧
        ¬ PlainRelease audit.kernel.running := by
  have hobservable := allowed_observable h
  have hinteresting := observable_interesting hobservable
  have hlisted : ∀ pattern ∈ dpkgQueryPatterns audit.kernel.running,
      matchesDpkgPattern pattern name = true →
        auditListed .aptGet audit.kernel.running name = true := by
    intro pattern hmem hmatch
    rw [auditListed, hinteresting, Bool.true_and, List.any_eq_true]
    exact ⟨pattern, hmem, hmatch⟩
  rw [forwardPackageObservable, hinteresting] at hobservable
  simp only [Bool.true_eq_false, if_false, ne_eq, not_true_eq_false, Bool.or_eq_true,
    beq_iff_eq, List.contains_iff_mem] at hobservable
  rcases hobservable with ((hstart | hexact) | hheaders) | htarget
  · obtain ⟨text, hmem, hstarts⟩ := List.any_eq_true.mp hstart
    refine .inl (hlisted (text ++ "*") ?_ (by rw [matches_dpkg_start, hstarts]))
    simp only [List.mem_cons, List.not_mem_nil, or_false] at hmem
    rcases hmem with rfl | rfl | rfl | rfl
    · exact List.mem_cons_self
    · exact List.mem_cons_of_mem _ List.mem_cons_self
    · exact List.mem_cons_of_mem _ (List.mem_cons_of_mem _ List.mem_cons_self)
    · exact List.mem_cons_of_mem _ (List.mem_cons_of_mem _
        (List.mem_cons_of_mem _ List.mem_cons_self))
  · refine .inl (hlisted name ?_ (matches_dpkg_pattern_self name))
    simp only [List.mem_cons, List.not_mem_nil, or_false] at hexact
    rcases hexact with rfl | rfl | rfl | rfl | rfl <;> simp [dpkgQueryPatterns]
  · exact .inl (hlisted name (by simp [dpkgQueryPatterns, hheaders])
      (matches_dpkg_pattern_self name))
  -- The name of an install target is cut at a version operator. Of all targets only the kernel
  -- headers can have one, from the release of the kernel.
  · obtain ⟨spec, hspec, hname⟩ := List.mem_map.mp htarget
    have hname : targetName spec = name := by simpa using hname
    rcases apt_target_cases hmanager hspec with hfixed | ⟨rfl, hmissing⟩
    · have hfixed_plain : ∀ target ∈ ["nvidia-open", "cuda-drivers", "nvidia-container-toolkit",
          "docker-ce", "build-essential"], targetName target = target := by decide
      rw [hfixed_plain spec hfixed] at hname
      subst hname
      simp only [List.mem_cons, List.not_mem_nil, or_false] at hfixed
      rcases hfixed with rfl | rfl | rfl | rfl | rfl
      · exact .inl (hlisted "nvidia-*" (by simp [dpkgQueryPatterns]) (by decide))
      · exact .inl (hlisted "cuda-*" (by simp [dpkgQueryPatterns]) (by decide))
      · exact .inl (hlisted "nvidia-*" (by simp [dpkgQueryPatterns]) (by decide))
      · exact .inl (hlisted "docker-ce*" (by simp [dpkgQueryPatterns]) (by decide))
      · exact .inl (hlisted "build-essential" (by simp [dpkgQueryPatterns]) (by decide))
    · by_cases hplain : PlainRelease audit.kernel.running
      · refine .inl (hlisted ("linux-headers-" ++ audit.kernel.running)
          (by simp [dpkgQueryPatterns]) ?_)
        have hwhole : PlainRelease ("linux-headers-" ++ audit.kernel.running) := by
          intro c hc
          rw [String.toList_append, List.mem_append] at hc
          rcases hc with hc | hc
          · have hheaders : ∀ c ∈ "linux-headers-".toList, isVersionOperator c = false :=
              Text.forall_of_all (by decide)
            exact hheaders c hc
          · exact hplain c hc
        rw [← hname, target_name_plain hwhole]
        exact matches_dpkg_pattern_self _
      · exact .inr ⟨hname.symm, hmissing, hplain⟩

end NvidiaConverge
