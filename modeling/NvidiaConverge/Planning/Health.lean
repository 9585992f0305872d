import NvidiaConverge.Planning.Doctor

/-!
# The hosts that diagnosis accepts

`Healthy` states field by field what a host must look like for `diagnose` to report no error,
with no reference to the findings. `no_errors_iff` is the equivalence; planning results use
it instead of walking through the findings again.
-/

namespace NvidiaConverge

/-- The loaded module and the one on disk have one version, of the desired driver, and the
desired flavor. -/
structure ModuleHealthy (desired : DesiredState) (module : ModuleInfo) : Prop where
  loaded : module.loaded = true
  version : ∃ version, module.version = some version ∧ module.installedVersion = some version ∧
    desired.matchesDriverVersion (some version.val) = true
  openModule : module.openModule = some desired.openKernelModule
  installedOpenModule : module.installedOpenModule = some desired.openKernelModule

/-- The firmware state is known, and the module signatures meet the desired policy. -/
structure SecureBootHealthy (desired : DesiredState) (audit : HostAudit) : Prop where
  observed : audit.kernel.secureBootEnabled ≠ none
  disabled : desired.secureBoot = "disabled" → audit.kernel.secureBootEnabled ≠ some true
  signed : desired.secureBoot = "signed" → audit.module.signed = some true
  installedSigned : desired.secureBoot = "signed" → audit.module.installedSigned = some true

/-- Docker runs, starts at boot and uses the NVIDIA runtime. -/
structure DockerHealthy (audit : HostAudit) : Prop where
  installed : audit.runtime.dockerInstalled = true
  active : audit.launchers.dockerService.active = some true
  enabled : audit.launchers.dockerService.enabled = some true
  toolkit : audit.runtime.nvidiaContainerRuntimeInstalled = true
  runtime : audit.runtime.dockerGpusUsable = some true

/-- Fabric Manager runs, starts at boot, matches the driver, and the fabric is healthy. -/
structure FabricManagerHealthy (desired : DesiredState) (audit : HostAudit) : Prop where
  applicable : audit.fabricManagerApplicable = some true
  installed : fabricManagerPackageInstalled audit.packages = true
  active : audit.launchers.fabricManager.active = some true
  enabled : audit.launchers.fabricManager.enabled = some true
  healthy : audit.fabricManagerHealthy = some true
  version : ∃ version, audit.fabricManagerVersion = some version ∧
    desired.matchesDriverVersion (some version.val) = true ∧
    ∀ loaded, audit.module.version = some loaded → version = loaded

/-- MIG is settled in the desired mode with the desired geometry. -/
structure MigHealthy (desired : DesiredState) (audit : HostAudit) : Prop where
  mode : ∃ mode, audit.migMode = some mode ∧ audit.migModePending = some mode ∧
    mode.value = desired.mig
  capable : desired.mig = "enabled" → audit.migCapable = some true
  complete : audit.migGeometryComplete = true
  full : desired.mig = "enabled" →
    fullMigGeometryMatches audit.migGeometry audit.gpuUuids = true
  device : desired.mig = "enabled" → audit.migDeviceUuids.length = 1
  empty : desired.mig = "disabled" → audit.migGeometry = [] ∧ audit.migDeviceUuids = []

/-- Everything that `diagnose` requires of a host for the desired state. -/
structure Healthy (desired : DesiredState) (audit : HostAudit) : Prop where
  packageManager : audit.packageManager ≠ none
  inventory : audit.packageInventoryComplete = true
  headers : audit.kernel.headersInstalled = true
  compiler : audit.kernel.compiler ≠ none
  secureBoot : SecureBootHealthy desired audit
  openSupport : desired.openKernelModule = true → audit.openKernelModuleSupported = some true
  module : ModuleHealthy desired audit.module
  nvidiaSmi : audit.nvidiaSmi.returncode = some 0
  nvml : audit.nvml.returncode = some 0
  cudaCompat : desired.cudaCompat = "none"
  docker : desired.containerRuntime = "docker" → DockerHealthy audit
  fabricManager : desired.fabricManager = true → FabricManagerHealthy desired audit
  mig : MigHealthy desired audit

/-! ## Every issue is an error -/

/-- Every finding of the list is an error. -/
def AllErrors (findings : List Finding) : Prop :=
  ∀ finding ∈ findings, finding.severity = .error

theorem AllErrors.nil : AllErrors [] := by
  simp [AllErrors]

theorem AllErrors.single {finding : Finding} (h : finding.severity = .error) :
    AllErrors [finding] := by
  simpa [AllErrors] using h

theorem AllErrors.append {first second : List Finding} (hfirst : AllErrors first)
    (hsecond : AllErrors second) : AllErrors (first ++ second) := by
  intro finding hmem
  exact (List.mem_append.mp hmem).elim (hfirst finding) (hsecond finding)

/-- An error that is reported under a condition is a list of errors in either case. -/
theorem AllErrors.ofIf {condition : Prop} [Decidable condition] {finding : Finding}
    (h : finding.severity = .error) : AllErrors (findingIf condition finding) := by
  unfold findingIf
  split
  · exact .single h
  · exact .nil

variable {desired : DesiredState} {audit : HostAudit}

/-- Only errors are reported before the healthy finding is added. -/
theorem issues_are_errors : AllErrors (issues desired audit) := by
  unfold issues
  repeat' with_reducible apply AllErrors.append
  · unfold hostFindings
    repeat' with_reducible apply AllErrors.append
    all_goals exact .ofIf rfl
  · unfold secureBootFindings
    repeat' with_reducible apply AllErrors.append
    all_goals exact .ofIf rfl
  · unfold openSupportFindings
    exact (AllErrors.ofIf rfl).append (.ofIf rfl)
  · unfold moduleVersionFindings
    split
    · exact .single rfl
    · refine ((AllErrors.ofIf rfl).append (.ofIf rfl)).append ?_
      split
      · exact .ofIf rfl
      · exact .nil
  · unfold driverVersionFindings
    split
    · exact .ofIf rfl
    · exact .nil
  · unfold moduleFlavorFindings
    repeat' with_reducible apply AllErrors.append
    all_goals exact .ofIf rfl
  · unfold userspaceFindings
    repeat' with_reducible apply AllErrors.append
    all_goals exact .ofIf rfl
  · unfold dockerFindings
    split
    · repeat' with_reducible apply AllErrors.append
      all_goals exact .ofIf rfl
    · exact .nil
  · unfold fabricManagerFindings
    split
    · repeat' with_reducible apply AllErrors.append
      all_goals exact .ofIf rfl
    · exact .nil
  · unfold fabricManagerVersionFindings
    split
    · split
      · exact .single rfl
      · split
        · exact .single rfl
        · split
          · exact .ofIf rfl
          · exact .nil
    · exact .nil
  · unfold migTransitionFindings
    refine ((AllErrors.ofIf rfl).append (.ofIf rfl)).append ?_
    split
    · exact .single rfl
    · exact .ofIf rfl
    · exact .nil
  · unfold migModeFindings migGeometryFindings
    repeat' split
    all_goals first | exact .single rfl | exact .ofIf rfl | exact .nil

/-- Diagnosis reports no error exactly when no block reports anything. -/
theorem no_errors_iff_issues : NoErrors (diagnose desired audit) ↔ issues desired audit = [] := by
  unfold diagnose
  split
  · next hnil => simpa [NoErrors, hnil] using (by decide : Finding.stackHealthy.severity ≠ .error)
  · next hissues =>
      refine ⟨fun hnone => ?_, fun hnil => absurd hnil hissues⟩
      obtain ⟨finding, hmem⟩ := List.exists_mem_of_ne_nil _ hissues
      exact absurd (issues_are_errors finding hmem) (hnone finding hmem)

/-! ## The blocks, one by one -/

/-- An observation that is neither unknown nor negative is positive. -/
theorem observed_true {observation : Option Bool} :
    observation = some true ↔ observation ≠ some false ∧ observation ≠ none := by
  cases observation with
  | none => simp
  | some value => cases value <;> simp

/-- Nothing is found of the host itself exactly when it has what a convergence needs. -/
theorem host_findings_eq_nil : hostFindings audit = [] ↔
    audit.packageManager ≠ none ∧ audit.packageInventoryComplete = true ∧
      audit.kernel.headersInstalled = true ∧ audit.kernel.compiler ≠ none := by
  simp [hostFindings]

theorem secure_boot_findings_eq_nil :
    secureBootFindings desired audit = [] ↔ SecureBootHealthy desired audit := by
  simp only [secureBootFindings, List.append_eq_nil_iff, finding_if_eq_nil, not_and, not_not,
    ne_eq]
  constructor
  · rintro ⟨⟨⟨hd, hs⟩, hi⟩, ho⟩
    exact ⟨ho, hd, hs, hi⟩
  · rintro ⟨ho, hd, hs, hi⟩
    exact ⟨⟨⟨hd, hs⟩, hi⟩, ho⟩

/-- Nothing is found of the open module's support exactly when it is proven where it is needed. -/
theorem open_support_findings_eq_nil : openSupportFindings desired audit = [] ↔
    (desired.openKernelModule = true → audit.openKernelModuleSupported = some true) := by
  simp only [openSupportFindings, List.append_eq_nil_iff, finding_if_eq_nil, not_and,
    observed_true]
  tauto

/-- The three module blocks together accept exactly the healthy modules. -/
theorem module_findings_eq_nil :
    (moduleVersionFindings audit.module audit = [] ∧
      driverVersionFindings desired audit.module = [] ∧
      moduleFlavorFindings desired audit.module = []) ↔
    ModuleHealthy desired audit.module := by
  constructor
  · rintro ⟨hversion, hdriver, hflavor⟩
    cases hloaded : audit.module.loaded with
    | false => simp [moduleVersionFindings, hloaded] at hversion
    | true =>
        cases hv : audit.module.version with
        | none => simp [moduleVersionFindings, hloaded, hv] at hversion
        | some loaded =>
            cases hi : audit.module.installedVersion with
            | none => simp [moduleVersionFindings, hloaded, hv, hi] at hversion
            | some installed =>
                simp [moduleVersionFindings, hloaded, hv, hi] at hversion
                simp [driverVersionFindings, hv] at hdriver
                simp only [moduleFlavorFindings, List.append_eq_nil_iff,
                  finding_if_eq_nil] at hflavor
                refine ⟨hloaded, ⟨loaded, hv, hversion ▸ hi, hdriver⟩, ?_, ?_⟩
                · cases hopen : desired.openKernelModule <;>
                    rcases hm : audit.module.openModule with _ | _ | _ <;> simp_all
                · cases hopen : desired.openKernelModule <;>
                    rcases hm : audit.module.installedOpenModule with _ | _ | _ <;> simp_all
  · rintro ⟨hloaded, ⟨version, hv, hi, hmatch⟩, hopen, hinstalled⟩
    refine ⟨?_, ?_, ?_⟩
    · simp [moduleVersionFindings, hloaded, hv, hi]
    · simp [driverVersionFindings, hv, hmatch]
    · cases hd : desired.openKernelModule <;>
        simp [moduleFlavorFindings, hloaded, hopen, hinstalled, hd]

/-- Nothing is found of the user space exactly when both probes succeed and no compatibility package
is desired. -/
theorem userspace_findings_eq_nil : userspaceFindings desired audit = [] ↔
    audit.nvidiaSmi.returncode = some 0 ∧ audit.nvml.returncode = some 0 ∧
      desired.cudaCompat = "none" := by
  simp [userspaceFindings]

/-- Nothing is found of Docker exactly when it is healthy where it is desired. -/
theorem docker_findings_eq_nil : dockerFindings desired audit = [] ↔
    (desired.containerRuntime = "docker" → DockerHealthy audit) := by
  unfold dockerFindings
  split
  · next hdocker =>
      simp only [List.append_eq_nil_iff, finding_if_eq_nil, hdocker, forall_const]
      constructor
      · rintro ⟨⟨⟨⟨⟨⟨⟨hinst, ha⟩, hau⟩, he⟩, heu⟩, ht⟩, hr⟩, hru⟩
        have hinst : audit.runtime.dockerInstalled = true := by simpa using hinst
        exact ⟨hinst, observed_true.mpr ⟨ha, hau⟩, observed_true.mpr ⟨he, heu⟩,
          by simpa using ht, observed_true.mpr ⟨hr, fun hnone => hru ⟨hinst, hnone⟩⟩⟩
      · rintro ⟨hinst, ha, he, ht, hr⟩
        simp [hinst, ha, he, ht, hr]
  · next hother => simp [hother]

/-- The two Fabric Manager blocks together accept exactly the healthy fabrics. -/
theorem fabric_manager_findings_eq_nil :
    (fabricManagerFindings desired audit = [] ∧
      fabricManagerVersionFindings desired audit = []) ↔
    (desired.fabricManager = true → FabricManagerHealthy desired audit) := by
  cases hdesired : desired.fabricManager with
  | false => simp [fabricManagerFindings, fabricManagerVersionFindings, hdesired]
  | true =>
      simp only [fabricManagerFindings, hdesired, if_true, List.append_eq_nil_iff,
        finding_if_eq_nil, forall_const]
      constructor
      · rintro ⟨⟨⟨⟨⟨⟨⟨⟨⟨hap, hapu⟩, hinst⟩, ha⟩, hau⟩, he⟩, heu⟩, hh⟩, hhu⟩, hversion⟩
        have hinst : fabricManagerPackageInstalled audit.packages = true := by
          simpa using hinst
        refine ⟨observed_true.mpr ⟨hap, hapu⟩, hinst, observed_true.mpr ⟨ha, hau⟩,
          observed_true.mpr ⟨he, heu⟩, observed_true.mpr ⟨hh, hhu⟩, ?_⟩
        simp only [fabricManagerVersionFindings, hdesired, hinst, and_self, if_true] at hversion
        cases hv : audit.fabricManagerVersion with
        | none => simp [hv] at hversion
        | some version =>
            cases hm : desired.matchesDriverVersion (some version.val) with
            | false => simp [hv, hm] at hversion
            | true =>
                refine ⟨version, rfl, hm, fun loaded hl => ?_⟩
                simpa [hv, hm, hl] using hversion
      · rintro ⟨hap, hinst, ha, he, hh, version, hv, hm, hl⟩
        refine ⟨by simp [hap, hinst, ha, he, hh], ?_⟩
        simp only [fabricManagerVersionFindings, hdesired, hinst, and_self, if_true, hv, hm]
        cases hloaded : audit.module.version with
        | none => simp
        | some loaded => simp [hl loaded hloaded]

/-- The MIG blocks together accept exactly the settled hosts with the desired geometry. -/
theorem mig_findings_eq_nil (hmig : desired.mig = "enabled" ∨ desired.mig = "disabled") :
    (migTransitionFindings desired audit = [] ∧ migModeFindings desired audit = []) ↔
    MigHealthy desired audit := by
  constructor
  · rintro ⟨htransition, hmode⟩
    simp only [migTransitionFindings, List.append_eq_nil_iff, finding_if_eq_nil] at htransition
    obtain ⟨⟨hcap, hcapu⟩, hpending⟩ := htransition
    cases hm : audit.migMode with
    | none => simp [migModeFindings, hm] at hmode
    | some mode =>
        cases hp : audit.migModePending with
        | none => simp [hp] at hpending
        | some pending =>
            have hsettled : pending = mode := by simpa [hp, hm] using hpending
            by_cases hdesired : mode.value = desired.mig
            · simp only [migModeFindings, hm, hdesired, hp, hsettled, ne_eq, not_true,
                if_false, if_true] at hmode
              have hcapable : desired.mig = "enabled" → audit.migCapable = some true :=
                fun h => observed_true.mpr
                  ⟨fun hc => hcap ⟨h, hc⟩, fun hc => hcapu ⟨h, hc⟩⟩
              unfold migGeometryFindings at hmode
              split at hmode
              · simp at hmode
              · next hcomplete =>
                  split at hmode
                  · simp at hmode
                  · next hfull =>
                      split at hmode
                      · simp at hmode
                      · next hdevice =>
                          refine ⟨⟨mode, hm, by rw [hp, hsettled], hdesired⟩, hcapable,
                            by simpa using hcomplete, fun h => by simpa [h] using hfull,
                            fun h => by simpa [h] using hdevice, fun h => ?_⟩
                          simpa [h] using hmode
            · simp [migModeFindings, hm, hdesired] at hmode
  · rintro ⟨⟨mode, hm, hp, hvalue⟩, hcap, hcomplete, hfull, hdevice, hempty⟩
    refine ⟨?_, ?_⟩
    · rcases hmig with h | h <;> simp [migTransitionFindings, hm, hp, h]
      exact observed_true.mp (hcap h)
    · rcases hmig with h | h
      · simp [migModeFindings, migGeometryFindings, hm, hp, hvalue, hcomplete, h, hfull h,
          hdevice h]
      · simp [migModeFindings, migGeometryFindings, hm, hp, hvalue, hcomplete, h, hempty h]

/-- Diagnosis reports no error exactly for the healthy hosts. -/
theorem no_errors_iff (hmig : desired.mig = "enabled" ∨ desired.mig = "disabled") :
    NoErrors (diagnose desired audit) ↔ Healthy desired audit := by
  rw [no_errors_iff_issues]
  simp only [issues, List.append_eq_nil_iff, host_findings_eq_nil,
    secure_boot_findings_eq_nil, open_support_findings_eq_nil, userspace_findings_eq_nil,
    docker_findings_eq_nil]
  constructor
  · rintro ⟨⟨⟨⟨⟨⟨⟨⟨⟨⟨⟨hhost, hboot⟩, hopen⟩, hmodule⟩, hdriver⟩, hflavor⟩, huser⟩, hdocker⟩,
      hfabric⟩, hfabricVersion⟩, htransition⟩, hmode⟩
    exact ⟨hhost.1, hhost.2.1, hhost.2.2.1, hhost.2.2.2, hboot, hopen,
      module_findings_eq_nil.mp ⟨hmodule, hdriver, hflavor⟩, huser.1, huser.2.1, huser.2.2,
      hdocker, fabric_manager_findings_eq_nil.mp ⟨hfabric, hfabricVersion⟩,
      (mig_findings_eq_nil hmig).mp ⟨htransition, hmode⟩⟩
  · intro h
    obtain ⟨hmodule, hdriver, hflavor⟩ := module_findings_eq_nil.mpr h.module
    obtain ⟨hfabric, hfabricVersion⟩ := fabric_manager_findings_eq_nil.mpr h.fabricManager
    obtain ⟨htransition, hmode⟩ := (mig_findings_eq_nil hmig).mpr h.mig
    exact ⟨⟨⟨⟨⟨⟨⟨⟨⟨⟨⟨⟨h.packageManager, h.inventory, h.headers, h.compiler⟩, h.secureBoot⟩,
      h.openSupport⟩, hmodule⟩, hdriver⟩, hflavor⟩, h.nvidiaSmi, h.nvml, h.cudaCompat⟩,
      h.docker⟩, hfabric⟩, hfabricVersion⟩, htransition⟩, hmode⟩

end NvidiaConverge
