import NvidiaConverge.Planning.Health
import NvidiaConverge.Planning.Planner

/-!
# What diagnosis and planning call converged

`verification_only_iff` says when `build_plan` plans nothing but `verify.stack`. The agreement
with `diagnose` is `doctor_planner_agreement`: such a plan is made only for hosts without
errors, and a host without errors and without policy actions gets it exactly when the loaded
and on-disk module signatures agree. The planner compares the signatures unconditionally,
while diagnosis looks at them only under `secure_boot: signed`.
-/

namespace NvidiaConverge

variable {desired : DesiredState} {audit : HostAudit}

/-- The plan consists of `verify.stack` alone. -/
def PlansVerificationOnly (desired : DesiredState) (audit : HostAudit)
    (findings : List Finding) : Prop :=
  ∃ plan, buildPlan desired audit findings = .ok plan ∧ plan.map (·.id) = ["verify.stack"]

/-- The loaded module's signature observation equals the one on disk, when that is known. -/
def SignaturesAgree (module : ModuleInfo) : Prop :=
  module.installedSigned = none ∨ module.signed = module.installedSigned

/-! ## Plans of verification alone -/

/-- A refusal is an unsupported action when its identifier says so. -/
theorem refusal_unsupported {id description reason : String}
    (h : Text.startsWith id "unsupported." = true) :
    (refusal id description reason).unsupported = true :=
  h

theorem unsupported_recipe_unsupported (reason : String) :
    (unsupportedPackageRecipe reason).unsupported = true := by
  show Text.startsWith "unsupported.package-recipe" "unsupported." = true
  decide

/-- Every refusal of a MIG change is an unsupported action. -/
theorem mig_change_blocker_unsupported {blocker : PlanAction}
    (h : migChangeBlocker audit = some blocker) : blocker.unsupported = true := by
  unfold migChangeBlocker at h
  repeat' split at h
  all_goals first | (cases h; exact refusal_unsupported (by decide)) | cases h

/-- Every refusal before planning is an unsupported action. -/
theorem plan_blocker_unsupported {findings : List Finding} {blocker : PlanAction}
    (h : planBlocker desired audit findings = some blocker) : blocker.unsupported = true := by
  unfold planBlocker at h
  split at h
  · cases h
    exact refusal_unsupported (by decide)
  · split at h
    · cases h
      exact unsupported_recipe_unsupported _
    · split at h
      · cases h
        exact refusal_unsupported (by decide)
      · split at h
        · next hmig =>
            cases h
            split at hmig
            · exact mig_change_blocker_unsupported hmig
            · cases hmig
        · split at h
          · cases h
          · cases h
            exact refusal_unsupported (by decide)

/-- Every refusal of a module reset is an unsupported action. -/
theorem module_reset_blocker_unsupported {blocker : PlanAction}
    (h : moduleResetBlocker desired audit = some blocker) : blocker.unsupported = true := by
  unfold moduleResetBlocker at h
  repeat' split at h
  all_goals first | (cases h; exact refusal_unsupported (by decide)) | cases h

/-- An unsupported action is not `verify.stack`. -/
theorem PlanAction.unsupported_ne_verify {action : PlanAction}
    (h : action.unsupported = true) : action.id ≠ "verify.stack" := by
  intro hid
  rw [PlanAction.unsupported, hid] at h
  exact absurd h (by decide)

/-- A plan of `verify.stack` alone has no unsupported action. -/
theorem verification_only_supported {plan : List PlanAction}
    (h : plan.map (·.id) = ["verify.stack"]) : hasUnsupported plan = false := by
  simp only [hasUnsupported, List.any_eq_false]
  intro action hmem hunsupported
  have hid : action.id ∈ plan.map (·.id) := List.mem_map_of_mem hmem
  rw [h, List.mem_singleton] at hid
  exact PlanAction.unsupported_ne_verify hunsupported hid

/-- Without host actions no package is to be installed. -/
theorem host_actions_nil_targets {policyActions : List PlanAction}
    (h : hostActions desired audit policyActions = []) :
    packageInstallTargets desired audit = [] := by
  simp only [hostActions, List.append_eq_nil_iff] at h
  by_contra hne
  simp [packageActions, hne] at h

/-- `build_plan` plans verification alone exactly when nothing blocks planning and no
action before `verify.stack` is needed. -/
theorem verification_only_iff {findings : List Finding} :
    PlansVerificationOnly desired audit findings ↔
      planBlocker desired audit findings = none ∧ moduleResetBlocker desired audit = none ∧
        ∃ policyActions, plannedPolicyActions desired audit = .ok policyActions ∧
          hasUnsupported policyActions = false ∧
          hostActions desired audit policyActions = [] ∧ dockerActions desired audit = [] := by
  unfold PlansVerificationOnly buildPlan
  cases hblocker : planBlocker desired audit findings with
  | some blocker =>
      have hne := PlanAction.unsupported_ne_verify (plan_blocker_unsupported hblocker)
      simp [pure, Except.pure, hne]
  | none =>
      cases hreset : moduleResetBlocker desired audit with
      | some blocker =>
          have hne := PlanAction.unsupported_ne_verify (module_reset_blocker_unsupported hreset)
          simp [pure, Except.pure, hne]
      | none =>
          cases hpolicy : plannedPolicyActions desired audit with
          | error e => simp [bind, Except.bind]
          | ok policyActions =>
              simp only [bind, Except.bind, pure, Except.pure, true_and, Except.ok.injEq,
                exists_eq_left']
              split
              · next hunsupported =>
                  simp only [hunsupported, Bool.true_eq_false, false_and, iff_false]
                  rintro ⟨plan, hplan, hids⟩
                  cases hplan
                  simp [verification_only_supported hids] at hunsupported
              · next hsupported =>
                  split
                  · next hstaging =>
                      constructor
                      · rintro ⟨plan, hplan, hids⟩
                        cases hplan
                        exact absurd hids (by decide)
                      · rintro ⟨_, hhost, _⟩
                        simp [policyStagingNeeded, host_actions_nil_targets hhost] at hstaging
                  · constructor
                    · rintro ⟨plan, hplan, hids⟩
                      cases hplan
                      have hlength := congrArg List.length hids
                      simp only [List.length_map, List.length_append, List.length_cons,
                        List.length_nil] at hlength
                      exact ⟨by simpa using hsupported, List.length_eq_zero_iff.mp (by omega),
                        List.length_eq_zero_iff.mp (by omega)⟩
                    · rintro ⟨_, hhost, hdocker⟩
                      exact ⟨_, rfl, by simp [hhost, hdocker, verifyStackAction]⟩

/-! ## What the recipe guarantees -/

/-- A supported recipe has passed both halves of the recipe check. -/
theorem recipe_supported_iff : packageRecipeError desired audit = none ↔
    desired.cudaCompat = "none" ∧ installedDriverError desired audit = none ∧
      distributionError desired audit = none := by
  unfold packageRecipeError
  split
  · next hcuda => simp [hcuda]
  · next hcuda =>
      cases herror : installedDriverError desired audit with
      | some error => simp
      | none => simpa using fun _ => not_not.mp hcuda

/-- A driver that is ready on disk passes the recipe check only with working userspace. -/
theorem installed_driver_userspace (h : installedDriverError desired audit = none)
    (hready : onDiskReady desired audit.module = true) :
    audit.nvml.returncode = some 0 ∧
      (audit.module.loaded = true → moduleReloadRequired audit.module = false →
        audit.nvidiaSmi.returncode = some 0) := by
  unfold installedDriverError at h
  split at h
  · cases h
  · next hbroken =>
      simp only [hready, true_and, not_or, not_and] at hbroken
      refine ⟨not_not.mp hbroken.1, fun hloaded hreload => ?_⟩
      by_contra hsmi
      exact hbroken.2 hloaded hsmi hreload

/-- Where the recipe is supported, missing kernel headers have an install target. -/
theorem kernel_build_targets_ne_nil (h : distributionError desired audit = none)
    (hheaders : audit.kernel.headersInstalled = false) : kernelBuildTargets audit ≠ [] := by
  unfold distributionError at h
  unfold kernelBuildTargets
  split at h
  · simp
  · split at h
    · cases h
    · split at h
      · cases h
      · split at h
        · cases h
        · next hrelease =>
            have hnine : releaseMajor audit.osVersion ≠ some "9" :=
              fun hnine => hrelease ⟨hnine, hheaders⟩
            simp [rhelBuildDependencies, hnine]
  · cases h
  · split at h
    · cases h
    · split at h
      · cases h
      · split at h
        · cases h
        · next hdevel =>
            obtain ⟨name, hname⟩ := Option.ne_none_iff_exists'.mp hdevel
            simp [hname]
  · cases h

/-- Without install targets every component is present and the module on disk is ready. -/
theorem no_targets (h : packageInstallTargets desired audit = [])
    (hrecipe : distributionError desired audit = none) :
    onDiskReady desired audit.module = true ∧
      audit.runtime.nvidiaContainerRuntimeInstalled = true ∧
      audit.runtime.dockerInstalled = true ∧ audit.kernel.headersInstalled = true ∧
      audit.kernel.compiler ≠ none := by
  rw [packageInstallTargets, Text.deduplicate_eq_nil] at h
  simp only [driftedTargets, List.append_eq_nil_iff] at h
  obtain ⟨⟨⟨⟨hdriver, htoolkit⟩, hdocker⟩, hheaders⟩, hcompiler⟩ := h
  refine ⟨by simpa using hdriver, by simpa using htoolkit, by simpa using hdocker, ?_, ?_⟩
  · by_contra hmissing
    have hmissing : audit.kernel.headersInstalled = false := by simpa using hmissing
    simp only [hmissing, Bool.false_eq_true, if_false] at hheaders
    exact kernel_build_targets_ne_nil hrecipe hmissing hheaders
  · intro hnone
    simp only [hnone, Option.isSome_none, Bool.false_eq_true, if_false] at hcompiler
    split at hcompiler <;> cases hcompiler

/-! ## Unresolved findings -/

/-- Nothing is unresolved exactly when every issue is remediable. -/
theorem unresolved_eq_nil_iff : unresolvedFindings audit (diagnose desired audit) = [] ↔
    ∀ finding ∈ issues desired audit, automaticallyRemediable finding audit = true := by
  simp only [unresolvedFindings, List.filter_eq_nil_iff]
  unfold diagnose
  split
  · next hnil => simp [hnil, Finding.stackHealthy]
  · constructor
    · intro h finding hmem
      simpa [issues_are_errors finding hmem] using h finding hmem
    · intro h finding hmem
      simp [h finding hmem]

/-- The identifiers alone decide remediability, except for an unreadable Docker runtime. -/
theorem remediable_iff {finding : Finding} : automaticallyRemediable finding audit = true ↔
    finding.id ∈ automaticallyRemediableFindings ∨
      (finding.id = "docker.runtime-unknown" ∧
        audit.launchers.dockerService.active = some false) := by
  simp [automaticallyRemediable]

/-- The identifiers that no plan repairs, whatever the host. -/
def NeverRemediable (id : String) : Prop :=
  id ∉ automaticallyRemediableFindings ∧ id ≠ "docker.runtime-unknown"

instance (id : String) : Decidable (NeverRemediable id) :=
  inferInstanceAs (Decidable (_ ∧ _))

/-- A finding that no plan repairs is not remediable. -/
theorem NeverRemediable.not_remediable {finding : Finding} (h : NeverRemediable finding.id) :
    automaticallyRemediable finding audit ≠ true := by
  intro hremediable
  rcases remediable_iff.mp hremediable with hmem | ⟨hid, _⟩
  · exact h.1 hmem
  · exact h.2 hid

/-- A conditional finding that no plan repairs is not reported by a plan that proceeds. -/
theorem not_reported {condition : Prop} [Decidable condition] {finding : Finding} (id : String)
    (hid : finding.id = id) (hnever : NeverRemediable id)
    (h : ∀ other ∈ findingIf condition finding, automaticallyRemediable other audit = true) :
    ¬ condition := by
  intro hcondition
  exact NeverRemediable.not_remediable (hid ▸ hnever) (h finding (by simp [findingIf, hcondition]))

/-- The same for a finding that would be the only one of its block. -/
theorem single_not_reported {finding : Finding} (id : String) (hid : finding.id = id)
    (hnever : NeverRemediable id)
    (h : ∀ other ∈ [finding], automaticallyRemediable other audit = true) : False :=
  NeverRemediable.not_remediable (hid ▸ hnever) (h finding (List.mem_singleton.mpr rfl))

/-- Planning is not blocked exactly when every guard of `build_plan` passes. -/
theorem plan_blocker_eq_none {findings : List Finding} :
    planBlocker desired audit findings = none ↔
      audit.packageManager ≠ none ∧ packageRecipeError desired audit = none ∧
        audit.migMode ≠ some .mixed ∧
        ((migModeChangeRequired desired audit || migGeometryChangeRequired desired audit) = true →
          migChangeBlocker audit = none) ∧
        unresolvedFindings audit findings = [] := by
  unfold planBlocker
  split
  · next hpm => simp [hpm]
  · next hpm =>
      simp only [ne_eq, hpm, not_false_eq_true, true_and]
      cases hrecipe : packageRecipeError desired audit with
      | some error => simp
      | none =>
          simp only [true_and]
          split
          · next hmixed => simp [hmixed]
          · next hmixed =>
              simp only [hmixed, not_false_eq_true, true_and]
              cases hchange :
                  (migModeChangeRequired desired audit || migGeometryChangeRequired desired audit)
              <;> cases hmig : migChangeBlocker audit
              <;> cases hun : unresolvedFindings audit findings <;> simp

/-! ## Plans of verification alone are made for healthy hosts -/

/-- A loaded module that needs no reload looks like the one on disk, where that is known. -/
theorem reload_not_required {module : ModuleInfo} (hloaded : module.loaded = true) :
    moduleReloadRequired module = false ↔
      (module.installedVersion ≠ none → module.version = module.installedVersion) ∧
      (module.installedOpenModule ≠ none → module.openModule = module.installedOpenModule) ∧
      (module.installedSigned ≠ none → module.signed = module.installedSigned) := by
  simp only [moduleReloadRequired, hloaded, Bool.true_and, Bool.or_eq_false_iff,
    Bool.and_eq_false_imp, Option.isSome_iff_ne_none, bne_eq_false_iff_eq, and_assoc]

/-- What readiness on disk means, field by field. -/
theorem on_disk_ready_iff {module : ModuleInfo} : onDiskReady desired module = true ↔
    desired.matchesDriverVersion (module.installedVersion.map Subtype.val) = true ∧
      module.installedOpenModule = some desired.openKernelModule ∧
      (desired.secureBoot = "signed" → module.installedSigned = some true) := by
  simp only [onDiskReady, Bool.and_eq_true, beq_iff_eq, Bool.or_eq_true, bne_iff_ne, ne_eq,
    and_assoc, imp_iff_not_or]

/-- A ready module on disk that is loaded and needs no reload is a healthy module. -/
theorem module_healthy {module : ModuleInfo} (hready : onDiskReady desired module = true)
    (hloaded : module.loaded = true) (hreload : moduleReloadRequired module = false) :
    ModuleHealthy desired module ∧ (desired.secureBoot = "signed" → module.signed = some true) := by
  obtain ⟨hversion, hopen, hsigned⟩ := (reload_not_required hloaded).mp hreload
  obtain ⟨hmatch, hinstalled, hboot⟩ := on_disk_ready_iff.mp hready
  cases hv : module.installedVersion with
  | none => simp [hv, DesiredState.matchesDriverVersion] at hmatch
  | some version =>
      refine ⟨⟨hloaded, ⟨version, ?_, hv, by simpa [hv] using hmatch⟩, ?_, hinstalled⟩, ?_⟩
      · rw [hversion (by simp [hv]), hv]
      · rw [hopen (by simp [hinstalled]), hinstalled]
      · intro hrequired
        rw [hsigned (by simp [hboot hrequired]), hboot hrequired]

/-- Without module actions the module is loaded and needs no reset. -/
theorem module_actions_eq_nil : moduleActions desired audit = [] ↔
    audit.module.loaded = true ∧ moduleResetRequired desired audit = false := by
  unfold moduleActions
  rw [List.append_eq_nil_iff, ite_eq_right_iff, ite_eq_right_iff]
  simp only [List.cons_ne_nil, imp_false, not_or, not_and, Bool.not_eq_false, Bool.not_eq_true]
  exact ⟨And.right, fun h => ⟨fun hreset => by simp [h.2] at hreset, h⟩⟩

/-- Without MIG actions and resets the MIG mode is the desired one, or unknown or mixed. -/
theorem mig_actions_eq_nil (hreset : moduleResetRequired desired audit = false) :
    migActions desired audit = [] ↔
      ¬ (desired.mig = "disabled" ∧ audit.migMode = some .enabled) ∧
      ¬ (desired.mig = "enabled" ∧ audit.migMode = some .disabled) ∧
      migGeometryChangeRequired desired audit = false := by
  have hgeometry : (desired.mig = "enabled" ∧ audit.migMode = some .enabled ∧
      migGeometryChangeRequired desired audit = true) ↔
      migGeometryChangeRequired desired audit = true := by
    refine ⟨fun h => h.2.2, fun h => ?_⟩
    have hparts := h
    simp only [migGeometryChangeRequired, Bool.and_eq_true, beq_iff_eq] at hparts
    exact ⟨hparts.1.1, hparts.1.2, h⟩
  simp [migActions, hreset, hgeometry]

/-- Without Docker actions the service runs, starts at boot and uses the NVIDIA runtime, as
far as these were observed. -/
theorem docker_actions_eq_nil (hruntime : desired.containerRuntime = "docker") :
    dockerActions desired audit = [] ↔
      audit.runtime.dockerGpusUsable = some true ∧
      audit.launchers.dockerService.active ≠ some false ∧
      audit.launchers.dockerService.enabled ≠ some false := by
  by_cases husable : audit.runtime.dockerGpusUsable = some true
  · by_cases hactive : audit.launchers.dockerService.active = some false <;>
      by_cases henabled : audit.launchers.dockerService.enabled = some false <;>
        simp [dockerActions, hruntime, husable, dockerServiceAction, hactive, henabled]
  · simp [dockerActions, hruntime, husable]

/-- All findings of a block can be repaired by a plan on this host. -/
def Remediable (findings : List Finding) (audit : HostAudit) : Prop :=
  ∀ finding ∈ findings, automaticallyRemediable finding audit = true

/-- Without Docker actions, remediable Docker findings are no findings. -/
theorem docker_healthy (hruntime : desired.containerRuntime = "docker")
    (h : Remediable (dockerFindings desired audit) audit)
    (hinstalled : audit.runtime.dockerInstalled = true)
    (htoolkit : audit.runtime.nvidiaContainerRuntimeInstalled = true)
    (husable : audit.runtime.dockerGpusUsable = some true)
    (hactive : audit.launchers.dockerService.active ≠ some false)
    (henabled : audit.launchers.dockerService.enabled ≠ some false) : DockerHealthy audit := by
  simp only [Remediable, dockerFindings, hruntime, if_true, List.forall_mem_append] at h
  obtain ⟨⟨⟨⟨⟨⟨⟨_, _⟩, hstate⟩, _⟩, henablement⟩, _⟩, _⟩, _⟩ := h
  exact ⟨hinstalled,
    observed_true.mpr
      ⟨hactive, not_reported "docker.service-state-unknown" rfl (by decide) hstate⟩,
    observed_true.mpr
      ⟨henabled, not_reported "docker.service-enablement-unknown" rfl (by decide) henablement⟩,
    htoolkit, husable⟩

/-- No plan repairs Fabric Manager, so remediable findings about it are no findings. -/
theorem fabric_manager_healthy (hdesired : desired.fabricManager = true)
    (h : Remediable (fabricManagerFindings desired audit) audit)
    (hversion : Remediable (fabricManagerVersionFindings desired audit) audit) :
    FabricManagerHealthy desired audit := by
  refine fabric_manager_findings_eq_nil.mp ⟨?_, ?_⟩ hdesired
  · simp only [Remediable, fabricManagerFindings, hdesired, if_true,
      List.forall_mem_append] at h
    obtain ⟨⟨⟨⟨⟨⟨⟨⟨hap, hapu⟩, hmissing⟩, hin⟩, hunk⟩, hdis⟩, henu⟩, hun⟩, hunu⟩ := h
    simp only [fabricManagerFindings, hdesired, if_true, List.append_eq_nil_iff,
      finding_if_eq_nil]
    exact ⟨⟨⟨⟨⟨⟨⟨⟨
      not_reported "fabric-manager.not-applicable" rfl (by decide) hap,
      not_reported "fabric-manager.applicability-unknown" rfl (by decide) hapu⟩,
      not_reported "fabric-manager.missing" rfl (by decide) hmissing⟩,
      not_reported "fabric-manager.inactive" rfl (by decide) hin⟩,
      not_reported "fabric-manager.unknown" rfl (by decide) hunk⟩,
      not_reported "fabric-manager.disabled" rfl (by decide) hdis⟩,
      not_reported "fabric-manager.enablement-unknown" rfl (by decide) henu⟩,
      not_reported "fabric-manager.fabric-unhealthy" rfl (by decide) hun⟩,
      not_reported "fabric-manager.fabric-health-unknown" rfl (by decide) hunu⟩
  · refine List.eq_nil_iff_forall_not_mem.mpr fun finding hmem => ?_
    refine NeverRemediable.not_remediable ?_ (hversion finding hmem)
    have hid : finding.id = "fabric-manager.version-unknown" ∨
        finding.id = "fabric-manager.version-mismatch" := by
      unfold fabricManagerVersionFindings at hmem
      split at hmem
      · split at hmem
        · left
          rw [List.mem_singleton.mp hmem]
          rfl
        · right
          split at hmem
          · rw [List.mem_singleton.mp hmem]
            rfl
          · split at hmem
            · unfold findingIf at hmem
              split at hmem
              · rw [List.mem_singleton.mp hmem]
                rfl
              · cases hmem
            · cases hmem
      · cases hmem
    rcases hid with hid | hid <;> rw [hid] <;> decide

/-- Without MIG actions, remediable MIG findings are no findings. -/
theorem mig_healthy (hmig : desired.mig = "enabled" ∨ desired.mig = "disabled")
    (htransition : Remediable (migTransitionFindings desired audit) audit)
    (hmode : Remediable (migModeFindings desired audit) audit)
    (hmixed : audit.migMode ≠ some .mixed)
    (hdisable : ¬ (desired.mig = "disabled" ∧ audit.migMode = some .enabled))
    (henable : ¬ (desired.mig = "enabled" ∧ audit.migMode = some .disabled))
    (hgeometry : migGeometryChangeRequired desired audit = false) :
    MigHealthy desired audit := by
  refine (mig_findings_eq_nil hmig).mp ⟨?_, ?_⟩
  · simp only [Remediable, migTransitionFindings, List.forall_mem_append] at htransition
    simp only [migTransitionFindings, List.append_eq_nil_iff, finding_if_eq_nil]
    refine ⟨⟨not_reported "mig.unsupported" rfl (by decide) htransition.1.1,
      not_reported "mig.capability-unknown" rfl (by decide) htransition.1.2⟩, ?_⟩
    have hrest := htransition.2
    split at hrest
    · exact (single_not_reported "mig.pending-unknown" rfl (by decide) hrest).elim
    · simpa using not_reported "mig.pending-reboot" rfl (by decide) hrest
    · rfl
  · unfold Remediable migModeFindings at hmode
    unfold migModeFindings
    split at hmode
    · exact (single_not_reported "mig.unknown" rfl (by decide) hmode).elim
    · next mode hm =>
        -- A mode that differs would be repaired by the mode change, which `hdisable` and `henable`
        -- rule out.
        have hvalue : mode.value = desired.mig := by
          cases mode with
          | mixed => exact absurd hm hmixed
          | enabled =>
              rcases hmig with h | h
              · exact h.symm
              · exact absurd ⟨h, hm⟩ hdisable
          | disabled =>
              rcases hmig with h | h
              · exact absurd ⟨h, hm⟩ henable
              · exact h.symm
        simp only [hvalue, ne_eq, not_true, if_false] at hmode ⊢
        split at hmode
        · next hpending =>
            rw [if_pos hpending]
            unfold migGeometryFindings at hmode ⊢
            split at hmode
            · exact (single_not_reported "mig.geometry-unobservable" rfl (by decide) hmode).elim
            · next hcomplete =>
                rw [if_neg hcomplete]
                split at hmode
                · next hwrong =>
                    have henabled : mode = .enabled := by
                      cases mode <;> simp_all [MigMode.value]
                    simp [migGeometryChangeRequired, hwrong.1, hwrong.2, hm, henabled] at hgeometry
                · next hright =>
                    rw [if_neg hright]
                    split at hmode
                    · exact (single_not_reported "mig.device-unobservable" rfl (by decide)
                        hmode).elim
                    · next hdevice =>
                        rw [if_neg hdevice]
                        exact finding_if_eq_nil.mpr
                          (not_reported "mig.disabled-with-instances" rfl (by decide) hmode)
        · next hpending => rw [if_neg hpending]

/-- Readiness and running services leave only what no action repairs, which is resolved. -/
theorem verification_only_healthy (hd : Accepted desired)
    (h : PlansVerificationOnly desired audit (diagnose desired audit)) :
    Healthy desired audit := by
  obtain ⟨hblocker, _, _, _, _, hhost, hdocker⟩ := verification_only_iff.mp h
  obtain ⟨hpm, hrecipe, hmixed, _, hunresolved⟩ := plan_blocker_eq_none.mp hblocker
  obtain ⟨hcuda, hinstalled, hdistribution⟩ := recipe_supported_iff.mp hrecipe
  have htargets := host_actions_nil_targets hhost
  simp only [hostActions, List.append_eq_nil_iff] at hhost
  obtain ⟨⟨_, hmodule⟩, hmig⟩ := hhost
  obtain ⟨hloaded, hreset⟩ := module_actions_eq_nil.mp hmodule
  have hreload : moduleReloadRequired audit.module = false := by
    simp only [moduleResetRequired, hloaded, Bool.true_and, Bool.or_eq_false_iff] at hreset
    exact hreset.2
  obtain ⟨hready, htoolkit, hinstall, hheaders, hcompiler⟩ := no_targets htargets hdistribution
  obtain ⟨hnvml, hsmi⟩ := installed_driver_userspace hinstalled hready
  obtain ⟨hmoduleHealthy, hsigned⟩ := module_healthy hready hloaded hreload
  have hf := hd.fields
  obtain ⟨husable, hactive, henabled⟩ := (docker_actions_eq_nil hf.containerRuntime).mp hdocker
  obtain ⟨hdisable, henable, hgeometry⟩ := (mig_actions_eq_nil hreset).mp hmig
  -- what no action repairs is not reported, block by block
  have hres := unresolved_eq_nil_iff.mp hunresolved
  simp only [issues, List.forall_mem_append] at hres
  obtain ⟨⟨⟨⟨⟨⟨⟨⟨⟨⟨⟨hrhost, hrboot⟩, hropen⟩, _⟩, _⟩, _⟩, _⟩, hrdocker⟩, hrfabric⟩, hrversion⟩,
    hrtransition⟩, hrmode⟩ := hres
  simp only [hostFindings, List.forall_mem_append] at hrhost
  simp only [secureBootFindings, List.forall_mem_append] at hrboot
  simp only [openSupportFindings, List.forall_mem_append] at hropen
  exact
    { packageManager := hpm
      inventory := by
        simpa using not_reported "package-inventory.incomplete" rfl (by decide) hrhost.1.1.2
      headers := hheaders
      compiler := hcompiler
      secureBoot :=
        ⟨not_reported "secure-boot.unknown" rfl (by decide) hrboot.2,
         fun hdisabled hon =>
           not_reported "secure-boot.enabled" rfl (by decide) hrboot.1.1.1 ⟨hdisabled, hon⟩,
         hsigned, (on_disk_ready_iff.mp hready).2.2⟩
      openSupport := fun hopen => observed_true.mpr
        ⟨fun hno =>
           not_reported "gpu.open-module-unsupported" rfl (by decide) hropen.1 ⟨hopen, hno⟩,
         fun hno =>
           not_reported "gpu.open-module-support-unknown" rfl (by decide) hropen.2 ⟨hopen, hno⟩⟩
      module := hmoduleHealthy
      nvidiaSmi := hsmi hloaded hreload
      nvml := hnvml
      cudaCompat := hcuda
      docker := fun hruntime =>
        docker_healthy hruntime hrdocker hinstall htoolkit husable hactive henabled
      fabricManager := fun hfabric => fabric_manager_healthy hfabric hrfabric hrversion
      mig := mig_healthy hf.mig hrtransition hrmode hmixed hdisable henable hgeometry }

/-! ## Plans of healthy hosts -/

/-- The module of a healthy host is ready on disk: its version and its flavour are the desired
ones. -/
theorem Healthy.on_disk_ready (h : Healthy desired audit) :
    onDiskReady desired audit.module = true := by
  obtain ⟨version, _, hinstalled, hmatch⟩ := h.module.version
  exact on_disk_ready_iff.mpr ⟨by simpa [hinstalled] using hmatch,
    h.module.installedOpenModule, h.secureBoot.installedSigned⟩

/-- On a healthy host no component drifts, so that no package is to be installed. -/
theorem Healthy.no_targets (h : Healthy desired audit)
    (hruntime : desired.containerRuntime = "docker") :
    packageInstallTargets desired audit = [] := by
  rw [packageInstallTargets, Text.deduplicate_eq_nil]
  have hdocker := h.docker hruntime
  simp [driftedTargets, h.on_disk_ready, hdocker.toolkit, hdocker.installed, h.headers,
    Option.isSome_iff_ne_none.mpr h.compiler]

/-- A healthy module is reset exactly when the signature observations disagree. -/
theorem Healthy.reset_iff (h : Healthy desired audit)
    (hruntime : desired.containerRuntime = "docker") :
    moduleResetRequired desired audit = false ↔ SignaturesAgree audit.module := by
  obtain ⟨version, hloaded, hinstalled, _⟩ := h.module.version
  have hreset : moduleResetRequired desired audit = moduleReloadRequired audit.module := by
    simp [moduleResetRequired, h.module.loaded, h.no_targets hruntime]
  rw [hreset, reload_not_required h.module.loaded]
  simp only [hloaded, hinstalled, h.module.openModule, h.module.installedOpenModule,
    implies_true, true_and, SignaturesAgree, ne_eq, imp_iff_not_or, not_not]

/-- On a healthy host neither the MIG mode nor the MIG geometry has to change. -/
theorem Healthy.no_mig_change (h : Healthy desired audit) :
    migModeChangeRequired desired audit = false ∧
      migGeometryChangeRequired desired audit = false := by
  obtain ⟨mode, hmode, _, hvalue⟩ := h.mig.mode
  constructor
  · cases mode <;> simp_all [migModeChangeRequired, MigMode.value]
  · by_cases henabled : desired.mig = "enabled"
    · simp [migGeometryChangeRequired, h.mig.full henabled]
    · simp [migGeometryChangeRequired, henabled]

/-- Nothing blocks planning for a healthy host. -/
theorem Healthy.not_blocked (h : Healthy desired audit)
    (hmig : desired.mig = "enabled" ∨ desired.mig = "disabled")
    (hrecipe : packageRecipeError desired audit = none) :
    planBlocker desired audit (diagnose desired audit) = none ∧
      moduleResetBlocker desired audit = none := by
  obtain ⟨mode, hmode, _, hvalue⟩ := h.mig.mode
  constructor
  · have hissues := no_errors_iff_issues.mp ((no_errors_iff hmig).mpr h)
    refine plan_blocker_eq_none.mpr ⟨h.packageManager, hrecipe, ?_, ?_, ?_⟩
    · intro hmixed
      cases hmixed.symm.trans hmode
      rcases hmig with hd | hd <;> rw [hd] at hvalue <;> exact absurd hvalue (by decide)
    · simp [h.no_mig_change.1, h.no_mig_change.2]
    · exact unresolved_eq_nil_iff.mpr (by simp [hissues])
  · unfold moduleResetBlocker
    split
    · next hreset =>
        cases hreset.2.symm.trans hmode
        have henabled : desired.mig = "enabled" := hvalue.symm
        obtain ⟨gpuUuid, hgpu⟩ := full_geometry_single_gpu (h.mig.full henabled)
        have hrestorable := full_geometry_restorable (h.mig.full henabled)
        rw [hgpu] at hrestorable
        simp [hgpu, h.mig.complete, hrestorable]
    · rfl

/-- A healthy host without policy actions gets verification alone exactly when the loaded
and on-disk signatures agree. -/
theorem Healthy.verification_only_iff (h : Healthy desired audit) (hd : Accepted desired)
    (hrecipe : packageRecipeError desired audit = none)
    (hlock : lockActions desired audit = .ok []) :
    PlansVerificationOnly desired audit (diagnose desired audit) ↔
      SignaturesAgree audit.module := by
  have hf := hd.fields
  obtain ⟨hblocker, hresetBlocker⟩ := h.not_blocked hf.mig hrecipe
  have hpolicy : plannedPolicyActions desired audit = .ok [] := by
    simp [plannedPolicyActions, hf.kernelPolicy, hlock]
  have hdocker := h.docker hf.containerRuntime
  have hdockerActions : dockerActions desired audit = [] :=
    (docker_actions_eq_nil hf.containerRuntime).mpr
      ⟨hdocker.runtime, by simp [hdocker.active], by simp [hdocker.enabled]⟩
  have hpackages : packageActions desired audit [] = [] := by
    simp [packageActions, h.no_targets hf.containerRuntime]
  have hhost : hostActions desired audit [] = [] ↔ SignaturesAgree audit.module := by
    rw [← h.reset_iff hf.containerRuntime]
    simp only [hostActions, hpackages, List.nil_append, List.append_eq_nil_iff,
      module_actions_eq_nil, h.module.loaded, true_and]
    refine ⟨And.left, fun hreset => ⟨hreset, (mig_actions_eq_nil hreset).mpr ⟨?_, ?_, ?_⟩⟩⟩
    · rintro ⟨hdisabled, henabled⟩
      have hchange := h.no_mig_change.1
      simp [migModeChangeRequired, henabled, hdisabled] at hchange
    · rintro ⟨henabled, hdisabled⟩
      have hchange := h.no_mig_change.1
      simp [migModeChangeRequired, henabled, hdisabled] at hchange
    · exact h.no_mig_change.2
  rw [NvidiaConverge.verification_only_iff]
  simp [hblocker, hresetBlocker, hpolicy, hdockerActions, hasUnsupported, hhost]

/-- Diagnosis and planning agree on converged hosts up to the signature comparison: a plan of
verification alone is made only without errors, and a host without errors and policy actions
gets that plan exactly when its loaded and on-disk module signatures agree. -/
theorem doctor_planner_agreement (hd : Accepted desired)
    (hrecipe : packageRecipeError desired audit = none) :
    (PlansVerificationOnly desired audit (diagnose desired audit) →
      NoErrors (diagnose desired audit)) ∧
    (NoErrors (diagnose desired audit) → lockActions desired audit = .ok [] →
      (PlansVerificationOnly desired audit (diagnose desired audit) ↔
        SignaturesAgree audit.module)) := by
  have hmig := hd.fields.mig
  refine ⟨fun h => (no_errors_iff hmig).mpr (verification_only_healthy hd h), ?_⟩
  intro hhealthy hlock
  exact ((no_errors_iff hmig).mp hhealthy).verification_only_iff hd hrecipe hlock

/-- A converged Ubuntu host with one GPU, whose module signatures are as given. -/
def convergedHost (signed installedSigned : Option Bool) : HostAudit where
  osId := some "ubuntu"
  osVersion := some "24.04"
  packageManager := some .aptGet
  kernel :=
    { running := "6.8.0-60-generic", headersInstalled := true, compiler := some "/usr/bin/gcc"
      secureBootEnabled := some false }
  module :=
    { loaded := true, version := some ⟨"580.95.05", driver_text_ne_empty⟩, openModule := some true
      signed := signed, devices := ["/dev/nvidia0"]
      installedVersion := some ⟨"580.95.05", driver_text_ne_empty⟩, installedOpenModule := some true
      installedSigned := installedSigned }
  runtime :=
    { dockerInstalled := true, nvidiaContainerRuntimeInstalled := true
      dockerGpusUsable := some true }
  packages := []
  nvidiaSmi := { command := ["nvidia-smi"], returncode := some 0 }
  nvml := { command := ["python3"], returncode := some 0 }
  migMode := some .disabled
  launchers :=
    { dockerService :=
        { active := some true, enabled := some true, unitFileState := some .enabled } }
  packagePolicy :=
    { backend := some .aptGet, observable := true
      selectors :=
        [{ identifier := "nvidia-driver-pinning-580", name := "nvidia-driver-pinning-580"
           kind := "package" }] }
  openKernelModuleSupported := some true
  migCapable := some true
  migModePending := some .disabled
  gpuUuids := ["GPU-12345678-1234-1234-1234-123456789abc"]
  migGeometryComplete := true

/-- The desired state that does not require signed modules. -/
def unsignedDesired : DesiredState where
  secureBoot := "disabled"

/-- On a host whose two signature observations are both positive, the errorless diagnosis gives the
plan of verification alone, and that plan gives back the errorless diagnosis. -/
theorem doctor_planner_agreement_converged_host :
    Accepted unsignedDesired ∧
      PlansVerificationOnly unsignedDesired (convergedHost (some true) (some true))
        (diagnose unsignedDesired (convergedHost (some true) (some true))) ∧
      NoErrors (diagnose unsignedDesired (convergedHost (some true) (some true))) := by
  have hd : Accepted unsignedDesired := by decide +kernel
  have hrecipe : packageRecipeError unsignedDesired (convergedHost (some true) (some true)) =
      none := by rfl
  have hhealthy : diagnose unsignedDesired (convergedHost (some true) (some true)) =
      [.stackHealthy] := by decide
  have hnone : NoErrors (diagnose unsignedDesired (convergedHost (some true) (some true))) := by
    rw [hhealthy]
    simp [NoErrors, Finding.stackHealthy]
  have hsigned : SignaturesAgree (convergedHost (some true) (some true)).module :=
    .inr rfl
  obtain ⟨hsound, hcomplete⟩ := doctor_planner_agreement hd hrecipe
  have hverify := (hcomplete hnone rfl).mpr hsigned
  exact ⟨hd, hverify, hsound hverify⟩

/-- A module signed with a key that is not enrolled: `modinfo` shows its signer, the running
kernel tainted it as unverified, and the policy does not ask for signatures. Diagnosis calls
the host healthy, no policy action is needed, and the plan still resets the module stack. -/
theorem unenrolled_signature_replanned :
    ¬ (NoErrors (diagnose unsignedDesired (convergedHost (some false) (some true))) →
      lockActions unsignedDesired (convergedHost (some false) (some true)) = .ok [] →
      PlansVerificationOnly unsignedDesired (convergedHost (some false) (some true))
        (diagnose unsignedDesired (convergedHost (some false) (some true)))) := by
  intro h
  have hhealthy : diagnose unsignedDesired (convergedHost (some false) (some true)) =
      [.stackHealthy] := by decide
  have hlock : lockActions unsignedDesired (convergedHost (some false) (some true)) = .ok [] :=
    rfl
  have hids : (buildPlan unsignedDesired (convergedHost (some false) (some true))
      [.stackHealthy]).map (fun plan => plan.map (·.id)) =
      .ok ["prepare.module", "reconcile.mig-after-module", "verify.stack"] := by rfl
  rw [hhealthy] at h
  obtain ⟨plan, hplan, hverify⟩ := h (by simp [NoErrors, Finding.stackHealthy]) hlock
  rw [hplan] at hids
  simp only [Except.map, hverify] at hids
  exact absurd (Except.ok.inj hids) (by decide)

end NvidiaConverge
