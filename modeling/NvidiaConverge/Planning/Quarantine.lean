import NvidiaConverge.Planning.Convergence

/-!
# Planning again under quarantine

`install --apply` masks the four launcher units and then plans once more, on a host where
Docker is inactive and its runtime unobserved. `quarantine_keeps_plan_iff` says what survives:
the second plan is supported and carries out the same transaction exactly when the desired
state leaves Fabric Manager alone, because no planned action repairs the Fabric Manager
findings that the quarantine itself provokes.
-/

namespace NvidiaConverge

/-- The host as the quarantine leaves it: every launcher inactive and masked, and the Docker
runtime unobserved. -/
def HostAudit.quarantined (audit : HostAudit) : HostAudit :=
  { audit with
    launchers := ⟨.quarantined, .quarantined, .quarantined, .quarantined⟩
    runtime := { audit.runtime with dockerGpusUsable := none } }

/-- The actions that change packages, package policy, the module stack or MIG. -/
def isTransactionAction (action : PlanAction) : Bool :=
  action.id == "install.packages" || Text.startsWith action.id "lock." ||
    Text.startsWith action.id "prepare." ||
    ["disable.mig", "enable.mig", "configure.mig-geometry",
      "reconcile.mig-after-module"].contains action.id

variable {desired : DesiredState} {audit : HostAudit}

/-! ## What a supported plan consists of -/

/-- A plan without unsupported actions went past every guard. -/
theorem supported_plan_iff {findings : List Finding} {plan : List PlanAction} :
    (buildPlan desired audit findings = .ok plan ∧ hasUnsupported plan = false) ↔
      planBlocker desired audit findings = none ∧ moduleResetBlocker desired audit = none ∧
        ∃ policyActions, plannedPolicyActions desired audit = .ok policyActions ∧
          hasUnsupported policyActions = false ∧
          policyStagingNeeded desired audit policyActions = false ∧
          plan = hostActions desired audit policyActions ++ dockerActions desired audit ++
            [verifyStackAction] ∧ hasUnsupported plan = false := by
  unfold buildPlan
  cases hblocker : planBlocker desired audit findings with
  | some blocker =>
      have hunsupported := plan_blocker_unsupported hblocker
      simp only [pure, Except.pure, Except.ok.injEq, reduceCtorEq, false_and, iff_false,
        not_and]
      rintro rfl
      simp [hasUnsupported, hunsupported]
  | none =>
      cases hreset : moduleResetBlocker desired audit with
      | some blocker =>
          have hunsupported := module_reset_blocker_unsupported hreset
          simp only [pure, Except.pure, Except.ok.injEq, reduceCtorEq, false_and, and_false,
            iff_false, not_and]
          rintro rfl
          simp [hasUnsupported, hunsupported]
      | none =>
          cases hpolicy : plannedPolicyActions desired audit with
          | error e => simp [bind, Except.bind]
          | ok policyActions =>
              simp only [bind, Except.bind, pure, Except.pure, true_and, Except.ok.injEq,
                exists_eq_left']
              split
              · next hunsupported =>
                  simp only [Except.ok.injEq, hunsupported, Bool.true_eq_false, false_and,
                    iff_false, not_and]
                  rintro rfl
                  simp [hunsupported]
              · next hsupported =>
                  split
                  · next hstaging =>
                      have hstagingAction : hasUnsupported [packagePolicyStaging] = true := by
                        decide
                      simp only [Except.ok.injEq, hstaging, Bool.true_eq_false, false_and,
                        and_false, iff_false, not_and]
                      rintro rfl
                      simp [hstagingAction]
                  · next hstaging =>
                      simp only [Except.ok.injEq, hsupported, hstaging, true_and]
                      exact ⟨fun h => ⟨h.1.symm, h.2⟩, fun h => ⟨h.1.symm, h.2⟩⟩

/-- The Docker actions are outside the transaction. -/
theorem docker_action_ids {action : PlanAction} (h : action ∈ dockerActions desired audit) :
    action.id = "service.docker" ∨ action.id = "configure.docker-runtime" := by
  unfold dockerActions at h
  split at h
  · simp only [List.mem_append, Option.mem_toList] at h
    rcases h with hservice | hconfigure
    · left
      unfold dockerServiceAction at hservice
      repeat' split at hservice
      all_goals first | (cases hservice; rfl) | cases hservice
    · right
      split at hconfigure
      · rw [List.mem_singleton.mp hconfigure]
        rfl
      · cases hconfigure
  · cases h

/-- An action with one of the Docker identifiers is supported and no transaction. -/
theorem docker_id_supported {action : PlanAction}
    (h : action.id = "service.docker" ∨ action.id = "configure.docker-runtime") :
    action.unsupported = false ∧ isTransactionAction action = false := by
  unfold PlanAction.unsupported isTransactionAction
  rcases h with h | h <;> rw [h] <;> decide

/-- The Docker actions and the verification add neither transactions nor refusals. -/
theorem plan_tail (desired : DesiredState) (audit : HostAudit)
    (policyActions : List PlanAction) :
    hasUnsupported (hostActions desired audit policyActions ++ dockerActions desired audit ++
        [verifyStackAction]) = hasUnsupported (hostActions desired audit policyActions) ∧
      (hostActions desired audit policyActions ++ dockerActions desired audit ++
        [verifyStackAction]).filter isTransactionAction =
      (hostActions desired audit policyActions).filter isTransactionAction := by
  have hverify : hasUnsupported [verifyStackAction] = false ∧
      [verifyStackAction].filter isTransactionAction = [] := by decide
  have hunsupported : hasUnsupported (dockerActions desired audit) = false := by
    simp only [hasUnsupported, List.any_eq_false]
    intro action hmem
    simp [(docker_id_supported (docker_action_ids hmem)).1]
  have hfilter : (dockerActions desired audit).filter isTransactionAction = [] := by
    refine List.filter_eq_nil_iff.mpr fun action hmem => ?_
    simp [(docker_id_supported (docker_action_ids hmem)).2]
  constructor
  · simp only [hasUnsupported, List.any_append] at hverify hunsupported ⊢
    simp [hverify.1, hunsupported]
  · simp [List.filter_append, hverify.2, hfilter]

/-! ## What the quarantine leaves unchanged -/

/-- Every action before the Docker ones is the same under quarantine. -/
theorem host_actions_quarantined {policyActions : List PlanAction} :
    hostActions desired audit.quarantined policyActions =
      hostActions desired audit policyActions :=
  rfl

/-- What is remediable stays so: the quarantined Docker service is inactive. -/
theorem remediable_quarantined {findings : List Finding} (h : Remediable findings audit) :
    Remediable findings audit.quarantined := by
  intro finding hmem
  rcases remediable_iff.mp (h finding hmem) with hlisted | ⟨hid, _⟩
  · exact remediable_iff.mpr (.inl hlisted)
  · exact remediable_iff.mpr (.inr ⟨hid, rfl⟩)

/-- A conditional finding with a remediable identifier is remediable. -/
theorem finding_if_remediable {condition : Prop} [Decidable condition] {finding : Finding}
    (h : finding.id ∈ automaticallyRemediableFindings) :
    Remediable (findingIf condition finding) audit := by
  unfold findingIf
  split
  · intro other hmem
    rw [List.mem_singleton.mp hmem]
    exact remediable_iff.mpr (.inl h)
  · simp [Remediable]

/-- Every Docker finding under quarantine is remediable. -/
theorem docker_findings_quarantined :
    Remediable (dockerFindings desired audit.quarantined) audit.quarantined := by
  unfold dockerFindings
  split
  · simp only [Remediable, List.forall_mem_append]
    refine ⟨⟨⟨⟨⟨⟨⟨?_, ?_⟩, ?_⟩, ?_⟩, ?_⟩, ?_⟩, ?_⟩, ?_⟩
    · exact finding_if_remediable (by decide)
    · exact finding_if_remediable (by decide)
    · simp [findingIf, HostAudit.quarantined, UnitState.quarantined]
    · exact finding_if_remediable (by decide)
    · simp [findingIf, HostAudit.quarantined, UnitState.quarantined]
    · exact finding_if_remediable (by decide)
    · exact finding_if_remediable (by decide)
    · intro finding hmem
      unfold findingIf at hmem
      split at hmem
      · rw [List.mem_singleton.mp hmem]
        exact remediable_iff.mpr (.inr ⟨rfl, rfl⟩)
      · cases hmem
  · simp [Remediable]

/-- Without a Fabric Manager profile, nothing becomes unresolved under quarantine. -/
theorem unresolved_quarantined (hfabric : desired.fabricManager = false)
    (h : unresolvedFindings audit (diagnose desired audit) = []) :
    unresolvedFindings audit.quarantined (diagnose desired audit.quarantined) = [] := by
  have hissues := unresolved_eq_nil_iff.mp h
  refine unresolved_eq_nil_iff.mpr ?_
  simp only [issues, List.forall_mem_append] at hissues ⊢
  obtain ⟨⟨⟨⟨⟨⟨⟨⟨⟨⟨⟨hhost, hboot⟩, hopen⟩, hmodule⟩, hdriver⟩, hflavor⟩, huser⟩, _⟩, _⟩, _⟩,
    htransition⟩, hmode⟩ := hissues
  exact ⟨⟨⟨⟨⟨⟨⟨⟨⟨⟨⟨remediable_quarantined hhost, remediable_quarantined hboot⟩,
    remediable_quarantined hopen⟩, remediable_quarantined hmodule⟩,
    remediable_quarantined hdriver⟩, remediable_quarantined hflavor⟩,
    remediable_quarantined huser⟩, docker_findings_quarantined⟩,
    by simp [fabricManagerFindings, hfabric]⟩,
    by simp [fabricManagerVersionFindings, hfabric]⟩,
    remediable_quarantined htransition⟩, remediable_quarantined hmode⟩

/-- With a Fabric Manager profile, the quarantined service itself is an unresolved finding. -/
theorem fabric_manager_unresolved (hfabric : desired.fabricManager = true) :
    unresolvedFindings audit.quarantined (diagnose desired audit.quarantined) ≠ [] := by
  intro h
  have hissues := unresolved_eq_nil_iff.mp h
  have hmem : Finding.fabricManagerInactive ∈ issues desired audit.quarantined := by
    have hinactive : Finding.fabricManagerInactive ∈
        fabricManagerFindings desired audit.quarantined := by
      simp [fabricManagerFindings, hfabric, findingIf, HostAudit.quarantined,
        UnitState.quarantined]
    simp [issues, hinactive]
  exact NeverRemediable.not_remediable (by decide) (hissues _ hmem)

/-- Quarantine keeps the transaction of a supported plan exactly when the desired state does
not ask for Fabric Manager. -/
theorem quarantine_keeps_plan_iff {plan : List PlanAction}
    (hplan : buildPlan desired audit (diagnose desired audit) = .ok plan)
    (hsupported : hasUnsupported plan = false) :
    (∃ replanned, buildPlan desired audit.quarantined (diagnose desired audit.quarantined) =
        .ok replanned ∧ hasUnsupported replanned = false ∧
        replanned.filter isTransactionAction = plan.filter isTransactionAction) ↔
      desired.fabricManager = false := by
  obtain ⟨hblocker, hreset, policyActions, hpolicy, hpolicySupported, hstaging, rfl, _⟩ :=
    supported_plan_iff.mp ⟨hplan, hsupported⟩
  obtain ⟨hpm, hrecipe, hmixed, hmig, hunresolved⟩ := plan_blocker_eq_none.mp hblocker
  constructor
  · rintro ⟨replanned, hreplanned, hreplannedSupported, _⟩
    obtain ⟨hblocker', _⟩ := supported_plan_iff.mp ⟨hreplanned, hreplannedSupported⟩
    obtain ⟨_, _, _, _, hunresolved'⟩ := plan_blocker_eq_none.mp hblocker'
    by_contra hfabric
    exact fabric_manager_unresolved (by simpa using hfabric) hunresolved'
  · intro hfabric
    have hblocker' : planBlocker desired audit.quarantined
        (diagnose desired audit.quarantined) = none :=
      plan_blocker_eq_none.mpr
        ⟨hpm, hrecipe, hmixed, hmig, unresolved_quarantined hfabric hunresolved⟩
    obtain ⟨htail, htransaction⟩ := plan_tail desired audit.quarantined policyActions
    rw [host_actions_quarantined] at htail htransaction
    rw [(plan_tail desired audit policyActions).1] at hsupported
    obtain ⟨hreplanned, hreplannedSupported⟩ := supported_plan_iff.mpr
      ⟨hblocker', hreset, policyActions, hpolicy, hpolicySupported, hstaging, rfl,
        htail.trans hsupported⟩
    exact ⟨_, hreplanned, hreplannedSupported,
      htransaction.trans (plan_tail desired audit policyActions).2.symm⟩

/-- A host whose module works and whose kernel headers are not installed. -/
def bareHost : HostAudit :=
  { convergedHost (some true) (some true) with
    kernel :=
      { (convergedHost (some true) (some true)).kernel with headersInstalled := false } }

/-- The first plan of a host without kernel headers: a snapshot, their installation and the
verification. -/
def bareHostPlan : List PlanAction :=
  [snapshotCurrentState, installPackages {} bareHost, verifyStackAction]

/-- The plan of that host has a package transaction, and the plan under quarantine carries it out
again, as Fabric Manager is not asked for. -/
theorem quarantine_keeps_plan_iff_bare_host :
    bareHostPlan.filter isTransactionAction = [installPackages {} bareHost] ∧
      ((∃ replanned, buildPlan {} bareHost.quarantined
          (diagnose {} bareHost.quarantined) = .ok replanned ∧
          hasUnsupported replanned = false ∧
          replanned.filter isTransactionAction = bareHostPlan.filter isTransactionAction) ↔
        ({} : DesiredState).fabricManager = false) :=
  ⟨by rfl, quarantine_keeps_plan_iff (by rfl) (by decide)⟩

/-- A node whose Fabric Manager is provisioned, running and healthy. -/
def fabricHost : HostAudit :=
  { convergedHost (some true) (some true) with
    packages := [{ name := "nvidia-fabricmanager", version := some "580.95.05-1",
                   manager := some "apt-get", installed := true }]
    launchers :=
      { dockerService :=
          { active := some true, enabled := some true, unitFileState := some .enabled }
        fabricManager :=
          { active := some true, enabled := some true, unitFileState := some .enabled } }
    fabricManagerVersion := some ⟨"580.95.05", driver_text_ne_empty⟩
    fabricManagerApplicable := some true
    fabricManagerHealthy := some true }

/-- The desired state that requires Fabric Manager. -/
def fabricDesired : DesiredState where
  fabricManager := true

/-- On a converged node that requires Fabric Manager the first plan is supported, and the plan
under quarantine is refused because Fabric Manager is inactive and disabled. -/
theorem fabric_manager_replan_refused :
    Accepted fabricDesired ∧
      buildPlan fabricDesired fabricHost (diagnose fabricDesired fabricHost) =
        .ok [verifyStackAction] ∧
      hasUnsupported [verifyStackAction] = false ∧
      buildPlan fabricDesired fabricHost.quarantined
          (diagnose fabricDesired fabricHost.quarantined) =
        .ok [refusal "unsupported.precondition"
          "Cannot safely mutate the host while required preconditions are unresolved."
          ("fabric-manager.inactive: NVIDIA Fabric Manager is inactive; " ++
            "fabric-manager.disabled: NVIDIA Fabric Manager is not enabled at boot")] :=
  ⟨by decide, by rfl, by decide, by rfl⟩

end NvidiaConverge
