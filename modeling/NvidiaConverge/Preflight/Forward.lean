import NvidiaConverge.Preflight.AptSimulation
import NvidiaConverge.Preflight.Tracked

/-!
# Accepted forward transactions

What the forward checks accept for each backend, and which of these transactions a rollback can
undo: `forward_transactions_tracked`.
-/

namespace NvidiaConverge

variable {manager : PackageManager} {audit : HostAudit}

/-! ## Accepted transactions -/

/-- Every target has an observed package of its name. -/
theorem omitted_target_eq_none {packages observedNames : List String} :
    omittedTargetError manager packages audit observedNames = none ↔
      ∀ name ∈ forwardTargetNames manager packages audit, name ∈ observedNames := by
  rw [omittedTargetError]
  by_cases hnone : difference (forwardTargetNames manager packages audit) observedNames = []
  · simp only [hnone, ne_eq, not_true_eq_false, if_false, true_iff]
    exact difference_eq_nil.mp hnone
  · simp only [hnone, ne_eq, not_false_eq_true, if_true, reduceCtorEq, false_iff]
    exact fun hall => hnone (difference_eq_nil.mpr hall)

section Apt

/-- An accepted line adds what it installs and what it removes. -/
theorem parse_apt_line_eq {line : List Char} {installs next : List AptInstall}
    {removals rest : List AptRemoval}
    (h : parseAptLine (installs, removals) line = some (next, rest)) :
    next = installs ++ (installedBy line).toList ∧
      rest = removals ++ (removedBy "Remv" line).toList := by
  unfold parseAptLine at h
  dsimp only at h
  split at h
  · next hinst =>
      -- A line starts with one word only.
      have hnone : removedBy "Remv" line = none := by
        obtain ⟨tail, rfl⟩ := List.isPrefixOf_iff_prefix.mp hinst
        rfl
      simp only [Option.bind_eq_bind, Option.bind_eq_some_iff] at h
      obtain ⟨install, hread, h⟩ := h
      have hinstalled : installedBy line = some install := (if_pos hinst).trans hread
      split at h
      · cases h
      · obtain ⟨rfl, rfl⟩ := Prod.mk.inj (Option.some.inj h)
        simp [hinstalled, hnone]
  · next hinst =>
      have hnone : installedBy line = none := if_neg hinst
      split at h
      · next hremv =>
          simp only [Option.bind_eq_bind, Option.bind_eq_some_iff] at h
          obtain ⟨removal, hread, h⟩ := h
          have hremoved : removedBy "Remv" line = some removal := (if_pos hremv).trans hread
          split at h
          · cases h
          · obtain ⟨rfl, rfl⟩ := Prod.mk.inj (Option.some.inj h)
            simp [hnone, hremoved]
      · next hremv =>
          have hremoved : removedBy "Remv" line = none := if_neg hremv
          obtain ⟨rfl, rfl⟩ := Prod.mk.inj (Option.some.inj h)
          simp [hnone, hremoved]

/-- The lines of an accepted transcript add up. -/
theorem parse_apt_lines_eq {lines : List (List Char)} {installs next : List AptInstall}
    {removals rest : List AptRemoval}
    (h : lines.foldlM parseAptLine (installs, removals) = some (next, rest)) :
    next = installs ++ lines.filterMap installedBy ∧
      rest = removals ++ lines.filterMap (removedBy "Remv") := by
  induction lines generalizing installs removals with
  | nil =>
      obtain ⟨rfl, rfl⟩ := Prod.mk.inj (Option.some.inj h)
      simp
  | cons line lines ih =>
      rw [List.foldlM_cons, Option.bind_eq_bind, Option.bind_eq_some_iff] at h
      obtain ⟨⟨installs', removals'⟩, hline, hrest⟩ := h
      obtain ⟨rfl, rfl⟩ := parse_apt_line_eq hline
      obtain ⟨rfl, rfl⟩ := ih hrest
      constructor
      · cases hread : installedBy line <;> simp [hread]
      · cases hread : removedBy "Remv" line <;> simp [hread]

/-- The parser reads the installs of a transcript, and of its removals the `Remv` lines. -/
theorem parse_apt_transaction_eq {result : CommandResult} {installs : List AptInstall}
    {rawRemovals : List AptRemoval}
    (h : parseAptTransaction result = some (installs, rawRemovals)) :
    installs = transcriptInstalls result ∧ rawRemovals = transcriptRemovals "Remv" result := by
  rw [parseAptTransaction] at h
  split at h
  · cases h
  · exact parse_apt_lines_eq h

variable {result : CommandResult} {native : String} {packages : List String}
  {installs : List AptInstall} {rawRemovals : List AptRemoval}

/-- What the check of an APT transaction accepts. -/
structure AcceptedAptForward (installs : List AptInstall) (rawRemovals : List AptRemoval)
    (packages : List String) (audit : HostAudit) (native : String) : Prop where
  slots : ((currentAptIdentities audit native).map aptSlot).Nodup
  allowed : ∀ install ∈ installs,
    forwardPackageAllowed install.name packages .aptGet audit = true
  bound : ∀ install ∈ installs, install.old =
    (currentAtSlot (currentAptIdentities audit native) install.slot).map (·.2.2)
  removals : ∀ removal ∈ rawRemovals, ∃ identity,
    resolveAptRemoval removal (currentAptIdentities audit native) native = some identity ∧
      aptSlot identity ∈ installs.map AptInstall.slot ∧
      forwardPackageAllowed identity.1 packages .aptGet audit = true
  targets : ∀ name ∈ forwardTargetNames .aptGet packages audit,
    name ∈ installs.map AptInstall.name

/-- An `Inst` line is accepted exactly when its package is allowed and it replaces what is
installed. -/
theorem apt_forward_install_eq_none {current : List AptIdentity} {install : AptInstall} :
    aptForwardInstallError current packages audit install = none ↔
      forwardPackageAllowed install.name packages .aptGet audit = true ∧
        install.old = (currentAtSlot current install.slot).map (·.2.2) := by
  unfold aptForwardInstallError
  by_cases hallowed : forwardPackageAllowed install.name packages .aptGet audit = true
  · cases currentAtSlot current install.slot with
    | none => simp [hallowed]
    | some identity => by_cases hold : install.old = some identity.2.2 <;> simp [hallowed, hold]
  · simp [hallowed]

/-- A `Remv` line is accepted exactly when it means an installed package whose slot is filled
again. -/
theorem apt_forward_removal_eq_none {current : List AptIdentity} {removal : AptRemoval} :
    aptForwardRemovalError current installs packages audit native removal = none ↔
      ∃ identity, resolveAptRemoval removal current native = some identity ∧
        aptSlot identity ∈ installs.map AptInstall.slot ∧
        forwardPackageAllowed identity.1 packages .aptGet audit = true := by
  unfold aptForwardRemovalError
  cases resolveAptRemoval removal current native with
  | none => simp
  | some identity =>
      simp only [Option.some.injEq, exists_eq_left']
      split
      · next hfree => exact iff_of_false (by simp) fun h => hfree h.1
      · next hslot =>
          split
          · next hdenied =>
              refine iff_of_false (by simp) fun h => ?_
              rw [h.2] at hdenied
              cases hdenied
          · next hallowed => exact iff_of_true rfl ⟨not_not.mp hslot, by simpa using hallowed⟩

/-- What the APT check accepts of a transcript. -/
theorem apt_forward_accepted
    (haccepted : aptForwardTransactionError result native packages audit = none) :
    AcceptedAptForward (transcriptInstalls result) (transcriptRemovals "Remv" result) packages audit
      native := by
  unfold aptForwardTransactionError at haccepted
  cases hparsed : parseAptTransaction result with
  | none =>
      rw [hparsed] at haccepted
      cases haccepted
  | some transaction =>
      obtain ⟨installs, rawRemovals⟩ := transaction
      rw [hparsed] at haccepted
      obtain ⟨rfl, rfl⟩ := parse_apt_transaction_eq hparsed
      simp only [] at haccepted
      split at haccepted
      · cases haccepted
      · next hslots =>
          rw [Option.or_eq_none_iff, Option.or_eq_none_iff, List.findSome?_eq_none_iff,
            List.findSome?_eq_none_iff] at haccepted
          obtain ⟨hinstalls, hremovals, hnames⟩ := haccepted
          exact
            { slots := not_not.mp hslots
              allowed := fun install hmem =>
                (apt_forward_install_eq_none.mp (hinstalls install hmem)).1
              bound := fun install hmem =>
                (apt_forward_install_eq_none.mp (hinstalls install hmem)).2
              removals := fun removal hmem =>
                apt_forward_removal_eq_none.mp (hremovals removal hmem)
              targets := omitted_target_eq_none.mp hnames }

/-- The headers target of an APT host whose headers are missing. -/
theorem headers_target_planned {desired : DesiredState}
    (hmanager : audit.packageManager = some .aptGet)
    (hmissing : audit.kernel.headersInstalled = false) :
    cutHeadersName audit.kernel.running ∈
      forwardTargetNames .aptGet (packageInstallTargets desired audit) audit := by
  refine List.mem_map.mpr ⟨"linux-headers-" ++ audit.kernel.running, ?_, by simp [cutHeadersName]⟩
  rw [packageInstallTargets, Text.mem_deduplicate, driftedTargets]
  simp [hmissing, kernelBuildTargets, hmanager]

/-- A slot is filled by an install of the outcome when an `Inst` line of the transcript fills it. -/
theorem mem_installed_slots {identity : AptIdentity} :
    stateSlot (aptState identity) ∈ stateSlot '' (aptOutcome result audit native).installs ↔
      aptSlot identity ∈ (transcriptInstalls result).map AptInstall.slot := by
  rw [List.mem_map]
  constructor
  · rintro ⟨_, ⟨install, hinstall, rfl⟩, heq⟩
    obtain ⟨hname, harchitecture⟩ := Prod.mk.inj heq
    exact ⟨install, hinstall, Prod.ext hname (Option.some.inj harchitecture)⟩
  · rintro ⟨install, hinstall, heq⟩
    obtain ⟨hname, harchitecture⟩ := Prod.mk.inj heq
    exact ⟨aptState install.identity, ⟨install, hinstall, rfl⟩,
      Prod.ext hname (congrArg some harchitecture)⟩

/-- An accepted `Remv` line takes away an audited package of the closure, in a slot that an `Inst`
line fills. -/
theorem AcceptedAptForward.removed
    (h : AcceptedAptForward (transcriptInstalls result) (transcriptRemovals "Remv" result) packages
      audit native)
    {removal : AptRemoval} (hremoval : removal ∈ transcriptRemovals "Remv" result) :
    aptSlot (removedIdentity audit native removal) ∈
        (transcriptInstalls result).map AptInstall.slot := by
  obtain ⟨identity, hresolved, hslot, -⟩ := h.removals removal hremoval
  rwa [removedIdentity, hresolved, Option.getD_some]

/-- An accepted APT transaction is tracked exactly when the headers target was not cut and every
purged package lies in a slot that the transaction fills. -/
theorem AcceptedAptForward.tracked_iff {desired : DesiredState}
    (hmanager : audit.packageManager = some .aptGet)
    (h : AcceptedAptForward (transcriptInstalls result) (transcriptRemovals "Remv" result)
      (packageInstallTargets desired audit) audit native) :
    RollbackTracked .aptGet audit (aptOutcome result audit native) ↔
      (audit.kernel.headersInstalled = true ∨ PlainRelease audit.kernel.running) ∧
        ∀ removal ∈ transcriptRemovals "Purg" result,
          aptSlot (removedIdentity audit native removal) ∈
            (transcriptInstalls result).map AptInstall.slot := by
  constructor
  · intro htracked
    constructor
    -- The check requires an install of the cut headers target, which the inventory never asks for.
    · by_contra hcut
      rw [not_or, Bool.not_eq_true] at hcut
      obtain ⟨install, hinstall, hname⟩ :=
        List.mem_map.mp (h.targets _ (headers_target_planned hmanager hcut.1))
      have hlisted := htracked.listed (aptState install.identity) (.inl ⟨install, hinstall, rfl⟩)
      have hunlisted := cut_headers_unlisted hcut.2
      rw [← hname] at hunlisted
      exact absurd (hlisted.symm.trans hunlisted) (by decide)
    · intro removal hremoval
      exact mem_installed_slots.mp (htracked.inSlots _
        ⟨removal, List.mem_append_right _ hremoval, rfl⟩)
  · rintro ⟨hplain, hpurged⟩
    have hlisted : ∀ install ∈ transcriptInstalls result,
        auditListed .aptGet audit.kernel.running install.name = true := by
      intro install hinstall
      rcases apt_allowed_listed hmanager (h.allowed install hinstall) with
        hlisted | ⟨-, hmissing, hcut⟩
      · exact hlisted
      · rcases hplain with hinstalled | hplain
        · rw [hmissing] at hinstalled
          cases hinstalled
        · exact absurd hplain hcut
    have hslots : ∀ removal ∈
        transcriptRemovals "Remv" result ++ transcriptRemovals "Purg" result,
        aptSlot (removedIdentity audit native removal) ∈
          (transcriptInstalls result).map AptInstall.slot := by
      intro removal hremoval
      rcases List.mem_append.mp hremoval with hremoval | hremoval
      · exact h.removed hremoval
      · exact hpurged removal hremoval
    refine tracked_of_listed ?_ ?_ ?_
    · rintro _ (⟨install, hinstall, rfl⟩ | ⟨removal, hremoval, rfl⟩)
      · exact hlisted install hinstall
      · -- A removed package has the name of the install in its slot.
        obtain ⟨install, hinstall, heq⟩ := List.mem_map.mp (hslots removal hremoval)
        have hname : install.name = (removedIdentity audit native removal).1 :=
          congrArg Prod.fst heq
        exact (congrArg (auditListed .aptGet audit.kernel.running) hname).symm.trans
          (hlisted install hinstall)
    · rintro _ ⟨removal, hremoval, rfl⟩
      exact mem_installed_slots.mpr (hslots removal hremoval)
    · rintro state ⟨install, hinstall, heq⟩
      exact ⟨aptState install.identity, ⟨install, hinstall, rfl⟩, heq⟩

end Apt

section Dnf

variable {result : CommandResult} {packages : List String} {installs removals : List RpmIdentity}

/-- What the check of a DNF transaction accepts. -/
structure AcceptedDnfForward (installs removals : List RpmIdentity) (packages : List String)
    (audit : HostAudit) : Prop where
  allowed : ∀ identity ∈ installs, forwardPackageAllowed identity.1 packages .dnf audit = true
  bound : ∀ identity ∈ removals, identity ∈ audit.packages.filterMap rpmIdentity
  inSlots : ∀ identity ∈ removals, rpmSlot identity ∈ installs.map rpmSlot
  removable : ∀ identity ∈ removals,
    forwardPackageAllowed identity.1 packages .dnf audit = true
  targets : ∀ name ∈ forwardTargetNames .dnf packages audit, name ∈ installs.map (·.1)

/-- The check of a DNF transaction accepts exactly that. -/
theorem dnf_forward_accepted_iff
    (hparsed : parseDnfForwardTransaction result = some (installs, removals)) :
    dnfForwardTransactionError result packages audit = none ↔
      AcceptedDnfForward installs removals packages audit := by
  have hinstall : ∀ identity, dnfForwardInstallError packages audit identity = none ↔
      forwardPackageAllowed identity.1 packages .dnf audit = true := by
    intro identity
    rw [dnfForwardInstallError]
    by_cases hallowed : forwardPackageAllowed identity.1 packages .dnf audit = true <;>
      simp [hallowed]
  have hremoval : ∀ identity, dnfForwardRemovalError installs packages audit identity = none ↔
      identity ∈ audit.packages.filterMap rpmIdentity ∧
        rpmSlot identity ∈ installs.map rpmSlot ∧
        forwardPackageAllowed identity.1 packages .dnf audit = true := by
    intro identity
    rw [dnfForwardRemovalError]
    split
    · next hfree => exact iff_of_false (by simp) fun h => hfree h.1
    · next hbound =>
        split
        · next hfree => exact iff_of_false (by simp) fun h => hfree h.2.1
        · next hslot =>
            split
            · next hdenied =>
                refine iff_of_false (by simp) fun h => ?_
                rw [h.2.2] at hdenied
                cases hdenied
            · next hallowed =>
                exact iff_of_true rfl
                  ⟨not_not.mp hbound, not_not.mp hslot, by simpa using hallowed⟩
  rw [dnfForwardTransactionError, hparsed]
  simp only []
  rw [Option.or_eq_none_iff, Option.or_eq_none_iff, List.findSome?_eq_none_iff,
    List.findSome?_eq_none_iff]
  simp only [hinstall, hremoval, omitted_target_eq_none]
  constructor
  · rintro ⟨hinstalls, hremovals, hnames⟩
    exact
      { allowed := hinstalls
        bound := fun identity hmem => (hremovals identity hmem).1
        inSlots := fun identity hmem => (hremovals identity hmem).2.1
        removable := fun identity hmem => (hremovals identity hmem).2.2
        targets := hnames }
  · intro h
    exact ⟨h.allowed, fun identity hmem => ⟨h.bound identity hmem, h.inSlots identity hmem,
      h.removable identity hmem⟩, h.targets⟩

/-- A DNF transaction that is accepted leaves nothing that a rollback does not track. -/
theorem AcceptedDnfForward.tracked (h : AcceptedDnfForward installs removals packages audit) :
    RollbackTracked .dnf audit (dnfOutcome installs removals) := by
  refine tracked_of_listed ?_ ?_ ?_
  · rintro _ (⟨identity, hmem, rfl⟩ | ⟨identity, hmem, rfl⟩)
    · exact rpm_allowed_listed (by decide) (h.allowed identity hmem) _
    · exact rpm_allowed_listed (by decide) (h.removable identity hmem) _
  · rintro _ ⟨identity, hmem, rfl⟩
    obtain ⟨install, hinstall, heq⟩ := List.mem_map.mp (h.inSlots identity hmem)
    obtain ⟨hname, harchitecture⟩ : install.1 = identity.1 ∧ install.2.1 = identity.2.1 :=
      Prod.mk.inj heq
    refine ⟨rpmState install, ⟨install, hinstall, rfl⟩, ?_⟩
    show (install.1, some install.2.1) = (identity.1, some identity.2.1)
    rw [hname, harchitecture]
  · rintro state ⟨⟩

end Dnf

section Zypper

variable {packages : List String} {actions : List (ZypperAction × ZypperIdentity)}

/-- What the check of a Zypper summary accepts. -/
structure AcceptedZypperForward (actions : List (ZypperAction × ZypperIdentity))
    (packages : List String) (audit : HostAudit) : Prop where
  allowed : ∀ entry ∈ actions, forwardPackageAllowed entry.2.1 packages .zypper audit = true
  bound : ∀ entry ∈ actions, entry.1 = .remove →
    entry.2 ∈ audit.packages.filterMap zypperInventoryIdentity
  inSlots : ∀ entry ∈ actions, entry.1 = .remove →
    ∃ change ∈ actions, change.1 ≠ .remove ∧ zypperSlot change.2 = zypperSlot entry.2
  changes : ∀ entry ∈ actions, entry.1 ≠ .remove → entry.1.keepsArchitecture = true ∧
    (entry.1 = .reinstall → entry.2 ∈ audit.packages.filterMap zypperInventoryIdentity) ∧
    (entry.1 = .upgrade ∨ entry.1 = .downgrade →
      ((audit.packages.filterMap zypperInventoryIdentity).dedup.filter fun other =>
        zypperSlot other = zypperSlot entry.2).length = 1)
  targets : ∀ name ∈ forwardTargetNames .zypper packages audit,
    ∃ entry ∈ actions, entry.1 ≠ .remove ∧ entry.2.1 = name

/-- An action of a summary is accepted exactly when its package is allowed and it fits what is
installed. -/
theorem zypper_forward_action_eq_none {entry : ZypperAction × ZypperIdentity} :
    zypperForwardActionError actions packages audit entry = none ↔
      forwardPackageAllowed entry.2.1 packages .zypper audit = true ∧
        (entry.1 = .remove → entry.2 ∈ audit.packages.filterMap zypperInventoryIdentity ∧
          ∃ change ∈ actions, change.1 ≠ .remove ∧ zypperSlot change.2 = zypperSlot entry.2) ∧
        (entry.1 ≠ .remove → entry.1.keepsArchitecture = true ∧
          (entry.1 = .reinstall → entry.2 ∈ audit.packages.filterMap zypperInventoryIdentity) ∧
          (entry.1 = .upgrade ∨ entry.1 = .downgrade →
            ((audit.packages.filterMap zypperInventoryIdentity).dedup.filter fun other =>
              zypperSlot other = zypperSlot entry.2).length = 1)) := by
  obtain ⟨action, identity⟩ := entry
  have hslots : zypperSlot identity ∈ (actions.filter (·.1 ≠ .remove)).map (zypperSlot ·.2) ↔
      ∃ change ∈ actions, change.1 ≠ .remove ∧ zypperSlot change.2 = zypperSlot identity := by
    simp only [List.mem_map, List.mem_filter, decide_eq_true_eq, and_assoc]
  unfold zypperForwardActionError
  simp only [hslots, List.mem_dedup, ZypperAction.changesArchitecture]
  by_cases hallowed : forwardPackageAllowed identity.1 packages .zypper audit = true
  · rw [if_neg (by simp [hallowed])]
    simp only [hallowed, true_and]
    cases action with
    | remove =>
        by_cases hbound : identity ∈ audit.packages.filterMap zypperInventoryIdentity
        · by_cases htaken : ∃ change ∈ actions, change.1 ≠ .remove ∧
            zypperSlot change.2 = zypperSlot identity
          · simp only [hbound, htaken, not_true_eq_false, if_false, if_true, ne_eq, imp_self,
              false_implies, and_true]
          · simp only [hbound, htaken, not_true_eq_false, if_false, if_true, true_and, ne_eq,
              forall_const, false_implies, and_true, not_false_eq_true, reduceCtorEq]
        · simp only [hbound, if_true, not_false_eq_true, reduceCtorEq, false_and, forall_const]
    | changeArch | downgradeChangeArch | upgradeChangeArch =>
        simp [ZypperAction.keepsArchitecture]
    | install => simp [ZypperAction.keepsArchitecture]
    | reinstall =>
        by_cases hbound : identity ∈ audit.packages.filterMap zypperInventoryIdentity
        · simp [ZypperAction.keepsArchitecture, hbound]
        · simp [ZypperAction.keepsArchitecture, hbound]
    | upgrade | downgrade =>
        simp [ZypperAction.keepsArchitecture]
  · rw [if_pos (by simpa using hallowed)]
    simp [hallowed]

/-- The check of a Zypper summary accepts exactly that. -/
theorem zypper_forward_accepted_iff {parseXml : String → Option XmlElement}
    {result : CommandResult} (hparsed : parseZypperTransaction parseXml result = some actions) :
    zypperForwardTransactionError parseXml result packages audit = none ↔
      AcceptedZypperForward actions packages audit := by
  have hnames : ∀ name, name ∈ (actions.filter (·.1 ≠ .remove)).map (·.2.1) ↔
      ∃ entry ∈ actions, entry.1 ≠ .remove ∧ entry.2.1 = name := by
    intro name
    simp only [List.mem_map, List.mem_filter, decide_eq_true_eq, and_assoc]
  rw [zypperForwardTransactionError, hparsed]
  simp only []
  rw [Option.or_eq_none_iff, List.findSome?_eq_none_iff]
  simp only [zypper_forward_action_eq_none, omitted_target_eq_none, hnames]
  constructor
  · rintro ⟨hactions, htargets⟩
    exact
      { allowed := fun entry hmem => (hactions entry hmem).1
        bound := fun entry hmem hremove => ((hactions entry hmem).2.1 hremove).1
        inSlots := fun entry hmem hremove => ((hactions entry hmem).2.1 hremove).2
        changes := fun entry hmem hchange => (hactions entry hmem).2.2 hchange
        targets := htargets }
  · intro h
    exact ⟨fun entry hmem => ⟨h.allowed entry hmem,
      fun hremove => ⟨h.bound entry hmem hremove, h.inSlots entry hmem hremove⟩,
      h.changes entry hmem⟩, h.targets⟩

/-- A Zypper summary that is accepted leaves nothing that a rollback does not track. -/
theorem AcceptedZypperForward.tracked (h : AcceptedZypperForward actions packages audit) :
    RollbackTracked .zypper audit (zypperOutcome actions) := by
  refine tracked_of_listed ?_ ?_ ?_
  · rintro _ (⟨entry, hmem, -, rfl⟩ | ⟨entry, hmem, -, rfl⟩) <;>
      exact rpm_allowed_listed (by decide) (h.allowed entry hmem) _
  · rintro _ ⟨entry, hmem, hremove, rfl⟩
    obtain ⟨change, hchange, hne, heq⟩ := h.inSlots entry hmem hremove
    obtain ⟨hname, harchitecture⟩ : change.2.1 = entry.2.1 ∧ change.2.2.2 = entry.2.2.2 :=
      Prod.mk.inj heq
    refine ⟨zypperState change.2, ⟨change, hchange, hne, rfl⟩, ?_⟩
    show (change.2.1, some change.2.2.2) = (entry.2.1, some entry.2.2.2)
    rw [hname, harchitecture]
  · rintro state ⟨entry, hmem, hkind, heq⟩
    refine ⟨zypperState entry.2, ⟨entry, hmem, fun hremove => ?_, rfl⟩, heq⟩
    rw [hremove] at hkind
    revert hkind
    decide

end Zypper

/-- An accepted transaction is tracked by a rollback under DNF and Zypper, and under APT exactly
when the headers are installed already or the release of the kernel has no version operator, and
every package that a `Purg` line of the transcript takes away lies in a slot that an `Inst` line
fills. -/
theorem forward_transactions_tracked (desired : DesiredState) (audit : HostAudit)
    (result : CommandResult) :
    (∀ native, audit.packageManager = some .aptGet →
      aptForwardTransactionError result native (packageInstallTargets desired audit) audit = none →
      (RollbackTracked .aptGet audit (aptOutcome result audit native) ↔
        (audit.kernel.headersInstalled = true ∨ PlainRelease audit.kernel.running) ∧
          ∀ removal ∈ transcriptRemovals "Purg" result,
            aptSlot (removedIdentity audit native removal) ∈
              (transcriptInstalls result).map AptInstall.slot)) ∧
    (∀ installs removals, parseDnfForwardTransaction result = some (installs, removals) →
      dnfForwardTransactionError result (packageInstallTargets desired audit) audit = none →
      RollbackTracked .dnf audit (dnfOutcome installs removals)) ∧
    ∀ parseXml actions, parseZypperTransaction parseXml result = some actions →
      zypperForwardTransactionError parseXml result (packageInstallTargets desired audit) audit =
        none →
      RollbackTracked .zypper audit (zypperOutcome actions) := by
  refine ⟨?_, ?_, ?_⟩
  · intro native hmanager haccepted
    exact (apt_forward_accepted haccepted).tracked_iff hmanager
  · intro installs removals hparsed haccepted
    exact ((dnf_forward_accepted_iff hparsed).mp haccepted).tracked
  · intro parseXml actions hparsed haccepted
    exact ((zypper_forward_accepted_iff hparsed).mp haccepted).tracked

/-! ### A host without kernel headers -/

/-- A host with a driver on disk, a container runtime and a compiler, but without the headers of
its kernel. -/
def headerlessHost (release : String) : HostAudit where
  osId := some "ubuntu"
  osVersion := some "24.04"
  packageManager := some .aptGet
  kernel := { running := release, headersInstalled := false, compiler := some "/usr/bin/gcc" }
  module :=
    { loaded := false, installedVersion := some ⟨"580.95.05", driver_text_ne_empty⟩
      installedOpenModule := some true }
  runtime := { dockerInstalled := true, nvidiaContainerRuntimeInstalled := true }
  packages := []
  nvidiaSmi := { command := ["nvidia-smi"], returncode := some 0 }
  nvml := { command := ["python3"], returncode := some 0 }
  migMode := none

/-- A desired state that the driver on disk meets in any boot mode. -/
def anyBootDesired : DesiredState where
  secureBoot := "disabled"

/-- A host that runs a kernel of Ubuntu 24.04 without its headers. -/
def ubuntuHost : HostAudit :=
  headerlessHost "6.8.0-60-generic"

/-- The headers package of the kernel of that host. -/
def ubuntuHeaders : AptInstall where
  name := "linux-headers-6.8.0-60-generic"
  architecture := "amd64"
  version := "6.8.0-60.63"
  old := none

/-- The line that installs the headers package. -/
def headersLine : SimulationLine :=
  .inst ubuntuHeaders false ["Ubuntu:24.04/noble-updates".toList] []

/-- The headers of an earlier kernel, which APT removes with their configuration when its own
configuration asks for both. -/
def autoremovedLine : SimulationLine :=
  .purg ("linux-headers-6.8.0-40-generic", "amd64", "6.8.0-40.40") false []

/-- The simulation of an installation that prints some lines. -/
def simulatedInstallation (lines : List SimulationLine) : CommandResult where
  command := ["apt-get", "--simulate", "install"]
  returncode := some 0
  stdout := printedSimulation lines

/-- The line of the headers and the line of an autoremoval are lines that APT prints. -/
theorem ubuntu_lines_well_formed {lines : List SimulationLine}
    (h : ∀ line ∈ lines, line = headersLine ∨ line = autoremovedLine) :
    (∀ line ∈ lines, line.WellFormed) ∧ ∀ line ∈ lines, line.listsBroken = false := by
  constructor
  · intro line hline
    rcases h line hline with rfl | rfl
    · refine ⟨show isAptName ubuntuHeaders.name.toList = true by decide,
        show isAptArchitecture "amd64".toList = true by decide, ?_, ?_, ?_, ?_⟩
      · exact ⟨by decide, Text.forall_of_all (by decide)⟩
      · intro old hold
        cases hold
      · intro word hword
        rw [List.mem_singleton.mp hword]
        exact ⟨by decide, Text.forall_of_all (by decide)⟩
      · intro packages hpackages
        cases hpackages
    · refine ⟨by decide, by decide, ⟨by decide, Text.forall_of_all (by decide)⟩, ?_⟩
      intro packages hpackages
      cases hpackages
  · intro line hline
    rcases h line hline with rfl | rfl <;> rfl

/-- The parser reads the installation of the headers alone. -/
theorem ubuntu_transcript_parsed {lines : List SimulationLine}
    (hlines : lines = [headersLine] ∨ lines = [headersLine, autoremovedLine]) :
    parseAptTransaction (simulatedInstallation lines) = some ([ubuntuHeaders], []) := by
  have hknown : ∀ line ∈ lines, line = headersLine ∨ line = autoremovedLine := by
    rcases hlines with rfl | rfl <;> simp
  obtain ⟨hwell, hbroken⟩ := ubuntu_lines_well_formed hknown
  have hinstalls : simulatedInstalls lines = [ubuntuHeaders] := by
    rcases hlines with rfl | rfl <;> rfl
  rw [← hinstalls]
  refine parse_printed_simulation hwell hbroken ?_ ?_ rfl
  · rw [hinstalls]
    exact List.nodup_singleton _
  · rcases hlines with rfl | rfl <;> decide +kernel

/-- The check accepts the installation with and without the autoremoval. -/
theorem ubuntu_transcript_accepted {lines : List SimulationLine}
    (hlines : lines = [headersLine] ∨ lines = [headersLine, autoremovedLine]) :
    aptForwardTransactionError (simulatedInstallation lines) "amd64"
      (packageInstallTargets anyBootDesired ubuntuHost) ubuntuHost = none := by
  rw [aptForwardTransactionError, ubuntu_transcript_parsed hlines]
  decide

/-- The installation of the headers alone removes no package. -/
theorem ubuntu_transcript_removals :
    transcriptRemovals "Remv" (simulatedInstallation [headersLine]) = [] ∧
      transcriptRemovals "Purg" (simulatedInstallation [headersLine]) = [] := by
  rw [transcriptRemovals, transcriptRemovals, simulatedInstallation, split_printed_simulation
    (ubuntu_lines_well_formed (by simp)).1]
  decide

/-- The installation of the headers alone is tracked. -/
theorem forward_transactions_tracked_headers :
    RollbackTracked .aptGet ubuntuHost
      (aptOutcome (simulatedInstallation [headersLine]) ubuntuHost "amd64") := by
  refine ((forward_transactions_tracked anyBootDesired ubuntuHost
    (simulatedInstallation [headersLine])).1 "amd64" rfl
      (ubuntu_transcript_accepted (.inl rfl))).mpr
        ⟨.inr (Text.forall_of_all (by decide)), ?_⟩
  simp [ubuntu_transcript_removals.2]

/-- The headers of the earlier kernel are removed unseen: the transcript is accepted, the audit
would not list them, and nothing is installed in their slot. -/
theorem purged_headers_not_tracked :
    parseAptTransaction (simulatedInstallation [headersLine, autoremovedLine]) =
        some ([ubuntuHeaders], []) ∧
      aptForwardTransactionError (simulatedInstallation [headersLine, autoremovedLine]) "amd64"
          (packageInstallTargets anyBootDesired ubuntuHost) ubuntuHost = none ∧
      auditListed .aptGet ubuntuHost.kernel.running "linux-headers-6.8.0-40-generic" = false ∧
      ¬ RollbackTracked .aptGet ubuntuHost
        (aptOutcome (simulatedInstallation [headersLine, autoremovedLine]) ubuntuHost "amd64") := by
  have hremoved : transcriptRemovals "Purg"
      (simulatedInstallation [headersLine, autoremovedLine]) =
        [⟨"linux-headers-6.8.0-40-generic", none, "6.8.0-40.40"⟩] := by
    rw [transcriptRemovals, simulatedInstallation, split_printed_simulation
      (ubuntu_lines_well_formed (by simp)).1]
    decide
  refine ⟨ubuntu_transcript_parsed (.inr rfl), ubuntu_transcript_accepted (.inr rfl), by decide,
    fun htracked => ?_⟩
  have hlisted := htracked.listed _ (.inr ⟨⟨"linux-headers-6.8.0-40-generic", none, "6.8.0-40.40"⟩,
    List.mem_append_right _ (hremoved ▸ List.mem_singleton_self _), rfl⟩)
  revert hlisted
  decide

end NvidiaConverge
