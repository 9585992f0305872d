import NvidiaConverge.Planning.Planner
import NvidiaConverge.Preflight.Staged

/-!
# The bound plan

A plan whose forward payloads were retained and validated, and which was bound to them.
`StagedPlan.bound_command` gives the one command that it carries, and `StagedPlan.staged_ok_iff`
reduces the staged check of such a plan to the local check of its backend.
-/

namespace NvidiaConverge

open Posix (AbsolutePath)

/-! ## What validation leaves known -/

variable {desired : DesiredState} {audit : HostAudit} {manager : PackageManager}
  {snapshot : RollbackSnapshot} {path : AbsolutePath} {bundle : PackagePayloadBundle}
  {access : PayloadAccess} {actions bound : List PlanAction} {command : List String}
  {package : PackageInfo}

/-- Validated forward packages are completely identified, and the bundle is valid. -/
theorem validate_forward_payloads_ok {packages forwardPackages : List PackageInfo}
    {paths : List (PackageIdentity × String)}
    (h : validatePackagePayloads path bundle packages manager (some forwardPackages) access =
      .ok paths) :
    ValidPayloads path bundle packages manager ∧
      ∀ package ∈ forwardPackages, completeIdentity manager package = true := by
  simp only [validatePackagePayloads, Result.check_bind_eq_ok] at h
  obtain ⟨hrequested, hcount, hentries, hforward, h⟩ := h
  obtain ⟨directory, hdirectory, h⟩ := Result.bind_eq_ok.mp h
  simp only [Result.check_bind_eq_ok] at h
  obtain ⟨hbound, hdistinct, hidentities, -, hrest⟩ := h
  suffices hread : validatePackagePayloads path bundle packages manager none access = .ok paths
    from ⟨validate_package_payloads_ok hread, validate_requested_packages_complete hforward⟩
  simp only [validatePackagePayloads, Result.check_bind_eq_ok]
  refine ⟨hrequested, hcount, hentries, rfl, Result.bind_eq_ok.mpr ⟨directory, hdirectory, ?_⟩⟩
  simp only [Result.check_bind_eq_ok]
  exact ⟨hbound, hdistinct, hidentities, rfl, hrest⟩

/-- The text of a normalized path is read back. -/
theorem normalized_absolute_text (path : AbsolutePath) :
    normalizedAbsolute? path.text = some path := by
  rw [normalizedAbsolute?, path.path_components_text]
  exact dif_pos path.normalized

/-! ## The bound plan -/

/-- The commands of the local transaction, as the actions carry them. -/
def carriedCommands (actions : List PlanAction) : List (List String) :=
  (actions.filter fun action => ["install.packages", "lock.apt"].contains action.id).flatMap
    (·.commands)

/-- An anchor that is one action carries the command; the other actions carry none. -/
theorem carried_commands_eq {anchor : String} (anchored : PlanAction)
    (hanchor : anchor ∈ ["install.packages", "lock.apt"])
    (hone : actions.filter (·.id = anchor) = [anchored])
    (hcommands : ∀ action ∈ actions, action.id ∈ ["install.packages", "lock.apt"] →
      action.commands = if action.id = anchor then [command] else []) :
    carriedCommands actions = [command] := by
  have hcarried : carriedCommands actions =
      (actions.filter (·.id = anchor)).map fun _ => command := by
    clear hone
    induction actions with
    | nil => rfl
    | cons action actions ih =>
        have hrest := ih fun other hother => hcommands other (List.mem_cons_of_mem _ hother)
        have hfirst := hcommands action List.mem_cons_self
        rw [carriedCommands] at hrest ⊢
        by_cases hmem : action.id ∈ ["install.packages", "lock.apt"]
        · rw [List.filter_cons_of_pos (by simpa using hmem), List.flatMap_cons, hrest, hfirst hmem]
          by_cases hid : action.id = anchor
          · rw [if_pos hid, List.filter_cons_of_pos (by simpa using hid)]
            rfl
          · rw [if_neg hid, List.filter_cons_of_neg (by simpa using hid)]
            rfl
        · have hid : action.id ≠ anchor := fun heq => hmem (heq ▸ hanchor)
          rw [List.filter_cons_of_neg (by simpa using hmem),
            List.filter_cons_of_neg (by simpa using hid), hrest]
  rw [hcarried, hone]
  rfl

/-- Binding commands to an action keeps the identifiers of the plan. -/
theorem filter_bind_commands {id anchor : String} {commands : List (List String)} :
    (bindCommands id commands actions).filter (·.id = anchor) =
      bindCommands id commands (actions.filter (·.id = anchor)) := by
  rw [bindCommands, bindCommands, List.filter_map]
  rfl

theorem has_action_bind_commands {id anchor : String} {commands : List (List String)} :
    hasAction id (bindCommands anchor commands actions) = hasAction id actions := by
  rw [hasAction, hasAction, bindCommands, List.any_map]
  rfl

theorem has_action_iff {id : String} :
    hasAction id actions = true ↔ actions.filter (·.id = id) ≠ [] := by
  rw [hasAction, List.any_eq_true, ne_eq, List.filter_eq_nil_iff]
  simp

/-- The local command that a plan is bound to. -/
def stagedCommand (path : AbsolutePath) (bundle : PackagePayloadBundle)
    (manager : PackageManager) (audit : HostAudit) (actions : List PlanAction) :
    Except String (List String) :=
  if manager = .aptGet then do
    let removeSpecs ← lockRemoveSpecs actions
    forwardPackageCommand path bundle .aptGet removeSpecs
  else boundRpmCommand path bundle manager audit

/-- A plan with one installation, and under APT at most one policy transaction, whose retained
payloads validate and which was bound to them. -/
structure StagedPlan (snapshot : RollbackSnapshot) (manager : PackageManager)
    (path : AbsolutePath) (bundle : PackagePayloadBundle) (audit : HostAudit)
    (access : PayloadAccess) (actions bound : List PlanAction) : Prop where
  located : snapshot.path = some path.text
  backend : snapshot.packageManager = some manager
  retained : snapshot.packagePayloads = some bundle
  install : ∃ action, actions.filter (·.id = "install.packages") = [action]
  policy : manager ≠ .aptGet → actions.filter (·.id = "lock.apt") = []
  atMostOne : (actions.filter (·.id = "lock.apt")).length ≤ 1
  validated : ∃ paths, validatePackagePayloads path bundle snapshot.packages manager
    (some ((forwardEntries bundle).map (forwardPackage manager))) access = .ok paths
  rewritten : bindForwardPackagePayloads actions snapshot audit = .ok bound

/-- A forward command starts with its program. -/
theorem forward_package_command_ne_nil {removeSpecs : List String}
    (h : forwardPackageCommand path bundle manager removeSpecs = .ok command) : command ≠ [] := by
  simp only [forwardPackageCommand, Result.check_bind_eq_ok] at h
  obtain ⟨-, h⟩ := h
  cases manager <;> rw [← Result.pure_eq_ok.mp h] <;> exact List.cons_ne_nil _ _

/-- The command that a plan is bound to is not empty. -/
theorem staged_command_ne_nil
    (h : stagedCommand path bundle manager audit actions = .ok command) : command ≠ [] := by
  rw [stagedCommand] at h
  split at h
  · obtain ⟨_, -, h⟩ := Result.bind_eq_ok.mp h
    exact forward_package_command_ne_nil h
  · rw [boundRpmCommand] at h
    split at h
    · rw [← Result.pure_eq_ok.mp h]
      exact List.cons_ne_nil _ _
    · exact forward_package_command_ne_nil h

/-- Binding an anchor that only one action has, beside actions without commands. -/
theorem local_commands_bound {anchor : String} (anchored : PlanAction)
    (hcommand : command ≠ []) (hanchor : anchor ∈ ["install.packages", "lock.apt"])
    (hone : actions.filter (·.id = anchor) = [anchored])
    (hothers : ∀ action ∈ actions, action.id ∈ ["install.packages", "lock.apt"] →
      action.id ≠ anchor → action.commands = []) :
    localCommands (bindCommands anchor [command] actions) = [command] := by
  have hcarried : carriedCommands (bindCommands anchor [command] actions) = [command] := by
    refine carried_commands_eq
      { anchored with
        commands := if anchored.id = anchor then [command] else anchored.commands }
      hanchor ?_ ?_
    · rw [filter_bind_commands, hone]
      rfl
    · intro action hmem hid
      obtain ⟨source, hsource, rfl⟩ := List.mem_map.mp hmem
      by_cases hsame : source.id = anchor
      · show (if source.id = anchor then [command] else source.commands) = _
        rw [if_pos hsame, if_pos hsame]
      · show (if source.id = anchor then [command] else source.commands) = _
        rw [if_neg hsame, if_neg hsame]
        exact hothers source hsource hid hsame
  show (carriedCommands _).filter (· ≠ []) = _
  rw [hcarried]
  simp [hcommand]

/-- Bindings of two different actions commute. -/
theorem bind_commands_comm {id anchor : String} (hne : id ≠ anchor)
    {commands others : List (List String)} :
    bindCommands id commands (bindCommands anchor others actions) =
      bindCommands anchor others (bindCommands id commands actions) := by
  rw [bindCommands, bindCommands, bindCommands, bindCommands, List.map_map, List.map_map]
  refine List.map_congr_left fun action _ => ?_
  simp only [Function.comp_apply]
  by_cases hid : action.id = id
  · have hother : action.id ≠ anchor := fun heq => hne (hid.symm.trans heq)
    simp only [hid, if_true, hid ▸ hother, if_false]
  · simp only [hid, if_false]

/-- Without a policy action only the installation carries commands. -/
theorem no_policy_commands (hnone : actions.filter (·.id = "lock.apt") = []) :
    ∀ action ∈ actions, action.id ∈ ["install.packages", "lock.apt"] →
      action.id ≠ "install.packages" → action.commands = [] := by
  intro action hmem hid hother
  have hlock : action.id = "lock.apt" := by simpa [hother] using hid
  exact absurd hlock (by simpa using List.filter_eq_nil_iff.mp hnone action hmem)

/-- The plan that is bound carries exactly one local command. -/
theorem StagedPlan.bound_command
    (h : StagedPlan snapshot manager path bundle audit access actions bound) :
    forwardEntries bundle ≠ [] ∧ ∃ command,
      stagedCommand path bundle manager audit actions = .ok command ∧
        localCommands bound = [command] ∧ ∀ id, hasAction id bound = hasAction id actions := by
  obtain ⟨install, hinstall⟩ := h.install
  have hplanned : hasAction "install.packages" actions = true := by
    rw [has_action_iff, hinstall]
    exact List.cons_ne_nil _ _
  have hbind := h.rewritten
  simp only [bindForwardPackagePayloads, h.located, h.retained, h.backend, hplanned,
    Bool.true_or, normalized_absolute_text, Bool.true_eq_false, if_false] at hbind
  obtain ⟨hretained, hbind⟩ := Result.check_bind_eq_ok.mp hbind
  refine ⟨fun hnone => ?_, ?_⟩
  · rw [Result.refuse_eq_ok, hnone] at hretained
    exact hretained (by decide)
  · by_cases hmanager : manager = .aptGet
    · subst hmanager
      obtain ⟨removeSpecs, hspecs, hbind⟩ := Result.bind_eq_ok.mp hbind
      obtain ⟨command, hcommand, hbind⟩ := Result.bind_eq_ok.mp hbind
      have hstaged : stagedCommand path bundle .aptGet audit actions = .ok command := by
        rw [stagedCommand, if_pos rfl, hspecs]
        exact hcommand
      refine ⟨command, hstaged, ?_⟩
      split at hbind
      -- With a lock, the local command is the lock's, and the package action is left without one.
      · next hlocked =>
          obtain ⟨lock, hlock⟩ := List.length_eq_one_iff.mp
            (le_antisymm h.atMostOne (List.length_pos_of_ne_nil (has_action_iff.mp hlocked)))
          rw [← Result.pure_eq_ok.mp hbind, bind_commands_comm (by decide)]
          refine ⟨local_commands_bound
            { lock with
              commands := if lock.id = "install.packages" then [] else lock.commands }
            (staged_command_ne_nil hstaged) (by simp) ?_ ?_, fun id => ?_⟩
          · rw [filter_bind_commands, hlock]
            rfl
          · intro action hmem hid hother
            obtain ⟨source, -, rfl⟩ := List.mem_map.mp hmem
            have hinstalls : source.id = "install.packages" := by
              simpa [show source.id ≠ "lock.apt" from hother] using hid
            exact if_pos hinstalls
          · rw [has_action_bind_commands, has_action_bind_commands]
      · next hunlocked =>
          rw [← Result.pure_eq_ok.mp hbind]
          exact ⟨local_commands_bound _ (staged_command_ne_nil hstaged) (by simp) hinstall
            (no_policy_commands (by simpa using mt has_action_iff.mpr hunlocked)),
            fun id => has_action_bind_commands⟩
    · have hcommand : ∃ command, boundRpmCommand path bundle manager audit = .ok command ∧
          bound = bindCommands "install.packages" [command] actions := by
        cases manager with
        | aptGet => exact absurd rfl hmanager
        | dnf | yum | zypper =>
            obtain ⟨command, hcommand, hbind⟩ := Result.bind_eq_ok.mp hbind
            exact ⟨command, hcommand, (Result.pure_eq_ok.mp hbind).symm⟩
      obtain ⟨command, hcommand, rfl⟩ := hcommand
      have hstaged : stagedCommand path bundle manager audit actions = .ok command := by
        rw [stagedCommand, if_neg hmanager]
        exact hcommand
      exact ⟨command, hstaged, local_commands_bound _ (staged_command_ne_nil hstaged) (by simp)
        hinstall (no_policy_commands (h.policy hmanager)), fun id => has_action_bind_commands⟩

/-- The names of the retained forward packages. -/
def forwardNames (bundle : PackagePayloadBundle) : List String :=
  (forwardEntries bundle).map (·.name)

/-- The result that stands for the validation. -/
def forwardValidation : CommandResult where
  command := ["validate-forward-package-payloads"]
  returncode := some 0

/-- The local check of each package manager. -/
def localForward (manager : PackageManager) (command : List String) (path : AbsolutePath)
    (bundle : PackagePayloadBundle) (audit : HostAudit) (parseXml : String → Option XmlElement)
    (run : List String → CommandResult) : Except PackagePreflightError (List CommandResult) :=
  let forwardPackages := (forwardEntries bundle).map (forwardPackage manager)
  let expectedPaths := forwardPayloadPaths path bundle
  match manager with
  | .aptGet =>
      preflightLocalAptForward command forwardPackages expectedPaths audit run [forwardValidation]
  | .dnf | .yum =>
      preflightLocalDnfForward command forwardPackages expectedPaths audit run [forwardValidation]
  | .zypper =>
      preflightLocalZypperForward command forwardPackages expectedPaths path bundle audit parseXml
        run [forwardValidation]

variable {parseXml : String → Option XmlElement} {run : List String → CommandResult}

/-- The staged check accepts what the local check of the backend accepts, when the direct
targets and the pin of a policy transaction are retained. -/
theorem StagedPlan.staged_ok_iff
    (h : StagedPlan snapshot manager path bundle audit access actions bound)
    (hcommand : stagedCommand path bundle manager audit actions = .ok command)
    (htargets : ∀ name ∈ forwardTargetNames manager (packageInstallTargets desired audit) audit,
      name ∈ forwardNames bundle) :
    (∃ results, preflightStagedForwardTransaction desired snapshot audit bound access parseXml
        run = .ok results) ↔
      (hasAction "lock.apt" actions = true → aptPinningPackage desired ∈ forwardNames bundle) ∧
        ∃ results, localForward manager command path bundle audit parseXml run = .ok results := by
  obtain ⟨hretained, bound', hbound, hlocal, hactions⟩ := h.bound_command
  obtain rfl : bound' = command := Except.ok.inj (hbound.symm.trans hcommand)
  obtain ⟨paths, hvalidated⟩ := h.validated
  have hpackages : (forwardEntries bundle).map (forwardPackage manager) ≠ [] := by
    simpa using hretained
  have hnames : ((forwardEntries bundle).map (forwardPackage manager)).map (·.name) =
      forwardNames bundle := by
    rw [List.map_map]
    rfl
  have hmissing : difference (forwardTargetNames manager (packageInstallTargets desired audit)
      audit) (forwardNames bundle) = [] := difference_eq_nil.mpr htargets
  simp only [preflightStagedForwardTransaction, h.located, h.retained, h.backend, hlocal,
    normalized_absolute_text, hnames, hmissing, hactions, Result.check_bind_eq_ok,
    Result.refuse_eq_ok, hpackages, not_false_eq_true, true_and]
  constructor
  · rintro ⟨results, haccepted⟩
    obtain ⟨_, hpath, haccepted⟩ := Result.bind_eq_ok.mp haccepted
    rw [← Result.pure_eq_ok.mp hpath, hvalidated] at haccepted
    obtain ⟨-, haccepted⟩ := Result.check_bind_eq_ok.mp haccepted
    obtain ⟨hpin, haccepted⟩ := Result.check_bind_eq_ok.mp haccepted
    obtain ⟨answers, hanswers, -⟩ := Result.bind_eq_ok.mp haccepted
    refine ⟨fun hlock => ?_, answers, hanswers⟩
    by_contra hmissing
    exact Result.refuse_eq_ok.mp hpin ⟨hlock, hmissing⟩
  · rintro ⟨hpin, answers, hanswers⟩
    refine ⟨forwardValidation :: answers, Result.bind_eq_ok.mpr ⟨path, rfl, ?_⟩⟩
    rw [hvalidated]
    refine Result.check_bind_eq_ok.mpr ⟨Result.refuse_of_not (by simp), ?_⟩
    refine Result.check_bind_eq_ok.mpr
      ⟨Result.refuse_of_not fun hlock => hlock.2 (hpin hlock.1), ?_⟩
    exact Result.bind_eq_ok.mpr ⟨answers, hanswers, rfl⟩

/-- The states that a bundle retains for the forward transaction. -/
def forwardStates (bundle : PackagePayloadBundle) : Set PackageState :=
  {state | ∃ entry ∈ forwardEntries bundle, entryIdentity entry = state}

/-- A retained entry is completely identified. -/
theorem StagedPlan.entry_complete
    (h : StagedPlan snapshot manager path bundle audit access actions bound)
    {entry : PackagePayload} (hentry : entry ∈ forwardEntries bundle) :
    entry.architecture ≠ "" ∧ entry.version ≠ "" := by
  obtain ⟨paths, hvalidated⟩ := h.validated
  have hcomplete := (validate_forward_payloads_ok hvalidated).2 _ (List.mem_map_of_mem hentry)
  simp only [completeIdentity, Bool.and_eq_true, bne_iff_ne] at hcomplete
  exact ⟨hcomplete.1.2, hcomplete.2⟩

/-- The retained names are those of the retained states. -/
theorem mem_retained_names {name : String} :
    name ∈ forwardNames bundle ↔ ∃ state ∈ forwardStates bundle, state.1 = name := by
  rw [forwardNames, List.mem_map]
  constructor
  · rintro ⟨entry, hentry, rfl⟩
    exact ⟨entryIdentity entry, ⟨entry, hentry, rfl⟩, rfl⟩
  · rintro ⟨_, ⟨entry, hentry, rfl⟩, rfl⟩
    exact ⟨entry, hentry, rfl⟩

/-- An RPM plan has no policy transaction to retain a pin for. -/
theorem StagedPlan.rpm_ok_iff
    (h : StagedPlan snapshot manager path bundle audit access actions bound)
    (hmanager : manager ≠ .aptGet)
    (hcommand : stagedCommand path bundle manager audit actions = .ok command)
    (htargets : ∀ name ∈ forwardTargetNames manager (packageInstallTargets desired audit) audit,
      name ∈ forwardNames bundle) :
    (∃ results, preflightStagedForwardTransaction desired snapshot audit bound access parseXml
        run = .ok results) ↔
      ∃ results, localForward manager command path bundle audit parseXml run = .ok results := by
  rw [h.staged_ok_iff hcommand htargets]
  refine and_iff_right fun hlocked => ?_
  exact absurd (h.policy hmanager) (has_action_iff.mp hlocked)

end NvidiaConverge
