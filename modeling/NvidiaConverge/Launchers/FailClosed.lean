import NvidiaConverge.Launchers.Defer
import NvidiaConverge.Launchers.World
import NvidiaConverge.Planning.Convergence

/-!
# What a failed commit leaves running

After a failed commit or a failed maintenance gate, every launcher that could be quarantined is
quarantined exactly when none of them is blocked by another one: `quarantine_reaches_iff`.
-/

namespace NvidiaConverge

open Program (Issues)

namespace LauncherWorld

variable {Local : Type} {ε : Type} {world : LauncherWorld Local} {states : Launcher → Local}
  {unit : Launcher}

/-- The results of a unit's own quarantine, which raises no error. -/
def quarantineResults (world : LauncherWorld Local) (unit : Launcher) (state : Local) :
    List CommandResult :=
  match ((quarantineServiceForRollback unit).run world.serveUnit state).1 with
  | .ok results => results
  | .error (error : Empty) => error.elim

/-- The state of a unit behind its own quarantine, from a given state. -/
def afterQuarantine (world : LauncherWorld Local) (unit : Launcher) (state : Local) : Local :=
  ((quarantineServiceForRollback unit : HostProgram Empty _).run world.serveUnit state).2

/-- The unit's observation shows it inactive and masked. -/
def Quarantined (world : LauncherWorld Local) (unit : Launcher) (state : Local) : Prop :=
  (world.read (.observe unit) state : Observation).quarantined = true

instance (unit : Launcher) (state : Local) : Decidable (world.Quarantined unit state) :=
  inferInstanceAs (Decidable (_ = true))

/-- The audit knows the state of the unit's file. -/
def Known (world : LauncherWorld Local) (unit : Launcher) (state : Local) : Prop :=
  (world.audited unit state).unitFileState ≠ none

instance (unit : Launcher) (state : Local) : Decidable (world.Known unit state) :=
  inferInstanceAs (Decidable (_ ≠ none))

/-- The verdict of the unit's own trust validation. -/
def trustAccepts (world : LauncherWorld Local) (unit : Launcher) (state : Local) : Bool :=
  if unit = .dockerSocket then
    accepts (world.read (.validateSocket true) state : TrustReply _).verdict
  else accepts (world.read (.validateService unit true) state : TrustReply _).verdict

/-- The unit's own trust validation accepts it. -/
def Trusted (world : LauncherWorld Local) (unit : Launcher) (state : Local) : Prop :=
  world.trustAccepts unit state = true

instance (unit : Launcher) (state : Local) : Decidable (world.Trusted unit state) :=
  inferInstanceAs (Decidable (_ = true))

/-- The unit's own observations, validations, mask and stop succeed. -/
def CanQuarantine (world : LauncherWorld Local) (unit : Launcher) (state : Local) : Prop :=
  commandsSucceeded (world.quarantineResults unit state) = true

/-- Everything that the quarantine does with this unit would succeed. -/
structure Capable (world : LauncherWorld Local) (unit : Launcher) (state : Local) : Prop where
  known : world.Known unit state
  trusted : world.Trusted unit state
  quarantines : world.CanQuarantine unit state

/-- Another launcher stands in the way of this one: one that the audit does not know, one that is
not trusted, or an earlier one that cannot be quarantined. -/
def Blocked (world : LauncherWorld Local) (states : Launcher → Local) (unit : Launcher) : Prop :=
  (∃ other, ¬ world.Known other (states other)) ∨ (∃ other, ¬ world.Trusted other (states other)) ∨
    ∃ other ∈ serviceStopOrder.takeWhile (· ≠ unit), ¬ world.CanQuarantine other (states other)

/-! ## One unit -/

instance (unit : Launcher) (state : Local) : Decidable (world.CanQuarantine unit state) :=
  inferInstanceAs (Decidable (_ = true))

/-- A unit whose own quarantine succeeds is quarantined behind it. -/
theorem quarantined_after {state : Local} (h : world.CanQuarantine unit state) :
    world.Quarantined unit (world.afterQuarantine unit state) := by
  have hrules : QuarantineRules (Program.served world.serveUnit) unit (fun _ => True)
      (fun _ => True) (world.Quarantined unit) :=
    { kept := fun _ => trivial
      step := fun _ _ _ => ⟨trivial, fun _ => trivial⟩
      observed := by
        intro state reply after _ hserved hreply
        obtain ⟨rfl, rfl⟩ := Prod.mk.inj hserved
        exact hreply
      recorded := fun _ _ => trivial }
  have hruns := Program.runs_run world.serveUnit
    (quarantineServiceForRollback unit : HostProgram Empty _) state
  have hends := (ensures_quarantine hrules trivial).runs hruns
  unfold CanQuarantine quarantineResults at h
  revert h hends
  cases ((quarantineServiceForRollback unit : HostProgram Empty _).run world.serveUnit state).1 with
  | error error => exact error.elim
  | ok results => exact fun h hends => (hends.2 h).2

/-- The states that the quarantine of one unit leaves. -/
def reachOne (world : LauncherWorld Local) (unit : Launcher) (states : Launcher → Local) :
    Launcher → Local :=
  Function.update states unit (world.afterQuarantine unit (states unit))

@[simp] theorem reach_one_self :
    world.reachOne unit states unit = world.afterQuarantine unit (states unit) :=
  Function.update_self ..

theorem reach_one_of_ne {other : Launcher} (h : other ≠ unit) :
    world.reachOne unit states other = states other :=
  Function.update_of_ne h ..

/-- The quarantine of a unit in the host is its own quarantine, and touches nothing else. -/
theorem run_quarantine :
    (quarantineServiceForRollback unit : HostProgram Empty _).run world.serve states =
      (.ok (world.quarantineResults unit (states unit)),
        world.reachOne unit states) := by
  rw [run_unit (issues_quarantine unit)]
  refine Prod.ext ?_ rfl
  unfold quarantineResults
  cases ((quarantineServiceForRollback unit : HostProgram Empty _).run world.serveUnit
    (states unit)).1 with
  | error error => exact error.elim
  | ok results => rfl

/-- A validation changes nothing and accepts exactly a trusted unit. -/
theorem run_validate_launcher (world : LauncherWorld Local) (states : Launcher → Local)
    (unit : Launcher) :
    ∃ results refused, (validateLauncher unit : HostProgram Empty _).run world.serve states =
        (.ok (results, refused), states) ∧
      (refused = none ↔ world.Trusted unit (states unit)) := by
  unfold validateLauncher Trusted trustAccepts
  split
  · next hsocket =>
      subst hsocket
      exact ⟨_, _, Prod.ext rfl (Function.update_eq_self ..), refusal_finding_eq_none⟩
  · exact ⟨_, _, Prod.ext rfl (Function.update_eq_self ..), refusal_finding_eq_none⟩

/-! ## The loops -/

/-- The joint validations change nothing and accept exactly trusted units. -/
theorem run_validate_launchers (world : LauncherWorld Local) (states : Launcher → Local)
    (units : List Launcher) :
    ∃ results refused, (validateLaunchers units : HostProgram Empty _).run world.serve states =
        (.ok (results, refused), states) ∧
      (refused = none ↔ ∀ unit ∈ units, world.Trusted unit (states unit)) := by
  induction units with
  | nil => exact ⟨[], none, rfl, by simp⟩
  | cons unit units ih =>
      obtain ⟨results, refused, hrun, htrusted⟩ := run_validate_launcher world states unit
      unfold validateLaunchers
      rw [Program.run_bind_ok hrun]
      cases refused with
      | some finding =>
          refine ⟨results, some finding, rfl, by simp, fun hall => ?_⟩
          exact htrusted.mpr (hall unit List.mem_cons_self)
      | none =>
          obtain ⟨more, later, hmore, hrest⟩ := ih
          refine ⟨results ++ more, later, ?_, ?_⟩
          · show Program.run world.serve (validateLaunchers units >>= _) states = _
            rw [Program.run_bind_ok hmore]
            rfl
          · rw [hrest, List.forall_mem_cons]
            exact ⟨fun hall => ⟨htrusted.mp rfl, hall⟩, fun hall => hall.2⟩

/-- The states that the quarantines of some units leave, one after the other until one fails. -/
def reach (world : LauncherWorld Local) : List Launcher → (Launcher → Local) → Launcher → Local
  | [], states => states
  | unit :: units, states =>
      if world.CanQuarantine unit (states unit) then world.reach units (world.reachOne unit states)
      else world.reachOne unit states

theorem run_quarantine_launchers (world : LauncherWorld Local) (states : Launcher → Local)
    (units : List Launcher) :
    ∃ results, (quarantineLaunchers units : HostProgram Empty _).run world.serve states =
      (.ok results, world.reach units states) := by
  induction units generalizing states with
  | nil => exact ⟨[], rfl⟩
  | cons unit units ih =>
      unfold quarantineLaunchers reach
      rw [Program.run_bind_ok run_quarantine]
      by_cases hcan : commandsSucceeded (world.quarantineResults unit (states unit)) = true
      · obtain ⟨more, hmore⟩ := ih (world.reachOne unit states)
        refine ⟨world.quarantineResults unit (states unit) ++ more, ?_⟩
        rw [if_pos hcan, if_pos (show world.CanQuarantine unit (states unit) from hcan),
          Program.run_bind_ok hmore]
        rfl
      · refine ⟨world.quarantineResults unit (states unit), ?_⟩
        rw [if_neg hcan, if_neg (show ¬ world.CanQuarantine unit (states unit) from hcan)]
        rfl

/-- A unit that is not in the list stays as it is. -/
theorem reach_of_not_mem {units : List Launcher} (h : unit ∉ units) :
    world.reach units states unit = states unit := by
  induction units generalizing states with
  | nil => rfl
  | cons first units ih =>
      rw [List.mem_cons, not_or] at h
      unfold reach
      split
      · rw [ih h.2, reach_one_of_ne h.1]
      · rw [reach_one_of_ne h.1]

/-- A unit whose predecessors are quarantined is reached. -/
theorem reach_of_clear {units : List Launcher} (hnodup : units.Nodup) (hmem : unit ∈ units)
    (hclear : ∀ other ∈ units.takeWhile (· ≠ unit), world.CanQuarantine other (states other)) :
    world.reach units states unit = world.afterQuarantine unit (states unit) := by
  induction units generalizing states with
  | nil => cases hmem
  | cons first units ih =>
      rw [List.nodup_cons] at hnodup
      unfold reach
      by_cases heq : first = unit
      · subst heq
        split
        · rw [reach_of_not_mem hnodup.1, reach_one_self]
        · rw [reach_one_self]
      · rw [List.takeWhile_cons_of_pos (by simpa using heq), List.forall_mem_cons] at hclear
        have hlater := (List.mem_cons.mp hmem).resolve_left (Ne.symm heq)
        rw [if_pos hclear.1, ih hnodup.2 hlater, reach_one_of_ne (Ne.symm heq)]
        intro other hother
        have hne : other ≠ first := fun h => hnodup.1 (h ▸ (List.takeWhile_subset _ hother))
        rw [reach_one_of_ne hne]
        exact hclear.2 other hother

/-- A unit behind one that cannot be quarantined is not reached. -/
theorem reach_of_blocked {units : List Launcher} (hnodup : units.Nodup)
    (hblocked : ∃ other ∈ units.takeWhile (· ≠ unit),
      ¬ world.CanQuarantine other (states other)) :
    world.reach units states unit = states unit := by
  induction units generalizing states with
  | nil =>
      obtain ⟨other, hother, -⟩ := hblocked
      cases hother
  | cons first units ih =>
      rw [List.nodup_cons] at hnodup
      by_cases heq : first = unit
      · obtain ⟨other, hother, -⟩ := hblocked
        rw [List.takeWhile_cons_of_neg (by simpa using heq)] at hother
        cases hother
      · rw [List.takeWhile_cons_of_pos (by simpa using heq)] at hblocked
        unfold reach
        split
        · next hcan =>
            rw [ih hnodup.2, reach_one_of_ne (Ne.symm heq)]
            obtain ⟨other, hother, hcannot⟩ := hblocked
            rcases List.mem_cons.mp hother with rfl | hlater
            · exact absurd hcan hcannot
            · have hne : other ≠ first := fun h =>
                hnodup.1 (h ▸ (List.takeWhile_subset _ hlater))
              exact ⟨other, hlater, by rwa [reach_one_of_ne hne]⟩
        · rw [reach_one_of_ne (Ne.symm heq)]

/-! ## The whole quarantine -/

/-- What lets the quarantines begin: every launcher is known and trusted. -/
structure Admitted (world : LauncherWorld Local) (states : Launcher → Local) : Prop where
  known : ∀ unit, world.Known unit (states unit)
  trusted : ∀ unit, world.Trusted unit (states unit)

/-- What the quarantine of all launchers leaves. -/
structure Deferred (world : LauncherWorld Local) (states after : Launcher → Local) : Prop where
  reached : world.Admitted states → after = world.reach serviceStopOrder states
  refused : ¬ world.Admitted states → after = states

theorem mem_validation_order (unit : Launcher) : unit ∈ validationOrder := by
  cases unit <;> decide

/-- The deferral of the launchers ends in states as `Deferred` describes them. -/
theorem run_defer (world : LauncherWorld Local) (states : Launcher → Local) :
    ∃ boundary after, (deferLauncherEnablement (world.audit states) : HostProgram Empty _).run
        world.serve states = (.ok boundary, after) ∧ world.Deferred states after := by
  unfold deferLauncherEnablement
  by_cases hunknown : (serviceStopOrder.filter fun unit =>
      ((world.audit states).launchers.of unit).unitFileState = none) = []
  · have hknown : ∀ unit, world.Known unit (states unit) := by
      intro unit hnone
      have hmem := List.filter_eq_nil_iff.mp hunknown unit (mem_service_stop_order unit)
      rw [world.audit_launchers] at hmem
      exact hmem (decide_eq_true hnone)
    simp only [hunknown, ne_eq, not_true_eq_false, if_false]
    obtain ⟨validation, refused, hrun, htrusted⟩ := run_validate_launchers world states
      validationOrder
    rw [Program.run_bind_ok hrun]
    cases refused with
    | some finding =>
        refine ⟨_, states, rfl, fun hadmitted => ?_, fun _ => rfl⟩
        have hall := htrusted.mpr fun unit _ => hadmitted.trusted unit
        cases hall
    | none =>
        have hadmitted : world.Admitted states :=
          ⟨hknown, fun unit => htrusted.mp rfl unit (mem_validation_order unit)⟩
        obtain ⟨results, hresults⟩ := run_quarantine_launchers world states
          serviceStopOrder
        refine ⟨deferredBoundary (world.audit (world.reach serviceStopOrder states)) validation
          results, world.reach serviceStopOrder states, ?_, fun _ => rfl,
          fun hnot => absurd hadmitted hnot⟩
        exact Program.run_bind_ok hresults
  · simp only [ne_eq, hunknown, not_false_eq_true, if_true]
    refine ⟨_, states, rfl, fun hadmitted => absurd ?_ hunknown, fun _ => rfl⟩
    refine List.filter_eq_nil_iff.mpr fun unit _ hnone => ?_
    rw [world.audit_launchers] at hnone
    exact hadmitted.known unit (of_decide_eq_true hnone)

/-- Every launcher that could be quarantined is quarantined. -/
def FailClosed (world : LauncherWorld Local) (states after : Launcher → Local) : Prop :=
  ∀ unit, world.Capable unit (states unit) → world.Quarantined unit (after unit)

/-- A launcher that could be quarantined and is blocked by another one was quarantined before. -/
def Unblocked (world : LauncherWorld Local) (states : Launcher → Local) : Prop :=
  ∀ unit, world.Capable unit (states unit) → world.Blocked states unit →
    world.Quarantined unit (states unit)

/-- A launcher that nothing blocks is reached, and a blocked one is left as it is. -/
theorem Deferred.outcome {after : Launcher → Local} (h : world.Deferred states after)
    (unit : Launcher) :
    (world.Blocked states unit → after unit = states unit) ∧
      (¬ world.Blocked states unit →
        after unit = world.afterQuarantine unit (states unit)) := by
  by_cases hadmitted : world.Admitted states
  · rw [h.reached hadmitted]
    constructor
    · rintro (⟨other, hunknown⟩ | ⟨other, huntrusted⟩ | hcannot)
      · exact absurd (hadmitted.known other) hunknown
      · exact absurd (hadmitted.trusted other) huntrusted
      · exact reach_of_blocked service_stop_order_nodup hcannot
    · intro hclear
      refine reach_of_clear service_stop_order_nodup (mem_service_stop_order unit) ?_
      intro other hother
      by_contra hcannot
      exact hclear (.inr (.inr ⟨other, hother, hcannot⟩))
  · rw [h.refused hadmitted]
    refine ⟨fun _ => rfl, fun hclear => absurd ⟨?_, ?_⟩ hadmitted⟩
    · intro other
      by_contra hunknown
      exact hclear (.inl ⟨other, hunknown⟩)
    · intro other
      by_contra huntrusted
      exact hclear (.inr (.inl ⟨other, huntrusted⟩))

/-- The deferral leaves every launcher fail-closed exactly when nothing blocked it. -/
theorem Deferred.fail_closed_iff {after : Launcher → Local} (h : world.Deferred states after) :
    world.FailClosed states after ↔ world.Unblocked states := by
  constructor
  · intro hclosed unit hcapable hblocked
    rw [← (h.outcome unit).1 hblocked]
    exact hclosed unit hcapable
  · intro hunblocked unit hcapable
    by_cases hblocked : world.Blocked states unit
    · rw [(h.outcome unit).1 hblocked]
      exact hunblocked unit hcapable hblocked
    · rw [(h.outcome unit).2 hblocked]
      exact quarantined_after hcapable.quarantines

/-- The states at which the quarantine behind a failed commit begins. -/
def requiesced (world : LauncherWorld Local) (guard : Option (List Launcher))
    (states : Launcher → Local) : Launcher → Local :=
  ((requiesceUnits (guard.getD []) : HostProgram Empty _).run world.serve states).2

/-- The way back of a failed commit defers the launchers as its guard left them. -/
theorem run_quarantine_failed_launcher_commit (guard : Option (List Launcher)) :
    world.Deferred (world.requiesced guard states)
      ((quarantineFailedLauncherCommit guard : HostProgram Empty _).run world.serve states).2 := by
  obtain ⟨⟨results, errors⟩, hquiesce⟩ := Program.run_returns world.serve
    (requiesceUnits (guard.getD [])) states
  obtain ⟨boundary, after, hrun, hdeferred⟩ := run_defer world
    (world.requiesced guard states)
  unfold quarantineFailedLauncherCommit
  rw [Program.run_bind_ok hquiesce]
  show world.Deferred _ (Program.run world.serve (deferLauncherEnablement
    (world.audit (world.requiesced guard states)) >>= _) (world.requiesced guard states)).2
  rw [Program.run_bind_ok hrun]
  exact hdeferred

theorem run_quarantine_failed_maintenance_gate :
    world.Deferred states
      ((quarantineFailedMaintenanceGate : HostProgram Empty _).run world.serve states).2 := by
  obtain ⟨boundary, after, hrun, hdeferred⟩ := run_defer world states
  show world.Deferred _ (Program.run world.serve (deferLauncherEnablement (world.audit states))
    states).2
  rw [hrun]
  exact hdeferred

end LauncherWorld

/-- After a failed launcher commit, and after a failed maintenance gate, every launcher that could
be quarantined is quarantined exactly when each of them that another launcher blocks was
quarantined before. -/
theorem quarantine_reaches_iff {Local : Type} (world : LauncherWorld Local)
    (guard : Option (List Launcher)) (states : Launcher → Local) :
    (world.FailClosed (world.requiesced guard states)
        ((quarantineFailedLauncherCommit guard : HostProgram Empty _).run world.serve states).2 ↔
      world.Unblocked (world.requiesced guard states)) ∧
    (world.FailClosed states
        ((quarantineFailedMaintenanceGate : HostProgram Empty _).run world.serve states).2 ↔
      world.Unblocked states) :=
  ⟨(LauncherWorld.run_quarantine_failed_launcher_commit guard).fail_closed_iff,
    LauncherWorld.run_quarantine_failed_maintenance_gate.fail_closed_iff⟩

/-- A running Docker beside a Fabric Manager whose files are not trusted. -/
def untrustedFabricManager : Launcher → SystemdUnit
  | .dockerSocket | .dockerService =>
      { fragment := .installable, linked := true, masked := false, active := true }
  | .nvidiaPersistenced =>
      { fragment := .installable, linked := true, masked := false, active := false }
  | .fabricManager =>
      { fragment := .installable, linked := true, masked := false, active := false,
        trusted := false }

/-- Docker could be quarantined, and stays active because the Fabric Manager is not trusted. -/
theorem untrusted_unit_blocks_quarantine :
    ¬ ∀ (Local : Type) (world : LauncherWorld Local) (guard : Option (List Launcher))
        (states : Launcher → Local),
      world.FailClosed (world.requiesced guard states)
        ((quarantineFailedLauncherCommit guard : HostProgram Empty _).run
          world.serve states).2 := by
  intro hall
  have hdocker := hall SystemdUnit (systemd (convergedHost (some true) (some true))) none
    untrustedFabricManager .dockerService ⟨by decide, by decide, by decide +kernel⟩
  revert hdocker
  decide +kernel

end NvidiaConverge
