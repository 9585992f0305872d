import NvidiaConverge.Launchers.FailClosed
import NvidiaConverge.Launchers.PrintedSystemd

/-!
# Resuming a quarantine

A quarantine that stops between its mask and its stop leaves a unit that systemd shows as masked
and still active. Which way back reaches the goal depends on the load state that systemd shows:
`interrupted_quarantine_resumed_iff`.
-/

namespace NvidiaConverge

/-! ## The ways back -/

/-- The unit's answers are those of the code's observers on what systemd prints. -/
structure Observes {Local : Type} (world : LauncherWorld Local) (host : TrustHost)
    (unit : Launcher) (state : Local) (shown full : CommandResult) : Prop where
  observe : world.read (.observe unit) state = observeServiceState shown unit.unit
  audited : world.audited unit state = parseServiceState shown unit.unit
  observeTrusted : world.read (.observeTrusted unit) state =
    ((observeTrustedService host unit full).1,
      (observeTrustedService host unit full).2.map TrustedServiceObservation.active)
  active : world.read (.validateActive unit none) state =
    validateActiveTrustedGpuService host unit none full
  socket : unit = .dockerSocket → world.read (.validateSocket true) state =
    validateTrustedDockerSocketUnit host true full

namespace LauncherWorld

variable {Local : Type}

/-- systemd shows the unit as masked and still active, with this load state. -/
def MaskedActive (world : LauncherWorld Local) (unit : Launcher) (loadState : String)
    (state : Local) : Prop :=
  ∃ host shown full, Observes world host unit state shown full ∧
    ShownMaskedActive host unit loadState shown full

/-- systemd shows the unit as masked and inactive. -/
def MaskedInactive (world : LauncherWorld Local) (unit : Launcher) (state : Local) : Prop :=
  ∃ host shown full, Observes world host unit state shown full ∧
    ShownMaskedInactive unit shown full

/-- The state of a unit behind one more mask. -/
def remasked (world : LauncherWorld Local) (unit : Launcher) (state : Local) : Local :=
  (world.command .mask unit state).2

/-- An ideal systemd, for a unit that is masked and still active: another mask leaves it so and
keeps its process, and a stop leaves it inactive. -/
structure Obeys (world : LauncherWorld Local) (unit : Launcher) (state : Local) : Prop where
  mask : (world.command .mask unit state).1.succeeded = true ∧
    ∃ loadState, world.MaskedActive unit loadState (world.remasked unit state)
  stop : ∀ running ∈ [state, world.remasked unit state],
    (world.command .stop unit running).1.succeeded = true ∧
      world.MaskedInactive unit (world.command .stop unit running).2
  process : ∀ identity,
    (world.read (.validateActive unit none) state : TrustReply _).verdict = .ok identity →
    accepts (world.read (.revalidateProcess unit identity)
      (world.remasked unit state) : TrustReply _).verdict = true
  socket : unit = .dockerSocket → ∀ identity,
    (world.read (.validateSocket true) state : TrustReply _).verdict = .ok (some identity) →
    accepts (world.read (.revalidateSocket identity)
      (world.remasked unit state) : TrustReply _).verdict = true

/-- The gate's quiesce of the unit alone ends without an error. -/
def Quiesces (world : LauncherWorld Local) (unit : Launcher) (state : Local) : Prop :=
  ∃ results, ((quiesceUnit unit : HostProgram Empty _).run world.serveUnit state).1 =
    .ok (results, none)

variable {world : LauncherWorld Local} {states : Launcher → Local} {unit : Launcher}
  {loadState : String} {state : Local}

/-! ## What is observed of the unit -/

namespace MaskedActive

/-- A unit that is still active is not quarantined, masked as it may be. -/
theorem not_quarantined (h : world.MaskedActive unit loadState state) :
    ¬ world.Quarantined unit state := by
  obtain ⟨host, shown, full, hobserves, hshown⟩ := h
  unfold Quarantined
  rw [hobserves.observe, hshown.observed]
  simp [Observation.quarantined]

/-- The audit knows no unit-file state of the unit. -/
theorem not_known (h : world.MaskedActive unit loadState state) : ¬ world.Known unit state := by
  obtain ⟨host, shown, full, hobserves, hshown⟩ := h
  unfold Known
  rw [hobserves.audited, hshown.audited]
  exact fun hknown => hknown rfl

/-- The rollback's observer reports the unit as active and masked. -/
theorem run_observe (h : world.MaskedActive unit loadState state) :
    ∃ shown : CommandResult, shown.returncode = some 0 ∧
      (ask (.observe unit) : HostProgram Empty _).run world.serveUnit state =
        (.ok { result := shown
               state := { active := some true, enabled := some false
                          unitFileState := some .masked } }, state) := by
  obtain ⟨host, shown, full, hobserves, hshown⟩ := h
  refine ⟨shown, returncode_of_whole hshown.whole, ?_⟩
  exact Prod.ext (congrArg Except.ok (hobserves.observe.trans hshown.observed)) rfl

/-- The validation before the mask refuses a unit that is no longer loaded. -/
theorem run_authenticate_refused (h : world.MaskedActive unit "masked" state) :
    ∃ results error, (authenticateBeforeMask unit true : HostProgram Empty _).run world.serveUnit
      state = (.ok (results, .error error), state) := by
  obtain ⟨host, shown, full, hobserves, hshown⟩ := h
  unfold authenticateBeforeMask
  by_cases isSocket : unit = .dockerSocket
  · subst isSocket
    obtain ⟨error, herror⟩ := hshown.refuses_socket true
    have hreply : (world.read (.validateSocket true) state : TrustReply _).verdict =
        .error error := by
      rw [hobserves.socket rfl]
      exact herror
    refine ⟨(world.read (.validateSocket true) state : TrustReply _).results, error, ?_⟩
    rw [dif_pos rfl]
    show (Except.ok
      (_, Except.map _ (world.read (.validateSocket true) state : TrustReply _).verdict),
      state) = _
    rw [hreply]
    rfl
  · obtain ⟨error, herror⟩ := hshown.refuses_active isSocket
    have hreply : (world.read (.validateActive unit none) state : TrustReply _).verdict =
        .error error := by
      rw [hobserves.active]
      exact herror
    refine ⟨(world.read (.validateActive unit none) state : TrustReply _).results, error, ?_⟩
    rw [dif_neg isSocket, if_pos rfl]
    show (Except.ok (_, Except.map _
      (world.read (.validateActive unit none) state : TrustReply _).verdict), state) = _
    rw [hreply]
    rfl

/-- The validation before the mask accepts a loaded unit, and the one behind another mask accepts
the identity that it found. -/
theorem run_authenticate_accepted (h : world.MaskedActive unit "loaded" state)
    (hobeys : world.Obeys unit state) :
    ∃ results identity more, (authenticateBeforeMask unit true : HostProgram Empty _).run
        world.serveUnit state = (.ok (results, .ok identity), state) ∧
      (revalidateAfterMask unit identity : HostProgram Empty _).run world.serveUnit
        (world.remasked unit state) = (.ok (more, true), world.remasked unit state) := by
  obtain ⟨host, shown, full, hobserves, hshown⟩ := h
  unfold authenticateBeforeMask
  by_cases isSocket : unit = .dockerSocket
  · subst isSocket
    obtain ⟨identity, haccepted⟩ := hshown.accepts_socket true
    have hreply : (world.read (.validateSocket true) state : TrustReply _).verdict =
        .ok (some identity) := by
      rw [hobserves.socket rfl]
      exact haccepted
    refine ⟨(world.read (.validateSocket true) state : TrustReply _).results,
      .socket identity rfl, (world.read (.revalidateSocket identity)
        (world.remasked .dockerSocket state) : TrustReply _).results, ?_, ?_⟩
    · rw [dif_pos rfl]
      show (Except.ok (_, Except.map _
        (world.read (.validateSocket true) state : TrustReply _).verdict), state) = _
      rw [hreply]
      rfl
    · show (Except.ok (_, accepts (world.read (.revalidateSocket identity)
        (world.remasked .dockerSocket state) : TrustReply _).verdict), _) = _
      rw [hobeys.socket rfl identity hreply]
      rfl
  · obtain ⟨identity, haccepted⟩ := hshown.accepts_active isSocket
    have hreply : (world.read (.validateActive unit none) state : TrustReply _).verdict =
        .ok identity := by
      rw [hobserves.active]
      exact haccepted
    refine ⟨(world.read (.validateActive unit none) state : TrustReply _).results,
      .process identity, (world.read (.revalidateProcess unit identity)
        (world.remasked unit state) : TrustReply _).results, ?_, ?_⟩
    · rw [dif_neg isSocket, if_pos rfl]
      show (Except.ok (_, Except.map _
        (world.read (.validateActive unit none) state : TrustReply _).verdict), state) = _
      rw [hreply]
      rfl
    · show (Except.ok (_, accepts (world.read (.revalidateProcess unit identity)
        (world.remasked unit state) : TrustReply _).verdict), _) = _
      rw [hobeys.process identity hreply]
      rfl

end MaskedActive

/-- A unit that systemd shows as masked and inactive is quarantined. -/
theorem MaskedInactive.quarantined (h : world.MaskedInactive unit state) :
    world.Quarantined unit state := by
  obtain ⟨host, shown, full, hobserves, hshown⟩ := h
  unfold Quarantined
  rw [hobserves.observe]
  exact hshown.quarantined

/-! ## Directly -/

/-- A rerun of its quarantine issues no command on a unit that is no longer loaded. -/
theorem MaskedActive.direct_refused (h : world.MaskedActive unit "masked" state) :
    world.afterQuarantine unit state = state := by
  obtain ⟨shown, hcode, hobserve⟩ := h.run_observe
  obtain ⟨results, error, hauthenticate⟩ := h.run_authenticate_refused
  unfold afterQuarantine quarantineServiceForRollback
  rw [Program.run_bind_ok hobserve]
  show (Program.run world.serveUnit (if _ then _ else _) state).2 = state
  rw [if_neg (by simp [hcode]), Program.run_bind_ok hauthenticate]
  rfl

section

variable {identity : PreMaskIdentity unit} {more : List CommandResult}

/-- A validated unit is stopped, and its quarantine is confirmed. -/
theorem Obeys.run_stop_masked (h : world.Obeys unit state)
    (hidentity : (revalidateAfterMask unit identity : HostProgram Empty _).run world.serveUnit
      (world.remasked unit state) = (.ok (more, true), world.remasked unit state)) :
    ((stopMasked unit identity : HostProgram Empty _).run world.serveUnit
      (world.remasked unit state)).2 =
        (world.command .stop unit (world.remasked unit state)).2 := by
  obtain ⟨hstop, hinactive⟩ := h.stop (world.remasked unit state) (by simp)
  have hstopped : (ask (.systemctl .stop unit) : HostProgram Empty _).run world.serveUnit
      (world.remasked unit state) =
        (.ok (world.command .stop unit (world.remasked unit state)).1,
          (world.command .stop unit (world.remasked unit state)).2) := rfl
  have hquarantined : (world.read (.observe unit)
      (world.command .stop unit (world.remasked unit state)).2 : Observation).quarantined = true :=
    hinactive.quarantined
  have hobserve (stopped : Local) : (ask (.observe unit) : HostProgram Empty _).run world.serveUnit
      stopped = (.ok (world.read (.observe unit) stopped), stopped) := rfl
  unfold stopMasked
  rw [Program.run_bind_ok hidentity]
  dsimp only
  rw [if_pos rfl, Program.run_bind_ok hstopped, if_pos hstop, Program.run_bind_ok (hobserve _)]
  unfold confirmQuarantine
  rw [if_pos hquarantined]
  rfl

/-- Behind the mask, a quarantine with a validated identity stops the unit. -/
theorem Obeys.run_quarantine_masked (h : world.Obeys unit state)
    (hidentity : (revalidateAfterMask unit identity : HostProgram Empty _).run world.serveUnit
      (world.remasked unit state) = (.ok (more, true), world.remasked unit state)) :
    ((quarantineMasked unit identity : HostProgram Empty _).run world.serveUnit
      (world.remasked unit state)).2 =
        (world.command .stop unit (world.remasked unit state)).2 := by
  obtain ⟨loadState, hmasked⟩ := h.mask.2
  obtain ⟨shown, hcode, hobserve⟩ := hmasked.run_observe
  obtain ⟨results, hstop⟩ := Program.run_returns world.serveUnit (stopMasked unit identity)
    (world.remasked unit state)
  unfold quarantineMasked
  rw [Program.run_bind_ok hobserve, if_neg (by simp [hcode]), if_pos rfl,
    Program.run_bind_ok hstop]
  exact h.run_stop_masked hidentity

end

/-- A rerun of its quarantine stops a unit that is still loaded. -/
theorem MaskedActive.direct_resumed (h : world.MaskedActive unit "loaded" state)
    (hobeys : world.Obeys unit state) :
    world.Quarantined unit (world.afterQuarantine unit state) := by
  obtain ⟨shown, hcode, hobserve⟩ := h.run_observe
  obtain ⟨results, identity, more, hauthenticate, hidentity⟩ :=
    h.run_authenticate_accepted hobeys
  obtain ⟨rest, hrest⟩ := Program.run_returns world.serveUnit (quarantineMasked unit identity)
    (world.remasked unit state)
  have hmask : (ask (.systemctl .mask unit) : HostProgram Empty _).run world.serveUnit state =
      (.ok (world.command .mask unit state).1, world.remasked unit state) := rfl
  have hafter : world.afterQuarantine unit state =
      (world.command .stop unit (world.remasked unit state)).2 := by
    unfold afterQuarantine quarantineServiceForRollback
    rw [Program.run_bind_ok hobserve]
    show (Program.run world.serveUnit (if _ then _ else _) state).2 = _
    rw [if_neg (by simp [hcode]), Program.run_bind_ok hauthenticate]
    show (Program.run world.serveUnit (ask (.systemctl .mask unit) >>= _) state).2 = _
    rw [Program.run_bind_ok hmask, if_pos hobeys.mask.1, Program.run_bind_ok hrest]
    exact hobeys.run_quarantine_masked hidentity
  rw [hafter]
  exact (hobeys.stop _ (by simp)).2.quarantined

/-- A rerun of its quarantine reaches the goal exactly while systemd shows the unit as loaded. -/
theorem MaskedActive.direct_iff (h : world.MaskedActive unit loadState state)
    (hobeys : world.Obeys unit state) :
    world.Quarantined unit (world.afterQuarantine unit state) ↔ loadState = "loaded" := by
  obtain ⟨host, shown, full, hobserves, hshown⟩ := h
  rcases hshown.load with rfl | rfl
  · have hactive : world.MaskedActive unit "loaded" state := ⟨host, shown, full, hobserves, hshown⟩
    exact iff_of_true (hactive.direct_resumed hobeys) rfl
  · have hactive : world.MaskedActive unit "masked" state := ⟨host, shown, full, hobserves, hshown⟩
    rw [hactive.direct_refused]
    exact iff_of_false hactive.not_quarantined (by decide)

/-! ## Through the maintenance gate -/

/-- What the gate's quiesce of the unit alone leaves. -/
def afterQuiesce (world : LauncherWorld Local) (unit : Launcher) (state : Local) : Local :=
  ((quiesceUnit unit : HostProgram Empty _).run world.serveUnit state).2

/-- The gate's quiescence of a unit in the host changes that unit only. -/
theorem run_quiesce_unit (world : LauncherWorld Local) (states : Launcher → Local)
    (unit : Launcher) :
    ∃ results error, (quiesceUnit unit : HostProgram Empty _).run world.serve states =
        (.ok (results, error),
          Function.update states unit (world.afterQuiesce unit (states unit))) ∧
      (error = none ↔ world.Quiesces unit (states unit)) := by
  obtain ⟨⟨results, error⟩, hrun⟩ := Program.run_returns world.serveUnit (quiesceUnit unit)
    (states unit)
  refine ⟨results, error, ?_, ?_⟩
  · rw [run_unit (issues_quiesce_unit unit), hrun]
    rfl
  · unfold Quiesces
    rw [hrun]
    constructor
    · rintro rfl
      exact ⟨results, rfl⟩
    · rintro ⟨others, heq⟩
      exact (Prod.mk.inj (Except.ok.inj heq)).2

/-- The quiesce goes on behind a unit whose own quiesce ends without an error. -/
theorem run_quiesce_cons_of_quiesces {first : Launcher} {units : List Launcher}
    (h : world.Quiesces first (states first)) :
    ((quiesceTrustedGpuServices (first :: units) : HostProgram Empty _).run world.serve states).2 =
      ((quiesceTrustedGpuServices units : HostProgram Empty _).run world.serve
        (Function.update states first (world.afterQuiesce first (states first)))).2 := by
  obtain ⟨results, error, hrun, herror⟩ := run_quiesce_unit world states first
  obtain rfl := herror.mpr h
  obtain ⟨rest, hrest⟩ := Program.run_returns world.serve (quiesceTrustedGpuServices units)
    (Function.update states first (world.afterQuiesce first (states first)))
  conv_lhs => unfold quiesceTrustedGpuServices
  rw [Program.run_bind_ok hrun]
  dsimp only
  rw [Program.run_bind_ok hrest]
  rfl

/-- The quiesce ends at a unit whose own quiesce ends with an error. -/
theorem run_quiesce_cons_of_not {first : Launcher} {units : List Launcher}
    (h : ¬ world.Quiesces first (states first)) :
    ((quiesceTrustedGpuServices (first :: units) : HostProgram Empty _).run world.serve states).2 =
      Function.update states first (world.afterQuiesce first (states first)) := by
  obtain ⟨results, error, hrun, herror⟩ := run_quiesce_unit world states first
  unfold quiesceTrustedGpuServices
  rw [Program.run_bind_ok hrun]
  cases error with
  | none => exact absurd (herror.mp rfl) h
  | some error => rfl

/-- The gate leaves a unit that is not in its list as it is. -/
theorem run_quiesce_of_not_mem {units : List Launcher} (h : unit ∉ units) :
    ((quiesceTrustedGpuServices units : HostProgram Empty _).run world.serve states).2 unit =
      states unit := by
  induction units generalizing states with
  | nil => rfl
  | cons first units ih =>
      obtain ⟨hne, hrest⟩ := not_or.mp (mt List.mem_cons.mpr h)
      by_cases hquiesces : world.Quiesces first (states first)
      · rw [run_quiesce_cons_of_quiesces hquiesces, ih hrest]
        exact Function.update_of_ne hne ..
      · rw [run_quiesce_cons_of_not hquiesces]
        exact Function.update_of_ne hne ..

/-- A unit is reached when the quiesce of each unit before it ends without an error. -/
theorem run_quiesce_of_clear {units : List Launcher} (hnodup : units.Nodup) (hmem : unit ∈ units)
    (hclear : ∀ other ∈ units.takeWhile (· ≠ unit), world.Quiesces other (states other)) :
    ((quiesceTrustedGpuServices units : HostProgram Empty _).run world.serve states).2 unit =
      world.afterQuiesce unit (states unit) := by
  induction units generalizing states with
  | nil => cases hmem
  | cons first units ih =>
      rw [List.nodup_cons] at hnodup
      by_cases heq : first = unit
      · subst heq
        by_cases hquiesces : world.Quiesces first (states first)
        · rw [run_quiesce_cons_of_quiesces hquiesces, run_quiesce_of_not_mem hnodup.1]
          exact Function.update_self ..
        · rw [run_quiesce_cons_of_not hquiesces]
          exact Function.update_self ..
      · rw [List.takeWhile_cons_of_pos (by simpa using heq), List.forall_mem_cons] at hclear
        have hlater := (List.mem_cons.mp hmem).resolve_left (Ne.symm heq)
        rw [run_quiesce_cons_of_quiesces hclear.1, ih hnodup.2 hlater,
          Function.update_of_ne (Ne.symm heq)]
        intro other hother
        have hne : other ≠ first := fun h => hnodup.1 (h ▸ List.takeWhile_subset _ hother)
        rw [Function.update_of_ne hne]
        exact hclear.2 other hother

/-- A unit behind one whose quiesce ends with an error is not reached. -/
theorem run_quiesce_of_blocked {units : List Launcher} (hnodup : units.Nodup)
    (hblocked : ∃ other ∈ units.takeWhile (· ≠ unit), ¬ world.Quiesces other (states other)) :
    ((quiesceTrustedGpuServices units : HostProgram Empty _).run world.serve states).2 unit =
      states unit := by
  induction units generalizing states with
  | nil =>
      obtain ⟨other, hother, -⟩ := hblocked
      cases hother
  | cons first units ih =>
      rw [List.nodup_cons] at hnodup
      obtain ⟨other, hother, hfails⟩ := hblocked
      by_cases heq : first = unit
      · rw [List.takeWhile_cons_of_neg (by simpa using heq)] at hother
        cases hother
      · rw [List.takeWhile_cons_of_pos (by simpa using heq)] at hother
        by_cases hquiesces : world.Quiesces first (states first)
        · rw [run_quiesce_cons_of_quiesces hquiesces]
          have hlater : other ∈ units.takeWhile (· ≠ unit) := by
            rcases List.mem_cons.mp hother with rfl | hlater
            · exact absurd hquiesces hfails
            · exact hlater
          have hne : other ≠ first := fun h => hnodup.1 (h ▸ List.takeWhile_subset _ hlater)
          rw [ih hnodup.2 ⟨other, hlater, by rwa [Function.update_of_ne hne]⟩]
          exact Function.update_of_ne (Ne.symm heq) ..
        · rw [run_quiesce_cons_of_not hquiesces]
          exact Function.update_of_ne (Ne.symm heq) ..

/-- The trusted observer refuses a service that is no longer loaded, so that its quiesce issues no
command. -/
theorem MaskedActive.after_quiesce_refused (h : world.MaskedActive unit "masked" state)
    (hservice : unit ≠ .dockerSocket) : world.afterQuiesce unit state = state := by
  obtain ⟨host, shown, full, hobserves, hshown⟩ := h
  obtain ⟨error, herror⟩ := hshown.untrusted hservice
  have hreply : (ask (.observeTrusted unit) : HostProgram Empty _).run world.serveUnit state =
      (.ok ((observeTrustedService host unit full).1, .error error), state) := by
    refine Prod.ext (congrArg Except.ok (hobserves.observeTrusted.trans ?_)) rfl
    rw [herror]
    rfl
  unfold afterQuiesce quiesceUnit
  rw [Program.run_bind_ok hreply]
  rfl

/-- The quiesce of a service that is still loaded stops it and ends without an error. -/
theorem MaskedActive.run_quiesce_resumed (h : world.MaskedActive unit "loaded" state)
    (hservice : unit ≠ .dockerSocket) (hobeys : world.Obeys unit state) :
    ∃ results, (quiesceUnit unit : HostProgram Empty _).run world.serveUnit state =
      (.ok (results, none), (world.command .stop unit state).2) := by
  obtain ⟨host, shown, full, hobserves, hshown⟩ := h
  obtain ⟨observation, -, hobserved, hactive, -⟩ := hshown.trusted hservice
  obtain ⟨hstop, stoppedHost, stoppedShown, stoppedFull, hstopped, hinactive⟩ :=
    hobeys.stop state (by simp)
  obtain ⟨stopped, hinert, hdead⟩ := hinactive.trusted stoppedHost hservice
  have hbefore : (ask (.observeTrusted unit) : HostProgram Empty _).run world.serveUnit state =
      (.ok ((observeTrustedService host unit full).1, .ok true), state) := by
    refine Prod.ext (congrArg Except.ok (hobserves.observeTrusted.trans ?_)) rfl
    rw [hobserved, ← hactive]
    rfl
  have hcommand : (ask (.systemctl .stop unit) : HostProgram Empty _).run world.serveUnit state =
      (.ok (world.command .stop unit state).1, (world.command .stop unit state).2) := rfl
  have hafter : (ask (.observeTrusted unit) : HostProgram Empty _).run world.serveUnit
      (world.command .stop unit state).2 =
        (.ok ((observeTrustedService stoppedHost unit stoppedFull).1, .ok false),
          (world.command .stop unit state).2) := by
    refine Prod.ext (congrArg Except.ok (hstopped.observeTrusted.trans ?_)) rfl
    rw [hinert, ← hdead]
    rfl
  refine ⟨(observeTrustedService host unit full).1 ++ [(world.command .stop unit state).1] ++
    (observeTrustedService stoppedHost unit stoppedFull).1, ?_⟩
  unfold quiesceUnit
  rw [Program.run_bind_ok hbefore]
  dsimp only
  rw [Program.run_bind_ok hcommand, if_pos hstop, Program.run_bind_ok hafter]
  rfl

/-- The quiesce of a service that is still loaded reaches the goal. -/
theorem MaskedActive.after_quiesce_resumed (h : world.MaskedActive unit "loaded" state)
    (hservice : unit ≠ .dockerSocket) (hobeys : world.Obeys unit state) :
    world.Quarantined unit (world.afterQuiesce unit state) := by
  obtain ⟨results, hrun⟩ := h.run_quiesce_resumed hservice hobeys
  unfold afterQuiesce
  rw [hrun]
  exact (hobeys.stop state (by simp)).2.quarantined

/-- The quiesce goes on behind a service that is still loaded. -/
theorem MaskedActive.quiesces (h : world.MaskedActive unit "loaded" state)
    (hservice : unit ≠ .dockerSocket) (hobeys : world.Obeys unit state) :
    world.Quiesces unit state := by
  obtain ⟨results, hrun⟩ := h.run_quiesce_resumed hservice hobeys
  exact ⟨results, congrArg Prod.fst hrun⟩

theorem trusted_gpu_services_nodup : trustedGpuServices.Nodup := by
  decide

/-- The quiesce of the gate reaches the goal exactly for a service that systemd still shows as
loaded, behind services whose own quiesce ends without an error. -/
theorem MaskedActive.gate_iff (h : world.MaskedActive unit loadState (states unit))
    (hobeys : world.Obeys unit (states unit)) :
    world.Quarantined unit (((quiesceTrustedGpuServices trustedGpuServices :
        HostProgram Empty _).run world.serve states).2 unit) ↔
      loadState = "loaded" ∧ unit ∈ trustedGpuServices ∧
        ∀ other ∈ trustedGpuServices.takeWhile (· ≠ unit), world.Quiesces other (states other) := by
  by_cases hmem : unit ∈ trustedGpuServices
  · have hservice : unit ≠ .dockerSocket := by
      rintro rfl
      exact absurd hmem (by decide)
    by_cases hclear : ∀ other ∈ trustedGpuServices.takeWhile (· ≠ unit),
        world.Quiesces other (states other)
    · rw [run_quiesce_of_clear trusted_gpu_services_nodup hmem hclear]
      have hload := h
      obtain ⟨_, _, _, _, hshown⟩ := hload
      rcases hshown.load with rfl | rfl
      · exact iff_of_true (h.after_quiesce_resumed hservice hobeys) ⟨rfl, hmem, hclear⟩
      · rw [h.after_quiesce_refused hservice]
        exact iff_of_false h.not_quarantined fun hresumed => absurd hresumed.1 (by decide)
    · have hblocked : ∃ other ∈ trustedGpuServices.takeWhile (· ≠ unit),
          ¬ world.Quiesces other (states other) := by
        simpa only [not_forall, exists_prop] using hclear
      rw [run_quiesce_of_blocked trusted_gpu_services_nodup hblocked]
      exact iff_of_false h.not_quarantined fun hresumed => hclear hresumed.2.2
  · rw [run_quiesce_of_not_mem hmem]
    exact iff_of_false h.not_quarantined fun hresumed => hmem hresumed.2.1

end LauncherWorld

/-- Whether a unit that systemd shows as masked and still active reaches the goal. Directly it does
exactly while systemd still shows it as loaded, through the maintenance gate exactly if it is also
one of the services of the gate and the quiesce of each service before it ends without an error,
and through the quarantine of all launchers never. -/
theorem interrupted_quarantine_resumed_iff {Local : Type} {world : LauncherWorld Local}
    {unit : Launcher} {loadState : String} (states : Launcher → Local)
    (h : world.MaskedActive unit loadState (states unit))
    (hobeys : world.Obeys unit (states unit)) :
    (world.Quarantined unit (world.afterQuarantine unit (states unit)) ↔ loadState = "loaded") ∧
    (world.Quarantined unit (((quiesceTrustedGpuServices trustedGpuServices :
        HostProgram Empty _).run world.serve states).2 unit) ↔
      loadState = "loaded" ∧ unit ∈ trustedGpuServices ∧
        ∀ other ∈ trustedGpuServices.takeWhile (· ≠ unit), world.Quiesces other (states other)) ∧
    ¬ world.Quarantined unit (((quarantineFailedMaintenanceGate :
      HostProgram Empty _).run world.serve states).2 unit) := by
  refine ⟨h.direct_iff hobeys, h.gate_iff hobeys, ?_⟩
  rw [LauncherWorld.run_quarantine_failed_maintenance_gate.refused
    fun hadmitted => h.not_known (hadmitted.known unit)]
  exact h.not_quarantined

/-! ## A systemd that prints -/

/-- The printed answers of a unit are those of the code's observers. -/
theorem printed_systemd_observes (base : HostAudit) (unit : Launcher) (state : PrintedUnit) :
    Observes (printedSystemd base) state.trustHost unit state (state.shownState unit)
      (state.shownFull unit) where
  observe := by simp only [printedSystemd, PrintedUnit.read]
  audited := by simp only [printedSystemd, PrintedUnit.auditedPrinted]
  observeTrusted := by simp only [printedSystemd, PrintedUnit.read]
  active := by simp only [printedSystemd, PrintedUnit.read]
  socket := by
    rintro rfl
    simp only [printedSystemd, PrintedUnit.read]

/-- A cut-off quarantine leaves a unit that is shown as masked and still active. -/
theorem interrupted_masked_active (base : HostAudit) (unit : Launcher) (stale : Bool) :
    (printedSystemd base).MaskedActive unit (interruptedLoadState stale) (interruptedUnit stale) :=
  ⟨_, _, _, printed_systemd_observes base unit _, interrupted_unit_shown unit stale⟩

/-- Another mask makes systemd read the unit files again. -/
theorem interrupted_remasked (base : HostAudit) (unit : Launcher) (stale : Bool) :
    (printedSystemd base).remasked unit (interruptedUnit stale) = interruptedUnit false := by
  cases stale <;> rfl

/-- A stop leaves the unit masked and inactive. -/
theorem interrupted_stopped (base : HostAudit) (unit : Launcher) (stale : Bool) :
    (printedSystemd base).command .stop unit (interruptedUnit stale) =
      ({ command := systemctlCommand .stop unit, returncode := some 0 }, stoppedUnit stale) := by
  cases stale <;> rfl

/-- The ideal systemd obeys on such a unit, and its process stays the authentic one. -/
theorem interrupted_obeys (base : HostAudit) (unit : Launcher) (stale : Bool) :
    (printedSystemd base).Obeys unit (interruptedUnit stale) where
  mask := by
    refine ⟨rfl, interruptedLoadState false, ?_⟩
    rw [interrupted_remasked]
    exact interrupted_masked_active base unit false
  stop := by
    have hinactive (stale : Bool) :
        (printedSystemd base).MaskedInactive unit (stoppedUnit stale) :=
      ⟨_, _, _, printed_systemd_observes base unit _, stopped_unit_shown unit stale⟩
    rw [interrupted_remasked]
    intro running hrunning
    rcases List.mem_pair.mp hrunning with rfl | rfl
    · rw [interrupted_stopped]
      exact ⟨rfl, hinactive stale⟩
    · rw [interrupted_stopped]
      exact ⟨rfl, hinactive false⟩
  process := by
    intro identity hidentity
    rw [(printed_systemd_observes base unit _).active] at hidentity
    obtain ⟨properties, pid, hbound⟩ := validate_active_bound hidentity
    obtain rfl := Except.ok.inj hbound
    rw [interrupted_remasked]
    show accepts (if (true && true && (SystemdUnit.process unit == SystemdUnit.process unit)) = true
      then (.ok () : Except String Unit) else _) = true
    rw [beq_self_eq_true]
    rfl
  socket := by
    intro hsocket identity _
    rw [interrupted_remasked]
    rfl

/-- The persistence daemon, masked and still active while systemd has its old unit files: the
direct rerun and the gate reach the goal, and the quarantine of all launchers does not. -/
theorem interrupted_persistenced_resumed :
    (printedSystemd (convergedHost (some true) (some true))).Quarantined .nvidiaPersistenced
        ((printedSystemd (convergedHost (some true) (some true))).afterQuarantine
          .nvidiaPersistenced (interruptedUnit true)) ∧
      (printedSystemd (convergedHost (some true) (some true))).Quarantined .nvidiaPersistenced
        (((quiesceTrustedGpuServices trustedGpuServices : HostProgram Empty _).run
          (printedSystemd (convergedHost (some true) (some true))).serve
          fun _ => interruptedUnit true).2 .nvidiaPersistenced) ∧
      ¬ (printedSystemd (convergedHost (some true) (some true))).Quarantined .nvidiaPersistenced
        (((quarantineFailedMaintenanceGate : HostProgram Empty _).run
          (printedSystemd (convergedHost (some true) (some true))).serve
          fun _ => interruptedUnit true).2 .nvidiaPersistenced) := by
  obtain ⟨hdirect, hgate, hdeferred⟩ := interrupted_quarantine_resumed_iff
    (fun _ => interruptedUnit true)
    (interrupted_masked_active (convergedHost (some true) (some true))
      .nvidiaPersistenced true) (interrupted_obeys _ .nvidiaPersistenced true)
  refine ⟨hdirect.mpr rfl, hgate.mpr ⟨rfl, by decide, fun other hother => ?_⟩, hdeferred⟩
  have hservice : other ≠ .dockerSocket := by
    rintro rfl
    exact absurd hother (by decide)
  exact (interrupted_masked_active _ other true).quiesces hservice (interrupted_obeys _ other true)

/-- A quarantine is not resumed on an ideal systemd, though every file and the process of the unit
are trusted. -/
theorem quarantine_not_resumed :
    ¬ ∀ (base : HostAudit) (unit : Launcher) (state : PrintedUnit),
      state.masked = true → state.active = true → state.trusted = true →
      (printedSystemd base).Quarantined unit
        ((printedSystemd base).afterQuarantine unit state) := by
  intro hall
  have hresumed := hall (convergedHost (some true) (some true)) .dockerService
    (interruptedUnit false) rfl rfl rfl
  have hload := ((interrupted_masked_active _ .dockerService false).direct_iff
    (interrupted_obeys _ .dockerService false)).mp hresumed
  exact absurd hload (by decide)

end NvidiaConverge
