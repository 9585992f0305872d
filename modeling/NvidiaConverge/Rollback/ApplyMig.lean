import NvidiaConverge.Rollback.ApplyChanges

/-!
# The order of an applied rollback: MIG

The MIG phase in any environment, and behind the change of the modules. Nothing follows an
observation that is not stable.
-/

namespace NvidiaConverge

open Program (Ensures Outcome Triple anyReply ending)

variable {request : RollbackRequest} {p : RollbackProgress} {audit : HostAudit}
  {results : List CommandResult}

/-! ## The MIG phase -/

/-- The status of an observation depends neither on the stage nor on the results before it. -/
theorem refresh_status (snapshot : RollbackSnapshot) (stage : String)
    (observation : MigObservation) (results : List CommandResult) :
    (refreshRollbackMigState snapshot stage observation results).status =
      (refreshRollbackMigState snapshot "" observation []).status := by
  unfold refreshRollbackMigState
  dsimp only
  split_ifs <;> rfl

/-- An observation that failed leaves a failed result. -/
theorem refresh_failed {snapshot : RollbackSnapshot} {stage : String}
    {observation : MigObservation} {results : List CommandResult}
    (h : (refreshRollbackMigState snapshot stage observation results).status = .failed) :
    commandsSucceeded (refreshRollbackMigState snapshot stage observation results).results =
      false := by
  have hrefused (before : List CommandResult) (detail : List String) (stderr : String) :
      commandsSucceeded (before ++ [migPrecondition detail stderr]) = false := by
    simp [migPrecondition, CommandResult.succeeded]
  unfold refreshRollbackMigState at h ⊢
  dsimp only at h ⊢
  split_ifs at h ⊢
  · exact hrefused ..
  · exact hrefused ..
  · exact hrefused ..

/-- What the MIG phase needs of an environment: `clean` holds until a command or an observation
failed, `inv` wherever the run may be cut off, and `good` also behind an observation that shows the
snapshot's mode waiting for a reboot. -/
structure MigRules {σ : Type} (env : σ → (op : MigRestoreOp) → op.Reply → σ → Prop)
    (phase : MigPhase) (inv clean good : σ → Prop) : Prop where
  kept : ∀ {state}, clean state → inv state
  finished : ∀ {state}, clean state → good state
  run : ∀ {state command result after}, command.head? = some "nvidia-smi" → clean state →
    env state (.run command) result after → inv after ∧ (result.succeeded = true → clean after)
  observe : ∀ {state answers after}, clean state → env state .observe answers after →
    inv after ∧ (migRefreshStatus phase.snapshot answers = .stable → clean after) ∧
      (migRefreshStatus phase.snapshot answers = .pendingReboot → good after)

namespace MigRules

variable {σ : Type} {env : σ → (op : MigRestoreOp) → op.Reply → σ → Prop}
  {inv clean good : σ → Prop} {state : σ} {phase : MigPhase} {stage gpuUuid : String}
  {current : MigRefresh}

/-- What a part of the MIG phase leaves: the invariant, and a good state where every result
succeeded. -/
def Leaves (inv good : σ → Prop) : Outcome String MigRestored → σ → Prop :=
  ending inv (fun _ => inv) fun restored after =>
    inv after ∧ (commandsSucceeded restored.results = true → good after)

/-- A result failed exactly when it did not succeed. -/
theorem failed_eq (result : CommandResult) : result.failed = !result.succeeded := by
  unfold CommandResult.failed CommandResult.succeeded
  cases result.returncode with
  | none => rfl
  | some code => simp [bne]

theorem ensures_pure (h : MigRules env phase inv clean good) (hclean : clean state)
    (restored : MigRestored) : Ensures env (Leaves inv good) (pure restored) state :=
  Program.ensures_pure.mpr ⟨h.kept hclean, h.kept hclean, fun _ => h.finished hclean⟩

/-- The phase goes on behind a stable observation only. -/
theorem ensures_refresh (h : MigRules env phase inv clean good) (hclean : clean state)
    {rest : MigRefresh → MigRestoreProgram MigRestored}
    (hrest : ∀ refreshed after, clean after →
      Ensures env (Leaves inv good) (rest refreshed) after) :
    Ensures env (Leaves inv good) (do
      let answers ← askMigState
      let refreshed := refreshRollbackMigState phase.snapshot stage (phase.observed answers) results
      if refreshed.status ≠ .stable then pure ⟨refreshed.results, false⟩ else rest refreshed)
      state := by
  refine Program.ensures_bind.mpr
    ((Program.ensures_perform MigRestoreOp.observe).mpr ⟨h.kept hclean, ?_⟩)
  intro answers after hanswers
  obtain ⟨hinv, hstable, hpending⟩ := h.observe hclean hanswers
  have hstatus : (refreshRollbackMigState phase.snapshot stage (phase.observed answers)
      results).status = migRefreshStatus phase.snapshot answers := refresh_status ..
  refine ⟨hinv, ?_⟩
  show Ensures env _ (if _ then _ else _) after
  split
  · next hunstable =>
      refine Program.ensures_pure.mpr ⟨hinv, hinv, fun hall => ?_⟩
      cases hcase : migRefreshStatus phase.snapshot answers with
      | stable => exact absurd (hstatus.trans hcase) hunstable
      | pendingReboot => exact hpending hcase
      | failed =>
          have hfailed := refresh_failed (hstatus.trans hcase)
          rw [hfailed] at hall
          cases hall
  · next hgoes =>
      rw [hstatus, not_not] at hgoes
      exact hrest _ after (hstable hgoes)

theorem ensures_command (h : MigRules env phase inv clean good) {command : List String}
    {rest : MigRefresh → MigRestoreProgram MigRestored} (hclean : clean state)
    (hhead : command.head? = some "nvidia-smi")
    (hrest : ∀ refreshed after, clean after →
      Ensures env (Leaves inv good) (rest refreshed) after) :
    Ensures env (Leaves inv good) (phase.commandThenRefresh stage command results rest) state := by
  refine Program.ensures_bind.mpr
    ((Program.ensures_perform (MigRestoreOp.run command)).mpr ⟨h.kept hclean, ?_⟩)
  intro result after hresult
  obtain ⟨hinv, hsucceeded⟩ := h.run hhead hclean hresult
  refine ⟨hinv, ?_⟩
  show Ensures env _ (if _ then _ else _) after
  split
  · next hfailed =>
      rw [failed_eq, Bool.not_eq_true'] at hfailed
      exact Program.ensures_pure.mpr ⟨hinv, hinv, fun hall => by simp [hfailed] at hall⟩
  · next hfine =>
      rw [failed_eq, Bool.not_eq_true', Bool.not_eq_false] at hfine
      exact h.ensures_refresh (hsucceeded hfine) hrest

theorem create_command_head {geometry : List MigGpuInstance} {command : List String}
    (h : migGeometryCreateCommand gpuUuid geometry = some (some command)) :
    command.head? = some "nvidia-smi" := by
  cases geometry with
  | nil => cases h
  | cons gpuInstance rest =>
      rw [migGeometryCreateCommand] at h
      split at h
      · cases h
        rfl
      · cases h

/-- Creating the geometry of a GPU leaves what a part of the phase may leave. -/
theorem ensures_create (h : MigRules env phase inv clean good) (hclean : clean state) :
    Ensures env (Leaves inv good) (phase.createGeometry gpuUuid current) state := by
  unfold MigPhase.createGeometry
  split
  · split
    · exact Program.ensures_raise.mpr ⟨h.kept hclean, h.kept hclean⟩
    · exact h.ensures_pure hclean _
    · next command hcommand =>
        refine h.ensures_command hclean (create_command_head hcommand)
          fun created after hafter => ?_
        show Ensures env _ (if _ then _ else _) after
        split <;> exact h.ensures_pure hafter _
  · exact h.ensures_pure hclean _

theorem ensures_mode (h : MigRules env phase inv clean good) (hclean : clean state) :
    Ensures env (Leaves inv good) (phase.changeMode gpuUuid current) state := by
  unfold MigPhase.changeMode
  split
  · exact h.ensures_command hclean rfl fun _ _ hafter => h.ensures_create hafter
  · exact h.ensures_create hclean

/-- Destroying the geometry of a GPU leaves what a part of the phase may leave. -/
theorem ensures_destroy (h : MigRules env phase inv clean good) (commands : List (List String))
    (hcommands : ∀ command ∈ commands, command.head? = some "nvidia-smi") (hclean : clean state) :
    Ensures env (Leaves inv good) (phase.destroyGeometry gpuUuid commands current) state := by
  induction commands generalizing current state with
  | nil => exact h.ensures_mode hclean
  | cons command commands ih =>
      refine h.ensures_command hclean (hcommands command List.mem_cons_self) fun _ _ hafter => ?_
      exact ih (fun other hother => hcommands other (List.mem_cons_of_mem _ hother)) hafter

/-- Restoring the GPU from a known state leaves what a part of the phase may leave. -/
theorem ensures_restore (h : MigRules env phase inv clean good) (hclean : clean state) :
    Ensures env (Leaves inv good) (phase.restore current) state := by
  unfold MigPhase.restore
  split
  · exact Program.ensures_raise.mpr ⟨h.kept hclean, h.kept hclean⟩
  · split
    · exact Program.ensures_raise.mpr ⟨h.kept hclean, h.kept hclean⟩
    · split
      · refine h.ensures_destroy _ (fun command hcommand => ?_) hclean
        simp only [migGeometryDestroyCommands, List.mem_cons, List.not_mem_nil, or_false]
          at hcommand
        rcases hcommand with rfl | rfl <;> rfl
      · exact h.ensures_mode hclean

theorem ensures_program (h : MigRules env phase inv clean good) (hclean : clean state) :
    Ensures env (Leaves inv good) phase.program state := by
  unfold MigPhase.program
  split
  · have hrest (refreshed : MigRefresh) (after : σ) (hafter : clean after) :
        Ensures env (Leaves inv good)
          (if refreshed.mode ≠ phase.snapshot.migMode ∨
              refreshed.geometry ≠ phase.snapshot.migGeometry then phase.restore refreshed
            else pure ⟨refreshed.results, true⟩) after := by
      split
      · exact h.ensures_restore hafter
      · exact h.ensures_pure hafter _
    exact h.ensures_refresh hclean hrest
  · exact h.ensures_pure hclean _

end MigRules

/-- A run that stands here, whether or not MIG waits for a reboot. -/
def RollbackRequest.Settles (request : RollbackRequest) (p : RollbackProgress)
    (trace : List RollbackEvent) : Prop :=
  ∃ waits, request.At { p with waits } trace

/-- The MIG phase behind the change of the modules. -/
theorem mig_rules {phase : MigPhase} {first last : List String}
    (h : request.Replaces audit p first last) (hsnapshot : phase.snapshot = request.snapshot)
    (hmodules : p.modules = moduleCommands request.snapshot audit first last) :
    MigRules (Program.within RollbackOp.mig (fun _ reply => reply) anyReply) phase request.Safe
      (request.At p) (request.Settles p) where
  kept hat := hat.1
  finished hat := ⟨p.waits, hat⟩
  run := by
    rintro trace command result _ hhead hat ⟨answer, hanswer, rfl⟩
    obtain rfl : answer = result := hanswer
    have hsafe : request.Safe (trace ++ [⟨.mig (.run command), answer⟩]) := by
      refine hat.1.snoc ?_ _
      rw [hat.2]
      exact fun _ => ⟨audit, h.audited, h.restored, h.undisturbed,
        ⟨first, last, h.inspected, h.order, hmodules⟩, hhead⟩
    refine ⟨hsafe, fun hsucceeded => ⟨hsafe, ?_⟩⟩
    rw [rollback_progress_snoc, hat.2]
    show p.checked _ = p
    rw [hsucceeded, checked_true]
  observe := by
    rintro trace answers _ hat ⟨answer, hanswer, rfl⟩
    obtain rfl : answer = answers := hanswer
    have hsafe : request.Safe (trace ++ [⟨.mig .observe, answer⟩]) :=
      hat.1.snoc (fun hchanges => Bool.noConfusion hchanges) _
    have hprogress : rollbackProgress request.snapshot (trace ++ [⟨.mig .observe, answer⟩]) =
        p.refreshed (migRefreshStatus request.snapshot answer) := by
      rw [rollback_progress_snoc, hat.2]
      rfl
    rw [hsnapshot]
    refine ⟨hsafe, fun hstable => ⟨hsafe, ?_⟩, fun hpending => ⟨true, hsafe, ?_⟩⟩
    · rw [hprogress, hstable]
      show { p.checked true with waits := p.waits || false } = p
      rw [checked_true, Bool.or_false]
    · rw [hprogress, hpending]
      show { p.checked true with waits := p.waits || true } = { p with waits := true }
      rw [checked_true, Bool.or_true]

theorem succeeded_of_conclude {plan : RollbackPlan}
    (h : commandsSucceeded (plan.conclude results) = true) : commandsSucceeded results = true := by
  by_cases hnone : results = []
  · rw [hnone]
    rfl
  · unfold RollbackPlan.conclude at h
    dsimp only at h
    rw [if_neg fun hempty => hnone (List.append_eq_nil_iff.mp hempty).1, commands_succeeded_append,
      Bool.and_eq_true] at h
    exact h.1

/-- The MIG phase of an applied rollback is permitted behind the replacement of the modules. -/
theorem stage_restore_mig {plan : RollbackPlan} {names : List String}
    (hsnapshot : plan.snapshot = request.snapshot)
    (h : plan.mutatesHost = true → request.Replaces plan.audit p plan.moduleNames names)
    (hmodules : p.modules = moduleCommands request.snapshot plan.audit plan.moduleNames names)
    (hquiet : plan.mutatesHost = false →
      (plan.migPhase names).migRestoreRequired = false ∧
        (plan.migPhase names).migStateMayHaveChanged = false) :
    request.Stage (request.At p) (plan.restoreMig names results) fun final trace =>
      request.Safe trace ∧ (commandsSucceeded final = true → request.Settles p trace) := by
  have hphase : Triple anyReply (request.At p)
      ((plan.migPhase names).program.embed RollbackOp.mig fun _ reply => reply)
      (fun restored trace => request.Safe trace ∧
        (commandsSucceeded restored.results = true → request.Settles p trace))
      request.Safe request.Safe := by
    refine Triple.embed fun trace hat => ?_
    cases hmutates : plan.mutatesHost with
    | true =>
        refine (MigRules.ensures_program (mig_rules (h hmutates) hsnapshot hmodules) hat).mono ?_
        intro outcome final hends
        cases outcome with
        | interrupted => exact hends
        | raised error => exact hends
        | returned restored => exact hends
    | false =>
        obtain ⟨hrequired, hchanged⟩ := hquiet hmutates
        unfold MigPhase.program
        rw [hrequired, hchanged]
        exact Program.ensures_pure.mpr ⟨hat.1, hat.1, fun _ => ⟨p.waits, hat⟩⟩
  refine (hphase.reraise fun _ hsafe => hsafe).bind fun restored => ?_
  show request.Stage _ (if _ then _ else _) _
  split
  · refine Program.triple_pure (fun _ hpre => ⟨hpre.1, fun hall => hpre.2 ?_⟩) fun _ hpre => hpre.1
    have hkept := succeeded_of_conclude hall
    rw [commands_succeeded_append, Bool.and_eq_true] at hkept
    exact hkept.2
  · refine Program.triple_pure (fun _ hpre => ⟨hpre.1, fun hall => hpre.2 ?_⟩) fun _ hpre => hpre.1
    rw [commands_succeeded_append, Bool.and_eq_true] at hall
    exact hall.2

end NvidiaConverge
