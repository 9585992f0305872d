import NvidiaConverge.Launchers.Host

/-!
# The quarantine of one launcher

`_quarantine_service_for_rollback` masks a unit without its hooks and then stops only an
authenticated active process. Read `ensures_quarantine` first: in any environment, a quarantine
whose results all succeeded ends with an observation of the unit as inactive and masked, and it
issues no command after a failure.
-/

namespace NvidiaConverge

open Program (Ensures Issues Outcome ending)

/-! ## The program -/

/-- A precondition of the quarantine that failed, as a result of the rollback. -/
def quarantineFailure (unit : Launcher) (reason : String) : CommandResult :=
  failedResult ["rollback-precondition", "service-quarantine", unit.unit] reason

/-- The identity that a unit has before it is masked. -/
inductive PreMaskIdentity (unit : Launcher) where
  | none
  | socket (identity : TrustedDockerSocketIdentity) (isSocket : unit = .dockerSocket)
  | process (identity : TrustedGpuServiceIdentity unit)

variable {ε : Type}

/-- The failure of the quarantine is recorded and returned. -/
def refuseQuarantine (unit : Launcher) (reason : String) : HostProgram ε (List CommandResult) := do
  ask (.record unit (quarantineFailure unit reason))
  pure [quarantineFailure unit reason]

/-- The trust validation of a unit before its mask, with the identity that it authenticates. -/
def authenticateBeforeMask (unit : Launcher) (active : Bool) :
    HostProgram ε (List CommandResult × Except String (PreMaskIdentity unit)) :=
  if isSocket : unit = .dockerSocket then do
    let reply : TrustReply (Option TrustedDockerSocketIdentity) ← ask (.validateSocket true)
    pure (reply.results, reply.verdict.map fun identity =>
      identity.elim .none fun socket => .socket socket isSocket)
  else if active then do
    let reply : TrustReply (TrustedGpuServiceIdentity unit) ← ask (.validateActive unit none)
    pure (reply.results, reply.verdict.map .process)
  else do
    let reply : TrustReply Unit ← ask (.validateService unit true)
    pure (reply.results, reply.verdict.map fun _ => .none)

/-- The trust validation between the mask and the stop: its results, and whether it accepts. -/
def revalidateAfterMask (unit : Launcher) :
    PreMaskIdentity unit → HostProgram ε (List CommandResult × Bool)
  | .socket identity _ => do
      let reply : TrustReply Unit ← ask (.revalidateSocket identity)
      pure (reply.results, accepts reply.verdict)
  | .process identity => do
      let reply : TrustReply Unit ← ask (.revalidateProcess unit identity)
      pure (reply.results, accepts reply.verdict)
  | .none => do
      let failure := failedResult ["rollback-precondition", "service-process-identity", unit.unit]
        (unit.unit ++ " became active without a pre-mask trusted identity")
      ask (.record unit failure)
      pure ([failure], false)

/-- The last check of the quarantine: the fresh observation must show the unit inactive and
masked. -/
def confirmQuarantine (unit : Launcher) (observation : Observation) :
    HostProgram ε (List CommandResult) :=
  if observation.quarantined then pure [observation.result]
  else do
    let failures ← refuseQuarantine unit
      "fresh systemd state does not prove inactive/masked quarantine"
    pure (observation.result :: failures)

/-- Stop the masked unit with the identity it had before. -/
def stopMasked (unit : Launcher) (identity : PreMaskIdentity unit) :
    HostProgram ε (List CommandResult) := do
  let (revalidation, trusted) ← revalidateAfterMask unit identity
  if trusted then do
    let stopped : CommandResult ← ask (.systemctl .stop unit)
    if stopped.succeeded then do
      let observation : Observation ← ask (.observe unit)
      let confirmed ← confirmQuarantine unit observation
      pure (revalidation ++ [stopped] ++ confirmed)
    else pure (revalidation ++ [stopped])
  else pure revalidation

/-- What follows a mask that succeeded: the unit is observed, revalidated and stopped. -/
def quarantineMasked (unit : Launcher) (identity : PreMaskIdentity unit) :
    HostProgram ε (List CommandResult) := do
  let observation : Observation ← ask (.observe unit)
  if observation.result.returncode ≠ some 0 ∨ observation.state.active = none ∨
      observation.state.unitFileState ≠ some .masked then do
    let failures ← refuseQuarantine unit
      ("fresh systemd state does not prove the launcher was masked " ++
        "before its activity transition")
    pure (observation.result :: failures)
  else if observation.state.active = some true then do
    let rest ← stopMasked unit identity
    pure (observation.result :: rest)
  else confirmQuarantine unit observation

/-- `_quarantine_service_for_rollback`: authenticate a unit, mask it, and stop it if it still is the
same. -/
def quarantineServiceForRollback (unit : Launcher) : HostProgram ε (List CommandResult) := do
  let before : Observation ← ask (.observe unit)
  match before.state.active with
  | none => do
      let failures ← refuseQuarantine unit "launcher state is incomplete before quarantine"
      pure (before.result :: failures)
  | some active =>
      if before.result.returncode ≠ some 0 ∨ before.state.unitFileState = none then do
        let failures ← refuseQuarantine unit "launcher state is incomplete before quarantine"
        pure (before.result :: failures)
      else do
        let (trust, verdict) ← authenticateBeforeMask unit active
        match verdict with
        | .error _ => pure (before.result :: trust)
        | .ok identity => do
            let masked : CommandResult ← ask (.systemctl .mask unit)
            if masked.succeeded then do
              let rest ← quarantineMasked unit identity
              pure (before.result :: trust ++ [masked] ++ rest)
            else pure (before.result :: trust ++ [masked])

/-- The observation behind a mask is one that the quarantine goes on with. -/
theorem Observation.known_of_masked {observation : Observation}
    (h : ¬ (observation.result.returncode ≠ some 0 ∨ observation.state.active = none ∨
      observation.state.unitFileState ≠ some .masked)) : observation.known = true := by
  obtain ⟨hcode, hactive, hfile⟩ := by simpa only [not_or, not_not] using h
  simp [known, hcode, Option.isSome_iff_ne_none.mpr hactive, hfile]

/-- The first observation is one that the quarantine goes on with. -/
theorem Observation.known_of_complete {observation : Observation} {active : Bool}
    (hactive : observation.state.active = some active)
    (h : ¬ (observation.result.returncode ≠ some 0 ∨ observation.state.unitFileState = none)) :
    observation.known = true := by
  obtain ⟨hcode, hfile⟩ := by simpa only [not_or, not_not] using h
  simp [known, hcode, hactive, Option.isSome_iff_ne_none.mpr hfile]

/-! ## Which operations it issues -/

/-- A program that begins with an operation about the unit concerns it if the rest does. -/
theorem issues_ask {α : Type} {unit : Launcher} {op : HostOp} {rest : op.Reply → HostProgram ε α}
    (hop : op.concerns unit) (hrest : ∀ reply, Issues (HostOp.concerns unit) (rest reply)) :
    Issues (HostOp.concerns unit) (ask op >>= rest) :=
  Program.issues_perform_bind hop hrest

theorem issues_refuse_quarantine (unit : Launcher) (reason : String) :
    Issues (HostOp.concerns unit)
      (refuseQuarantine unit reason : HostProgram ε _) :=
  issues_ask rfl fun _ => Program.issues_pure _

theorem issues_authenticate_before_mask (unit : Launcher) (active : Bool) :
    Issues (HostOp.concerns unit)
      (authenticateBeforeMask unit active : HostProgram ε _) := by
  unfold authenticateBeforeMask
  split
  · next isSocket =>
      refine issues_ask ?_ fun _ => Program.issues_pure _
      rw [isSocket]
      rfl
  · split <;> exact issues_ask rfl fun _ => Program.issues_pure _

theorem issues_revalidate_after_mask {unit : Launcher} (identity : PreMaskIdentity unit) :
    Issues (HostOp.concerns unit)
      (revalidateAfterMask unit identity : HostProgram ε _) := by
  cases identity with
  | socket socket isSocket =>
      refine issues_ask ?_ fun _ => Program.issues_pure _
      rw [isSocket]
      rfl
  | process process => exact issues_ask rfl fun _ => Program.issues_pure _
  | none => exact issues_ask rfl fun _ => Program.issues_pure _

theorem issues_confirm_quarantine (unit : Launcher) (observation : Observation) :
    Issues (HostOp.concerns unit)
      (confirmQuarantine unit observation : HostProgram ε _) := by
  unfold confirmQuarantine
  split
  · exact Program.issues_pure _
  · exact (issues_refuse_quarantine unit _).bind fun _ => Program.issues_pure _

theorem issues_stop_masked {unit : Launcher} (identity : PreMaskIdentity unit) :
    Issues (HostOp.concerns unit) (stopMasked unit identity : HostProgram ε _) := by
  refine (issues_revalidate_after_mask identity).bind fun ⟨_, trusted⟩ => ?_
  cases trusted with
  | false => exact Program.issues_pure _
  | true =>
      refine issues_ask rfl fun stopped => ?_
      show Issues _ (if stopped.succeeded = true then _ else _)
      split
      · refine issues_ask rfl fun observation => ?_
        exact (issues_confirm_quarantine unit observation).bind fun _ => Program.issues_pure _
      · exact Program.issues_pure _

theorem issues_quarantine_masked {unit : Launcher} (identity : PreMaskIdentity unit) :
    Issues (HostOp.concerns unit)
      (quarantineMasked unit identity : HostProgram ε _) := by
  refine issues_ask rfl fun observation => ?_
  show Issues _ (if _ then _ else _)
  split
  · exact (issues_refuse_quarantine unit _).bind fun _ => Program.issues_pure _
  · show Issues _ (if _ then _ else _)
    split
    · exact (issues_stop_masked identity).bind fun _ => Program.issues_pure _
    · exact issues_confirm_quarantine unit observation

/-- The quarantine of a unit is about this unit only. -/
theorem issues_quarantine (unit : Launcher) :
    Issues (HostOp.concerns unit)
      (quarantineServiceForRollback unit : HostProgram ε _) := by
  refine issues_ask rfl fun before => ?_
  have hrefused : ∀ reason, Issues (HostOp.concerns unit)
      (do
        let failures ← refuseQuarantine unit reason
        pure (before.result :: failures) : HostProgram ε _) := fun reason =>
    (issues_refuse_quarantine unit reason).bind fun _ => Program.issues_pure _
  cases before.state.active with
  | none => exact hrefused _
  | some active =>
      show Issues _ (if _ then _ else _)
      split
      · exact hrefused _
      · refine (issues_authenticate_before_mask unit active).bind fun ⟨trust, verdict⟩ => ?_
        cases verdict with
        | error reason => exact Program.issues_pure _
        | ok identity =>
            refine issues_ask rfl fun masked => ?_
            show Issues _ (if masked.succeeded = true then _ else _)
            split
            · exact (issues_quarantine_masked identity).bind fun _ => Program.issues_pure _
            · exact Program.issues_pure _

/-! ## What it ensures -/

/-- The operations that the quarantine of a unit may make. -/
def HostOp.quarantines (unit : Launcher) : HostOp → Prop
  | .systemctl verb other => other = unit ∧ (verb = .mask ∨ verb = .stop)
  | .observe other | .record other _ | .validateService other true | .validateActive other none
  | .revalidateProcess other _ => other = unit
  | .validateSocket true | .revalidateSocket _ => unit = .dockerSocket
  | _ => False

variable {σ : Type} {env : σ → (op : HostOp) → op.Reply → σ → Prop} {unit : Launcher}
  {inv clean good : σ → Prop} {state : σ}

/-- What the quarantine of a unit needs of an environment: `inv` holds wherever the run may be cut
off, `clean` until something failed, and `good` behind an observation of the quarantined unit. -/
structure QuarantineRules (env : σ → (op : HostOp) → op.Reply → σ → Prop) (unit : Launcher)
    (inv clean good : σ → Prop) : Prop where
  kept : ∀ {state}, clean state → inv state
  step : ∀ {op state reply after}, op.quarantines unit → clean state → env state op reply after →
    inv after ∧ (op.fine reply = true → clean after)
  observed : ∀ {state reply after}, clean state → env state (.observe unit) reply after →
    reply.quarantined = true → good after
  recorded : ∀ {state result reply after}, inv state → env state (.record unit result) reply after →
    inv after

/-- What a part of the quarantine leaves: if all of its results succeeded, the unit is
quarantined and nothing failed. -/
def leaves (inv clean good : σ → Prop) : Outcome ε (List CommandResult) → σ → Prop :=
  ending inv (fun _ _ => False) fun results after =>
    inv after ∧ (commandsSucceeded results = true → clean after ∧ good after)

/-- The rule of one operation of the quarantine, for any answer that the environment gives. -/
theorem QuarantineRules.ask {α : Type} {post : Outcome ε α → σ → Prop} {op : HostOp}
    {rest : op.Reply → HostProgram ε α} (h : QuarantineRules env unit inv clean good)
    (hop : op.quarantines unit) (hclean : clean state)
    (hstop : ∀ after, inv after → post .interrupted after)
    (hrest : ∀ reply after, env state op reply after → inv after →
      (op.fine reply = true → clean after) → Ensures env post (rest reply) after) :
    Ensures env post (NvidiaConverge.ask op >>= rest) state := by
  refine Program.ensures_bind.mpr ((Program.ensures_perform op).mpr
    ⟨hstop state (h.kept hclean), fun reply after hreply => ?_⟩)
  obtain ⟨hinv, hfine⟩ := h.step hop hclean hreply
  exact ⟨hstop after hinv, hrest reply after hreply hinv hfine⟩

/-- A part that leaves its results as it should also does so behind other results. -/
theorem ensures_leaves_behind {part : HostProgram ε (List CommandResult)}
    (h : Ensures env (leaves inv clean good) part state) (results : List CommandResult) :
    Ensures env (leaves inv clean good) (do
      let rest ← part
      pure (results ++ rest)) state := by
  refine h.bind (fun _ hinv => hinv) (fun _ _ hraised => hraised) ?_
  rintro rest after ⟨hinv, hsucceeded⟩
  refine Program.ensures_pure.mpr ⟨hinv, hinv, fun hall => hsucceeded ?_⟩
  rw [commands_succeeded_append, Bool.and_eq_true] at hall
  exact hall.2

/-- A quarantine may leave anything that keeps the invariant when one of its results failed. -/
theorem ensures_failed {results : List CommandResult} (hinv : inv state)
    (hfailed : commandsSucceeded results = false) :
    Ensures env (leaves inv clean good) (pure results : HostProgram ε _) state :=
  Program.ensures_pure.mpr ⟨hinv, hinv, fun hall => by simp [hfailed] at hall⟩

/-- A refusal only records its failure, also behind an observation that failed. -/
theorem ensures_refuse_quarantine (h : QuarantineRules env unit inv clean good)
    (hinv : inv state) (reason : String) :
    Ensures env (leaves inv clean good)
      (refuseQuarantine unit reason : HostProgram ε _) state := by
  refine Program.ensures_bind.mpr ((Program.ensures_perform
    (HostOp.record unit (quarantineFailure unit reason))).mpr ⟨hinv, fun _ after hreply => ?_⟩)
  have hafter := h.recorded hinv hreply
  exact ⟨hafter, ensures_failed hafter rfl⟩

theorem ensures_confirm_quarantine (h : QuarantineRules env unit inv clean good)
    {observation : Observation} (hinv : inv state)
    (hclean : observation.known = true → clean state)
    (hgood : observation.quarantined = true → good state) :
    Ensures env (leaves inv clean good)
      (confirmQuarantine unit observation : HostProgram ε _) state := by
  unfold confirmQuarantine
  split
  · next hquarantined =>
      exact Program.ensures_pure.mpr ⟨hinv, hinv, fun _ =>
        ⟨hclean (observation.known_of_quarantined hquarantined), hgood hquarantined⟩⟩
  · exact ensures_leaves_behind (ensures_refuse_quarantine h hinv _) [observation.result]

/-- The validation before the stop: its results succeeded exactly when it accepts. -/
theorem ensures_revalidate_after_mask (h : QuarantineRules env unit inv clean good)
    (identity : PreMaskIdentity unit) (hclean : clean state) :
    Ensures env (ending inv (fun _ _ => False) fun answer after =>
        inv after ∧ (answer.2 = true → clean after) ∧
          (answer.2 = false → commandsSucceeded answer.1 = false))
      (revalidateAfterMask unit identity : HostProgram ε _) state := by
  cases identity with
  | socket socket isSocket =>
      refine h.ask isSocket hclean (fun _ hinv => hinv) fun reply after _ hinv hfine => ?_
      exact Program.ensures_pure.mpr ⟨hinv, hinv, hfine, fun hrefused => reply.refused hrefused⟩
  | process process =>
      refine h.ask rfl hclean (fun _ hinv => hinv) fun reply after _ hinv hfine => ?_
      exact Program.ensures_pure.mpr ⟨hinv, hinv, hfine, fun hrefused => reply.refused hrefused⟩
  | none =>
      refine h.ask rfl hclean (fun _ hinv => hinv) fun _ after _ hinv _ => ?_
      exact Program.ensures_pure.mpr ⟨hinv, hinv, fun hno => absurd hno Bool.false_ne_true,
        fun _ => rfl⟩

/-- The stop of a masked unit leaves a good state, or a result that failed. -/
theorem ensures_stop_masked (h : QuarantineRules env unit inv clean good)
    (identity : PreMaskIdentity unit) (hclean : clean state) :
    Ensures env (leaves inv clean good) (stopMasked unit identity : HostProgram ε _) state := by
  refine (ensures_revalidate_after_mask h identity hclean).bind (fun _ hinv => hinv)
    (fun _ _ hraised => hraised) ?_
  rintro ⟨revalidation, trusted⟩ after ⟨hinv, hkept, hrefused⟩
  cases trusted with
  | false => exact ensures_failed hinv (hrefused rfl)
  | true =>
      refine h.ask ⟨rfl, .inr rfl⟩ (hkept rfl) (fun _ hinv => hinv)
        fun stopped after _ hinv hfine => ?_
      show Ensures env _ (if stopped.succeeded = true then _ else _) after
      split
      · next hstopped =>
          refine h.ask rfl (hfine hstopped) (fun _ hinv => hinv)
            fun observation later hreply hinv hclean => ?_
          exact ensures_leaves_behind (ensures_confirm_quarantine h hinv hclean
            fun hquarantined => h.observed (hfine hstopped) hreply hquarantined) _
      · next hstopped => exact ensures_failed hinv (by simp [hstopped])

/-- What follows the mask of a unit leaves a good state, or a result that failed. -/
theorem ensures_quarantine_masked (h : QuarantineRules env unit inv clean good)
    (identity : PreMaskIdentity unit) (hclean : clean state) :
    Ensures env (leaves inv clean good)
      (quarantineMasked unit identity : HostProgram ε _) state := by
  refine h.ask rfl hclean (fun _ hinv => hinv) fun observation after hreply hinv hkept => ?_
  show Ensures env _ (if _ then _ else _) after
  split
  · exact ensures_leaves_behind (ensures_refuse_quarantine h hinv _) [observation.result]
  · next hshown =>
      have hclean' := hkept (observation.known_of_masked hshown)
      show Ensures env _ (if _ then _ else _) after
      split
      · exact ensures_leaves_behind (ensures_stop_masked h identity hclean') [observation.result]
      · exact ensures_confirm_quarantine h hinv hkept fun hquarantined =>
          h.observed hclean hreply hquarantined

/-- The validation before the mask: its results succeeded exactly when it accepts. -/
theorem ensures_authenticate_before_mask (h : QuarantineRules env unit inv clean good)
    (active : Bool) (hclean : clean state) :
    Ensures env (ending inv (fun _ _ => False) fun answer after =>
        inv after ∧ (accepts answer.2 = true → clean after) ∧
          (accepts answer.2 = false → commandsSucceeded answer.1 = false))
      (authenticateBeforeMask unit active : HostProgram ε _) state := by
  unfold authenticateBeforeMask
  split
  · next hsocket =>
      refine h.ask hsocket hclean (fun _ hinv => hinv) fun reply after _ hinv hfine => ?_
      refine Program.ensures_pure.mpr ⟨hinv, hinv, ?_, ?_⟩
      · exact fun haccepts => hfine ((accepts_map _ _).symm.trans haccepts)
      · exact fun hrefused => reply.refused ((accepts_map _ _).symm.trans hrefused)
  · split
    · refine h.ask rfl hclean (fun _ hinv => hinv) fun reply after _ hinv hfine => ?_
      refine Program.ensures_pure.mpr ⟨hinv, hinv, ?_, ?_⟩
      · exact fun haccepts => hfine ((accepts_map _ _).symm.trans haccepts)
      · exact fun hrefused => reply.refused ((accepts_map _ _).symm.trans hrefused)
    · refine h.ask rfl hclean (fun _ hinv => hinv) fun reply after _ hinv hfine => ?_
      refine Program.ensures_pure.mpr ⟨hinv, hinv, ?_, ?_⟩
      · exact fun haccepts => hfine ((accepts_map _ _).symm.trans haccepts)
      · exact fun hrefused => reply.refused ((accepts_map _ _).symm.trans hrefused)

/-- A quarantine whose results all succeeded ends with its unit observed inactive and masked, and
nothing is issued behind a failure. -/
theorem ensures_quarantine (h : QuarantineRules env unit inv clean good) (hclean : clean state) :
    Ensures env (leaves inv clean good)
      (quarantineServiceForRollback unit : HostProgram ε _) state := by
  refine h.ask rfl hclean (fun _ hinv => hinv) fun before after _ hinv hkept => ?_
  have hrefused : ∀ reason, Ensures env (leaves inv clean good)
      (do
        let failures ← refuseQuarantine unit reason
        pure (before.result :: failures) : HostProgram ε _) after := fun reason =>
    ensures_leaves_behind (ensures_refuse_quarantine h hinv reason) [before.result]
  cases hactive : before.state.active with
  | none => exact hrefused _
  | some active =>
      show Ensures env _ (if _ then _ else _) after
      split
      · exact hrefused _
      · next hshown =>
          have hclean' := hkept (before.known_of_complete hactive hshown)
          refine (ensures_authenticate_before_mask h active hclean').bind (fun _ hinv => hinv)
            (fun _ _ hraised => hraised) ?_
          rintro ⟨trust, verdict⟩ later ⟨hinv, htrusted, huntrusted⟩
          cases verdict with
          | error reason => exact ensures_failed hinv (by simp [huntrusted rfl])
          | ok identity =>
              refine h.ask ⟨rfl, .inl rfl⟩ (htrusted rfl) (fun _ hinv => hinv)
                fun masked last _ hinv hfine => ?_
              show Ensures env _ (if masked.succeeded = true then _ else _) last
              split
              · next hmasked =>
                  exact ensures_leaves_behind
                    (ensures_quarantine_masked h identity (hfine hmasked)) _
              · next hmasked => exact ensures_failed hinv (by simp [hmasked])

end NvidiaConverge
