import NvidiaConverge.Rollback.ApplyProgress

/-!
# The order of an applied rollback: up to the packages

The preconditions, which change nothing, the quarantine of the launchers, and the package commands.
-/

namespace NvidiaConverge

open Program (Triple anyReply)

variable {request : RollbackRequest} {p : RollbackProgress} {α : Type}
  {results : List CommandResult}

/-! ## The preconditions -/

theorem stage_authorize :
    request.Stage (request.At {}) (authorizeApply request) fun answer trace =>
      request.At { validated := true, solved := true } trace ∧
        request.currentAudit = some answer.1 := by
  unfold authorizeApply
  split
  · exact stage_refuse
  · next audit haudit =>
      split
      · exact stage_refuse
      · refine stage_read rfl fun reply => ?_
        cases reply with
        | error reason => exact stage_refuse
        | ok _ =>
            refine stage_read rfl fun reply => ?_
            cases reply with
            | error refusal => exact stage_refuse
            | ok solver => exact stage_pure fun _ hat => ⟨hat, haudit⟩

/-- A run that stands here but for the files found as recorded, which are more. -/
def RollbackRequest.Found (request : RollbackRequest) (p : RollbackProgress)
    (trace : List RollbackEvent) (restored : List FileSnapshot) : Prop :=
  p.restored ⊆ restored ∧ request.At { p with restored } trace

/-- The loop that stops at the first file that is not as recorded. -/
theorem stage_files_changed (files : List FileSnapshot) :
    request.Stage (request.At p) (filesChanged files) fun changed trace =>
      ∃ restored, request.Found p trace restored ∧
        (changed = false → ∀ file ∈ files, file ∈ restored) := by
  induction files generalizing p with
  | nil => exact stage_pure fun _ hat => ⟨_, ⟨fun _ h => h, hat⟩, fun _ _ h => by cases h⟩
  | cons file files ih =>
      refine stage_read rfl fun found => ?_
      cases found with
      | false => exact stage_pure fun _ hat => ⟨_, ⟨fun _ h => h, hat⟩, fun h => by cases h⟩
      | true =>
          refine ih.mono (fun _ h => h) ?_ (fun _ h => h) fun _ h => h
          rintro changed trace ⟨restored, ⟨hsub, hat⟩, hall⟩
          refine ⟨restored, ⟨fun other h => hsub (List.mem_cons_of_mem _ h), hat⟩, fun hnone => ?_⟩
          intro other hother
          rcases List.mem_cons.mp hother with rfl | hother
          · exact hsub List.mem_cons_self
          · exact hall hnone other hother

theorem target_inspected (snapshot : RollbackSnapshot) (file : FileSnapshot)
    (metadata : Option TargetMetadata) :
    (p.after snapshot ⟨.fileMatches file, false⟩).after snapshot
      ⟨.targetMetadata file.path, .ok metadata⟩ = p :=
  checked_true

theorem stage_check_files (files : List FileSnapshot) :
    request.Stage (request.At p) (checkManagedFiles files) fun _ trace =>
      ∃ restored, request.Found p trace restored := by
  induction files generalizing p with
  | nil => exact stage_pure fun _ hat => ⟨_, fun _ h => h, hat⟩
  | cons file files ih =>
      unfold checkManagedFiles
      split
      · exact stage_refuse
      · refine stage_read rfl fun found => ?_
        cases found with
        | true =>
            refine ih.mono (fun _ h => h) ?_ (fun _ h => h) fun _ h => h
            rintro _ trace ⟨restored, hsub, hat⟩
            exact ⟨restored, fun other h => hsub (List.mem_cons_of_mem _ h), hat⟩
        | false =>
            refine stage_read rfl fun metadata => ?_
            cases metadata with
            | error reason => exact stage_refuse
            | ok metadata =>
                rw [target_inspected]
                cases metadata with
                | none => exact ih
                | some metadata =>
                    show request.Stage _ (if _ then _ else _) _
                    split
                    · exact stage_refuse
                    · exact ih

/-- Where a run stands behind the preconditions. -/
def RollbackPlan.start (plan : RollbackPlan) (restored : List FileSnapshot) : RollbackProgress where
  validated := true
  solved := true
  inspected := some plan.moduleNames
  order := some plan.moduleNames
  restored := restored

/-- What the preconditions leave: the plan belongs to the request and its audit. -/
structure RollbackPlan.Planned (plan : RollbackPlan) (request : RollbackRequest)
    (restored : List FileSnapshot) : Prop where
  snapshot : plan.snapshot = request.snapshot
  audit : request.currentAudit = some plan.audit
  commands : rollbackPackageCommands request.snapshot (some plan.audit) = .ok plan.commands
  files : plan.filesChanged = false → ∀ file ∈ request.snapshot.managedFiles, file ∈ restored

theorem stage_inspect {audit : HostAudit} (hfine : p.failed = false) (hnone : p.inspected = none) :
    request.Stage (request.At p) (inspectModules audit) fun names =>
      request.At { p with inspected := some names, order := some names } := by
  refine stage_read rfl fun reply => ?_
  cases reply with
  | error reason => exact stage_refuse
  | ok names =>
      have hafter : p.after request.snapshot ⟨.moduleOrder, .ok names⟩ =
          { p with inspected := some names, order := some names } := by
        simp [RollbackProgress.after, RollbackProgress.checked, hfine, hnone, Except.isOk,
          Except.toBool, Except.toOption]
      rw [hafter]
      exact stage_refuse_if.bind fun _ => stage_pure fun _ hat => hat

/-- The preconditions leave a planned rollback, with the solver's acceptance and the inspection
noted. -/
theorem stage_plan {audit : HostAudit} (haudit : request.currentAudit = some audit) :
    request.Stage (request.At { validated := true, solved := true })
      (planRollback request audit) fun plan trace =>
        ∃ restored, plan.Planned request restored ∧ request.At (plan.start restored) trace := by
  unfold planRollback
  refine stage_refuse_if.bind fun _ => stage_refuse_if.bind fun _ => ?_
  have hcommands : request.Stage (request.At { validated := true, solved := true })
      ((Program.ofExcept (rollbackPackageCommands request.snapshot (some audit))).handle
        fun text => .raise (.raised text))
      fun commands trace => request.At { validated := true, solved := true } trace ∧
        rollbackPackageCommands request.snapshot (some audit) = .ok commands :=
    (Program.triple_of_except (fun _ _ hat h => ⟨hat, h⟩) (fun _ hat => hat.1)
      fun _ hat => hat.1).reraise fun _ h => h
  refine hcommands.bind fun commands => stage_of_fact fun hcommands => ?_
  refine (stage_files_changed _).bind fun changed => ?_
  rintro trace ⟨found, ⟨-, hat⟩, hall⟩
  refine (?_ : request.Stage (request.At { validated := true, solved := true, restored := found })
    _ _) trace hat
  refine stage_refuse_if.bind fun _ => stage_refuse_if.bind fun _ => ?_
  refine (stage_inspect rfl rfl).bind fun moduleNames => ?_
  refine (stage_check_files _).bind fun _ => ?_
  rintro later ⟨restored, hsub, hlater⟩
  let plan : RollbackPlan :=
    { snapshot := request.snapshot, audit, commands, filesChanged := changed, moduleNames }
  have hplanned : plan.Planned request restored :=
    ⟨rfl, haudit, hcommands, fun hnone file hfile => hsub (hall hnone file hfile)⟩
  refine (?_ : request.Stage (request.At (plan.start restored)) _ _) later hlater
  refine stage_refuse_if.bind fun _ => stage_refuse_if.bind fun _ => ?_
  exact stage_pure fun _ hstart => ⟨restored, hplanned, hstart⟩

/-! ## The quarantine -/

theorem stage_refuse_unknown {plan : RollbackPlan} (units : List Launcher) :
    request.Stage (request.At p) (plan.refuseUnknown results units) fun _ => request.At p := by
  induction units with
  | nil => exact stage_pure fun _ hat => hat
  | cons unit units ih => exact stage_refuse_if.bind fun _ => ih

theorem stage_refuse_inconsistent {plan : RollbackPlan} {command : List String} {text : String}
    (error : Option String) :
    request.Stage (request.At p) (plan.refuseInconsistent results command text error)
      fun _ => request.At p := by
  cases error with
  | none => exact stage_pure fun _ hat => hat
  | some reason => exact stage_refuse_if

theorem stage_check_services {plan : RollbackPlan} :
    request.Stage (request.At p) (plan.checkServices results) fun _ => request.At p :=
  (stage_refuse_inconsistent _).bind fun _ => (stage_refuse_inconsistent _).bind fun _ =>
    stage_refuse_unknown _

/-- A run that stands here but for the launchers, of which these are held. -/
def RollbackRequest.Holds (request : RollbackRequest) (p : RollbackProgress)
    (held : Launcher → Prop) (trace : List RollbackEvent) : Prop :=
  ∃ quarantined undisturbed, request.At { p with quarantined, undisturbed } trace ∧
    ∀ unit, held unit → quarantined unit = true ∧ undisturbed unit = true

/-- The quarantine of a unit shows nothing about another one. -/
theorem launcher_frame {op : HostOp} {unit : Launcher} (h : op.quarantines unit)
    (reply : op.Reply) :
    ∃ quarantined undisturbed, p.launcher op reply = { p with quarantined, undisturbed } ∧
      ∀ other, other ≠ unit → quarantined other = p.quarantined other ∧
        undisturbed other = p.undisturbed other := by
  cases op with
  | observe shown =>
      obtain rfl : shown = unit := h
      exact ⟨_, _, rfl, fun other hne => by simp [hne]⟩
  | systemctl verb changed =>
      obtain ⟨rfl, -⟩ : changed = unit ∧ _ := h
      exact ⟨_, _, rfl, fun other hne => by simp [hne]⟩
  | _ => exact ⟨_, _, rfl, fun _ _ => ⟨rfl, rfl⟩⟩

/-- What the quarantine of a launcher needs, among the answers of a rollback. -/
theorem quarantine_rules {audit : HostAudit} {unit : Launcher} {held : Launcher → Prop}
    (haudit : request.currentAudit = some audit) (hready : p.Ready) (hfiles : p.fileFailed = false)
    (hmodules : p.modules = []) (hunit : ¬ held unit) :
    QuarantineRules (Program.within RollbackOp.launcher (fun _ reply => reply) anyReply) unit
      request.Safe (request.Holds p held)
      (request.Holds p fun other => other = unit ∨ held other) where
  kept := fun ⟨_, _, hat, _⟩ => hat.1
  step := by
    rintro op trace reply _ hop ⟨quarantined, undisturbed, hat, hheld⟩ ⟨answer, hanswer, rfl⟩
    obtain rfl : answer = reply := hanswer
    have hallows : request.Allows { p with quarantined, undisturbed } (.launcher op) := by
      intro hchanges
      refine ⟨audit, haudit, ?_⟩
      cases op with
      | systemctl verb changed =>
          exact ⟨⟨hready.validated, hready.solved, hready.inspected, hready.fine, hready.settled⟩,
            hfiles, hmodules,
            hop.2⟩
      | _ => cases hchanges
    have hsafe : request.Safe (trace ++ [⟨.launcher op, answer⟩]) :=
      hat.1.snoc (by rw [hat.2]; exact hallows) _
    refine ⟨hsafe, fun hfine => ?_⟩
    obtain ⟨quarantined', undisturbed', hlauncher, hother⟩ := launcher_frame
      (p := { p with quarantined, undisturbed }) hop answer
    refine ⟨quarantined', undisturbed', ⟨hsafe, ?_⟩, fun other hmem => ?_⟩
    · rw [rollback_progress_snoc, hat.2]
      show RollbackProgress.checked _ _ = _
      rw [hlauncher, hfine, checked_true]
    · have hne : other ≠ unit := fun heq => hunit (heq ▸ hmem)
      rw [(hother other hne).1, (hother other hne).2]
      exact hheld other hmem
  observed := by
    rintro trace reply _ ⟨quarantined, undisturbed, hat, hheld⟩ ⟨answer, hanswer, rfl⟩ hquarantined
    obtain rfl : answer = reply := hanswer
    refine ⟨Function.update quarantined unit (Observation.quarantined answer),
      Function.update undisturbed unit (Observation.quarantined answer), ⟨?_, ?_⟩, ?_⟩
    · exact hat.1.snoc (fun hchanges => Bool.noConfusion hchanges) _
    · rw [rollback_progress_snoc, hat.2]
      show RollbackProgress.checked _ (Observation.known answer) = _
      rw [Observation.known_of_quarantined hquarantined, checked_true]
      rfl
    · rintro other (rfl | hmem)
      · simp [hquarantined]
      · have hne : other ≠ unit := fun heq => hunit (heq ▸ hmem)
        simp only [Function.update_of_ne hne]
        exact hheld other hmem
  recorded := by
    rintro trace result reply _ hsafe ⟨answer, -, rfl⟩
    exact hsafe.snoc (fun hchanges => Bool.noConfusion hchanges) _

/-- The loop over the launchers quarantines each of them or ends the rollback. -/
theorem stage_quarantine_launchers (results : List CommandResult) {audit : HostAudit}
    (held : Launcher → Prop)
    (haudit : request.currentAudit = some audit) (hready : p.Ready) (hfiles : p.fileFailed = false)
    (hmodules : p.modules = []) (units : List Launcher) (hnodup : units.Nodup)
    (hunits : ∀ unit ∈ units, ¬ held unit) :
    request.Stage (request.Holds p held) (quarantineServices units results) fun _ =>
      request.Holds p fun unit => unit ∈ units ∨ held unit := by
  induction units generalizing held results with
  | nil =>
      refine Program.triple_pure ?_ fun _ ⟨_, _, hat, _⟩ => hat.1
      exact fun _ ⟨quarantined, undisturbed, hat, hheld⟩ =>
        ⟨quarantined, undisturbed, hat, fun unit hmem => hheld unit (by simpa using hmem)⟩
  | cons unit units ih =>
      have hrules := quarantine_rules haudit hready hfiles hmodules (hunits unit List.mem_cons_self)
      have hquarantine : request.Stage (request.Holds p held)
          ((quarantineServiceForRollback unit).embed RollbackOp.launcher fun _ reply => reply)
          fun more trace => request.Safe trace ∧ (commandsSucceeded more = true →
            request.Holds p (fun other => other = unit ∨ held other) trace) := by
        refine Triple.embed fun trace hholds => ?_
        refine (ensures_quarantine hrules hholds).mono fun outcome final hends => ?_
        cases outcome with
        | interrupted => exact hends
        | raised error => exact False.elim hends
        | returned more => exact ⟨hends.1, fun hall => (hends.2 hall).2⟩
      refine hquarantine.bind fun more => ?_
      refine stage_keep.bind fun kept => ?_
      have hrest := ih kept (fun other => other = unit ∨ held other) (List.nodup_cons.mp hnodup).2
        ?_
      · refine hrest.mono (fun _ h => h) ?_ (fun _ h => h) fun _ h => h
        rintro _ trace ⟨quarantined, undisturbed, hat, hheld⟩
        refine ⟨quarantined, undisturbed, hat, fun other hmem => hheld other ?_⟩
        rcases hmem with hmem | hmem
        · rcases List.mem_cons.mp hmem with heq | hmem
          · exact .inr (.inl heq)
          · exact .inl hmem
        · exact .inr (.inr hmem)
      · rintro other hmem (rfl | hother)
        · exact (List.nodup_cons.mp hnodup).1 hmem
        · exact hunits other (List.mem_cons_of_mem _ hmem) hother

theorem stage_quarantine {plan : RollbackPlan} {audit : HostAudit}
    (haudit : request.currentAudit = some audit) (hready : p.Ready) (hfiles : p.fileFailed = false)
    (hmodules : p.modules = []) :
    request.Stage (request.At p) (plan.quarantine results) fun _ =>
      request.Holds p fun _ => plan.mutatesHost = true := by
  unfold RollbackPlan.quarantine
  split
  · next hmutates =>
      have hall := stage_quarantine_launchers results (fun _ => False) haudit
        hready hfiles hmodules serviceStopOrder service_stop_order_nodup fun _ _ h => h
      refine hall.mono (fun trace hat => ⟨p.quarantined, p.undisturbed, hat,
        fun _ => False.elim⟩) ?_
        (fun _ h => h) fun _ h => h
      rintro _ trace ⟨quarantined, undisturbed, hat, hheld⟩
      exact ⟨quarantined, undisturbed, hat,
        fun unit _ => hheld unit (.inl (mem_service_stop_order unit))⟩
  · next hmutates =>
      exact stage_pure fun trace hat =>
        ⟨p.quarantined, p.undisturbed, hat, fun _ h => absurd h hmutates⟩

/-! ## The packages -/

/-- The check of the payloads changes nothing, and is made before any package command. -/
theorem stage_check_payloads {plan : RollbackPlan} :
    request.Stage (request.At p) (plan.checkPayloads results) fun _ trace =>
      ∃ payloads, request.At { p with payloads } trace ∧
        (plan.commands ≠ [] → payloads = true) := by
  unfold RollbackPlan.checkPayloads
  dsimp only
  split
  · next hnone => exact stage_pure fun _ hat => ⟨p.payloads, hat, fun hne => absurd hnone hne⟩
  · have hfailed : ∀ (q : RollbackProgress) (reason : String), request.Stage (request.At q)
        (keepResults results [failedResult ["rollback-precondition", "package-payloads"] reason])
        fun _ trace => ∃ payloads, request.At { p with payloads } trace ∧
          (plan.commands ≠ [] → payloads = true) := fun q reason =>
      stage_keep.mono (fun _ hat => ⟨hat.1, fun h => by simp at h⟩) (fun _ _ h => h) (fun _ h => h)
        fun _ h => h
    split
    · exact hfailed _ _
    · refine stage_read rfl fun reply => ?_
      cases reply with
      | error reason => exact hfailed _ _
      | ok _ =>
          refine stage_keep.mono (fun trace hat => ⟨hat.1, fun _ => ⟨true, ?_, fun _ => rfl⟩⟩)
            (fun _ _ h => h) (fun _ h => h) fun _ h => h
          have hafter : p.after request.snapshot ⟨.validatePayloads, .ok ()⟩ =
              { p with payloads := true } := by
            show { p.checked true with payloads := true } = _
            rw [checked_true]
          exact hafter ▸ hat

/-- The package commands are issued in the order in which they were derived. -/
theorem stage_run_packages {audit : HostAudit} {all : List (List String)}
    (haudit : request.currentAudit = some audit)
    (hall : rollbackPackageCommands request.snapshot (some audit) = .ok all)
    (commands : List (List String)) (hsplit : p.packages ++ commands = all)
    (hpermits : commands ≠ [] → p.Ready ∧ p.payloads = true ∧ p.changed = [] ∧ p.modules = [] ∧
      ∀ unit, p.quarantined unit = true) :
    request.Stage (request.At p) (runPackageCommands commands results) fun _ trace =>
      ∃ restored order undisturbed,
        request.At { p with packages := all, restored, order, undisturbed } trace ∧
          (commands = [] → restored = p.restored) := by
  induction commands generalizing p results with
  | nil =>
      obtain rfl : p.packages = all := (List.append_nil _).symm.trans hsplit
      exact stage_pure fun _ hat => ⟨p.restored, p.order, p.undisturbed, hat, fun _ => rfl⟩
  | cons command commands ih =>
      obtain ⟨hready, hpayloads, hchanged, hmodules, hheld⟩ := hpermits (List.cons_ne_nil _ _)
      have hbegins : p.packages ++ [command] <+: all :=
        ⟨commands, by rw [← hsplit, List.append_assoc, List.singleton_append]⟩
      refine stage_ask (fun _ => ⟨audit, haudit, hready, hpayloads, hchanged, hmodules, hheld,
        all, hall,
        hbegins⟩) fun result => ?_
      let next : RollbackProgress := { p with
        packages := p.packages ++ [command], restored := [], order := none
        undisturbed := fun _ => false }
      have hkept : request.Stage (request.At (p.after request.snapshot ⟨.package command, result⟩))
          (keepResults results [result]) fun _ => request.At next := by
        refine stage_keep_result fun hresult => ?_
        show { p.checked result.succeeded with
          packages := p.packages ++ [command], restored := [], order := none
          undisturbed := fun _ => false } = _
        rw [hresult, checked_true]
      refine hkept.bind fun kept => ?_
      have hrest := @ih next kept ?_ ?_
      · refine hrest.mono (fun _ h => h) ?_ (fun _ h => h) fun _ h => h
        rintro _ trace ⟨restored, order, undisturbed, hat, -⟩
        exact ⟨restored, order, undisturbed, hat, fun hnone => by cases hnone⟩
      · rw [← hsplit, List.append_assoc, List.singleton_append]
      · intro _
        exact ⟨⟨hready.validated, hready.solved, hready.inspected, hready.fine, hready.settled⟩,
          hpayloads, hchanged,
          hmodules, hheld⟩

end NvidiaConverge
