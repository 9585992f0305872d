import NvidiaConverge.Rollback.ApplyProgress

/-!
# The order of an applied rollback: the files and the modules

The managed files, whose loop goes on behind a failure, and the kernel modules.
-/

namespace NvidiaConverge

variable {request : RollbackRequest} {p : RollbackProgress} {α : Type}
  {post : α → List RollbackEvent → Prop} {results : List CommandResult}

/-! ## The files -/

/-- A run that stands here but for the files: these are as recorded, and none has failed if all is
well. -/
def RollbackRequest.Restoring (request : RollbackRequest) (p : RollbackProgress)
    (seen : FileSnapshot → Prop) (well : Prop) (trace : List RollbackEvent) : Prop :=
  ∃ restored changed order undisturbed fileFailed,
    request.At { p with restored, changed, order, undisturbed, fileFailed } trace ∧
      (∀ file, seen file → file ∈ restored) ∧ (well → fileFailed = false)

/-- A restoration under way stays one when less is claimed of the files seen and of the results. -/
theorem RollbackRequest.Restoring.mono {seen seen' : FileSnapshot → Prop} {well well' : Prop}
    {trace : List RollbackEvent} (h : request.Restoring p seen well trace)
    (hseen : ∀ file, seen' file → seen file) (hwell : well' → well) :
    request.Restoring p seen' well' trace := by
  obtain ⟨restored, changed, order, undisturbed, fileFailed, hat, hall, hfine⟩ := h
  exact ⟨restored, changed, order, undisturbed, fileFailed, hat,
    fun file h => hall file (hseen file h), fun h => hfine (hwell h)⟩

/-- What the restoration of files needs from the run before it. -/
structure RollbackRequest.Restores (request : RollbackRequest) (audit : HostAudit)
    (p : RollbackProgress) (seen : FileSnapshot → Prop) : Prop where
  audited : request.currentAudit = some audit
  ready : p.Ready
  packages : rollbackPackageCommands request.snapshot (some audit) = .ok p.packages
  modules : p.modules = []
  held : (∀ unit, p.quarantined unit = true) ∨
    (p.packages = [] ∧ ∀ file ∈ request.snapshot.managedFiles, seen file)

variable {audit : HostAudit} {seen : FileSnapshot → Prop} {well : Prop}

/-- The change of one file, and what its answer shows. -/
theorem stage_change_file {file : FileSnapshot} (op : RollbackOp)
    {rest : op.Reply → RollbackProgram CommandResult} (reply : op.Reply → Except String Unit)
    (hafter : ∀ (q : RollbackProgress) answer,
      q.after request.snapshot ⟨op, answer⟩ = q.fileChange file (reply answer))
    (hrest : ∀ answer, rest answer = pure (restoreResult file (reply answer)))
    (hop : ∀ q : RollbackProgress, q.MayRestore request.snapshot audit file →
      q.Permits request.snapshot audit op)
    (hmanaged : file ∈ request.snapshot.managedFiles)
    (h : request.Restores audit p seen) :
    request.Stage (request.Restoring p seen well) (Program.perform op >>= rest) fun result =>
      request.Restoring p (fun other => seen other ∨ (result.succeeded = true ∧ other = file))
        (well ∧ result.succeeded = true) := by
  rintro trace ⟨restored, changed, order, undisturbed, fileFailed, hat, hall, hfine⟩
  refine (?_ : request.Stage (request.At { p with
    restored, changed, order, undisturbed, fileFailed }) _ _) trace hat
  have hmay : RollbackProgress.MayRestore request.snapshot audit
      { p with restored, changed, order, undisturbed, fileFailed } file := by
    refine ⟨⟨h.ready.validated, h.ready.solved, h.ready.inspected, h.ready.fine,
      h.ready.settled⟩, hmanaged,
      h.packages, h.modules, ?_⟩
    exact h.held.imp_right fun hnone => ⟨hnone.1, hall file (hnone.2 file hmanaged)⟩
  refine stage_ask (fun _ => ⟨audit, h.audited, hop _ hmay⟩) fun answer => ?_
  rw [hrest, hafter]
  refine stage_pure fun later hlater => ?_
  cases hreply : reply answer with
  | ok _ =>
      rw [hreply] at hlater
      refine ⟨_, _, _, _, _, hlater, ?_, fun hwell => by simp [hfine hwell.1]; rfl⟩
      rintro other (hseen | ⟨-, rfl⟩)
      · exact List.mem_cons_of_mem _ (hall other hseen)
      · exact List.mem_cons_self
  | error reason =>
      rw [hreply] at hlater
      refine ⟨_, _, _, _, _, hlater, ?_, fun hwell => absurd hwell.2 (by simp [restoreResult])⟩
      rintro other (hseen | ⟨hsucceeded, -⟩)
      · exact hall other hseen
      · exact absurd hsucceeded (by simp [restoreResult])

/-- Restoring one managed file is permitted, and leaves its failure among the results. -/
theorem stage_restore_file {file : FileSnapshot} (hmanaged : file ∈ request.snapshot.managedFiles)
    (h : request.Restores audit p seen) :
    request.Stage (request.Restoring p seen well) (restoreManagedFile file) fun result =>
      request.Restoring p (fun other => seen other ∨ (result.succeeded = true ∧ other = file))
        (well ∧ result.succeeded = true) := by
  have hfailed : ∀ (q : List RollbackEvent → Prop) (result : CommandResult),
      (∀ trace, q trace → request.Safe trace) → result.succeeded = false →
      (∀ trace, q trace → request.Restoring p seen well trace) →
      request.Stage q (pure result) fun result =>
        request.Restoring p (fun other => seen other ∨ (result.succeeded = true ∧ other = file))
          (well ∧ result.succeeded = true) := by
    intro q result hsafe hresult hq
    refine Program.triple_pure (fun trace hpre => (hq trace hpre).mono ?_ ?_) hsafe
    · exact fun other hother => hother.resolve_right fun h => by simp [hresult] at h
    · exact fun hwell => hwell.1
  rintro trace ⟨restored, changed, order, undisturbed, fileFailed, hat, hall, hfine⟩
  let q : RollbackProgress := { p with restored, changed, order, undisturbed, fileFailed }
  refine (?_ : request.Stage (request.At q) _ _) trace hat
  have hq : ∀ trace, request.At q trace → request.Restoring p seen well trace :=
    fun trace hat => ⟨restored, changed, order, undisturbed, fileFailed, hat, hall, hfine⟩
  -- A file that is found as recorded is not written again.
  refine stage_read rfl fun found => ?_
  cases found with
  | true =>
      refine stage_pure fun later hlater =>
        ⟨file :: restored, changed, order, undisturbed, fileFailed,
        hlater, ?_, fun hwell => hfine hwell.1⟩
      rintro other (hseen | ⟨-, rfl⟩)
      · exact List.mem_cons_of_mem _ (hall other hseen)
      · exact List.mem_cons_self
  | false =>
      show request.Stage (request.At q) (if file.existed = true then _ else _) _
      split
      · next hexisted =>
          split
          · next text mode htext hmode =>
              split
              · exact hfailed _ _ (fun _ hat => hat.1) rfl hq
              · next content hcontent =>
                  refine (stage_change_file (.writeFile file content) (fun reply => reply)
                    (fun _ _ => rfl) (fun _ => rfl) (fun q hmay => ⟨hmay, hexisted, ?_, text, htext,
                      hcontent⟩) hmanaged h).mono (fun trace => hq trace) (fun _ _ h => h)
                    (fun _ h => h) fun _ h => h
                  rw [hmode, Option.isSome_some]
          · exact hfailed _ _ (fun _ hat => hat.1) rfl hq
      · next habsent =>
          exact (stage_change_file (.unlinkFile file) (fun reply => reply)
            (fun _ _ => rfl) (fun _ => rfl)
            (fun q hmay => ⟨hmay, Bool.eq_false_iff.mpr habsent⟩) hmanaged h).mono
              (fun trace => hq trace)
            (fun _ _ h => h) (fun _ h => h) fun _ h => h

theorem RollbackRequest.Restoring.safe {trace : List RollbackEvent}
    (h : request.Restoring p seen well trace) :
    request.Safe trace := by
  obtain ⟨_, _, _, _, _, hat, -⟩ := h
  exact hat.1

/-- The loop over the files restores them all, and goes on behind a failure. -/
theorem stage_restore_files (well : Prop) (files : List FileSnapshot)
    (hmanaged : ∀ file ∈ files, file ∈ request.snapshot.managedFiles)
    (h : request.Restores audit p seen) :
    request.Stage (request.Restoring p seen well) (restoreFiles files) fun results =>
      request.Restoring p (fun other => seen other ∨
        (commandsSucceeded results = true ∧ other ∈ files))
        (well ∧ commandsSucceeded results = true) := by
  induction files generalizing seen well with
  | nil =>
      refine Program.triple_pure (fun trace hpre => hpre.mono ?_ And.left) fun _ hpre => hpre.safe
      exact fun other hother => hother.resolve_right fun hmem => by simp at hmem
  | cons file files ih =>
      refine (stage_restore_file (hmanaged file List.mem_cons_self) h).bind fun result => ?_
      have hseen : request.Restores audit p
          fun other => seen other ∨ (result.succeeded = true ∧ other = file) :=
        ⟨h.audited, h.ready, h.packages, h.modules,
          h.held.imp_right fun hnone => ⟨hnone.1, fun other hother => .inl (hnone.2 other hother)⟩⟩
      refine (ih _ (fun other hother => hmanaged other (List.mem_cons_of_mem _ hother)) hseen).bind
        fun rest => ?_
      refine Program.triple_pure (fun trace hpre => hpre.mono ?_ ?_) fun _ hpre => hpre.safe
      · rintro other (hother | ⟨hall, hmem⟩)
        · exact .inl (.inl hother)
        · rw [commands_succeeded_cons, Bool.and_eq_true] at hall
          rcases List.mem_cons.mp hmem with heq | hmem
          · exact .inl (.inr ⟨hall.1, heq⟩)
          · exact .inr ⟨hall.2, hmem⟩
      · rintro ⟨hwell, hall⟩
        rw [commands_succeeded_cons, Bool.and_eq_true] at hall
        exact ⟨⟨hwell, hall.1⟩, hall.2⟩

theorem mem_restore_order {files : List FileSnapshot} {file : FileSnapshot} :
    file ∈ restoreOrder files ↔ file ∈ files :=
  (List.perm_insertionSort _ files).mem_iff

/-! ## The modules -/

theorem RollbackProgress.Restored.of_modules (h : p.Restored request.snapshot audit)
    (modules : List (List String)) :
    RollbackProgress.Restored request.snapshot audit { p with modules } :=
  ⟨⟨h.ready.validated, h.ready.solved, h.ready.inspected, h.ready.fine, h.ready.settled⟩, h.fine,
    h.packages, h.files⟩

/-- The second inspection is permitted, and its order of the modules is kept. -/
theorem stage_inspect_again :
    request.Stage (request.At p) (inspectAgain results) fun answer trace =>
      p.inspected.isSome = true → request.At { p with order := some answer.1 } trace := by
  refine stage_read rfl fun reply => ?_
  cases reply with
  | error reason => exact stage_refuse
  | ok names =>
      refine stage_pure fun trace hat hinspected => ?_
      have hafter : p.after request.snapshot ⟨.moduleOrder, .ok names⟩ =
          { p with order := some names } := by
        obtain ⟨first, hfirst⟩ := Option.isSome_iff_exists.mp hinspected
        show { p.checked true with
          inspected := p.inspected.or (some names), order := some names } = _
        rw [checked_true, hfirst]
        rfl
      exact hafter ▸ hat

/-- What the change of the modules needs from the run before it. -/
structure RollbackRequest.Replaces (request : RollbackRequest) (audit : HostAudit)
    (p : RollbackProgress) (first last : List String) : Prop where
  audited : request.currentAudit = some audit
  restored : p.Restored request.snapshot audit
  undisturbed : ∀ unit, p.undisturbed unit = true
  inspected : p.inspected = some first
  order : p.order = some last

/-- What permits the replacement of the modules does not depend on those done so far. -/
theorem RollbackRequest.Replaces.of_modules {first last : List String}
    (h : request.Replaces audit p first last) (modules : List (List String)) :
    request.Replaces audit { p with modules } first last :=
  ⟨h.audited, h.restored.of_modules modules, h.undisturbed, h.inspected, h.order⟩

theorem stage_modprobe {first last arguments : List String}
    {rest : CommandResult → RollbackProgram α}
    (h : request.Replaces audit p first last)
    (hbegins : p.modules ++ [arguments] <+: moduleCommands request.snapshot audit first last)
    (hrest : ∀ result, request.Stage (fun trace => request.Safe trace ∧
      (result.succeeded = true → request.At { p with modules := p.modules ++ [arguments] } trace))
      (rest result) post) :
    request.Stage (request.At p)
      (Program.perform (RollbackOp.modprobe arguments) >>= rest) post := by
  refine stage_ask (fun _ => ⟨audit, h.audited, h.restored, h.undisturbed, first, last, h.inspected,
    h.order, hbegins⟩) fun result => ?_
  refine (hrest result).mono (fun trace hat => ⟨hat.1, fun hresult => ?_⟩) (fun _ _ h => h)
    (fun _ h => h) fun _ h => h
  have hafter : p.after request.snapshot ⟨.modprobe arguments, result⟩ =
      { p with modules := p.modules ++ [arguments] } := by
    show { p.checked result.succeeded with modules := p.modules ++ [arguments] } = _
    rw [hresult, checked_true]
  exact hafter ▸ hat

theorem stage_keep_modprobe {result : CommandResult} {next : RollbackProgress} :
    request.Stage (fun trace => request.Safe trace ∧
      (result.succeeded = true → request.At next trace))
      (keepResults results [result]) fun _ => request.At next :=
  stage_keep.mono (fun _ hpre => ⟨hpre.1, fun h => hpre.2 (by simpa using h)⟩) (fun _ _ h => h)
    (fun _ h => h) fun _ h => h

/-- Loading the recorded modules issues the rest of the commands of the replacement. -/
theorem stage_load_modules {first last : List String} (modules : List String)
    (h : request.Replaces audit p first last)
    (hbegins : p.modules ++ modules.map (fun module => [module]) <+:
      moduleCommands request.snapshot audit first last) :
    request.Stage (request.At p) (loadModules modules results) fun _ =>
      request.At { p with modules := p.modules ++ modules.map fun module => [module] } := by
  induction modules generalizing p results with
  | nil =>
      refine stage_pure fun _ hat => ?_
      rw [List.map_nil, List.append_nil]
      exact hat
  | cons module modules ih =>
      have hcons : p.modules ++ (module :: modules).map (fun module => [module]) =
          p.modules ++ [[module]] ++ modules.map fun module => [module] := List.append_cons ..
      rw [hcons] at hbegins ⊢
      refine stage_modprobe h ((List.prefix_append _ _).trans hbegins) fun result => ?_
      refine stage_keep_modprobe.bind fun kept => ?_
      exact ih (h.of_modules _) hbegins

/-- The replacement of the modules issues exactly its commands, in their order. -/
theorem stage_replace_modules {plan : RollbackPlan} {names : List String}
    (hmodules : p.modules = [])
    (hsnapshot : plan.snapshot = request.snapshot)
    (h : plan.matching = false → request.Replaces plan.audit p plan.moduleNames names) :
    request.Stage (request.At p) (plan.replaceModules names results) fun _ =>
      request.At { p with
        modules := moduleCommands request.snapshot plan.audit plan.moduleNames names } := by
  have hmatching : plan.matching = modulesMatch request.snapshot plan.audit plan.moduleNames := by
    rw [RollbackPlan.matching, hsnapshot]
  cases hplan : plan.matching with
  | true =>
      have hnone : moduleCommands request.snapshot plan.audit plan.moduleNames names = [] := by
        rw [moduleCommands, ← hmatching, hplan]
        rfl
      have hneeded : (plan.migPhase names).moduleUnloadNeeded = false := by
        simp [RollbackPlan.migPhase, hplan]
      unfold RollbackPlan.replaceModules RollbackPlan.unloadModules RollbackPlan.loads
      rw [hneeded, hplan, hnone, ← hmodules]
      simp only [Bool.not_true, Bool.and_false]
      exact stage_pure fun _ hat => hat
  | false =>
      have hreplaces := h hplan
      have hcommands : moduleCommands request.snapshot plan.audit plan.moduleNames names =
          (if names = [] then [] else ["-r" :: names]) ++
            if request.snapshot.moduleLoaded then
              request.snapshot.restoredModules.reverse.map fun module => [module]
            else [] := by
        rw [moduleCommands, ← hmatching, hplan]
        rfl
      -- The modules that are loaded are removed first.
      have hunload : request.Stage (request.At p) (plan.unloadModules names results) fun _ =>
          request.At { p with modules := if names = [] then [] else ["-r" :: names] } := by
        unfold RollbackPlan.unloadModules
        by_cases hnames : names = []
        · have hneeded : (plan.migPhase names).moduleUnloadNeeded = false := by
            simp [RollbackPlan.migPhase, hnames]
          rw [hneeded, if_pos hnames, ← hmodules]
          exact stage_pure fun _ hat => hat
        · have hneeded : (plan.migPhase names).moduleUnloadNeeded = true := by
            simp [RollbackPlan.migPhase, hnames, hplan]
          rw [hneeded, if_neg hnames]
          refine stage_modprobe hreplaces ?_ fun result => ?_
          · rw [hmodules, hcommands, if_neg hnames]
            exact List.prefix_append _ _
          · rw [hmodules]
            exact stage_keep_modprobe
      refine hunload.bind fun kept => ?_
      unfold RollbackPlan.loads
      rw [hplan, hsnapshot, hcommands]
      by_cases hloaded : request.snapshot.moduleLoaded = true
      · rw [hloaded]
        refine stage_load_modules _ (hreplaces.of_modules _) ?_
        rw [hcommands, hloaded]
        exact List.prefix_refl _
      · rw [Bool.eq_false_iff.mpr hloaded]
        refine stage_pure fun _ hat => ?_
        simp only [Bool.false_eq_true, if_false, List.append_nil]
        exact hat

end NvidiaConverge
