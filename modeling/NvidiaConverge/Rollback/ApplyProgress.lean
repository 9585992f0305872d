import NvidiaConverge.Launchers.World
import NvidiaConverge.Rollback.Apply
import NvidiaConverge.Rollback.MigRestoration

/-!
# The order of an applied rollback: what a run shows and permits

`rollbackProgress` folds a recorded run of `apply_rollback` to what it has shown so far, and
`RollbackProgress.Permits` says behind what each change of the host may be issued. `Stage` is the
triple of a part of the rollback, which starts at one explicit progress.
-/

namespace NvidiaConverge

open Program (Allowed Triple anyReply)

/-! ## What a run has shown -/

/-- An operation of a rollback with its answer. -/
abbrev RollbackEvent := Program.Event RollbackOp RollbackOp.Reply

/-- What the status of an observation of MIG is, as `_refresh_rollback_mig_state` returns it. -/
def migRefreshStatus (snapshot : RollbackSnapshot) (answers : MigAnswers) : MigRefreshStatus :=
  (refreshRollbackMigState snapshot "" (freshRollbackMigObservation snapshot.gpuUuids answers)
    []).status

/-- Where a run of an applied rollback stands, as far as its own events show. -/
structure RollbackProgress where
  /-- The snapshot was validated for this host. -/
  validated : Bool := false
  /-- The package solver accepted. -/
  solved : Bool := false
  /-- The modules that the first inspection found. -/
  inspected : Option (List String) := none
  /-- The retained payloads were validated. -/
  payloads : Bool := false
  /-- The package commands so far. -/
  packages : List (List String) := []
  /-- The files that were found as recorded, or changed to it, since the last package command. -/
  restored : List FileSnapshot := []
  /-- The files that were written or removed. -/
  changed : List FileSnapshot := []
  /-- The modules that an inspection found since the last package command or file change. -/
  order : Option (List String) := none
  /-- The arguments of `modprobe` so far. -/
  modules : List (List String) := []
  /-- Something failed that is not the change of a file. -/
  failed : Bool := false
  /-- The change of a file failed. -/
  fileFailed : Bool := false
  /-- An observation of MIG showed the snapshot's mode waiting for a reboot. -/
  waits : Bool := false
  /-- The last observation of the launcher showed it inactive and masked, and no command has
  changed the unit since. -/
  quarantined : Launcher → Bool := fun _ => false
  /-- The same, and no package command or file change was issued since either. -/
  undisturbed : Launcher → Bool := fun _ => false

namespace RollbackProgress

variable (p : RollbackProgress)

/-- What the answer to an operation on a launcher shows. -/
def launcher : (op : HostOp) → op.Reply → RollbackProgress
  | .observe unit, observation =>
      { p with
        quarantined := Function.update p.quarantined unit observation.quarantined
        undisturbed := Function.update p.undisturbed unit observation.quarantined }
  | .systemctl _ unit, _ =>
      { p with
        quarantined := Function.update p.quarantined unit false
        undisturbed := Function.update p.undisturbed unit false }
  | _, _ => p

/-- What the answer to the change of a file shows. -/
def fileChange (file : FileSnapshot) (reply : Except String Unit) : RollbackProgress :=
  { p with
    restored := if reply.isOk then file :: p.restored else p.restored
    changed := p.changed ++ [file]
    order := none
    fileFailed := p.fileFailed || !reply.isOk
    undisturbed := fun _ => false }

/-- The same with a failure, unless all is well. -/
def checked (fine : Bool) : RollbackProgress :=
  { p with failed := p.failed || !fine }

/-- What an observation of MIG with this status shows: one that failed counts as a failure. -/
def refreshed (status : MigRefreshStatus) : RollbackProgress :=
  { p.checked (status != .failed) with waits := p.waits || status == .pendingReboot }

/-- What the run has shown with one more event, where every answer that is not what the operation
was for counts as a failure. -/
def after (snapshot : RollbackSnapshot) : RollbackEvent → RollbackProgress
  | ⟨.validateSnapshot, reply⟩ => { p.checked reply.isOk with validated := reply.isOk }
  | ⟨.preflight, reply⟩ => { p.checked reply.isOk with solved := reply.isOk }
  | ⟨.fileMatches file, found⟩ =>
      { p with restored := if found = true then file :: p.restored else p.restored }
  | ⟨.targetMetadata _, reply⟩ => p.checked reply.isOk
  | ⟨.moduleOrder, reply⟩ =>
      { p.checked reply.isOk with
        inspected := p.inspected.or reply.toOption
        order := reply.toOption }
  | ⟨.launcher op, reply⟩ => (p.launcher op reply).checked (op.fine reply)
  | ⟨.validatePayloads, reply⟩ => { p.checked reply.isOk with payloads := reply.isOk }
  -- Package scripts may change files, modules and launchers: what was observed of them is
  -- forgotten.
  | ⟨.package command, result⟩ =>
      { p.checked result.succeeded with
        packages := p.packages ++ [command]
        restored := []
        order := none
        undisturbed := fun _ => false }
  | ⟨.writeFile file _, reply⟩ => p.fileChange file reply
  | ⟨.unlinkFile file, reply⟩ => p.fileChange file reply
  | ⟨.modprobe arguments, result⟩ =>
      { p.checked result.succeeded with modules := p.modules ++ [arguments] }
  | ⟨.mig (.run _), result⟩ => p.checked result.succeeded
  | ⟨.mig .observe, answers⟩ => p.refreshed (migRefreshStatus snapshot answers)

end RollbackProgress

@[simp] theorem checked_true {p : RollbackProgress} : p.checked true = p := by
  simp [RollbackProgress.checked]

/-- What a run of a rollback to this snapshot has shown. -/
def rollbackProgress (snapshot : RollbackSnapshot) (trace : List RollbackEvent) :
    RollbackProgress :=
  trace.foldl (fun p event => p.after snapshot event) {}

/-- One more event is shown behind the others. -/
theorem rollback_progress_snoc (snapshot : RollbackSnapshot) (trace : List RollbackEvent)
    (event : RollbackEvent) : rollbackProgress snapshot (trace ++ [event]) =
      (rollbackProgress snapshot trace).after snapshot event := by
  rw [rollbackProgress, List.foldl_append]
  rfl

/-! ## What may be issued -/

/-- The operation changes the host, rather than asking about it. -/
def RollbackOp.changes : RollbackOp → Bool
  | .launcher (.systemctl _ _) | .package _ | .writeFile _ _ | .unlinkFile _ | .modprobe _
  | .mig (.run _) => true
  | _ => false

/-- The arguments of `modprobe` for a snapshot whose modules do not match: the loaded modules are
removed as the last inspection found them, and the recorded ones loaded in reverse. -/
def moduleCommands (snapshot : RollbackSnapshot) (audit : HostAudit) (first last : List String) :
    List (List String) :=
  if modulesMatch snapshot audit first then []
  else
    (if last = [] then [] else ["-r" :: last]) ++
      if snapshot.moduleLoaded then snapshot.restoredModules.reverse.map fun module => [module]
      else []

namespace RollbackProgress

/-- The preconditions were accepted, nothing but the change of a file has failed, and MIG does not
wait for a reboot. -/
structure Ready (p : RollbackProgress) : Prop where
  validated : p.validated = true
  solved : p.solved = true
  inspected : p.inspected.isSome = true
  fine : p.failed = false
  settled : p.waits = false

/-- The packages and the managed files are done, without a failure. -/
structure Restored (snapshot : RollbackSnapshot) (audit : HostAudit) (p : RollbackProgress) :
    Prop where
  ready : p.Ready
  fine : p.fileFailed = false
  packages : rollbackPackageCommands snapshot (some audit) = .ok p.packages
  files : ∀ file ∈ snapshot.managedFiles, file ∈ p.restored

/-- The recorded content of a file may be restored: behind all package commands and before the
modules, with the launchers quarantined. Without them only a file that this run has already found
as recorded may be changed, where nothing else has been. -/
structure MayRestore (snapshot : RollbackSnapshot) (audit : HostAudit) (p : RollbackProgress)
    (file : FileSnapshot) : Prop where
  ready : p.Ready
  managed : file ∈ snapshot.managedFiles
  packages : rollbackPackageCommands snapshot (some audit) = .ok p.packages
  modules : p.modules = []
  held : (∀ unit, p.quarantined unit = true) ∨ (p.packages = [] ∧ file ∈ p.restored)

/-- The change may be issued behind this progress. -/
def Permits (snapshot : RollbackSnapshot) (audit : HostAudit) (p : RollbackProgress) :
    RollbackOp → Prop
  | .launcher (.systemctl verb _) =>
      p.Ready ∧ p.fileFailed = false ∧ p.modules = [] ∧ (verb = .mask ∨ verb = .stop)
  | .package command =>
      p.Ready ∧ p.payloads = true ∧ p.changed = [] ∧ p.modules = [] ∧
        (∀ unit, p.quarantined unit = true) ∧
        ∃ commands, rollbackPackageCommands snapshot (some audit) = .ok commands ∧
          p.packages ++ [command] <+: commands
  | .writeFile file content =>
      p.MayRestore snapshot audit file ∧ file.existed = true ∧ file.mode.isSome = true ∧
        ∃ text, file.contentBase64 = some text ∧ baselineContent text = .ok content
  | .unlinkFile file => p.MayRestore snapshot audit file ∧ file.existed = false
  | .modprobe arguments =>
      p.Restored snapshot audit ∧ (∀ unit, p.undisturbed unit = true) ∧
        ∃ first last, p.inspected = some first ∧ p.order = some last ∧
          p.modules ++ [arguments] <+: moduleCommands snapshot audit first last
  | .mig (.run command) =>
      p.Restored snapshot audit ∧ (∀ unit, p.undisturbed unit = true) ∧
        (∃ first last, p.inspected = some first ∧ p.order = some last ∧
          p.modules = moduleCommands snapshot audit first last) ∧
        command.head? = some "nvidia-smi"
  | _ => True

/-- Everything but MIG is as the snapshot has it, whether or not MIG waits for a reboot. -/
structure Completed (snapshot : RollbackSnapshot) (audit : HostAudit) (p : RollbackProgress) :
    Prop where
  restored : ({ p with waits := false } : RollbackProgress).Restored snapshot audit
  modules : ∃ first last, p.inspected = some first ∧ p.order = some last ∧
    p.modules = moduleCommands snapshot audit first last

end RollbackProgress

/-- A change is issued only where the progress of the run permits it. -/
def RollbackRequest.Allows (request : RollbackRequest) (p : RollbackProgress) (op : RollbackOp) :
    Prop :=
  op.changes = true → ∃ audit, request.currentAudit = some audit ∧
    p.Permits request.snapshot audit op

/-- What holds wherever a run may be cut off: every change was permitted when it was issued. -/
def RollbackRequest.Safe (request : RollbackRequest) : List RollbackEvent → Prop :=
  Allowed fun before => request.Allows (rollbackProgress request.snapshot before)

/-- A run that was safe so far and stands exactly here. -/
def RollbackRequest.At (request : RollbackRequest) (p : RollbackProgress)
    (trace : List RollbackEvent) : Prop :=
  request.Safe trace ∧ rollbackProgress request.snapshot trace = p

/-- A part of the rollback, between where it starts and where it returns. -/
abbrev RollbackRequest.Stage {α : Type} (request : RollbackRequest)
    (pre : List RollbackEvent → Prop) (program : RollbackProgram α)
    (post : α → List RollbackEvent → Prop) : Prop :=
  Triple anyReply pre program post request.Safe request.Safe

/-! ## One operation -/

variable {request : RollbackRequest} {p : RollbackProgress} {α : Type}
  {pre : List RollbackEvent → Prop} {post : α → List RollbackEvent → Prop}
  {results more : List CommandResult}

/-- The rule of one operation: it must be allowed, and the rest starts behind its answer. -/
theorem stage_ask {op : RollbackOp} {rest : op.Reply → RollbackProgram α}
    (hop : request.Allows p op)
    (hrest : ∀ reply,
      request.Stage (request.At (p.after request.snapshot ⟨op, reply⟩)) (rest reply) post) :
    request.Stage (request.At p) (Program.perform op >>= rest) post := by
  rintro trace ⟨hsafe, hp⟩
  refine Program.ensures_any_reply hsafe fun reply => hrest reply _ ⟨?_, ?_⟩
  · exact hsafe.snoc (by rw [hp]; exact hop) reply
  · rw [rollback_progress_snoc, hp]

/-- An operation that changes nothing is always allowed. -/
theorem stage_read {op : RollbackOp} {rest : op.Reply → RollbackProgram α}
    (hop : op.changes = false)
    (hrest : ∀ reply,
      request.Stage (request.At (p.after request.snapshot ⟨op, reply⟩)) (rest reply) post) :
    request.Stage (request.At p) (Program.perform op >>= rest) post :=
  stage_ask (fun hchanges => absurd (hop.symm.trans hchanges) Bool.false_ne_true) hrest

theorem stage_pure {value : α} (h : ∀ trace, request.At p trace → post value trace) :
    request.Stage (request.At p) (pure value) post :=
  Program.triple_pure h fun _ hat => hat.1

theorem stage_refuse {command : List String} {reason : String} :
    request.Stage (request.At p) (refuseRollback results command reason) post :=
  Program.triple_raise (fun _ hat => hat.1) fun _ hat => hat.1

theorem stage_refuse_if {condition : Prop} [Decidable condition] {command : List String}
    {reason : String} :
    request.Stage (request.At p) (refuseRollbackIf condition results command reason)
      fun _ => request.At p := by
  unfold refuseRollbackIf
  split
  · exact stage_refuse
  · exact stage_pure fun _ hat => hat

/-- Results are kept where they show that all is well. -/
theorem stage_keep {good : List RollbackEvent → Prop} :
    request.Stage (fun trace => request.Safe trace ∧ (commandsSucceeded more = true → good trace))
      (keepResults results more) fun _ => good := by
  unfold keepResults
  split
  · next h =>
      exact Program.triple_pure (fun _ hpre => hpre.2 h) fun _ hpre => hpre.1
  · exact Program.triple_raise (fun _ hpre => hpre.1) fun _ hpre => hpre.1

/-- One result: what the run shows if it succeeded. -/
theorem stage_keep_result {result : CommandResult} {next : RollbackProgress}
    (hnext : result.succeeded = true → p = next) :
    request.Stage (request.At p) (keepResults results [result]) fun _ => request.At next := by
  refine stage_keep.mono (fun trace hat => ⟨hat.1, fun hsucceeded => ?_⟩) (fun _ _ h => h)
    (fun _ h => h) fun _ h => h
  rw [← hnext (by simpa using hsucceeded)]
  exact hat

/-- A part behind one that says more about its start. -/
theorem stage_of_fact {fact : Prop} {program : RollbackProgram α}
    (h : fact → request.Stage pre program post) :
    request.Stage (fun trace => pre trace ∧ fact) program post :=
  fun trace hpre => h hpre.2 trace hpre.1

/-- A part that may start at one of many places. -/
theorem stage_of_exists {β : Type} {start : β → List RollbackEvent → Prop}
    {program : RollbackProgram α} (h : ∀ place, request.Stage (start place) program post) :
    request.Stage (fun trace => ∃ place, start place trace) program post :=
  fun trace ⟨place, hplace⟩ => h place trace hplace

end NvidiaConverge
