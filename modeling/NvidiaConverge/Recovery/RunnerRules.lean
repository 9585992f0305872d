import NvidiaConverge.Recovery.DurableAppend
import NvidiaConverge.Recovery.Runner

/-!
# Rules of the command runner

The world in which a runner works, and the triples of its routines for any condition on the runner
and the world. `Survives` is what a condition needs to outlive a failed record; `RunRules.run` is
the triple of `run`.
-/

namespace NvidiaConverge

open Program (Ensures ending)
open Routine (Triple)

/-! ## The world of a runner -/

/-- A process that was executed, and what was durable of the journal at that moment. -/
structure Execution where
  process : Popen
  durable : List Char

/-- The journal of the operation, and the processes that were executed. -/
structure RunnerWorld where
  file : CachedJournal
  executed : List Execution := []

/-- The world behind an execution. A process that could not be started counts too. -/
def RunnerWorld.execute (world : RunnerWorld) (process : Popen) : RunnerWorld :=
  { world with executed := world.executed ++ [⟨process, world.file.durable⟩] }

/-- The answers in such a world: only the journal's file is held to anything. -/
def runnerAnswers (world : RunnerWorld) : (op : RunnerOp) → op.Reply → RunnerWorld → Prop
  | .journal op, reply, after =>
      fileAnswers world.file op reply after.file ∧ after.executed = world.executed
  | .execute process, _, after => after = world.execute process
  | _, _, after => after = world

/-- Whether an operation leaves the journal alone and executes nothing. -/
def RunnerOp.asks : RunnerOp → Bool
  | .journal _ | .execute _ => false
  | _ => true

variable {α : Type} {pre inv started ran : Runner → RunnerWorld → Prop}
  {fail : RunnerError → Runner → RunnerWorld → Prop} {crash : RunnerWorld → Prop}

theorem triple_ask (op : RunnerOp) (hasks : op.asks = true)
    (hcrash : ∀ runner world, inv runner world → crash world) :
    Triple runnerAnswers inv (Routine.perform op) (fun _ => inv) fail crash := by
  refine Routine.triple_perform op (fun runner world reply following hinv hanswer => ?_) hcrash
    fun _ => hcrash
  have hsame : following = world := by
    cases op with
    | journal op | execute process => cases hasks
    | _ => exact hanswer
  exact hsame ▸ hinv

/-- A routine whose errors leave the invariant standing. -/
abbrev Keeping (inv : Runner → RunnerWorld → Prop) (crash : RunnerWorld → Prop)
    (pre : Runner → RunnerWorld → Prop) (routine : RunnerRoutine α)
    (post : α → Runner → RunnerWorld → Prop) : Prop :=
  Triple runnerAnswers pre routine post (fun _ => inv) crash

/-- The runner is read, and is the one of the condition. -/
theorem triple_reading {rest : Runner → RunnerRoutine α} {post : α → Runner → RunnerWorld → Prop}
    (hpre : ∀ runner world, pre runner world → crash world)
    (hfail : ∀ error runner world, fail error runner world → crash world)
    (h : ∀ runner world, pre runner world → Triple runnerAnswers
      (fun kept world => pre kept world ∧ runner = kept) (rest runner) post fail crash) :
    Triple runnerAnswers pre (Routine.remembered >>= rest) post fail crash := by
  refine Routine.Triple.bind (Routine.triple_remembered hpre) (fun runner => ?_) hfail
  rintro kept world ⟨hkept, rfl⟩
  exact h runner world hkept runner world ⟨hkept, rfl⟩

/-- The runner is read before a part that does well with any. -/
theorem triple_reading_any {rest : Runner → RunnerRoutine α}
    {post : α → Runner → RunnerWorld → Prop}
    (hpre : ∀ runner world, pre runner world → crash world)
    (hfail : ∀ error runner world, fail error runner world → crash world)
    (h : ∀ runner, Triple runnerAnswers pre (rest runner) post fail crash) :
    Triple runnerAnswers pre (Routine.remembered >>= rest) post fail crash :=
  triple_reading hpre hfail fun runner _ _ => (h runner).mono (fun _ _ hkept => hkept.1)
    (fun _ _ _ hpost => hpost) (fun _ _ _ herror => herror) fun _ hends => hends

/-! ## Running a command -/

/-- What the callbacks of a command keep: its start leads to `started`, from which its process may
be executed, and `ran` holds of what follows. -/
structure RunRules (callbacks : Callbacks) (command : List String) (mutate : Bool)
    (inv started ran : Runner → RunnerWorld → Prop) (crash : RunnerWorld → Prop) : Prop where
  start : Keeping inv crash inv (callbacks.recordExternalStart command mutate) fun _ => started
  result : ∀ result, Keeping ran crash ran (callbacks.recordResult result mutate) fun _ => ran
  execute : ∀ {runner world process}, started runner world → process.command = command →
    process.mutate = mutate → ran runner (world.execute process)
  weaken : ∀ {runner world}, started runner world → ran runner world
  ends : ∀ {runner world}, ran runner world → inv runner world
  crashes : ∀ {runner world}, inv runner world → crash world

variable {callbacks : Callbacks} {command : List String} {mutate allowFail : Bool}
  {inputText : Option String}

namespace RunRules

variable (h : RunRules callbacks command mutate inv started ran crash)
include h

/-- A process that dies behind a command is at a point that a crash may leave. -/
theorem crash_ran : ∀ runner world, ran runner world → crash world :=
  fun _ _ hran => h.crashes (h.ends hran)

/-- A process that dies behind the record of a start is at a point that a crash may leave. -/
theorem crash_started : ∀ runner world, started runner world → crash world :=
  fun _ _ hstarted => h.crashes (h.ends (h.weaken hstarted))

/-- Concluding a command, with its result recorded, keeps what holds behind the command. -/
theorem conclude (result : CommandResult) :
    Keeping ran crash ran (callbacks.conclude result mutate allowFail) fun _ => ran := by
  have hcrash := h.crash_ran
  refine Routine.Triple.bind (h.result result) (fun _ => ?_) fun _ => hcrash
  refine Routine.Triple.bind (Routine.triple_throw_if (fun _ _ hran _ => hran) hcrash) (fun _ => ?_)
    fun _ => hcrash
  exact Routine.triple_pure (fun _ _ hran => hran.1) fun _ _ hran => hcrash _ _ hran.1

/-- Spawning the command leads from its recorded start to behind the command. -/
theorem spawn (executable : String) :
    Keeping ran crash started (callbacks.spawn command executable mutate allowFail inputText)
      fun _ => ran := by
  have hcrash : ∀ (error : RunnerError) runner world, ran runner world → crash world :=
    fun _ => h.crash_ran
  have hstarted := h.crash_started
  refine triple_reading_any hstarted hcrash fun runner => ?_
  refine Routine.Triple.bind (triple_ask .environ rfl hstarted)
    (fun environ : List (String × String) => ?_) hcrash
  refine Routine.Triple.bind (triple_ask .homeDirectory rfl hstarted)
    (fun home : Option String => ?_) hcrash
  have hexecute : ∀ process : Popen, process.command = command → process.mutate = mutate →
      Keeping ran crash started (Routine.perform (RunnerOp.execute process)) fun _ => ran := by
    intro process hcommand hmutate
    refine Routine.triple_perform _ (fun kept world _ following hstart hanswer => ?_) hstarted
      fun _ => h.crash_ran
    obtain rfl : following = world.execute process := hanswer
    exact h.execute hstart hcommand hmutate
  refine Routine.Triple.bind (hexecute _ rfl rfl) (fun processEnd => ?_) hcrash
  have hresult : ∀ result : Except RunnerError CommandResult,
      Keeping ran crash ran (Routine.ofExcept result) fun _ => ran := by
    rintro (error | result)
    · exact Routine.triple_throw (fun _ _ hran => hran) h.crash_ran
    · exact Routine.triple_pure (fun _ _ hran => hran) h.crash_ran
  exact Routine.Triple.bind (hresult _) (fun result => h.conclude result) hcrash

theorem after_start :
    Keeping ran crash started (callbacks.afterStart command mutate allowFail inputText)
      fun _ => ran := by
  have hcrash : ∀ (error : RunnerError) runner world, ran runner world → crash world :=
    fun _ => h.crash_ran
  have hstarted := h.crash_started
  have hconclude : ∀ result, Keeping ran crash started
      (callbacks.conclude result mutate allowFail) fun _ => ran :=
    fun result => (h.conclude result).mono (fun _ _ => h.weaken) (fun _ _ _ hpost => hpost)
      (fun _ _ _ hfail => hfail) fun _ hends => hends
  refine triple_reading_any hstarted hcrash fun runner => ?_
  split
  · exact hconclude _
  · split
    · next name arguments =>
        refine triple_reading_any hstarted hcrash fun runner => ?_
        refine Routine.Triple.bind (triple_ask (.resolveExecutable name runner.executablePath) rfl
          hstarted) (fun found : Option String => ?_) hcrash
        cases found with
        | some executable => exact h.spawn executable
        | none => exact hconclude _
    · exact Routine.triple_throw (fun _ _ => h.weaken) hstarted

theorem run :
    Keeping inv crash inv (callbacks.run command mutate allowFail inputText) fun _ => ran :=
  Routine.Triple.bind h.start (fun _ => h.after_start.mono (fun _ _ hstart => hstart)
    (fun _ _ _ hpost => hpost) (fun _ _ _ => h.ends) fun _ hends => hends) fun _ _ _ => h.crashes

end RunRules

/-! ## The emergency quarantine -/

/-- The callbacks of a runner, when what they do is nothing or is not reached. -/
theorem triple_no_callback {routine : String → RunnerRoutine Unit}
    (hcrash : ∀ runner world, inv runner world → crash world)
    (hnone : ∀ runner world, inv runner world →
      runner.callbacks = none ∨ ∀ id, routine id = pure ()) :
    Keeping inv crash inv (Routine.remembered >>= fun runner : Runner =>
      match runner.callbacks with
      | some operationId => routine operationId
      | none => pure ()) fun _ => inv := by
  refine triple_reading hcrash (fun _ => hcrash) fun runner world h => ?_
  have hpure : Keeping inv crash (fun kept world => inv kept world ∧ runner = kept)
      (pure () : RunnerRoutine Unit) fun _ => inv :=
    Routine.triple_pure (fun _ _ hkept => hkept.1) fun _ _ hkept => hcrash _ _ hkept.1
  split
  · next operationId hsome =>
      rcases hnone runner world h with hcallbacks | hroutine
      · rw [hcallbacks] at hsome
        cases hsome
      · rw [hroutine]
        exact hpure
  · exact hpure

/-- A condition on the world that the commands of a runner without callbacks keep. -/
theorem unjournaled_rules {holds : RunnerWorld → Prop} (command : List String) (mutate : Bool)
    (hexecute : ∀ world process, holds world → process.command = command →
      holds (RunnerWorld.execute world process)) :
    RunRules unjournaled command mutate
      (fun _ => holds) (fun _ => holds) (fun _ => holds) holds where
  start := triple_no_callback (fun _ _ h => h) fun _ _ _ => .inr fun _ => rfl
  result _ := Routine.Triple.bind (Routine.triple_modify (fun _ _ h => h) fun _ _ h => h)
    (fun _ => triple_no_callback (fun _ _ h => h) fun _ _ _ => .inr fun _ => rfl) fun _ _ _ h => h
  execute h hcommand _ := hexecute _ _ h hcommand
  weaken h := h
  ends h := h
  crashes h := h

/-- The loop that masks the units keeps whatever the emergency commands keep. -/
theorem triple_mask_units {holds : RunnerWorld → Prop} (units : List Launcher)
    (hexecute : ∀ unit ∈ units, ∀ world process, holds world →
      process.command = emergencyCommand unit → holds (RunnerWorld.execute world process)) :
    Keeping (fun _ => holds) holds (fun _ => holds) (maskUnits units) fun _ _ => holds := by
  induction units with
  | nil => exact Routine.triple_pure (fun _ _ h => h) fun _ _ h => h
  | cons unit units ih =>
      have hrules := unjournaled_rules (emergencyCommand unit) true
        (hexecute unit List.mem_cons_self)
      refine Routine.Triple.bind hrules.run (fun _ => ?_) fun _ _ _ h => h
      exact ih fun other hother => hexecute other (List.mem_cons_of_mem _ hother)

/-! ## The callbacks -/

/-- What a condition needs to outlive a failed record: the results of the runner do not matter to
it, and it holds behind the emergency quarantine of an operation that has started to change the
host. -/
structure Survives (inv : Runner → RunnerWorld → Prop) (crash : RunnerWorld → Prop) : Prop where
  quarantined : ∀ {runner world process}, inv runner world → runner.mutatingOperation = true →
    process.command ∈ serviceStopOrder.map emergencyCommand → inv runner (world.execute process)
  results : ∀ {runner world} results, inv runner world → inv { runner with results } world
  crashes : ∀ runner world, inv runner world → crash world

namespace Survives

/-- The emergency quarantine of a mutating operation keeps an invariant that survives it. -/
theorem emergency (h : Survives inv crash) :
    Keeping inv crash (fun runner world => inv runner world ∧ runner.mutatingOperation = true)
      emergencyQuarantineLaunchers fun _ => inv := by
  refine Routine.Triple.fresh (fun runner own world hpre => ?_) (fun _ => h.crashes)
    fun _ => h.crashes
  have hunits : Keeping (fun _ => inv runner) (inv runner) (fun _ => inv runner)
      (maskUnits serviceStopOrder) fun _ _ => inv runner :=
    triple_mask_units serviceStopOrder fun unit hmem _ _ hinv hcommand =>
      h.quarantined hinv hpre.2.2 (List.mem_map.mpr ⟨unit, hmem, hcommand.symm⟩)
  exact hunits.mono (fun _ _ h => h) (fun _ _ _ h => h) (fun _ _ _ h => h)
    (fun world hinv => h.crashes runner world hinv) own world hpre.2.1

/-- A part under the emergency quarantine keeps an invariant that survives it. -/
theorem quarantining (h : Survives inv crash) {routine : RunnerRoutine Unit}
    {post : Unit → Runner → RunnerWorld → Prop} (hroutine : Keeping inv crash inv routine post)
    (hpost : ∀ value runner world, post value runner world → crash world) :
    Keeping inv crash inv (quarantiningOnReportError routine) post := by
  refine hroutine.catching (fun error => ?_) hpost
  refine triple_reading h.crashes (fun _ => h.crashes) fun runner world _ => ?_
  have hthrow : Keeping inv crash inv (Routine.throw error) post :=
    Routine.triple_throw (fun _ _ hinv => hinv) h.crashes
  split
  · next hmutating =>
      refine Routine.Triple.bind (h.emergency.mono ?_ (fun _ _ _ h => h) (fun _ _ _ h => h)
        fun _ h => h) (fun _ => hthrow) fun _ => h.crashes
      rintro kept world ⟨hinv, rfl⟩
      exact ⟨hinv, hmutating.2⟩
  · exact hthrow.mono (fun _ _ hkept => hkept.1) (fun _ _ _ h => h) (fun _ _ _ h => h) fun _ h => h

/-- The check of the storage before a command keeps an invariant that survives the quarantine. -/
theorem require_capacity (h : Survives inv crash) (mutate : Bool) :
    Keeping inv crash inv (requireCapacity mutate) fun _ => inv := by
  unfold requireCapacity
  split
  · refine Routine.Triple.bind (triple_ask .requireAppliedStateCapacity rfl h.crashes)
      (fun reply : Except AppendError Unit => ?_) fun _ => h.crashes
    cases reply with
    | ok value => exact Routine.triple_pure (fun _ _ hinv => hinv) h.crashes
    | error error => exact Routine.triple_throw (fun _ _ hinv => hinv) h.crashes
  · exact Routine.triple_pure (fun _ _ hinv => hinv) h.crashes

/-- The callback of a start leads to the recorded start, or leaves the invariant. -/
theorem start_callback (h : Survives inv crash) {operationId : String}
    (happend : Keeping inv crash inv (appendEvent operationId (.commandStarted command mutate))
      fun _ => started)
    (hmark : ∀ {runner world}, started runner world → started { runner with
      mutatingOperation := runner.mutatingOperation || changesHost command mutate } world)
    (hstarted : ∀ runner world, started runner world → crash world) :
    Keeping inv crash inv (startCallback operationId command mutate) fun _ => started := by
  have hrecord : Keeping inv crash inv (do
      requireCapacity mutate
      appendEvent operationId (.commandStarted command mutate)) fun _ => started :=
    Routine.Triple.bind (h.require_capacity mutate) (fun _ => happend) fun _ => h.crashes
  refine Routine.Triple.bind (h.quarantining hrecord fun _ => hstarted) (fun _ => ?_)
    fun _ => h.crashes
  exact Routine.triple_modify (fun _ _ hstart => hmark hstart) hstarted

/-- Recording the start of a command leads to the recorded start, or leaves the invariant. -/
theorem record_start (h : Survives inv crash) {operationId : String}
    (hcallbacks : ∀ runner world, inv runner world → runner.callbacks = some operationId)
    (happend : Keeping inv crash inv (appendEvent operationId (.commandStarted command mutate))
      fun _ => started)
    (hmark : ∀ {runner world}, started runner world → started { runner with
      mutatingOperation := runner.mutatingOperation || changesHost command mutate } world)
    (hstarted : ∀ runner world, started runner world → crash world) :
    Keeping inv crash inv (journaled.recordExternalStart command mutate) fun _ => started := by
  refine triple_reading h.crashes (fun _ => h.crashes) fun runner world hinv => ?_
  -- The callbacks that are read are those of the operation.
  rw [hcallbacks runner world hinv]
  exact (h.start_callback happend hmark hstarted).mono (fun _ _ hkept => hkept.1)
    (fun _ _ _ h => h) (fun _ _ _ h => h) fun _ h => h

theorem record_result (h : Survives inv crash) (result : CommandResult)
    (happend : ∀ operationId, Keeping inv crash inv (appendEvent operationId
      (.commandFinished result.command mutate result.returncode result.skipped result.reason))
      fun _ => inv) :
    Keeping inv crash inv (journaled.recordResult result mutate) fun _ => inv := by
  refine Routine.Triple.bind (Routine.triple_modify (fun _ _ hinv => h.results _ hinv) h.crashes)
    (fun _ => triple_reading_any h.crashes (fun _ => h.crashes) fun runner => ?_) fun _ => h.crashes
  split
  · exact h.quarantining (happend _) fun _ => h.crashes
  · exact Routine.triple_pure (fun _ _ hinv => hinv) h.crashes

end Survives

/-! ## Appending -/

variable {world : RunnerWorld} {promised events : List JournalEvent} {torn : List Char}

/-- The append of a line in the world of a runner. -/
theorem ensures_journal_append {event : JournalEvent} (h : world.file.Holds promised events torn) :
    Ensures runnerAnswers
      (ending
        (fun final => final.executed = world.executed ∧ ∃ more torn, (more = [] ∨ more = [event]) ∧
          final.file.Holds promised (events ++ more) torn)
        (fun _ final => final.executed = world.executed ∧ ∃ more torn,
          (more = [] ∨ more = [event]) ∧ final.file.Holds promised (events ++ more) torn)
        fun _ final => final.executed = world.executed ∧
          final.file.bytes = journalText (events ++ [event]) ∧
          final.file.durable = final.file.bytes)
      ((appendReportJournal event.line).embed RunnerOp.journal fun _ reply => reply) world := by
  refine Program.ensures_embed.mpr (Program.ensures_iff_runs.mpr fun outcome final hruns => ?_)
  have hstep : ∀ (state : RunnerWorld) op reply following, state.executed = world.executed →
      Program.within RunnerOp.journal (fun _ reply => reply) runnerAnswers state op reply
        following →
      following.executed = world.executed := by
    rintro state op reply following hstate ⟨_, rfl, -, hexecuted⟩
    exact hexecuted.trans hstate
  have hsame := hruns.keeps hstep rfl
  have hfile : ∀ state op reply following,
      Program.within RunnerOp.journal (fun _ reply => reply) runnerAnswers state op reply
        following →
      fileAnswers state.file op reply following.file := by
    rintro state op reply following ⟨_, rfl, hanswer, -⟩
    exact hanswer
  have hends := (ensures_append_line h).runs (hruns.along RunnerWorld.file hfile)
  cases outcome with
  | interrupted => exact ⟨hsame, hends⟩
  | raised error => exact ⟨hsame, hends⟩
  | returned _ => exact ⟨hsame, hends⟩

/-- What an append of the event leaves of a condition on the events in the file. -/
theorem triple_append_event {details : EventDetails} (operationId : String)
    (hcrash : ∀ runner world, inv runner world → crash world)
    (hstarted : ∀ runner world, started runner world → crash world)
    (h : ∀ runner world, inv runner world → ∃ promised events torn,
      world.file.Holds promised events torn ∧
      ∀ event : JournalEvent, event.details = details → ∀ final : RunnerWorld,
        final.executed = world.executed →
        ((∃ more torn, (more = [] ∨ more = [event]) ∧
          final.file.Holds promised (events ++ more) torn) → inv runner final) ∧
        (final.file.bytes = journalText (events ++ [event]) →
          final.file.durable = final.file.bytes →
          started runner final)) :
    Keeping inv crash inv (appendEvent operationId details) fun _ => started := by
  refine Routine.Triple.bind (triple_ask .utcNow rfl hcrash) (fun timestamp : String => ?_)
    fun _ => hcrash
  refine Routine.triple_of_program (fun runner world hinv => ?_) (fun _ => hstarted) fun _ => hcrash
  obtain ⟨promised, events, torn, hfile, hrest⟩ := h runner world hinv
  have hrest := hrest ⟨operationId, timestamp, details⟩ rfl
  refine (ensures_journal_append hfile).handle ?_ ?_ ?_
  · exact fun final hfinal => hcrash _ _ ((hrest final hfinal.1).1 hfinal.2)
  · rintro error final ⟨hsame, hfinal⟩
    have hkept := (hrest final hsame).1 hfinal
    exact Program.ensures_raise.mpr ⟨hcrash _ _ hkept, hkept⟩
  · rintro _ final ⟨hsame, hbytes, hdurable⟩
    exact (hrest final hsame).2 hbytes hdurable

end NvidiaConverge
