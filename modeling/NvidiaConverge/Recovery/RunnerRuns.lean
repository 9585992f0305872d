import NvidiaConverge.Recovery.History
import NvidiaConverge.Recovery.RunnerRules

/-!
# Commands behind their journal

A process is executed only behind a durable record of its start. `JournalAhead` is what every call
of a runner keeps, whatever the calls of its operation are and wherever the run is cut off;
`commands_journaled_ahead` reads it at the end of a run.
-/

namespace NvidiaConverge

open Program (Outcome Runs)
open Routine (Triple)

/-! ## What the journal is ahead of -/

/-- The record behind which a process was executed: its own start, as the last event of a journal
that is durable as a whole; the start of the private scope that it runs in; or, for the emergency
quarantine, the start of a command that changes the host. -/
def Execution.Authorised (execution : Execution) (before : List JournalEvent) : Prop :=
  (execution.durable = journalText before ∧ before.getLast?.map JournalEvent.details =
      some (.commandStarted execution.process.command execution.process.mutate)) ∨
    (execution.process.mutate = false ∧
      ∃ event ∈ before, event.details = .commandStarted stagePackagePayloads true) ∨
    (execution.process.command ∈ serviceStopOrder.map emergencyCommand ∧
      before.any JournalEvent.startsMutation = true)

/-- The record is durable, and promised ever since. -/
def Execution.Ahead (execution : Execution) (promised : List JournalEvent) : Prop :=
  ∃ before, before <+: promised ∧ journalText before <+: execution.durable ∧
    execution.Authorised before

/-- What the promised events say of a runner and of the processes that were executed. -/
structure Ahead (promised : List JournalEvent) (runner : Runner) (executed : List Execution) :
    Prop where
  executed : ∀ execution ∈ executed, execution.Ahead promised
  mutating : runner.mutatingOperation = true → promised.any JournalEvent.startsMutation = true
  scope : runner.privateStateScope ≠ none →
    ∃ event ∈ promised, event.details = .commandStarted stagePackagePayloads true

variable {start promised later before : List JournalEvent} {runner : Runner}
  {executed : List Execution} {execution : Execution} {callbacks : Option String}
  {world : RunnerWorld} {details : EventDetails} {operationId : String}

/-- An execution that was announced stays so when more events are promised. -/
theorem Execution.Ahead.mono (h : execution.Ahead promised) (hle : promised <+: later) :
    execution.Ahead later := by
  obtain ⟨before, hbefore, hdurable, hauthorised⟩ := h
  exact ⟨before, hbefore.trans hle, hdurable, hauthorised⟩

theorem starts_mutation_mono (h : promised.any JournalEvent.startsMutation = true)
    (hle : promised <+: later) : later.any JournalEvent.startsMutation = true := by
  obtain ⟨event, hmem, hstarts⟩ := List.any_eq_true.mp h
  exact List.any_eq_true.mpr ⟨event, hle.subset hmem, hstarts⟩

theorem Ahead.mono (h : Ahead promised runner executed) (hle : promised <+: later) :
    Ahead later runner executed where
  executed execution hmem := (h.executed execution hmem).mono hle
  mutating hmutating := starts_mutation_mono (h.mutating hmutating) hle
  scope hscope := by
    obtain ⟨event, hmem, hdetails⟩ := h.scope hscope
    exact ⟨event, hle.subset hmem, hdetails⟩

/-- The journal begins with what it held at first, and stays ahead of the runner. -/
def JournalAhead (start : List JournalEvent) (callbacks : Option String) (runner : Runner)
    (world : RunnerWorld) : Prop :=
  runner.callbacks = callbacks ∧ ∃ promised events torn, start <+: promised ∧
    Ahead promised runner world.executed ∧ world.file.Holds promised events torn

/-- The journal is durable as a whole and ends with this event. -/
def Recorded (start : List JournalEvent) (callbacks : Option String) (details : EventDetails)
    (runner : Runner) (world : RunnerWorld) : Prop :=
  runner.callbacks = callbacks ∧ ∃ promised, start <+: promised ∧
    Ahead promised runner world.executed ∧ world.file.Holds promised promised [] ∧
    world.file.durable = journalText promised ∧
    promised.getLast?.map JournalEvent.details = some details

/-- What is left of it when the run is cut off. -/
def LeftAhead (start : List JournalEvent) (world : RunnerWorld) : Prop :=
  ∃ promised events torn, start <+: promised ∧
    (∀ execution ∈ world.executed, execution.Ahead promised) ∧
    world.file.Holds promised events torn

theorem JournalAhead.left (h : JournalAhead start callbacks runner world) :
    LeftAhead start world := by
  obtain ⟨-, promised, events, torn, hstart, hahead, hfile⟩ := h
  exact ⟨promised, events, torn, hstart, hahead.executed, hfile⟩

/-- Behind the record of an event the journal is ahead of what was executed. -/
theorem Recorded.ahead (h : Recorded start callbacks details runner world) :
    JournalAhead start callbacks runner world := by
  obtain ⟨hcallbacks, promised, hstart, hahead, hfile, -⟩ := h
  exact ⟨hcallbacks, promised, promised, [], hstart, hahead, hfile⟩

/-- A change of the runner that takes nothing from what its journal says. -/
theorem JournalAhead.change {changed : Runner} {callbacks' : Option String}
    (h : JournalAhead start callbacks runner world) (hcallbacks : changed.callbacks = callbacks')
    (hmutating : changed.mutatingOperation = true → runner.mutatingOperation = true)
    (hscope : changed.privateStateScope ≠ none → runner.privateStateScope ≠ none) :
    JournalAhead start callbacks' changed world := by
  obtain ⟨-, promised, events, torn, hstart, hahead, hfile⟩ := h
  exact ⟨hcallbacks, promised, events, torn, hstart,
    ⟨hahead.executed, fun hchanged => hahead.mutating (hmutating hchanged),
      fun hchanged => hahead.scope (hscope hchanged)⟩, hfile⟩

/-- One more process, behind what authorises it. -/
theorem JournalAhead.execute {process : Popen} (h : JournalAhead start callbacks runner world)
    (hauthorised : ∀ promised, Ahead promised runner world.executed →
      journalText promised <+: world.file.durable →
      (⟨process, world.file.durable⟩ : Execution).Ahead promised) :
    JournalAhead start callbacks runner (world.execute process) := by
  obtain ⟨hcallbacks, promised, events, torn, hstart, hahead, hfile⟩ := h
  refine ⟨hcallbacks, promised, events, torn, hstart, ⟨?_, hahead.mutating, hahead.scope⟩, hfile⟩
  intro execution hmem
  rcases List.mem_append.mp hmem with hold | hnew
  · exact hahead.executed execution hold
  · obtain rfl := List.mem_singleton.mp hnew
    exact hauthorised promised hahead hfile.durable

/-- A process that is started behind its own record leaves the journal ahead. -/
theorem Recorded.execute {process : Popen}
    (h : Recorded start callbacks (.commandStarted process.command process.mutate) runner world) :
    JournalAhead start callbacks runner (world.execute process) := by
  obtain ⟨hcallbacks, promised, hstart, hahead, hfile, hdurable, hlast⟩ := h
  refine ⟨hcallbacks, promised, promised, [], hstart, ⟨?_, hahead.mutating, hahead.scope⟩, hfile⟩
  intro execution hmem
  rcases List.mem_append.mp hmem with hold | hnew
  · exact hahead.executed execution hold
  · obtain rfl := List.mem_singleton.mp hnew
    exact ⟨promised, List.prefix_refl _, hfile.durable, .inl ⟨hdurable, hlast⟩⟩

/-! ## Appending -/

variable {α : Type} {command : List String} {mutate : Bool}

/-- A routine behind which the journal is still ahead, wherever it ends. -/
abbrev KeepsAhead (start : List JournalEvent) (callbacks : Option String)
    (pre : Runner → RunnerWorld → Prop) (routine : RunnerRoutine α)
    (post : α → Runner → RunnerWorld → Prop) : Prop :=
  Keeping (JournalAhead start callbacks) (LeftAhead start) pre routine post

/-- Appending an event records it, or leaves the journal ahead without it. -/
theorem keeps_append_event (operationId : String) (details : EventDetails) :
    KeepsAhead start callbacks (JournalAhead start callbacks) (appendEvent operationId details)
      fun _ => Recorded start callbacks details := by
  refine triple_append_event operationId (fun _ _ => JournalAhead.left)
    (fun _ _ h => h.ahead.left) ?_
  rintro runner world ⟨hcallbacks, promised, events, torn, hstart, hahead, hfile⟩
  refine ⟨promised, events, torn, hfile, fun event hdetails final hsame => ⟨?_, ?_⟩⟩
  · rintro ⟨more, torn, -, hfinal⟩
    exact ⟨hcallbacks, promised, _, torn, hstart, hsame ▸ hahead, hfinal⟩
  · intro hbytes hdurable
    have hle : promised <+: events ++ [event] := hfile.known.trans (List.prefix_append _ _)
    refine ⟨hcallbacks, _, hstart.trans hle, (hsame ▸ hahead).mono hle,
      ⟨by rw [hbytes, List.append_nil], by simp, List.prefix_refl _, ?_⟩, hdurable.trans hbytes, ?_⟩
    · rw [hdurable, hbytes]
    · rw [List.getLast?_concat, Option.map_some, hdetails]

theorem journal_ahead_survives : Survives (JournalAhead start callbacks) (LeftAhead start) where
  quarantined h hmutating hcommand := h.execute fun promised hahead hdurable =>
    ⟨promised, List.prefix_refl _, hdurable, .inr (.inr ⟨hcommand, hahead.mutating hmutating⟩)⟩
  results _ h := h.change h.1 (fun h => h) fun h => h
  crashes _ _ := JournalAhead.left

/-- The mark of an operation whose last event starts a command that changes the host. -/
theorem Recorded.mark (h : Recorded start callbacks (.commandStarted command mutate) runner world) :
    Recorded start callbacks (.commandStarted command mutate)
      { runner with mutatingOperation := runner.mutatingOperation || changesHost command mutate }
      world := by
  obtain ⟨hcallbacks, promised, hstart, hahead, hfile, hdurable, hlast⟩ := h
  refine ⟨hcallbacks, promised, hstart, ⟨hahead.executed, fun hmark => ?_, hahead.scope⟩, hfile,
    hdurable, hlast⟩
  rcases Bool.or_eq_true_iff.mp hmark with hold | hchanges
  · exact hahead.mutating hold
  · obtain ⟨event, hevent, hdetails⟩ := Option.map_eq_some_iff.mp hlast
    refine List.any_eq_true.mpr ⟨event, List.mem_of_getLast? hevent, ?_⟩
    rw [JournalEvent.startsMutation, hdetails]
    exact hchanges

/-! ## The calls of an operation -/

theorem keeps_record_start (operationId : String) (command : List String) (mutate : Bool) :
    KeepsAhead start (some operationId) (JournalAhead start (some operationId))
      (journaled.recordExternalStart command mutate)
      fun _ => Recorded start (some operationId) (.commandStarted command mutate) :=
  journal_ahead_survives.record_start (fun _ _ h => h.1) (keeps_append_event operationId _)
    (fun h => h.mark) fun _ _ h => h.ahead.left

theorem keeps_record_result (result : CommandResult) (mutate : Bool) :
    KeepsAhead start callbacks (JournalAhead start callbacks) (journaled.recordResult result mutate)
      fun _ => JournalAhead start callbacks :=
  journal_ahead_survives.record_result result fun operationId =>
    (keeps_append_event operationId _).mono (fun _ _ h => h) (fun _ _ _ h => h.ahead)
      (fun _ _ _ h => h) fun _ h => h

/-- A command of the operation keeps the journal ahead at every point. -/
theorem journaled_rules (operationId : String) (command : List String) (mutate : Bool) :
    RunRules journaled command mutate (JournalAhead start (some operationId))
      (Recorded start (some operationId) (.commandStarted command mutate))
      (JournalAhead start (some operationId)) (LeftAhead start) where
  start := keeps_record_start operationId command mutate
  result result := keeps_record_result result mutate
  execute := by
    rintro runner world process h rfl rfl
    exact h.execute
  weaken := Recorded.ahead
  ends h := h
  crashes := JournalAhead.left

/-- The journal is ahead of a runner in its private scope, which journals nothing. -/
def PrivatelyAhead (start : List JournalEvent) (runner : Runner) (world : RunnerWorld) : Prop :=
  JournalAhead start none runner world ∧ runner.privateStateScope ≠ none

/-- A subcommand of the private scope keeps the journal ahead, by the start of the scope itself. -/
theorem private_rules (command : List String) :
    RunRules journaled command false (PrivatelyAhead start) (PrivatelyAhead start)
      (PrivatelyAhead start) (LeftAhead start) where
  start := triple_no_callback (fun _ _ h => h.1.left) fun _ _ h => .inl h.1.1
  result _ := Routine.Triple.bind (Routine.triple_modify (fun _ _ h =>
      ⟨h.1.change h.1.1 (fun h => h) fun h => h, h.2⟩) fun _ _ h => h.1.left)
    (fun _ => triple_no_callback (fun _ _ h => h.1.left) fun _ _ h => .inl h.1.1)
    fun _ _ _ h => h.1.left
  execute := by
    rintro runner world process ⟨h, hscope⟩ - hmutate
    refine ⟨h.execute fun promised hahead hdurable => ?_, hscope⟩
    exact ⟨promised, List.prefix_refl _, hdurable, .inr (.inl ⟨hmutate, hahead.scope hscope⟩)⟩
  weaken h := h
  ends h := h
  crashes h := h.1.left

/-- A call of a private subcommand keeps the journal ahead, inside the scope and outside of it. -/
theorem keeps_run_private_state (operationId : String) (command : List String) (allowFail : Bool)
    (inputText : Option String) :
    KeepsAhead start (some operationId) (JournalAhead start (some operationId))
      (runPrivateState command allowFail inputText) fun _ =>
        JournalAhead start (some operationId) := by
  refine triple_reading (fun _ _ => JournalAhead.left) (fun _ _ _ => JournalAhead.left)
    fun runner world h => ?_
  have hcallbacks : runner.callbacks = some operationId := h.1
  refine Routine.Triple.bind (Routine.triple_throw_if (fun _ _ hpre _ => hpre.1)
    fun _ _ hpre => hpre.1.left) (fun _ => ?_) fun _ _ _ => JournalAhead.left
  have hmodify : Triple runnerAnswers
      (fun kept world => (JournalAhead start (some operationId) kept world ∧ runner = kept) ∧
        ¬ runner.privateStateScope ≠ some stagePackagePayloads)
      (Routine.modify fun runner =>
        { runner with timeout := runner.mutationTimeout, callbacks := none } : RunnerRoutine Unit)
      (fun _ => PrivatelyAhead start)
      (fun _ => JournalAhead start (some operationId)) (LeftAhead start) := by
    refine Routine.triple_modify (fun kept world hpre => ?_) fun _ _ hpre => hpre.1.1.left
    obtain ⟨⟨h, rfl⟩, hscope⟩ := hpre
    refine ⟨h.change rfl (fun h => h) fun h => h, ?_⟩
    rw [not_not] at hscope
    rw [hscope]
    exact Option.some_ne_none _
  refine Routine.Triple.bind hmodify (fun _ => ?_) fun _ _ _ => JournalAhead.left
  refine Routine.Triple.restoring (((private_rules command).run).mono (fun _ _ h => h) ?_ ?_
    fun _ h => h) (fun _ _ _ => JournalAhead.left) fun _ _ _ => JournalAhead.left
  · exact fun _ _ _ hpost => hpost.1.change hcallbacks (fun h => h) fun h => h
  · exact fun _ _ _ hfail => hfail.1.change hcallbacks (fun h => h) fun h => h

theorem keeps_enter_private_state (operationId : String) (command : List String) :
    KeepsAhead start (some operationId) (JournalAhead start (some operationId))
      (enterPrivateState command) fun _ => JournalAhead start (some operationId) := by
  refine Routine.Triple.bind (Routine.triple_throw_if (fun _ _ hpre _ => hpre)
    fun _ _ => JournalAhead.left) (fun _ => ?_) fun _ _ _ => JournalAhead.left
  rintro runner world ⟨h, hcommand⟩
  obtain rfl : command = stagePackagePayloads := not_not.mp hcommand
  refine
    (?_ : KeepsAhead start (some operationId) (JournalAhead start (some operationId)) _ _) runner
    world h
  refine triple_reading (fun _ _ => JournalAhead.left) (fun _ _ _ => JournalAhead.left)
    fun runner world h => ?_
  refine Routine.Triple.bind (Routine.triple_throw_if (fun _ _ hpre _ => hpre.1)
    fun _ _ hpre => hpre.1.left) (fun _ => ?_) fun _ _ _ => JournalAhead.left
  refine Routine.Triple.bind
    ((keeps_record_start operationId _ true).mono (fun _ _ hpre => hpre.1.1)
    (fun _ _ _ h => h) (fun _ _ _ h => h) fun _ h => h) (fun _ => ?_) fun _ _ _ => JournalAhead.left
  -- The scope is entered behind the record of its start.
  refine Routine.triple_modify (fun kept world hrecorded => ?_) fun _ _ h => h.ahead.left
  obtain ⟨hcallbacks, promised, hstart, hahead, hfile, -, hlast⟩ := hrecorded
  refine ⟨hcallbacks, promised, promised, [], hstart,
    ⟨hahead.executed, hahead.mutating, fun _ => ?_⟩, hfile⟩
  obtain ⟨event, hevent, hdetails⟩ := Option.map_eq_some_iff.mp hlast
  exact ⟨event, List.mem_of_getLast? hevent, hdetails⟩

theorem keeps_leave_private_state (operationId : String) (command : List String)
    (failure : Option String) :
    KeepsAhead start (some operationId) (JournalAhead start (some operationId))
      (leavePrivateState command failure) fun _ => JournalAhead start (some operationId) := by
  have hleft : ∀ runner world, JournalAhead start (some operationId) runner world →
      JournalAhead start (some operationId) { runner with privateStateScope := none } world :=
    fun _ _ h => h.change h.1 (fun h => h) fun hnone => absurd rfl hnone
  exact Routine.Triple.restoring ((keeps_record_result _ true).mono (fun _ _ h => h)
    (fun _ => hleft) (fun _ => hleft) fun _ h => h) (fun _ _ _ => JournalAhead.left)
    fun _ _ _ => JournalAhead.left

/-- Every call of an operation keeps its journal ahead. -/
theorem keeps_answer_call (operationId : String) (call : RunnerCall) :
    KeepsAhead start (some operationId) (JournalAhead start (some operationId)) (answerCall call)
      fun _ => JournalAhead start (some operationId) := by
  have hrecorded : ∀ {α : Type} {routine : RunnerRoutine α} {details : EventDetails},
      KeepsAhead start (some operationId) (JournalAhead start (some operationId)) routine
        (fun _ => Recorded start (some operationId) details) →
      KeepsAhead start (some operationId) (JournalAhead start (some operationId)) routine
        fun _ => JournalAhead start (some operationId) := fun h =>
    h.mono (fun _ _ h => h) (fun _ _ _ => Recorded.ahead) (fun _ _ _ h => h) fun _ h => h
  cases call with
  | run command mutate allowFail inputText => exact (journaled_rules operationId command mutate).run
  | runPrivateState command allowFail inputText =>
      exact keeps_run_private_state operationId command allowFail inputText
  | enterPrivateState command => exact keeps_enter_private_state operationId command
  | leavePrivateState command failure =>
      exact keeps_leave_private_state operationId command failure
  | recordExternalStart command mutate => exact hrecorded (keeps_record_start operationId _ _)
  | recordExternalResult result mutate => exact keeps_record_result result mutate
  | resolveExecutable name =>
      exact triple_reading_any (fun _ _ => JournalAhead.left) (fun _ _ _ => JournalAhead.left)
        fun runner =>
        triple_ask (.resolveExecutable name runner.executablePath) rfl fun _ _ => JournalAhead.left
  | results =>
      exact triple_reading_any (fun _ _ => JournalAhead.left) (fun _ _ _ => JournalAhead.left)
        fun runner =>
        Routine.triple_pure (fun _ _ h => h) fun _ _ => JournalAhead.left
  | clearResults =>
      exact Routine.triple_modify (fun _ _ h => h.change h.1 (fun h => h) fun h => h) fun _ _ =>
        JournalAhead.left
  | append id details => exact hrecorded (keeps_append_event id details)

/-! ## Runs of an operation -/

/-- Where an operation starts: its callbacks append to a journal that is durable with these events,
and nothing has been executed. -/
structure OperationStarts (start : List JournalEvent) (operationId : String) (runner : Runner)
    (world : RunnerWorld) : Prop where
  callbacks : runner.callbacks = some operationId
  mutating : runner.mutatingOperation = false
  scope : runner.privateStateScope = none
  bytes : world.file.bytes = journalText start
  durable : world.file.durable = journalText start
  executed : world.executed = []

theorem OperationStarts.ahead (h : OperationStarts start operationId runner world) :
    JournalAhead start (some operationId) runner world := by
  refine ⟨h.callbacks, start, start, [], List.prefix_refl _, ⟨?_, ?_, ?_⟩, ?_⟩
  · simp [h.executed]
  · simp [h.mutating]
  · simp [h.scope]
  · exact ⟨by rw [h.bytes, List.append_nil], by simp, List.prefix_refl _, by rw [h.durable]⟩

/-- A process that may change the host, behind the start of such a command. -/
theorem Execution.Ahead.starts_mutation (h : execution.Ahead promised)
    (hchanges : changesHost execution.process.command execution.process.mutate = true) :
    promised.any JournalEvent.startsMutation = true := by
  obtain ⟨before, hbefore, -, hauthorised⟩ := h
  refine starts_mutation_mono ?_ hbefore
  rcases hauthorised with ⟨-, hlast⟩ | ⟨hmutate, -⟩ | ⟨-, hstarted⟩
  · obtain ⟨event, hevent, hdetails⟩ := Option.map_eq_some_iff.mp hlast
    refine List.any_eq_true.mpr ⟨event, List.mem_of_getLast? hevent, ?_⟩
    rw [JournalEvent.startsMutation, hdetails]
    exact hchanges
  · rw [changesHost, hmutate] at hchanges
    exact absurd hchanges (by simp)
  · exact hstarted

/-- In every run of an operation, wherever it is cut off, each process was executed behind a durable
record; whatever a loss of power leaves behind the durable bytes, a reader that admits the journal
finds these records, and the operation once it may have changed the host. -/
theorem commands_journaled_ahead {ε : Type} {client : RunnerClient ε α}
    {outcome : Outcome ε (α × Runner)} {final : RunnerWorld}
    (hstarts : OperationStarts start operationId runner world)
    (hruns : Runs runnerAnswers (Routine.implement answerCall client runner) world outcome final) :
    ∃ promised events torn, start <+: promised ∧ final.file.Holds promised events torn ∧
      (∀ execution ∈ final.executed, execution.Ahead promised) ∧
      (∀ name cut found, final.file.durable <+: cut → recoveredEvents name cut = .ok found →
        promised.map JournalEvent.fields <+: found) ∧
      ((∃ execution ∈ final.executed,
          changesHost execution.process.command execution.process.mutate = true) →
        ∀ name more parsed, parseJournal name (promised ++ more) = .ok parsed →
          parsed.operation ≠ none) := by
  have hleft : LeftAhead start final := by
    have hends := (Routine.ensures_implement (keeps_answer_call operationId)
      (fun _ _ => JournalAhead.left) hstarts.ahead).runs hruns
    cases outcome with
    | interrupted => exact hends
    | raised error => exact hends
    | returned answer => exact JournalAhead.left hends
  obtain ⟨promised, events, torn, hstart, hexecuted, hfile⟩ := hleft
  refine ⟨promised, events, torn, hstart, hfile, hexecuted, ?_, ?_⟩
  · intro name cut found hcut hread
    exact recovered_events_durable (hfile.durable.trans hcut) hread
  · rintro ⟨execution, hmem, hchanges⟩ name more parsed hparse hnone
    have hstarted := (hexecuted execution hmem).starts_mutation hchanges
    have hoperation := (parse_journal_ok hparse).operation
    rw [if_pos (by simp [hostMutationPossible, hstarted]), hnone] at hoperation
    cases hoperation

/-! ## A host that does everything -/

/-- The replies of a host on which every call succeeds. -/
def serveRunner (world : RunnerWorld) : (op : RunnerOp) → op.Reply × RunnerWorld
  | .journal op =>
      let (reply, bytes) := serveJournal world.file.bytes op
      (reply, { world with
        file := ⟨bytes, durableAfter world.file.bytes world.file.durable op reply⟩ })
  | .execute process => (.exited 0 "" "", world.execute process)
  | .requireAppliedStateCapacity => (.ok (), world)
  | .utcNow => ("2026-01-01T00:00:00+00:00", world)
  | .resolveExecutable name _ => (some ("/usr/bin/" ++ name), world)
  | .environ => ([], world)
  | .homeDirectory => (some "/root", world)

theorem serve_runner_answers {following : RunnerWorld} {op : RunnerOp} {reply : op.Reply}
    (h : Program.served serveRunner world op reply following) :
    runnerAnswers world op reply following := by
  cases op with
  | journal op =>
      obtain ⟨rfl, rfl⟩ := Prod.mk.inj h
      exact ⟨⟨serve_journal_answers rfl, rfl⟩, rfl⟩
  | _ =>
      obtain ⟨rfl, rfl⟩ := Prod.mk.inj h
      rfl

/-- An install's first command that changes the host. -/
def installCommand : List String := ["apt-get", "install", "--yes", "nvidia-driver-570"]

/-- An operation that issues the package command of an install and nothing else. -/
def installClient : RunnerClient Empty Unit :=
  .issue (.run installCommand true true none) fun _ => .done ()

/-- The runner of an applied install with a journal. -/
def installRunner : Runner := { apply := true, callbacks := some installStarted.operationId }

/-- The journal of an install that has persisted its rollback snapshot. -/
def installBound : List JournalEvent :=
  [installStarted, { installStarted with details := .rollbackSnapshotPersisted installSnapshot }]

/-- The world of that install, before its first command. -/
def installWorld : RunnerWorld where
  file := ⟨journalText installBound, journalText installBound⟩

/-- An install whose package command is executed behind its snapshot: a journal with the start of
that command is read, and every journal that is read behind the promised events has the operation
unresolved. -/
theorem commands_journaled_ahead_install :
    ∃ outcome final promised, Runs runnerAnswers
        (Routine.implement answerCall installClient installRunner) installWorld outcome final ∧
      final.executed.map (fun execution => execution.process.command) = [installCommand] ∧
      installBound <+: promised ∧ journalText promised <+: final.file.durable ∧
      (parseJournal (journalName "install.json") (installBound ++
        [{ installStarted with details := .commandStarted installCommand true }])).isOk = true ∧
      ∀ name more parsed, parseJournal name (promised ++ more) = .ok parsed →
        parsed.operation ≠ none := by
  have hruns := (Program.runs_run serveRunner
    (Routine.implement answerCall installClient installRunner) installWorld).mono
      fun _ _ _ _ => serve_runner_answers
  have hexecuted : ((Program.run serveRunner (Routine.implement answerCall installClient
      installRunner) installWorld).2.executed.map fun execution =>
        (execution.process.command, execution.process.mutate)) = [(installCommand, true)] := by
    decide +kernel
  obtain ⟨promised, events, torn, hstart, hfile, -, -, hunresolved⟩ :=
    commands_journaled_ahead ⟨rfl, rfl, rfl, rfl, rfl, rfl⟩ hruns
  refine ⟨_, _, promised, hruns, ?_, hstart, hfile.durable, by decide +kernel, hunresolved ?_⟩
  · have hcommands := congrArg (List.map Prod.fst) hexecuted
    rw [List.map_map] at hcommands
    exact hcommands
  · obtain ⟨execution, hmem, hprocess⟩ := List.mem_map.mp
      (hexecuted ▸ List.mem_singleton_self (installCommand, true))
    obtain ⟨hcommand, hmutate⟩ := Prod.mk.inj hprocess
    refine ⟨execution, hmem, ?_⟩
    rw [hcommand, hmutate]
    decide

end NvidiaConverge
