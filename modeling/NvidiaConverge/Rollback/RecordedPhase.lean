import NvidiaConverge.Recovery.Index
import NvidiaConverge.Recovery.RunnerRuns
import NvidiaConverge.Rollback.Apply

/-!
# The recorded phases of a rollback

`apply_rollback` records the start of its `package-solver` and `package-payloads` phases, lets a
check run commands on the same runner, and records the result of the phase behind it. The runner
records the start of each of these commands too. The journal's reader refuses a command that starts
before the one before it completed, so a phase whose check executes any command leaves a journal
that is refused for good: `nested_phase_refused`.
-/

namespace NvidiaConverge

open Program (Ensures Outcome Runs ending)
open Routine (Triple)

/-! ## The phases -/

/-- A command of a check, which changes nothing. -/
structure CheckCommand where
  command : List String
  allowFail : Bool := true
  inputText : Option String := none

/-- The call of the runner by which a check runs its command. -/
@[reducible] def CheckCommand.call (check : CheckCommand) : RunnerCall :=
  .run check.command false check.allowFail check.inputText

/-- A check that runs commands and otherwise only computes. -/
abbrev Check (α : Type) := Program CheckCommand (fun check => check.call.Answer) RunnerError α

/-- A call of the operation, whose errors it does not catch. -/
def callRunner (call : RunnerCall) : RunnerClient RunnerError call.Value :=
  Program.call call

/-- The result that stands for a phase, with the message of its failure. -/
def phaseResult {φ α : Type} (command : List String) (message : φ → String) :
    Except φ α → CommandResult
  | .ok _ => { command, returncode := some 0 }
  | .error failure => { command, returncode := some 1, stderr := message failure }

/-- A check between the records of its phase, whose commands are recorded too. -/
def recordedPhase {φ α : Type} (command : List String) (message : φ → String)
    (check : Check (Except φ α)) : RunnerClient RunnerError (Except φ α × CommandResult) := do
  callRunner (.recordExternalStart command false)
  let answer ← check.embed CheckCommand.call fun _ reply => reply
  callRunner (.recordExternalResult (phaseResult command message answer) false)
  pure (answer, phaseResult command message answer)

/-- The phase of `preflight_package_rollback`. -/
def packageSolverPhase (preflight : Check (Except SolverRefusal (List CommandResult))) :
    RunnerClient RunnerError (Except SolverRefusal (List CommandResult) × CommandResult) :=
  recordedPhase ["rollback-precondition", "package-solver"] SolverRefusal.text preflight

/-! ## Journals that are refused -/

variable {name operationId : String} {start events : List JournalEvent} {event : JournalEvent}
  {command : List String} {mutate : Bool}

/-- Whether an event is the start of a command. -/
def JournalEvent.startsCommand (event : JournalEvent) : Bool :=
  match event.details with
  | .commandStarted _ _ => true
  | _ => false

/-- A start that is accepted finds no command open and leaves its own open. -/
theorem validate_started {state following : StreamState} (hstarts : event.startsCommand = true)
    (h : validateEvent name operationId state event = .ok following) :
    state.pendingCommand = none ∧ following.pendingCommand ≠ none := by
  unfold JournalEvent.startsCommand at hstarts
  split at hstarts
  · next command mutating hdetails =>
      unfold validateEvent at h
      simp only [hdetails, Result.check_bind_eq_ok, Result.refuse_eq_ok] at h
      obtain ⟨-, -, -, -, -, -, hpending, -, h⟩ := h
      rw [← Result.pure_eq_ok.mp h]
      exact ⟨not_not.mp hpending, Option.some_ne_none _⟩
  · cases hstarts

/-- A command that starts right behind the start of another is refused, whatever follows. -/
theorem parse_nested_refused {opened nested : JournalEvent} {rest : List JournalEvent}
    (hopened : opened.startsCommand = true) (hnested : nested.startsCommand = true)
    (hevents : events = start ++ opened :: nested :: rest) :
    ∃ error, parseJournal name events = .error error := by
  cases hparse : parseJournal name events with
  | error error => exact ⟨error, rfl⟩
  | ok parsed =>
      exfalso
      have hstream := (parse_journal_ok hparse).stream
      unfold validateEventStream at hstream
      split at hstream
      · next operationId timestamp others =>
          obtain ⟨-, hstream⟩ := Result.check_bind_eq_ok.mp hstream
          obtain ⟨-, hstream⟩ := Result.check_bind_eq_ok.mp hstream
          obtain ⟨_, hfold, -⟩ := Result.bind_eq_ok.mp hstream
          cases start with
          | nil =>
              -- The journal does not begin with the start of its operation.
              obtain ⟨rfl, -⟩ := List.cons.inj hevents
              cases hopened
          | cons first before =>
              obtain ⟨-, hothers⟩ := List.cons.inj hevents
              rw [hothers, List.append_eq, List.foldlM_append] at hfold
              obtain ⟨state, -, hfold⟩ := Result.bind_eq_ok.mp hfold
              obtain ⟨inner, hinner, hfold⟩ := Result.bind_eq_ok.mp hfold
              obtain ⟨_, hlast, -⟩ := Result.bind_eq_ok.mp hfold
              exact (validate_started hopened hinner).2 (validate_started hnested hlast).1
      · cases hstream

/-- No scan gets past the marker of a journal that is refused. -/
theorem unresolved_operations_refused {store : Store} {error : String}
    (hmarker : store.markers.lookup name ≠ none)
    (hevents : store.journals.lookup name = some events)
    (hparse : parseJournal name events = .error error) :
    ∃ error, unresolvedOperations store = .error error := by
  cases hscan : unresolvedOperations store with
  | error error => exact ⟨error, rfl⟩
  | ok result =>
      exfalso
      have hread : readJournal store name = .error error := by
        rw [readJournal, hevents]
        exact hparse
      obtain ⟨booted, hboot, hscan⟩ := Result.bind_eq_ok.mp hscan
      unfold bootstrapActiveIndex at hboot
      split at hboot
      · obtain rfl := Result.pure_eq_ok.mp hboot
        obtain ⟨indexed, hindexed, -⟩ := Result.bind_eq_ok.mp hscan
        obtain ⟨parsed, hmem⟩ := read_active_journals_marked hindexed hmarker
        obtain ⟨found, hfound⟩ := read_active_journals_mem hindexed hmem
        obtain rfl : found = events := Option.some.inj (hfound.journal.symm.trans hevents)
        cases hparse.symm.trans hfound.parse
      · -- The first scan reads every journal, also those without a marker.
        obtain ⟨-, hboot⟩ := Result.check_bind_eq_ok.mp hboot
        obtain ⟨journals, hjournals, -⟩ := Result.bind_eq_ok.mp hboot
        obtain ⟨parsed, -, hparsed⟩ := Result.forall₂_exists_right (Result.mapM_eq_ok.mp hjournals)
          (Directory.mem_sorted_names.mpr (by rw [hevents]; exact Option.some_ne_none _))
        obtain ⟨_, hone, -⟩ := Result.bind_eq_ok.mp hparsed
        rw [hread] at hone
        cases hone

/-! ## The journal of a phase -/

variable {before : List Execution} {count : Nat} {runner : Runner} {world : RunnerWorld}

/-- Whatever was executed since is of the emergency quarantine. -/
def OnlyQuarantined (before after : List Execution) : Prop :=
  ∀ execution ∈ after,
    execution ∈ before ∨ execution.process.command ∈ serviceStopOrder.map emergencyCommand

/-- Two commands were started one right behind the other. -/
def Nested (start events : List JournalEvent) : Prop :=
  ∃ opened nested rest, opened.startsCommand = true ∧ nested.startsCommand = true ∧
    events = start ++ opened :: nested :: rest

/-- The journal inside a phase: at least so many events, of which the first two start commands, and
nothing is executed before both are there. -/
def InPhase (start : List JournalEvent) (before : List Execution) (operationId : String)
    (count : Nat) (runner : Runner) (world : RunnerWorld) : Prop :=
  runner.callbacks = some operationId ∧ ∃ opens torn,
    world.file.Holds [] (start ++ opens) torn ∧
    (∀ event ∈ opens.take 2, event.startsCommand = true) ∧ count ≤ opens.length ∧
    (2 ≤ opens.length ∨ OnlyQuarantined before world.executed)

/-- What is left of the journal when the phase ends. -/
def LeftPhase (start : List JournalEvent) (before : List Execution) (world : RunnerWorld) : Prop :=
  ∃ events torn, world.file.Holds [] events torn ∧ start <+: events ∧
    (Nested start events ∨ OnlyQuarantined before world.executed)

/-- Wherever the process dies inside a phase, its journal is one left by a phase. -/
theorem InPhase.left (h : InPhase start before operationId count runner world) :
    LeftPhase start before world := by
  obtain ⟨-, opens, torn, hfile, hopens, -, hexecuted⟩ := h
  refine ⟨start ++ opens, torn, hfile, List.prefix_append _ _, hexecuted.imp_left fun htwo => ?_⟩
  match opens, htwo with
  | opened :: nested :: rest, _ =>
      exact ⟨opened, nested, rest, hopens _ (by simp), hopens _ (by simp), rfl⟩

theorem InPhase.weaken (h : InPhase start before operationId (count + 1) runner world) :
    InPhase start before operationId count runner world := by
  obtain ⟨hcallbacks, opens, torn, hfile, hopens, hcount, hexecuted⟩ := h
  exact ⟨hcallbacks, opens, torn, hfile, hopens, Nat.le_of_succ_le hcount, hexecuted⟩

/-- One more event behind those of a phase keeps its first two starts. -/
theorem opens_append {opens : List JournalEvent}
    (hopens : ∀ event ∈ opens.take 2, event.startsCommand = true)
    (hevent : 2 ≤ opens.length ∨ event.startsCommand = true) :
    ∀ other ∈ (opens ++ [event]).take 2, other.startsCommand = true := by
  intro other hmem
  rw [List.take_append] at hmem
  rcases List.mem_append.mp hmem with hold | hnew
  · exact hopens other hold
  · obtain rfl := List.mem_singleton.mp (List.mem_of_mem_take hnew)
    rcases hevent with htwo | hstarts
    · rw [show 2 - opens.length = 0 by omega] at hnew
      cases hnew
    · exact hstarts

/-- An append in a phase: the start of a command, or any event once two were started. -/
theorem in_phase_append {details : EventDetails} (id : String)
    (hdetails : 2 ≤ count ∨ ∃ command mutate, details = .commandStarted command mutate) :
    Keeping (InPhase start before operationId count) (LeftPhase start before)
      (InPhase start before operationId count) (appendEvent id details)
      fun _ => InPhase start before operationId (count + 1) := by
  refine triple_append_event id (fun _ _ => InPhase.left) (fun _ _ h => h.left) ?_
  rintro runner world ⟨hcallbacks, opens, torn, hfile, hopens, hcount, hexecuted⟩
  refine ⟨[], start ++ opens, torn, hfile, fun event hevent final hsame => ?_⟩
  have hgrown : ∀ other ∈ (opens ++ [event]).take 2, other.startsCommand = true := by
    refine opens_append hopens ?_
    rcases hdetails with htwo | ⟨command, mutate, hstart⟩
    · exact .inl (Nat.le_trans htwo hcount)
    · exact .inr (by rw [JournalEvent.startsCommand, hevent, hstart])
  have hexecuted' : ∀ more : List JournalEvent, 2 ≤ (opens ++ more).length ∨
      OnlyQuarantined before final.executed := by
    intro more
    rw [hsame, List.length_append]
    exact hexecuted.imp_left fun htwo => by omega
  refine ⟨?_, fun hbytes hdurable => ?_⟩
  · rintro ⟨more, torn, rfl | rfl, hfinal⟩
    · rw [List.append_nil] at hfinal
      exact ⟨hcallbacks, opens, torn, hfinal, hopens, hcount, hsame ▸ hexecuted⟩
    · rw [List.append_assoc] at hfinal
      refine ⟨hcallbacks, opens ++ [event], torn, hfinal, hgrown, ?_, hexecuted' _⟩
      rw [List.length_append]
      omega
  · refine ⟨hcallbacks, opens ++ [event], [], ?_, hgrown, ?_, hexecuted' _⟩
    · exact ⟨by rw [hbytes, List.append_assoc, List.append_nil], by simp, List.nil_prefix,
        List.nil_prefix⟩
    · rw [List.length_append]
      exact Nat.add_le_add_right hcount 1

theorem in_phase_survives :
    Survives (InPhase start before operationId count) (LeftPhase start before) where
  quarantined := by
    rintro runner world process
      ⟨hcallbacks, opens, torn, hfile, hopens, hcount, hexecuted⟩ - hcommand
    refine ⟨hcallbacks, opens, torn, hfile, hopens, hcount, hexecuted.imp_right fun honly => ?_⟩
    intro execution hmem
    rcases List.mem_append.mp hmem with hold | hnew
    · exact honly execution hold
    · obtain rfl := List.mem_singleton.mp hnew
      exact .inr hcommand
  results _ h := h
  crashes _ _ := InPhase.left

theorem in_phase_start (command : List String) (mutate : Bool) :
    Keeping (InPhase start before operationId count) (LeftPhase start before)
      (InPhase start before operationId count) (journaled.recordExternalStart command mutate)
      fun _ => InPhase start before operationId (count + 1) :=
  in_phase_survives.record_start (fun _ _ h => h.1) (in_phase_append _ (.inr ⟨_, _, rfl⟩))
    (fun h => h) fun _ _ => InPhase.left

/-- A command of the check: its start is the second one. -/
theorem in_phase_rules (command : List String) (mutate : Bool) :
    RunRules journaled command mutate (InPhase start before operationId 1)
      (InPhase start before operationId 2) (InPhase start before operationId 2)
      (LeftPhase start before) where
  start := in_phase_start command mutate
  result result := in_phase_survives.record_result result fun id =>
    (in_phase_append id (.inl (Nat.le_refl 2))).mono (fun _ _ h => h) (fun _ _ _ => InPhase.weaken)
      (fun _ _ _ h => h) fun _ h => h
  execute := by
    rintro runner world process ⟨hcallbacks, opens, torn, hfile, hopens, hcount, -⟩ - -
    exact ⟨hcallbacks, opens, torn, hfile, hopens, hcount, .inl hcount⟩
  weaken h := h
  ends := InPhase.weaken
  crashes := InPhase.left

/-- What is left of a phase, as a condition on the world alone. -/
theorem left_phase_survives :
    Survives (fun _ => LeftPhase start before) (LeftPhase start before) where
  quarantined := by
    rintro runner world process ⟨events, torn, hfile, hstart, hexecuted⟩ - hcommand
    refine ⟨events, torn, hfile, hstart, hexecuted.imp_right fun honly execution hmem => ?_⟩
    rcases List.mem_append.mp hmem with hold | hnew
    · exact honly execution hold
    · obtain rfl := List.mem_singleton.mp hnew
      exact .inr hcommand
  results _ h := h
  crashes _ _ h := h

theorem left_phase_append {details : EventDetails} (id : String) :
    Keeping (fun _ => LeftPhase start before) (LeftPhase start before)
      (fun _ => LeftPhase start before) (appendEvent id details)
      fun _ _ => LeftPhase start before := by
  refine triple_append_event id (fun _ _ h => h) (fun _ _ h => h) ?_
  rintro runner world ⟨events, torn, hfile, hstart, hexecuted⟩
  have hmore : ∀ more : List JournalEvent, ∀ final : RunnerWorld, final.executed = world.executed →
      Nested start (events ++ more) ∨ OnlyQuarantined before final.executed := by
    intro more final hsame
    rcases hexecuted with ⟨opened, nested, rest, hopened, hnested, rfl⟩ | honly
    · exact .inl ⟨opened, nested, rest ++ more, hopened, hnested, by simp⟩
    · exact .inr (hsame ▸ honly)
  refine ⟨[], events, torn, hfile, fun event _ final hsame => ⟨?_, fun hbytes _ => ?_⟩⟩
  · rintro ⟨more, torn, -, hfinal⟩
    exact ⟨_, torn, hfinal, hstart.trans (List.prefix_append _ _), hmore more final hsame⟩
  · refine ⟨events ++ [event], [], ?_, hstart.trans (List.prefix_append _ _), hmore _ final hsame⟩
    exact ⟨by rw [hbytes, List.append_nil], by simp, List.nil_prefix, List.nil_prefix⟩

theorem left_phase_result (result : CommandResult) (mutate : Bool) :
    Keeping (fun _ => LeftPhase start before) (LeftPhase start before)
      (fun _ => LeftPhase start before) (journaled.recordResult result mutate)
      fun _ _ => LeftPhase start before :=
  left_phase_survives.record_result result fun id => left_phase_append id

/-! ## Runs of a phase -/

variable {φ α : Type} {message : φ → String} {check : Check (Except φ α)}

/-- Every run of a recorded phase leaves the journal as a phase leaves it, wherever it ends. -/
theorem ensures_recorded_phase (h : InPhase start before operationId 0 runner world) :
    Ensures runnerAnswers
      (ending (LeftPhase start before) (fun _ => LeftPhase start before)
        fun _ => LeftPhase start before)
      (Routine.implement answerCall (recordedPhase command message check) runner) world := by
  have hstart : Keeping (InPhase start before operationId 0) (LeftPhase start before)
      (InPhase start before operationId 0) (answerCall (.recordExternalStart command false))
      fun _ => InPhase start before operationId 1 := in_phase_start command false
  refine hstart.ensures_call h (fun _ hleft => hleft) ?_ fun _ _ _ hin => ⟨hin.left, hin.left⟩
  intro _ kept opened hopened
  rw [Routine.implement_bind, Routine.implement_embed]
  have hcheck : Ensures runnerAnswers
      (ending (LeftPhase start before) (fun _ => LeftPhase start before)
        fun answer => InPhase start before operationId 1 answer.2)
      (Routine.implement (fun check : CheckCommand => answerCall check.call) check kept) opened :=
    Routine.ensures_implement (fun check => (in_phase_rules check.command false).run.mono
      (fun _ _ h => h) (fun _ _ _ => InPhase.weaken) (fun _ _ _ h => h) fun _ h => h)
      (fun _ _ => InPhase.left) hopened
  refine hcheck.bind (fun _ hleft => hleft) (fun _ _ hleft => hleft) ?_
  rintro ⟨answer, last⟩ ended hended
  have hresult : Keeping (fun _ => LeftPhase start before) (LeftPhase start before)
      (fun _ => LeftPhase start before)
      (answerCall (.recordExternalResult (phaseResult command message answer) false))
      fun _ _ => LeftPhase start before := left_phase_result _ false
  refine hresult.ensures_call hended.left (fun _ hleft => hleft) ?_ fun _ _ _ hleft =>
    ⟨hleft, hleft⟩
  exact fun _ _ _ hleft => Program.ensures_pure.mpr ⟨hleft, hleft⟩

/-- Once the check of a recorded phase has executed anything, the journal of the operation is
refused for good, whatever is appended to it, and so is every scan that finds it. -/
theorem nested_phase_refused {outcome : Outcome RunnerError ((Except φ α × CommandResult) × Runner)}
    {final : RunnerWorld} (hcallbacks : runner.callbacks = some operationId)
    (hbytes : world.file.bytes = journalText start)
    (hruns : Runs runnerAnswers
      (Routine.implement answerCall (recordedPhase command message check) runner) world
        outcome final)
    (hexecuted : ¬ OnlyQuarantined world.executed final.executed) :
    ∃ events torn, final.file.bytes = journalText events ++ torn ∧ start <+: events ∧
      (∀ c ∈ torn, c ≠ Char.ofNat 10) ∧
      ∀ name more, (∃ error, parseJournal name (events ++ more) = .error error) ∧
        ∀ store : Store, store.markers.lookup name ≠ none →
          store.journals.lookup name = some (events ++ more) →
          ∃ error, unresolvedOperations store = .error error := by
  have hin : InPhase start world.executed operationId 0 runner world := by
    refine ⟨hcallbacks, [], [], ?_, by simp, Nat.le_refl 0, .inr fun _ hmem => .inl hmem⟩
    exact ⟨by rw [hbytes, List.append_nil, List.append_nil], by simp, List.nil_prefix,
      List.nil_prefix⟩
  have hleft : LeftPhase start world.executed final := by
    have hends := (ensures_recorded_phase hin).runs hruns
    cases outcome with
    | interrupted => exact hends
    | raised error => exact hends
    | returned answer => exact hends
  obtain ⟨events, torn, hfile, hstart, hnested⟩ := hleft
  obtain ⟨opened, nested, rest, hopened, hinner, hevents⟩ := hnested.resolve_right hexecuted
  refine ⟨events, torn, hfile.bytes, hstart, hfile.torn, fun name more => ?_⟩
  have hmore : events ++ more = start ++ opened :: nested :: (rest ++ more) := by
    rw [hevents, List.append_assoc, List.cons_append, List.cons_append]
  have hrefused : ∃ error, parseJournal name (events ++ more) = .error error :=
    parse_nested_refused hopened hinner hmore
  obtain ⟨error, hparse⟩ := hrefused
  exact ⟨⟨error, hparse⟩, fun store hmarker hjournal =>
    unresolved_operations_refused hmarker hjournal hparse⟩

/-- The solver's check of a snapshot with one retained package file, which it inspects first. -/
def inspectOnePayload : Check (Except SolverRefusal (List CommandResult)) := do
  let check : CheckCommand :=
    { command := ["dpkg-deb", "--show", "--showformat=${Package}\\t${Version}\\t${Architecture}\\n",
        "/var/lib/nvidia-converge/snapshots/a.json.payloads/b.deb"] }
  let result ← (Program.call check : Check CommandResult)
  pure (.ok [result])

/-- A report directory whose index names this one journal. -/
def oneJournal (name : String) (events : List JournalEvent) : Store where
  journals := (∅ : Directory (List JournalEvent)).insert name events
  markers := (∅ : Directory String).insert name installStarted.operationId
  indexed := true

/-- The rollback of an operation whose solver phase has returned: its journal is refused, and so is
every scan of a report directory that finds it. -/
theorem nested_phase_refused_inspected :
    ∃ outcome final events torn, Runs runnerAnswers
        (Routine.implement answerCall (packageSolverPhase inspectOnePayload) installRunner)
        installWorld outcome final ∧ final.file.bytes = journalText events ++ torn ∧
      ∀ name more, (∃ error, parseJournal name (events ++ more) = .error error) ∧
        ∃ error, unresolvedOperations (oneJournal name (events ++ more)) = .error error := by
  have hruns := (Program.runs_run serveRunner (Routine.implement answerCall
    (packageSolverPhase inspectOnePayload) installRunner) installWorld).mono
      fun _ _ _ _ => serve_runner_answers
  have hcommands : ((Program.run serveRunner (Routine.implement answerCall
      (packageSolverPhase inspectOnePayload) installRunner) installWorld).2.executed.map
        fun execution =>
        execution.process.command.head?) = [some "dpkg-deb"] := by
    decide +kernel
  have hexecuted : ¬ OnlyQuarantined installWorld.executed (Program.run serveRunner
      (Routine.implement answerCall (packageSolverPhase inspectOnePayload) installRunner)
      installWorld).2.executed := by
    intro honly
    obtain ⟨execution, hmem, hcommand⟩ := List.mem_map.mp
      (hcommands ▸ List.mem_singleton_self (some "dpkg-deb"))
    rcases honly execution hmem with hold | hquarantine
    · cases hold
    · obtain ⟨unit, -, hunit⟩ := List.mem_map.mp hquarantine
      rw [← hunit] at hcommand
      exact absurd hcommand (by simp [emergencyCommand])
  obtain ⟨events, torn, hbytes, -, -, hrefused⟩ := nested_phase_refused rfl rfl hruns hexecuted
  refine ⟨_, _, events, torn, hruns, hbytes, fun name more => ?_⟩
  obtain ⟨hparse, hscan⟩ := hrefused name more
  refine ⟨hparse, hscan (oneJournal name (events ++ more)) ?_ ?_⟩
  · rw [oneJournal, AList.lookup_insert]
    exact Option.some_ne_none _
  · rw [oneJournal, AList.lookup_insert]

end NvidiaConverge
